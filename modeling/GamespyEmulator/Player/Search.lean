import GamespyEmulator.Game.Basic
import GamespyEmulator.Player.Registration

/-!
The search server: `SearchClient` of `gpsp.client.cpp`, which looks accounts up in the
player table of the login server. `HandleSearchNicks` decodes an encoded password and
then takes the digest of the encoded text, and looks for a lower-case e-mail that
`HandleNewUser` stored as it came. `registered_found_iff` says which accounts it finds.
-/

namespace GamespyEmulator

open Wire Utils

namespace Utils

/-! ### Decoded passwords are shorter -/

theorem octets_length_lt {sextets : List UInt8} {data : Bytes} (some' : sextets ≠ [])
    (read : octets sextets = some data) : data.length < sextets.length := by
  induction sextets using octets.induct generalizing data with
  | case1 => exact absurd rfl some'
  | case2 => cases read
  | case3 a b =>
      cases read
      simp
  | case4 a b c =>
      cases read
      simp
  | case5 a b c d rest ih =>
      obtain ⟨tail, inner, rfl⟩ := Option.map_eq_some_iff.mp read
      cases rest with
      | nil =>
          cases inner
          simp
      | cons e rest =>
          have shorter := ih (List.cons_ne_nil _ _) inner
          simp only [List.length_append, List.length_cons, List.length_nil] at shorter ⊢
          omega

theorem mapM_length {A B : Type} {f : A → Option B} {as : List A} {bs : List B}
    (mapped : as.mapM f = some bs) : bs.length = as.length := by
  induction as generalizing bs with
  | nil =>
      cases mapped
      rfl
  | cons a rest ih =>
      simp only [List.mapM_cons, Option.bind_eq_bind, Option.bind_eq_some_iff] at mapped
      obtain ⟨b, -, bs', inner, eq⟩ := mapped
      cases eq
      rw [List.length_cons, List.length_cons, ih inner]

/-- No encoded password decodes to itself. -/
theorem passdecode_length_lt {passwordEnc password : Bytes} (some' : passwordEnc ≠ [])
    (decoded : passdecode passwordEnc = some password) : password.length < passwordEnc.length := by
  obtain ⟨masked, read, rfl⟩ := Option.map_eq_some_iff.mp decoded
  obtain ⟨padded, octets', rfl⟩ := Option.map_eq_some_iff.mp read
  obtain ⟨sextets, mapped, octets'⟩ := Option.bind_eq_some_iff.mp octets'
  have lengths := mapM_length mapped
  simp only [replace, List.length_map] at lengths
  have trimmed : (trimRight padded).length ≤ padded.length :=
    (List.rdropWhile_prefix _ _).length_le
  have shorter : padded.length < sextets.length := by
    refine octets_length_lt (fun none => some' ?_) octets'
    rw [none] at lengths
    exact List.eq_nil_of_length_eq_zero lengths.symm
  rw [gspassenc, mask_length]
  omega

end Utils

/-! ### The client -/

/-- What a search client sends, or that it ends with an exception. -/
inductive SearchReply where
  | error (errorCode : Nat) (errorMessage : Bytes) (fatal : Bool)
  | nicks (players : List PlayerData)
  | profile (id : UInt64)
  | threw
deriving DecidableEq

namespace SearchReply

/-- The text of a reply. -/
def bytes : SearchReply → Bytes
  | .error errorCode errorMessage fatal =>
      ascii "\\error\\\\err\\" ++ text errorCode ++ ascii "\\errmsg\\" ++ errorMessage ++
        (if fatal then ascii "\\fatal\\" else []) ++ ascii "\\final\\"
  | .nicks players =>
      ascii "\\nr\\0" ++ (players.flatMap fun player =>
        ascii "\\nick\\" ++ player.name ++ ascii "\\uniquenick\\" ++ player.name) ++
        ascii "\\ndone\\\\final\\"
  | .profile id => ascii "\\cur\\0\\pid\\" ++ text id.toNat ++ ascii "\\final\\"
  | .threw => []

/-- The reply is a list with this nick. -/
def Lists (reply : SearchReply) (nick : Bytes) : Prop :=
  ∃ players, reply = .nicks players ∧ nick ∈ players.map (·.name)

end SearchReply

namespace SearchClient

variable (table : PlayerTable) (packet : Bytes)

/-- The end of `HandleSearchNicks`, with the digest it came to. -/
def findNicks (passwordMD5 : Bytes) : SearchReply :=
  match valueForKey packet (ascii "\\email\\") with
  | none => .error 0 invalidQuery true
  | some email =>
      if passwordMD5.isEmpty then .error 0 invalidQuery true
      else
        let players :=
          PlayerDBSQLite.getPlayerByMailAndPassword table (email.map toLower) passwordMD5
        if players.isEmpty then .error 551 (ascii "Unable to get any associated profiles.") true
        else .nicks players

/-- `SearchClient::HandleSearchNicks`. The decoded password is not used. -/
def handleSearchNicks : SearchReply :=
  match valueForKey packet (ascii "\\pass\\"), valueForKey packet (ascii "\\passenc\\") with
  | some pass, _ => findNicks table packet (Md5.md5 pass)
  | none, some passEnc =>
      if passEnc.isEmpty then findNicks table packet []
      else match passdecode passEnc with
        | none => .threw
        | some _ => findNicks table packet (Md5.md5 passEnc)
  | none, none => findNicks table packet []

/-- `SearchClient::HandleProfileExists`. `HasPlayer` and `GetPlayerByName` find the same
row. -/
def handleProfileExists : SearchReply :=
  let name := ((valueForKey packet (ascii "\\nick\\")).or
    (valueForKey packet (ascii "\\uniquenick\\"))).getD []
  if name.isEmpty then .error 0 invalidQuery true
  else match PlayerDBSQLite.getPlayerByName table name with
    | some player => .profile player.id
    | none => .error 265 invalidQuery true

/-- The dispatch of `SearchClient::Process`. -/
def handle : SearchReply :=
  if (ascii "\\nicks\\").isPrefixOf packet then handleSearchNicks table packet
  else if (ascii "\\check\\").isPrefixOf packet then handleProfileExists table packet
  else .error 0 invalidQuery false

end SearchClient

/-! ### Registered accounts -/

theorem md5_ne_nil (bytes : Bytes) : Md5.md5 bytes ≠ [] := by
  simp [Md5.md5, Md5.hex]

/-- A player with this name is read from the account's row only. -/
theorem mem_byMailAndPassword {table : PlayerTable} {row : PlayerRow} {nick mail passwordMD5 : Bytes}
    (free : table.NamesFree) (named : NulFree nick)
    (first : (table.byName nick).head? = some row) :
    nick ∈ (PlayerDBSQLite.getPlayerByMailAndPassword table mail passwordMD5).map (·.name) ↔
      row.email = some mail ∧ row.password = passwordMD5 := by
  have inside : row ∈ table.rows := (List.mem_filter.mp (List.mem_of_mem_head? first)).1
  have name : row.name = nick := PlayerTable.named_of_head first
  rw [PlayerDBSQLite.getPlayerByMailAndPassword, List.map_map]
  constructor
  · intro mem
    obtain ⟨found, match', read⟩ := List.mem_map.mp mem
    obtain ⟨there, same⟩ := List.mem_filter.mp match'
    have eq : found.name = nick := (cstr_eq_self (free found there)).symm.trans read
    have unique : found = row :=
      List.inj_on_of_nodup_map table.names there inside (eq.trans name.symm)
    rw [← unique]
    simpa using same
  · intro same
    refine List.mem_map.mpr ⟨row, List.mem_filter.mpr ⟨inside, by simpa using same⟩, ?_⟩
    simp [PlayerDBSQLite.columnText, name, cstr_eq_self named]

/-- A search for an e-mail and a digest lists the account that has both. -/
theorem findNicks_lists_iff {table : PlayerTable}
    {packet nick email stored mail passwordMD5 : Bytes} (free : table.NamesFree)
    (named : NulFree nick) (has : table.HasAccount nick email stored)
    (given : valueForKey packet (ascii "\\email\\") = some mail) (some' : passwordMD5 ≠ []) :
    (SearchClient.findNicks table packet passwordMD5).Lists nick ↔
      mail.map toLower = email ∧ passwordMD5 = stored := by
  obtain ⟨row, first, mailed, rfl⟩ := has
  have listed := @mem_byMailAndPassword table row nick (mail.map toLower) passwordMD5 free named first
  rw [mailed, Option.some_inj] at listed
  rw [eq_comm, @eq_comm _ passwordMD5, ← listed, SearchClient.findNicks, given]
  dsimp only
  rw [if_neg (by simpa using some')]
  split
  · rename_i none
    rw [List.isEmpty_iff.mp none]
    refine iff_of_false ?_ List.not_mem_nil
    rintro ⟨players, eq, -⟩
    cases eq
  · constructor
    · rintro ⟨players, eq, mem⟩
      cases eq
      exact mem
    · intro mem
      exact ⟨_, rfl, mem⟩

/-- A search for the e-mail and the encoded password of a registration. -/
structure Searches (packet email passwordEnc : Bytes) : Prop where
  nicks : (ascii "\\nicks\\").isPrefixOf packet
  mail : valueForKey packet (ascii "\\email\\") = some email
  encoded : valueForKey packet (ascii "\\passenc\\") = some passwordEnc

instance {packet email passwordEnc : Bytes} : Decidable (Searches packet email passwordEnc) :=
  decidable_of_iff ((ascii "\\nicks\\").isPrefixOf packet ∧
      valueForKey packet (ascii "\\email\\") = some email ∧
      valueForKey packet (ascii "\\passenc\\") = some passwordEnc)
    ⟨fun h => ⟨h.1, h.2.1, h.2.2⟩, fun h => ⟨h.nicks, h.mail, h.encoded⟩⟩

/-- The text whose digest a search takes. -/
def searched (packet passwordEnc : Bytes) : Bytes :=
  (valueForKey packet (ascii "\\pass\\")).getD passwordEnc

theorem handle_nicks {table : PlayerTable} {packet email passwordEnc password : Bytes}
    (searches : Searches packet email passwordEnc) (some' : passwordEnc ≠ [])
    (decoded : passdecode passwordEnc = some password) :
    SearchClient.handle table packet =
      SearchClient.findNicks table packet (Md5.md5 (searched packet passwordEnc)) := by
  rw [SearchClient.handle, if_pos searches.nicks, SearchClient.handleSearchNicks,
    searches.encoded, searched]
  cases valueForKey packet (ascii "\\pass\\") with
  | some pass => rfl
  | none =>
      dsimp only
      rw [if_neg (by simpa using some'), decoded]
      rfl

/-- **A search finds a registered account exactly when its e-mail has no capital letter
and the packet also carries the plain password**, if the digests involved do not
collide. -/
theorem registered_found_iff {table : PlayerTable} {before after : List LoginServer.Event}
    {registering : Nat} {player : PlayerData} {newuser nicks email nick passwordEnc : Bytes}
    {sent : Bool} (free : table.NamesFree) (registers : Registers newuser email nick passwordEnc)
    (created : .createPlayer player ∈ ((Run.final LoginServer.step (.start table) before).step
      (.packet registering newuser sent)).2)
    (searches : Searches nicks email passwordEnc)
    (distinct : ∀ password, passdecode passwordEnc = some password →
      Md5.md5 (searched nicks passwordEnc) = Md5.md5 password →
      searched nicks passwordEnc = password) :
    (SearchClient.handle (Run.final LoginServer.step (.start table)
        (before ++ .packet registering newuser sent :: after)).table nicks).Lists nick ↔
      email.map toLower = email ∧ ∃ password, passdecode passwordEnc = some password ∧
        valueForKey nicks (ascii "\\pass\\") = some password := by
  obtain ⟨_, _, _, password, registered, decoded, long, account⟩ :=
    @registered_hasAccount _ _ after _ _ _ _ registers.newuser created
  obtain ⟨rfl, rfl, rfl⟩ := registers.unique registered
  have some' : passwordEnc ≠ [] := by
    rintro rfl
    cases decoded
    simp [gspassenc, trimRight, mask] at long
  rw [handle_nicks searches some' decoded,
    findNicks_lists_iff (LoginServer.namesFree_run free _) (valueForKey_nulFree registers.named)
      account searches.mail (md5_ne_nil _)]
  refine and_congr_right fun _ => ⟨fun same => ?_, ?_⟩
  · have hashed := distinct password decoded same
    rw [searched] at hashed
    cases given : valueForKey nicks (ascii "\\pass\\") with
    | some pass =>
        rw [given] at hashed
        exact ⟨password, decoded, congrArg some hashed⟩
    | none =>
        -- The digest was taken of the encoded text, which is longer than the password.
        rw [given, Option.getD_none] at hashed
        have shorter := passdecode_length_lt some' decoded
        rw [hashed] at shorter
        exact absurd shorter (lt_irrefl _)
  · rintro ⟨password', decoded', given⟩
    rw [decoded] at decoded'
    cases decoded'
    rw [searched, given, Option.getD_some]

namespace PlayerSample

/-- The search of the account of `pass1`, with other keys in front. -/
def nicks (keys : Bytes) : Bytes :=
  ascii "\\nicks\\" ++ keys ++ ascii "\\email\\a@b\\passenc\\" ++ passencode (ascii "pass1") ++
    ascii "\\final\\"

theorem distinct_pass1 (keys : Bytes)
    (checked : Md5.md5 (searched (nicks keys) (passencode (ascii "pass1"))) =
        Md5.md5 (ascii "pass1") →
      searched (nicks keys) (passencode (ascii "pass1")) = ascii "pass1") :
    ∀ password, passdecode (passencode (ascii "pass1")) = some password →
      Md5.md5 (searched (nicks keys) (passencode (ascii "pass1"))) = Md5.md5 password →
      searched (nicks keys) (passencode (ascii "pass1")) = password := by
  intro password decoded
  have whole : shortened (ascii "pass1") = ascii "pass1" :=
    shortened_eq_iff.mpr (by decide)
  rw [passdecode_passencode, whole] at decoded
  cases decoded
  exact checked

/-- A search that also carries the plain password. -/
theorem registered_found_plain :
    (SearchClient.handle (Run.final LoginServer.step (.start .created)
        (connected ++ [.packet 0 (newuser (ascii "pass1")) true])).table
      (nicks (ascii "\\pass\\pass1"))).Lists (ascii "gamer") :=
  (@registered_found_iff .created connected [] 0 (account (ascii "pass1"))
    (newuser (ascii "pass1")) (nicks (ascii "\\pass\\pass1")) (ascii "a@b") (ascii "gamer")
    (passencode (ascii "pass1")) true (fun _ mem => absurd mem List.not_mem_nil)
    (by decide +kernel) (by decide +kernel) (by decide +kernel)
    (distinct_pass1 _ (by decide +kernel))).mpr
    ⟨by rfl, ascii "pass1", by rfl, by rfl⟩

/-- A search with the encoded password alone. -/
theorem registered_found_fails_encoded :
    ¬ ∀ (table : PlayerTable) (before after : List LoginServer.Event) (registering : Nat)
        (player : PlayerData) (newuser nicks email nick passwordEnc : Bytes) (sent : Bool),
      table.NamesFree → Registers newuser email nick passwordEnc →
      .createPlayer player ∈ ((Run.final LoginServer.step (.start table) before).step
        (.packet registering newuser sent)).2 →
      Searches nicks email passwordEnc →
      (∀ password, passdecode passwordEnc = some password →
        Md5.md5 (searched nicks passwordEnc) = Md5.md5 password →
        searched nicks passwordEnc = password) →
      (SearchClient.handle (Run.final LoginServer.step (.start table)
        (before ++ .packet registering newuser sent :: after)).table nicks).Lists nick := by
  intro claim
  obtain ⟨players, found, -⟩ := claim .created connected [] 0 (account (ascii "pass1"))
    (newuser (ascii "pass1")) (nicks []) (ascii "a@b") (ascii "gamer")
    (passencode (ascii "pass1")) true (fun _ mem => absurd mem List.not_mem_nil)
    (by decide +kernel) (by decide +kernel) (by decide +kernel)
    (distinct_pass1 _ (by decide +kernel))
  have refused : SearchClient.handle (Run.final LoginServer.step (.start .created)
      (connected ++ .packet 0 (newuser (ascii "pass1")) true :: [])).table (nicks []) =
        .error 551 (ascii "Unable to get any associated profiles.") true := by
    decide +kernel
  rw [refused] at found
  cases found

end PlayerSample

end GamespyEmulator
