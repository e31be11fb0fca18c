import GamespyEmulator.Player.Fields
import GamespyEmulator.Player.Registration

/-!
From registration to login. Both commands are key/value pairs in any order; a session
reads them up to the first terminator and looks their fields up by name. `HandleNewUser`
stores the digest of the password it decoded, and takes an empty name, which `HandleLogin`
refuses. `registered_logs_in_iff` says which owners can log in.
-/

namespace GamespyEmulator

open Wire Utils

/-! ### Reading a command -/

/-- `gamespy_recv_buffer_size`. -/
def recvBufferSize : Nat := 2048

/-- What `async_read_until` leaves for a handler: the bytes up to the first terminator,
which has to come within the buffer. -/
def LoginClient.readPacket (buffer : Bytes) : Option Bytes :=
  (afterFirst (lookupKey finalKey) buffer).bind fun rest =>
    let packet := buffer.take (buffer.length - rest.length)
    if packet.length ≤ recvBufferSize then some packet else none

/-- A session reads what its client sent; without a terminator in the buffer it ends. -/
def LoginServer.Event.read (session : Nat) (buffer : Bytes) (sent : Bool) : LoginServer.Event :=
  match LoginClient.readPacket buffer with
  | some bytes => .packet session bytes sent
  | none => .disconnect session

theorem LoginClient.readPacket_textPacket {front back : List Bytes}
    (plain : ∀ part ∈ front, Plain part) (absent : finalKey ∉ front) :
    readPacket (textPacket (front ++ finalKey :: back)) =
      if (textPacket (front ++ [finalKey])).length ≤ recvBufferSize then
        some (textPacket (front ++ [finalKey])) else none := by
  have found := @afterFirst_textPacket front back finalKey (by decide) plain absent
  obtain ⟨tail, eq⟩ := textPacket_head back
  have split : textPacket (front ++ finalKey :: back) = textPacket (front ++ [finalKey]) ++ tail := by
    rw [textPacket_append, textPacket_append, textPacket, textPacket, textPacket, eq]
    simp
  rw [readPacket, found, eq, List.tail_cons, Option.bind_some, split]
  simp

namespace TextCommand

/-- The command is read to its end, and these fields of it as they were written. -/
structure Clear (c : TextCommand) (fields : List Bytes) : Prop where
  whole : ∀ pair ∈ c.pairs, pair.2 ≠ finalKey
  fits : c.bytes.length ≤ recvBufferSize
  undisturbed : ∀ field ∈ fields, Undisturbed c.pairs field

instance (c : TextCommand) (fields : List Bytes) : Decidable (c.Clear fields) :=
  decidable_of_iff ((∀ pair ∈ c.pairs, pair.2 ≠ finalKey) ∧ c.bytes.length ≤ recvBufferSize ∧
      ∀ field ∈ fields, Undisturbed c.pairs field)
    ⟨fun h => ⟨h.1, h.2.1, h.2.2⟩, fun h => ⟨h.whole, h.fits, h.undisturbed⟩⟩

variable {c : TextCommand} {fields : List Bytes}

theorem command_prefix (c : TextCommand) : lookupKey c.command <+: c.bytes := lookupKey_prefix _ _

/-- The parts up to the first terminator, and those behind it. -/
theorem parts_split (c : TextCommand) (other : c.command ≠ finalKey) :
    ∃ front back, c.parts = c.command :: front ++ finalKey :: back ∧
      finalKey ∉ c.command :: front ∧ ∀ part ∈ c.command :: front, Plain part := by
  have last : finalKey ∈ [] :: pairParts c.pairs := by simp [pairParts]
  obtain ⟨front, back, split, absent⟩ := List.eq_append_cons_of_mem last
  refine ⟨front, back, by rw [parts, split, List.cons_append], ?_, ?_⟩
  · exact List.not_mem_cons_of_ne_of_not_mem (Ne.symm other) absent
  · intro part mem
    have inside : part ∈ c.parts := by
      rw [parts, split]
      rcases List.mem_cons.mp mem with rfl | mem
      · exact List.mem_cons_self
      · exact List.mem_cons_of_mem _ (List.mem_append_left _ mem)
    exact (c.parts_plain part inside).1

/-- However a command is cut, its name stays in front. -/
theorem readPacket_prefix {packet : Bytes} (other : c.command ≠ finalKey)
    (read : LoginClient.readPacket c.bytes = some packet) : lookupKey c.command <+: packet := by
  obtain ⟨front, back, split, absent, plain⟩ := c.parts_split other
  rw [bytes, split, LoginClient.readPacket_textPacket plain absent] at read
  obtain ⟨-, same⟩ := Option.ite_none_right_eq_some.mp read
  cases same
  exact lookupKey_prefix _ _

/-- A command without a value called like the terminator is read whole, if it fits. -/
theorem readPacket_whole (other : c.command ≠ finalKey)
    (whole : ∀ pair ∈ c.pairs, pair.2 ≠ finalKey) :
    LoginClient.readPacket c.bytes =
      if c.bytes.length ≤ recvBufferSize then some c.bytes else none := by
  have split : c.parts = (c.command :: [] :: c.pairs.flatMap fun pair => [pair.1, pair.2]) ++
      [finalKey] := rfl
  have plain : ∀ text ∈ c.command :: [] :: c.pairs.flatMap fun pair => [pair.1, pair.2],
      Plain text := fun text mem => (c.parts_plain text (split ▸ List.mem_append_left _ mem)).1
  have absent : finalKey ∉ c.command :: [] :: c.pairs.flatMap fun pair => [pair.1, pair.2] := by
    intro mem
    rcases List.mem_cons.mp mem with same | mem
    · exact other same.symm
    rcases List.mem_cons.mp mem with empty | mem
    · exact absurd empty (by decide)
    obtain ⟨pair, listed, text⟩ := List.mem_flatMap.mp mem
    rcases List.mem_pair.mp text with key | value
    · exact (c.keys pair.1 (List.mem_map_of_mem listed)).2.2 key.symm
    · exact whole pair listed value.symm
  rw [bytes, split, LoginClient.readPacket_textPacket plain absent]

theorem Clear.read (clear : c.Clear fields) (other : c.command ≠ finalKey) :
    LoginClient.readPacket c.bytes = some c.bytes := by
  rw [readPacket_whole other clear.whole, if_pos clear.fits]

/-- A field of a clear command is looked up as it was written. -/
theorem Clear.lookup (clear : c.Clear fields) {field : Bytes} (mem : field ∈ fields)
    (some' : field ≠ []) (plain : Plain field) (other : field ≠ c.command) :
    valueForKey c.bytes (lookupKey field) = paired c.pairs field :=
  (c.lookup_iff some' plain other).mpr (clear.undisturbed field mem)

end TextCommand

/-! ### The two commands -/

namespace TextCommand

/-- A registration with these fields. -/
structure IsNewUser (c : TextCommand) (email nick passwordEnc : Bytes) : Prop where
  newuser : c.command = ascii "newuser"
  mail : paired c.pairs (ascii "email") = some email
  named : paired c.pairs (ascii "nick") = some nick
  encoded : paired c.pairs (ascii "passwordenc") = some passwordEnc

/-- A login with these fields. -/
structure IsLogin (c : TextCommand) (nick clientChallenge response : Bytes) : Prop where
  login : c.command = ascii "login"
  named : paired c.pairs (ascii "uniquenick") = some nick
  challenged : paired c.pairs (ascii "challenge") = some clientChallenge
  responded : paired c.pairs (ascii "response") = some response

/-- The fields that decide who is registered and who logs in. -/
structure ReadAsWritten (newuser login : TextCommand) : Prop where
  registers : newuser.Clear [ascii "nick", ascii "passwordenc"]
  logsIn : login.Clear [ascii "uniquenick", ascii "challenge", ascii "response"]

section Fields

variable {newuser login : TextCommand}
  {email nick passwordEnc clientChallenge response : Bytes}

theorem IsNewUser.reads (registers : newuser.IsNewUser email nick passwordEnc)
    (clear : newuser.Clear [ascii "nick", ascii "passwordenc"]) :
    LoginClient.readPacket newuser.bytes = some newuser.bytes ∧
      valueForKey newuser.bytes (ascii "\\nick\\") = some nick ∧
      valueForKey newuser.bytes (ascii "\\passwordenc\\") = some passwordEnc := by
  have field (key : Bytes) := @Clear.lookup newuser _ clear key
  rw [registers.newuser] at field
  refine ⟨clear.read (by rw [registers.newuser]; decide), ?_, ?_⟩
  · rw [← registers.named]
    exact field (ascii "nick") (by simp) (by decide) (by decide) (by decide)
  · rw [← registers.encoded]
    exact field (ascii "passwordenc") (by simp) (by decide) (by decide) (by decide)

theorem IsLogin.reads (owner : login.IsLogin nick clientChallenge response)
    (clear : login.Clear [ascii "uniquenick", ascii "challenge", ascii "response"]) :
    LoginClient.readPacket login.bytes = some login.bytes ∧
      LoginClient.loginName login.bytes = some nick ∧
      valueForKey login.bytes (ascii "\\challenge\\") = some clientChallenge ∧
      valueForKey login.bytes (ascii "\\response\\") = some response := by
  have field (key : Bytes) := @Clear.lookup login _ clear key
  rw [owner.login] at field
  refine ⟨clear.read (by rw [owner.login]; decide), ?_, ?_, ?_⟩
  · have read : valueForKey login.bytes (ascii "\\uniquenick\\") = some nick := by
      rw [← owner.named]
      exact field (ascii "uniquenick") (by simp) (by decide) (by decide) (by decide)
    rw [LoginClient.loginName, read]
    rfl
  · rw [← owner.challenged]
    exact field (ascii "challenge") (by simp) (by decide) (by decide) (by decide)
  · rw [← owner.responded]
    exact field (ascii "response") (by simp) (by decide) (by decide) (by decide)

end Fields

/-- What is read of the command logs an account of the table in. -/
def Admitted (c : TextCommand) (table : PlayerTable) (serverChallenge : Bytes) : Prop :=
  ∃ packet player, LoginClient.readPacket c.bytes = some packet ∧
    LogsIn table serverChallenge packet player ∧ player.name ≠ []

/-- A login that is read as it was written is admitted by the account of its name. -/
theorem admitted_iff {login : TextCommand} {table : PlayerTable}
    {nick email stored clientChallenge serverChallenge response : Bytes}
    (owner : login.IsLogin nick clientChallenge response)
    (clear : login.Clear [ascii "uniquenick", ascii "challenge", ascii "response"])
    (has : table.HasAccount nick email stored) (masked : NulFree stored) :
    login.Admitted table serverChallenge ↔
      nick ≠ [] ∧ response = generateChallenge nick stored clientChallenge serverChallenge := by
  obtain ⟨whole, named, challenged, responded⟩ := owner.reads clear
  obtain ⟨-, player, found, rfl⟩ := has.reads masked
  have name : player.name = nick := by
    obtain ⟨row, -, rfl⟩ := Option.map_eq_some_iff.mp found
    rfl
  constructor
  · rintro ⟨packet, player', read, logsIn, someone⟩
    rw [whole] at read
    cases read
    have same := logsIn.named
    rw [named] at same
    cases same
    have stored := logsIn.stored
    rw [found] at stored
    cases stored
    obtain ⟨challenge, given, right⟩ := logsIn.response
    rw [challenged] at given
    cases given
    rw [responded] at right
    exact ⟨someone, Option.some.inj right⟩
  · rintro ⟨someone, rfl⟩
    have front : lookupKey (ascii "login") <+: login.bytes := by
      rw [← owner.login]
      exact login.command_prefix
    subst name
    exact ⟨login.bytes, player, whole, ⟨List.isPrefixOf_iff_prefix.mpr front, named, found,
      clientChallenge, challenged, responded⟩, someone⟩

/-- A value called `response` in front of the response hides it: no table admits the login,
unless the name behind that value is as long as a digest. -/
theorem not_admitted_of_hidden {login : TextCommand} {front back : List (Bytes × Bytes)}
    {name : Bytes} {table : PlayerTable} {serverChallenge : Bytes}
    (command : login.command = ascii "login") (whole : ∀ pair ∈ login.pairs, pair.2 ≠ finalKey)
    (split : login.pairs = front ++ (name, ascii "response") :: back)
    (unnamed : ascii "response" ∉ (front ++ [(name, ascii "response")]).map Prod.fst)
    (unvalued : ascii "response" ∉ front.map Prod.snd) (short : (nextName back).length ≠ 32) :
    ¬ login.Admitted table serverChallenge := by
  rintro ⟨packet, player, read, logsIn, -⟩
  have other : login.command ≠ finalKey := by
    rw [command]
    decide
  rw [readPacket_whole other whole] at read
  obtain ⟨-, same⟩ := Option.ite_none_right_eq_some.mp read
  cases same
  obtain ⟨clientChallenge, -, responded⟩ := logsIn.response
  have found : valueForKey login.bytes (ascii "\\response\\") = some (nextName back) := by
    rw [← behind_taken unnamed unvalued, ← split]
    exact @lookup_eq login (ascii "response") (by decide) (by decide) (by rw [command]; decide)
  rw [found] at responded
  rw [Option.some.inj responded, generateChallenge, md5_length] at short
  exact short rfl

end TextCommand

/-! ### A login -/

section Login

variable {client : LoginClient} {table : PlayerTable} {packet : Bytes}

theorem handle_login {sent : Bool} (login : (ascii "\\login\\").isPrefixOf packet) :
    client.handle table packet sent = client.handleLogin table packet sent := by
  rw [LoginClient.handle, if_pos login]

/-- A login that is answered does not end the session. -/
theorem handleLogin_goesOn :
    (client.handleLogin table packet true).threw = false ∧
      (client.handleLogin table packet true).closed = false := by
  unfold LoginClient.handleLogin
  split
  · exact ⟨rfl, rfl⟩
  · split
    · split
      · exact ⟨rfl, rfl⟩
      · split
        · exact ⟨rfl, rfl⟩
        · split
          · exact ⟨rfl, rfl⟩
          · split <;> exact ⟨rfl, rfl⟩
    · exact ⟨rfl, rfl⟩

/-- The right response for a player with a name authenticates a session. -/
theorem handleLogin_admits {player : PlayerData} (authenticating : client.state = .authenticating)
    (logsIn : LogsIn table client.serverChallenge packet player) (someone : player.name ≠ []) :
    (client.handleLogin table packet true).client.state = .authenticated := by
  obtain ⟨challenge, challenged, responded⟩ := logsIn.response
  have known : PlayerDBSQLite.hasPlayer table player.name = true := by
    have stored := logsIn.stored
    rw [PlayerDBSQLite.getPlayerByName] at stored
    cases rows : table.byName player.name with
    | nil =>
        rw [rows] at stored
        cases stored
    | cons row rest => simp [PlayerDBSQLite.hasPlayer, rows]
  unfold LoginClient.handleLogin
  rw [if_neg (not_not.mpr authenticating), logsIn.named, challenged, responded]
  dsimp only
  rw [if_neg (by simpa using someone), known, if_neg (by simp), logsIn.stored]
  dsimp only
  rw [if_neg (not_not.mpr rfl)]
  rfl

/-- Nothing else does. -/
theorem handleLogin_authenticated_iff (authenticating : client.state = .authenticating)
    (login : (ascii "\\login\\").isPrefixOf packet) :
    (client.handleLogin table packet true).client.state = .authenticated ↔
      ∃ player, LogsIn table client.serverChallenge packet player ∧ player.name ≠ [] := by
  refine ⟨fun authenticated => ?_, fun ⟨_, logsIn, someone⟩ =>
    handleLogin_admits authenticating logsIn someone⟩
  have refused : ∀ id code message, (client.refuse table true id code message).client.state ≠
      .authenticated := by
    intro id code message
    rw [LoginClient.refuse, LoginClient.reply, authenticating]
    exact States.noConfusion
  unfold LoginClient.handleLogin at authenticated
  rw [if_neg (not_not.mpr authenticating)] at authenticated
  split at authenticated
  · rename_i name challenge response named challenged responded
    split at authenticated
    · exact absurd authenticated (refused _ _ _)
    rename_i someone
    split at authenticated
    · exact absurd authenticated (refused _ _ _)
    rename_i known
    obtain ⟨player, stored, rfl⟩ := getPlayerByName_of_hasPlayer (by simpa using known)
    rw [stored] at authenticated
    dsimp only at authenticated
    split at authenticated
    · exact absurd authenticated (refused _ _ _)
    rename_i right
    refine ⟨player, ⟨login, named, stored, challenge, challenged, ?_⟩, ?_⟩
    · rw [responded, not_not.mp right]
    · simpa using someone
  · exact absurd authenticated (refused _ _ _)

/-- A session that reads a login is authenticated exactly when the login is admitted. -/
theorem read_authenticated_iff {server : LoginServer} {session : Nat} {login : TextCommand}
    (found : server.sessions session = some client) (authenticating : client.state = .authenticating)
    (command : login.command = ascii "login") :
    (∃ client', (server.step (.read session login.bytes true)).1.sessions session = some client' ∧
        client'.state = .authenticated) ↔
      login.Admitted server.table client.serverChallenge := by
  cases read : LoginClient.readPacket login.bytes with
  | none =>
      refine iff_of_false ?_ ?_
      · rintro ⟨client', kept, -⟩
        rw [LoginServer.Event.read, read] at kept
        simp [LoginServer.step, LoginServer.setSession] at kept
      · rintro ⟨packet, player, arrived, -⟩
        rw [read] at arrived
        cases arrived
  | some packet =>
      have front : (ascii "\\login\\").isPrefixOf packet := by
        have begins := TextCommand.readPacket_prefix (by rw [command]; decide) read
        rw [command] at begins
        exact List.isPrefixOf_iff_prefix.mpr begins
      obtain ⟨-, -, next⟩ := LoginServer.step_packet found packet true
      have goesOn := @handleLogin_goesOn client server.table packet
      rw [handle_login front, goesOn.1, goesOn.2] at next
      have admitted : login.Admitted server.table client.serverChallenge ↔
          ∃ player, LogsIn server.table client.serverChallenge packet player ∧ player.name ≠ [] := by
        simp [TextCommand.Admitted, read]
      rw [LoginServer.Event.read, read, admitted,
        ← handleLogin_authenticated_iff authenticating front]
      dsimp only
      rw [next]
      simp

end Login

namespace PlayerSample

/-- A registration with its fields in the order of the client. -/
def registration (password : Bytes)
    (plain : Plain (passencode password) ∧ NulFree (passencode password)) : TextCommand where
  command := ascii "newuser"
  pairs := [(ascii "email", ascii "a@b"), (ascii "nick", ascii "gamer"),
    (ascii "passwordenc", passencode password), (ascii "productid", ascii "10493"),
    (ascii "gamename", ascii "battlefield2"), (ascii "uniquenick", ascii "gamer"),
    (ascii "id", ascii "1")]
  plain := by
    have others : ∀ text ∈ [ascii "newuser", ascii "email", ascii "a@b", ascii "nick",
        ascii "gamer", ascii "passwordenc", ascii "productid", ascii "10493", ascii "gamename",
        ascii "battlefield2", ascii "uniquenick", ascii "id", ascii "1"],
        Plain text ∧ NulFree text := by decide
    simp only [List.forall_mem_cons, List.flatMap_cons, List.cons_append, List.nil_append] at *
    tauto
  distinct := by
    simp only [List.map_cons, List.map_nil]
    decide
  keys := by
    simp only [List.map_cons, List.map_nil]
    decide

def response (password : Bytes) : Bytes :=
  generateChallenge (ascii "gamer") (Md5.md5 password) (ascii "xyz") serverChallenge

/-- The owner's login. -/
def ownerLogin (password : Bytes) (plain : Plain (response password) ∧ NulFree (response password)) :
    TextCommand where
  command := ascii "login"
  pairs := [(ascii "challenge", ascii "xyz"), (ascii "uniquenick", ascii "gamer"),
    (ascii "partnerid", ascii "0"), (ascii "response", response password),
    (ascii "port", ascii "2475"), (ascii "id", ascii "1")]
  plain := by
    have others : ∀ text ∈ [ascii "login", ascii "challenge", ascii "xyz", ascii "uniquenick",
        ascii "gamer", ascii "partnerid", ascii "0", ascii "response", ascii "port",
        ascii "2475", ascii "id", ascii "1"], Plain text ∧ NulFree text := by decide
    simp only [List.forall_mem_cons, List.flatMap_cons, List.cons_append, List.nil_append] at *
    tauto
  distinct := by
    simp only [List.map_cons, List.map_nil]
    decide
  keys := by
    simp only [List.map_cons, List.map_nil]
    decide

/-- The session behind the registration. -/
def client (password : Bytes) : LoginClient :=
  { LoginClient.sendChallenge serverChallenge (ascii "0123456789__") with
    playerData := some (account password) }

end PlayerSample

end GamespyEmulator
