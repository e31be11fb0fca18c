import GamespyEmulator.Player.Accounts

/-!
Registrations. `HandleNewUser` stores the digest of the password it decoded, under the
name and the e-mail it read. `registered_hasAccount`: the account is there from then on,
whatever the sessions of the server do.
-/

namespace GamespyEmulator

open Wire Utils

/-! ### Registration -/

/-- A registration with these values. -/
structure Registers (packet email nick passwordEnc : Bytes) : Prop where
  newuser : (ascii "\\newuser\\").isPrefixOf packet
  mail : valueForKey packet (ascii "\\email\\") = some email
  named : valueForKey packet (ascii "\\nick\\") = some nick
  encoded : valueForKey packet (ascii "\\passwordenc\\") = some passwordEnc

instance {packet email nick passwordEnc : Bytes} :
    Decidable (Registers packet email nick passwordEnc) :=
  decidable_of_iff ((ascii "\\newuser\\").isPrefixOf packet ∧
      valueForKey packet (ascii "\\email\\") = some email ∧
      valueForKey packet (ascii "\\nick\\") = some nick ∧
      valueForKey packet (ascii "\\passwordenc\\") = some passwordEnc)
    ⟨fun h => ⟨h.1, h.2.1, h.2.2.1, h.2.2.2⟩, fun h => ⟨h.newuser, h.mail, h.named, h.encoded⟩⟩

/-- A packet is read in one way. -/
theorem Registers.unique {packet email email' nick nick' passwordEnc passwordEnc' : Bytes}
    (registers : Registers packet email nick passwordEnc)
    (registers' : Registers packet email' nick' passwordEnc') :
    email = email' ∧ nick = nick' ∧ passwordEnc = passwordEnc' :=
  ⟨Option.some.inj (registers.mail.symm.trans registers'.mail),
    Option.some.inj (registers.named.symm.trans registers'.named),
    Option.some.inj (registers.encoded.symm.trans registers'.encoded)⟩

/-- An account that was created: the row it has, under the decoded password. -/
theorem handle_created {client : LoginClient} {table : PlayerTable} {player : PlayerData}
    {packet : Bytes} {sent : Bool} (newuser : (ascii "\\newuser\\").isPrefixOf packet)
    (created : .createPlayer player ∈ (client.handle table packet sent).actions) :
    ∃ email nick passwordEnc password, Registers packet email nick passwordEnc ∧
      passdecode passwordEnc = some password ∧ 3 ≤ password.length ∧
      (client.handle table packet sent).table.HasAccount nick email (Md5.md5 password) := by
  generalize effect : client.handle table packet sent = out at created ⊢
  have handled := @handle_effect client table packet sent
  rw [effect] at handled
  cases handled with
  | refused sends =>
      obtain ⟨reply, absurd⟩ := sends _ created
      cases absurd
  | unset => simp at created
  | loggedIn => simp at created
  | failed => simp at created
  | created data table' id reply authenticating inserted named mail hashed =>
      obtain ⟨passwordEnc', password, encoded, decoded, long, hashed⟩ := hashed
      exact ⟨data.email, data.name, passwordEnc', password, ⟨newuser, mail, named, encoded⟩,
        decoded, long, hashed ▸ .inserted inserted⟩
  | shown => simp at created
  | updated => simp at created

/-- A session in which a packet is handled. -/
theorem LoginServer.step_packet {server : LoginServer} {session : Nat} {client : LoginClient}
    (found : server.sessions session = some client) (bytes : Bytes) (sent : Bool) :
    (server.step (.packet session bytes sent)).2 =
        (client.handle server.table bytes sent).actions ∧
      (server.step (.packet session bytes sent)).1.table =
        (client.handle server.table bytes sent).table ∧
      (server.step (.packet session bytes sent)).1.sessions session =
        if (client.handle server.table bytes sent).threw ||
            (client.handle server.table bytes sent).closed then none
        else some (client.handle server.table bytes sent).client := by
  simp [step, found, setSession]

/-- The account of a registration is there at any later time. -/
theorem registered_hasAccount {table : PlayerTable} {before after : List LoginServer.Event}
    {registering : Nat} {player : PlayerData} {packet : Bytes} {sent : Bool}
    (newuser : (ascii "\\newuser\\").isPrefixOf packet)
    (created : .createPlayer player ∈ ((Run.final LoginServer.step (.start table) before).step
      (.packet registering packet sent)).2) :
    ∃ email nick passwordEnc password, Registers packet email nick passwordEnc ∧
      passdecode passwordEnc = some password ∧ 3 ≤ password.length ∧
      (Run.final LoginServer.step (.start table)
        (before ++ .packet registering packet sent :: after)).table.HasAccount nick email
          (Md5.md5 password) := by
  have sound := LoginServer.sound_run table before
  obtain ⟨registrar, open'⟩ : ∃ registrar, (Run.final LoginServer.step (.start table)
      before).sessions registering = some registrar := by
    cases found : (Run.final LoginServer.step (.start table) before).sessions registering with
    | none => simp [LoginServer.step, found] at created
    | some registrar => exact ⟨registrar, rfl⟩
  obtain ⟨actions, left, -⟩ := LoginServer.step_packet open' packet sent
  rw [actions] at created
  obtain ⟨email, nick, passwordEnc, password, registers, decoded, long, account⟩ :=
    handle_created newuser created
  rw [← left] at account
  refine ⟨email, nick, passwordEnc, password, registers, decoded, long, ?_⟩
  rw [Run.final_append, Run.final_cons]
  exact LoginServer.hasAccount_run (LoginServer.step_sound sound _)
    (valueForKey_nulFree registers.mail) (md5_nulFree password) account after

namespace PlayerSample

def serverChallenge : Bytes := ascii "ABCDEFGHIJ"

/-- A session behind its challenge. -/
def connected : List LoginServer.Event := [.connect 0 serverChallenge (ascii "0123456789__")]

def newuser (password : Bytes) : Bytes :=
  ascii "\\newuser\\\\email\\a@b\\nick\\gamer\\passwordenc\\" ++ passencode password ++
    ascii "\\id\\1\\final\\"

/-- The account a registration with this password makes. -/
def account (password : Bytes) : PlayerData where
  id := 2900001
  name := ascii "gamer"
  email := ascii "a@b"
  password := Md5.md5 (shortened password)
  country := ascii "??"

end PlayerSample

end GamespyEmulator
