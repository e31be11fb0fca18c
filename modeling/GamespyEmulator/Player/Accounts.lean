import GamespyEmulator.Player.Login

/-!
The accounts behind a login server: sessions that share a player table. In every run
the player of a session is what its row reads as (`sound_run`), so no session's update
changes an e-mail or a password (`hasAccount_run`).
-/

namespace GamespyEmulator

open Wire Utils

/-! ### Digests -/

theorem hexChar_ne_zero (n shift : UInt32) : Md5.hexChar ((n >>> shift) &&& 0xf) ≠ 0 := by
  have all : ∀ nibble < 16, (ascii "0123456789abcdef").getD nibble 0 ≠ 0 := by
    decide
  refine all _ ?_
  rw [UInt32.toNat_and]
  exact @Nat.and_lt_two_pow _ _ 4 (by decide)

theorem md5_nulFree (bytes : Bytes) : NulFree (Md5.md5 bytes) := by
  have free : ∀ n, NulFree (Md5.hex n) := by
    intro n mem
    obtain ⟨shift, -, zero⟩ := List.mem_map.mp mem
    exact hexChar_ne_zero n shift zero
  simp [Md5.md5, free]

theorem md5_length (bytes : Bytes) : (Md5.md5 bytes).length = 32 := by
  simp [Md5.md5, Md5.hex]

/-! ### Rows -/

theorem valueForKey_nulFree {packet key value : Bytes}
    (found : valueForKey packet key = some value) : NulFree value := by
  obtain ⟨rest, -, taken⟩ := Option.bind_eq_some_iff.mp found
  dsimp only at taken
  split at taken
  · cases taken
  · cases taken
    intro mem
    simpa using List.mem_takeWhile_imp mem

namespace PlayerTable

variable {table table' : PlayerTable} {data player : PlayerData} {id : UInt64}
  {name email password : Bytes}

/-- The name has a row with this e-mail and this password. -/
def HasAccount (table : PlayerTable) (name email password : Bytes) : Prop :=
  ∃ row, (table.byName name).head? = some row ∧ row.email = some email ∧ row.password = password

/-- The player is what its row reads as. -/
def Reads (table : PlayerTable) (player : PlayerData) : Prop :=
  ∃ row, (table.byName player.name).head? = some row ∧
    PlayerDBSQLite.columnText row.email = player.email ∧
    PlayerDBSQLite.columnText (some row.password) = player.password

def NamesFree (table : PlayerTable) : Prop := ∀ row ∈ table.rows, NulFree row.name

theorem named_of_head {row : PlayerRow} (first : (table.byName name).head? = some row) :
    row.name = name := by
  simpa using (List.mem_filter.mp (List.mem_of_mem_head? first)).2

/-! An insertion. -/

theorem insert_rows (inserted : table.insert data = some (table', id)) :
    table'.rows = table.rows ++ [⟨id, data.name, data.password, some data.email, data.country⟩] ∧
      data.name ∉ table.rows.map (·.name) := by
  unfold insert at inserted
  split at inserted
  · cases inserted
  · rename_i fits
    cases inserted
    exact ⟨rfl, (not_or.mp fits).1⟩

theorem head_insert {row : PlayerRow} (inserted : table.insert data = some (table', id))
    (first : (table.byName name).head? = some row) : (table'.byName name).head? = some row := by
  rw [byName] at first ⊢
  rw [(insert_rows inserted).1, List.filter_append, List.head?_append, first]
  rfl

theorem head_inserted (inserted : table.insert data = some (table', id)) :
    (table'.byName data.name).head? =
      some ⟨id, data.name, data.password, some data.email, data.country⟩ := by
  obtain ⟨rows, fresh⟩ := insert_rows inserted
  have unknown : table.byName data.name = [] :=
    List.filter_eq_nil_iff.mpr fun row mem same =>
      fresh (List.mem_map.mpr ⟨row, mem, of_decide_eq_true same⟩)
  rw [byName] at unknown ⊢
  rw [rows, List.filter_append, unknown]
  simp

theorem HasAccount.insert (has : table.HasAccount name email password)
    (inserted : table.insert data = some (table', id)) :
    table'.HasAccount name email password := by
  obtain ⟨row, first, same⟩ := has
  exact ⟨row, head_insert inserted first, same⟩

theorem Reads.insert (reads : table.Reads player)
    (inserted : table.insert data = some (table', id)) : table'.Reads player := by
  obtain ⟨row, first, same⟩ := reads
  exact ⟨row, head_insert inserted first, same⟩

theorem HasAccount.inserted (inserted : table.insert data = some (table', id)) :
    table'.HasAccount data.name data.email data.password :=
  ⟨_, head_inserted inserted, rfl, rfl⟩

theorem NamesFree.insert (free : table.NamesFree) (named : NulFree data.name)
    (inserted : table.insert data = some (table', id)) : table'.NamesFree := by
  intro row mem
  rw [(insert_rows inserted).1, List.mem_append, List.mem_singleton] at mem
  rcases mem with old | rfl
  · exact free row old
  · exact named

/-! An update. -/

theorem head_update {row : PlayerRow} (first : (table.byName name).head? = some row)
    (data : PlayerData) : ((table.update data).byName name).head? =
      some (if row.name = data.name then
        { row with password := data.password, email := some data.email, country := data.country }
      else row) := by
  let change (row : PlayerRow) : PlayerRow := if row.name = data.name then
    { row with password := data.password, email := some data.email, country := data.country }
    else row
  have names : ∀ row, (change row).name = row.name := by
    intro row
    simp only [change]
    split <;> rfl
  have rows : (table.update data).byName name = (table.byName name).map change := by
    simp only [byName, PlayerTable.update, List.filter_map]
    congr 1
    refine List.filter_congr fun row _ => ?_
    simp only [Function.comp_apply]
    exact congrArg (fun n => decide (n = name)) (names row)
  rw [rows, List.head?_map, first]
  rfl

/-- An update that writes back what it has read keeps every account. -/
theorem HasAccount.update (has : table.HasAccount name email password) (mail : NulFree email)
    (masked : NulFree password) (own : table.Reads data) :
    (table.update data).HasAccount name email password := by
  obtain ⟨row, first, stored, rfl⟩ := has
  refine ⟨_, head_update first data, ?_⟩
  split
  · rename_i hit
    obtain ⟨row', first', read, read'⟩ := own
    rw [← hit, named_of_head first, first] at first'
    cases first'
    rw [stored, PlayerDBSQLite.columnText, cstr_eq_self mail] at read
    rw [PlayerDBSQLite.columnText, cstr_eq_self masked] at read'
    exact ⟨congrArg some read.symm, read'.symm⟩
  · exact ⟨stored, rfl⟩

theorem Reads.update (reads : table.Reads player) (own : table.Reads data) :
    (table.update data).Reads player := by
  have free : ∀ column, NulFree (PlayerDBSQLite.columnText column) := by
    rintro (_ | text)
    · exact nulFree_nil
    · exact cstr_nulFree text
  obtain ⟨row, first, read⟩ := reads
  refine ⟨_, head_update first data, ?_⟩
  split
  · rename_i hit
    obtain ⟨row', first', read'⟩ := own
    rw [← hit, named_of_head first, first] at first'
    cases first'
    rw [← read.1, ← read.2, ← read'.1, ← read'.2]
    exact ⟨cstr_eq_self (free row.email), cstr_eq_self (free (some row.password))⟩
  · exact read

theorem NamesFree.update (free : table.NamesFree) (data : PlayerData) :
    (table.update data).NamesFree := by
  intro row mem
  obtain ⟨old, inside, rfl⟩ := List.mem_map.mp mem
  split
  · exact free old inside
  · exact free old inside

/-! What is read. -/

theorem HasAccount.reads (has : table.HasAccount name email password)
    (masked : NulFree password) :
    PlayerDBSQLite.hasPlayer table name = true ∧
      ∃ player, PlayerDBSQLite.getPlayerByName table name = some player ∧
        player.password = password := by
  obtain ⟨row, first, -, rfl⟩ := has
  constructor
  · unfold PlayerDBSQLite.hasPlayer
    cases found : table.byName name with
    | nil => simp [found] at first
    | cons _ _ => simp
  · rw [PlayerDBSQLite.getPlayerByName, first]
    exact ⟨_, rfl, cstr_eq_self masked⟩

theorem reads_of_getPlayerByName (found : PlayerDBSQLite.getPlayerByName table name = some player) :
    table.Reads player := by
  obtain ⟨row, first, rfl⟩ := Option.map_eq_some_iff.mp found
  exact ⟨row, first, rfl, rfl⟩

end PlayerTable

/-! ### What a handler does to accounts -/

/-- The player of a session is what its row reads as. -/
def LoginClient.Owns (client : LoginClient) (table : PlayerTable) : Prop :=
  ∀ player, client.playerData = some player → table.Reads player

/-- What a handler leaves of the table and of the session's player: nothing changes, or
the player is read, created, or written back. -/
inductive AccountStep (client : LoginClient) (table : PlayerTable) (out : Handled) : Prop where
  | same (kept : out.table = table)
      (player : out.threw = true ∨ out.client.playerData = client.playerData)
  | reads (player : PlayerData) (kept : out.table = table)
      (set : out.client.playerData = some player) (read : table.Reads player)
  | creates (data : PlayerData) (id : UInt64)
      (inserted : table.insert data = some (out.table, id))
      (set : out.client.playerData = some { data with id := id }) (named : NulFree data.name)
      (mail : NulFree data.email) (masked : NulFree data.password)
  | updates (data player : PlayerData) (held : client.playerData = some data)
      (same : SamePlayer player data) (updated : out.table = table.update player)
      (set : out.client.playerData = some player)

section Handlers

variable {client : LoginClient} {table : PlayerTable} {packet : Bytes} {sent : Bool}

theorem handle_account : AccountStep client table (client.handle table packet sent) := by
  generalize effect : client.handle table packet sent = out
  have handled := @handle_effect client table packet sent
  rw [effect] at handled
  cases handled with
  | refused sends => exact .same rfl (.inr rfl)
  | unset authenticated absent => exact .same rfl (.inr rfl)
  | loggedIn player session reply authenticating logsIn =>
      have read := PlayerTable.reads_of_getPlayerByName logsIn.stored
      exact .reads { player with session := session } rfl rfl read
  | failed data authenticating => exact .same rfl (.inl rfl)
  | created data table' id reply authenticating inserted named mail hashed =>
      obtain ⟨-, password, -, -, -, hashed⟩ := hashed
      exact .creates data id inserted rfl (valueForKey_nulFree named) (valueForKey_nulFree mail)
        (hashed ▸ md5_nulFree password)
  | shown data reply authenticated held => exact .same rfl (.inr rfl)
  | updated data country authenticated held =>
      exact .updates data { data with country := country } held ⟨rfl, rfl, rfl, rfl⟩ rfl rfl

variable {out : Handled}

theorem SamePlayer.reads {player data : PlayerData} (same : SamePlayer player data)
    (reads : table.Reads data) : table.Reads player := by
  obtain ⟨row, first, read⟩ := reads
  rw [← same.name] at first
  rw [← same.email, ← same.password] at read
  exact ⟨row, first, read⟩

/-- No handler of a session with its own player changes an account. -/
theorem AccountStep.hasAccount (step : AccountStep client table out) (owns : client.Owns table)
    {name email password : Bytes} (mail : NulFree email) (masked : NulFree password)
    (has : table.HasAccount name email password) : out.table.HasAccount name email password := by
  cases step with
  | same kept _ => exact kept ▸ has
  | reads _ kept _ _ => exact kept ▸ has
  | creates _ _ inserted _ _ _ _ => exact has.insert inserted
  | updates data player held same updated _ =>
      exact updated ▸ has.update mail masked (same.reads (owns data held))

theorem AccountStep.keepsReads (step : AccountStep client table out) (owns : client.Owns table)
    {player : PlayerData} (reads : table.Reads player) : out.table.Reads player := by
  cases step with
  | same kept _ => exact kept ▸ reads
  | reads _ kept _ _ => exact kept ▸ reads
  | creates _ _ inserted _ _ _ _ => exact reads.insert inserted
  | updates data player held same updated _ =>
      exact updated ▸ reads.update (same.reads (owns data held))

theorem AccountStep.namesFree (step : AccountStep client table out) (free : table.NamesFree) :
    out.table.NamesFree := by
  cases step with
  | same kept _ => exact kept ▸ free
  | reads _ kept _ _ => exact kept ▸ free
  | creates _ _ inserted _ named _ _ => exact free.insert named inserted
  | updates data player _ _ updated _ => exact updated ▸ free.update player

theorem AccountStep.owns (step : AccountStep client table out) (owns : client.Owns table)
    (goesOn : out.threw = false) : out.client.Owns out.table := by
  intro player set
  cases step with
  | same kept unchanged =>
      rcases unchanged with threw | unchanged
      · rw [goesOn] at threw
        cases threw
      · rw [unchanged] at set
        rw [kept]
        exact owns player set
  | reads read kept set' reads =>
      rw [set'] at set
      cases set
      exact kept ▸ reads
  | creates data id inserted set' _ mail masked =>
      rw [set'] at set
      cases set
      exact ⟨_, PlayerTable.head_inserted inserted, cstr_eq_self mail, cstr_eq_self masked⟩
  | updates data written held same updated set' =>
      rw [set'] at set
      cases set
      have own := same.reads (owns data held)
      exact updated ▸ own.update own

end Handlers

/-! ### The server -/

/-- The open sessions, by number, and the player table they share. -/
structure LoginServer where
  table : PlayerTable
  sessions : Nat → Option LoginClient

/-- A session opens with a challenge, reads a packet, or ends. -/
inductive LoginServer.Event where
  | connect (session : Nat) (serverChallenge loginTicket : Bytes)
  | packet (session : Nat) (bytes : Bytes) (sent : Bool)
  | disconnect (session : Nat)

namespace LoginServer

def start (table : PlayerTable) : LoginServer := ⟨table, fun _ => none⟩

def setSession (server : LoginServer) (session : Nat) (client : Option LoginClient) :
    LoginServer :=
  { server with sessions := Function.update server.sessions session client }

def step (server : LoginServer) : Event → LoginServer × List Action
  | .connect session serverChallenge loginTicket =>
      (server.setSession session (some (.sendChallenge serverChallenge loginTicket)), [])
  | .packet session bytes sent =>
      match server.sessions session with
      | none => (server, [])
      | some client =>
          let out := client.handle server.table bytes sent
          ({ server with table := out.table }.setSession session
            (if out.threw || out.closed then none else some out.client), out.actions)
  | .disconnect session => (server.setSession session none, [])

/-- Every session's player is what its row reads as. -/
def Sound (server : LoginServer) : Prop :=
  ∀ session client, server.sessions session = some client → client.Owns server.table

theorem Sound.setSession {server : LoginServer} (sound : server.Sound) {session : Nat}
    {client : Option LoginClient} (owns : ∀ c ∈ client, c.Owns server.table) :
    (server.setSession session client).Sound := by
  intro session' client' found
  simp only [LoginServer.setSession, Function.update_apply] at found
  split at found
  · exact owns client' found
  · exact sound session' client' found

theorem step_sound {server : LoginServer} (sound : server.Sound) (event : Event) :
    (server.step event).1.Sound := by
  cases event with
  | connect session serverChallenge loginTicket =>
      refine sound.setSession ?_
      rintro client ⟨⟩ player set
      cases set
  | disconnect session => exact sound.setSession (by simp)
  | packet session bytes sent =>
      rw [step]
      split
      · exact sound
      · rename_i client found
        have account := @handle_account client server.table bytes sent
        refine @Sound.setSession ⟨_, server.sessions⟩ ?_ _ _ ?_
        · -- The players of the other sessions are kept.
          intro session' client' found' player set
          exact account.keepsReads (sound session client found)
            (sound session' client' found' player set)
        · intro client' kept
          split at kept
          · cases kept
          · rename_i goesOn
            cases kept
            refine account.owns (sound session client found) ?_
            simp only [Bool.or_eq_true, not_or, Bool.not_eq_true] at goesOn
            exact goesOn.1

theorem sound_run (table : PlayerTable) (events : List Event) :
    (Run.final step (start table) events).Sound := by
  refine @Run.stable _ _ _ step events Sound _ ?_ fun server event sound => step_sound sound event
  intro session client found
  cases found

/-- What every handler keeps of the table is kept in any run. -/
theorem table_run {T : PlayerTable → Prop}
    (keeps : ∀ client table out, AccountStep client table out → client.Owns table → T table →
      T out.table)
    {server : LoginServer} (sound : server.Sound) (holds : T server.table) (events : List Event) :
    T (Run.final step server events).table := by
  refine (@Run.stable _ _ _ step events (fun server => server.Sound ∧ T server.table) _
    ⟨sound, holds⟩ ?_).2
  rintro server event ⟨sound, holds⟩
  refine ⟨step_sound sound event, ?_⟩
  cases event with
  | connect session serverChallenge loginTicket => exact holds
  | disconnect session => exact holds
  | packet session bytes sent =>
      rw [step]
      split
      · exact holds
      · rename_i client found
        exact keeps client _ _ handle_account (sound session client found) holds

theorem hasAccount_run {server : LoginServer} (sound : server.Sound) {name email password : Bytes}
    (mail : NulFree email) (masked : NulFree password)
    (has : server.table.HasAccount name email password) (events : List Event) :
    (Run.final step server events).table.HasAccount name email password :=
  table_run (fun _ _ _ account owns has => account.hasAccount owns mail masked has) sound has events

theorem namesFree_run {table : PlayerTable} (free : table.NamesFree) (events : List Event) :
    (Run.final step (start table) events).table.NamesFree :=
  table_run (fun _ _ _ account _ free => account.namesFree free) (sound_run table []) free events

end LoginServer

end GamespyEmulator
