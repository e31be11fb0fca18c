import GamespyEmulator.Player.Accounts
import GamespyEmulator.Sessions.Authority

/-!
The accounts of the player database under all sessions at once. The table answers each
statement when it completes, and whatever the sessions do in between, an account keeps its
id, name, password and email for good (`accounts_kept`), and its country changes only with
a statement of a session that logged in to it (`country_authority`).

A statement that fails for its session may have been executed before, as when the
connection breaks behind it.
-/

namespace GamespyEmulator

open Wire Coroutine Utils

/-! ### The table behind the sessions -/

namespace PlayerTable

/-- A statement on the table: `none` when it fails. -/
def execute (table : PlayerTable) (operation : Operation) :
    PlayerTable × Option operation.Rows :=
  let out := Surroundings.serve ⟨table, [], true⟩ (.execute operation)
  (out.1.table, out.2)

/-- The table behind an operation that was executed. -/
def behind (table : PlayerTable) : SessionOperation → PlayerTable
  | .execute operation => (table.execute operation).1
  | _ => table

/-- Player statements are answered by the table, other operations anyhow. -/
def answer (table : PlayerTable) (answers : (operation : SessionOperation) → operation.Result) :
    (operation : SessionOperation) → Option operation.Result
  | .execute operation => (table.execute operation).2
  | operation => some (answers operation)

end PlayerTable

/-- The same account; only the country may differ. -/
structure SameAccount (row row' : PlayerRow) : Prop where
  id : row'.id = row.id
  name : row'.name = row.name
  password : row'.password = row.password
  email : row'.email = row.email

theorem SameAccount.refl (row : PlayerRow) : SameAccount row row := ⟨rfl, rfl, rfl, rfl⟩

theorem SameAccount.trans {a b c : PlayerRow} (ab : SameAccount a b) (bc : SameAccount b c) :
    SameAccount a c :=
  ⟨bc.id.trans ab.id, bc.name.trans ab.name, bc.password.trans ab.password,
    bc.email.trans ab.email⟩

/-- A table has every account of another one. -/
def PlayerTable.Keeps (table table' : PlayerTable) : Prop :=
  ∀ row ∈ table.rows, ∃ row' ∈ table'.rows, SameAccount row row'

namespace PlayerTable

variable {table table' table'' : PlayerTable}

theorem Keeps.refl (table : PlayerTable) : table.Keeps table :=
  fun row mem => ⟨row, mem, SameAccount.refl row⟩

theorem Keeps.trans (first : table.Keeps table') (second : table'.Keeps table'') :
    table.Keeps table'' := by
  intro row mem
  obtain ⟨row', mem', same⟩ := first row mem
  obtain ⟨row'', mem'', same'⟩ := second row' mem'
  exact ⟨row'', mem'', same.trans same'⟩

/-- The table has the account of a player. -/
def Has (table : PlayerTable) (player : PlayerData) : Prop :=
  ∃ row ∈ table.rows, row.id = player.id ∧ row.name = player.name ∧
    row.password = player.password ∧ row.email = some player.email

theorem Has.keeps {player : PlayerData} (has : table.Has player) (keeps : table.Keeps table') :
    table'.Has player := by
  obtain ⟨row, mem, id, name, password, email⟩ := has
  obtain ⟨row', mem', same⟩ := keeps row mem
  exact ⟨row', mem', same.id.trans id, same.name.trans name, same.password.trans password,
    same.email.trans email⟩

theorem Has.same {player player' : PlayerData} (has : table.Has player)
    (same : SamePlayer player' player) : table.Has player' := by
  obtain ⟨row, mem, id, name, password, email⟩ := has
  refine ⟨row, mem, id.trans same.id.symm, name.trans same.name.symm,
    password.trans same.password.symm, ?_⟩
  rw [email, same.email]

/-- Two rows of one name are one row. -/
theorem row_unique {row row' : PlayerRow} (mem : row ∈ table.rows) (mem' : row' ∈ table.rows)
    (name : row.name = row'.name) : row = row' :=
  List.inj_on_of_nodup_map table.names mem mem' name

/-- Writing a player the table has changes the country of that account. -/
theorem update_row {player : PlayerData} (has : table.Has player) {row : PlayerRow}
    (mem : row ∈ table.rows) :
    (if row.name = player.name then
        { row with password := player.password, email := some player.email
                   country := player.country }
      else row) =
      { row with country := if row.name = player.name then player.country else row.country } := by
  split
  · rename_i own
    obtain ⟨row', mem', -, name, password, email⟩ := has
    cases table.row_unique mem mem' (own.trans name.symm)
    simp [password, email, own]
  · rfl

theorem update_keeps {player : PlayerData} (has : table.Has player) :
    table.Keeps (table.update player) := by
  intro row mem
  refine ⟨_, List.mem_map_of_mem mem, ?_⟩
  rw [update_row has mem]
  exact ⟨rfl, rfl, rfl, rfl⟩

theorem insert_keeps {data : PlayerData} {id : UInt64}
    (inserted : table.insert data = some (table', id)) : table.Keeps table' := by
  intro row mem
  refine ⟨row, ?_, SameAccount.refl row⟩
  rw [(insert_rows inserted).1]
  exact List.mem_append_left _ mem

/-- What a statement does to the table: nothing, one more row, or the row of a player. -/
inductive Served (table : PlayerTable) : SessionOperation → PlayerTable → Prop where
  | same (operation : SessionOperation) : Served table operation table
  | created (data : PlayerData) (id : UInt64) (table' : PlayerTable)
      (inserted : table.insert data = some (table', id)) :
      Served table (.execute (.createPlayer data)) table'
  | updated (player : PlayerData) :
      Served table (.execute (.updatePlayer player)) (table.update player)

theorem behind_served (table : PlayerTable) (operation : SessionOperation) :
    Served table operation (table.behind operation) := by
  cases operation with
  | execute operation =>
      cases operation with
      | createPlayer data =>
          simp only [behind, execute, Surroundings.serve]
          cases inserted : table.insert data with
          | none => exact .same _
          | some out => exact .created data out.2 out.1 inserted
      | updatePlayer player => exact .updated player
      | hasPlayer _ => exact .same _
      | getPlayerByName _ => exact .same _
      | getPlayerByPID _ => exact .same _
      | getPlayerByMailAndPassword _ _ => exact .same _
  | prepare _ _ => exact .same _
  | executeStats => exact .same _
  | send _ => exact .same _
  | connect _ => exact .same _
  | write _ => exact .same _
  | read => exact .same _

end PlayerTable

/-! ### The server -/

/-- The sessions, with their records, and the table they share. -/
structure AccountServer (sqlite : Sqlite) (snapshotEndpoint : Option Endpoint) where
  sessions : Recorded (Sessions.service sqlite snapshotEndpoint)
  table : PlayerTable

/-- A failed statement was executed before it failed, or was not. -/
inductive AccountEvent where
  | accepted (i : Nat) (emulator : Emulator) (peer : Peer)
  | input (i : Nat) (emulator : Emulator) (input : SessionInput)
  | completed (i : Nat) (emulator : Emulator)
      (answers : (operation : SessionOperation) → operation.Result)
  | failed (i : Nat) (executed : Bool)

namespace AccountServer

variable {sqlite : Sqlite} {snapshotEndpoint : Option Endpoint}

def record (server : AccountServer sqlite snapshotEndpoint) (i : Nat) :
    SessionRecord sqlite snapshotEndpoint :=
  server.sessions.record i

/-- What a session is suspended on. -/
def suspendedOn (server : AccountServer sqlite snapshotEndpoint) (i : Nat) :
    Option SessionOperation :=
  (server.sessions.pool i).operation?

/-- The operation a session is suspended on succeeds. -/
def succeeds (server : AccountServer sqlite snapshotEndpoint) (i : Nat)
    (answers : (operation : SessionOperation) → operation.Result) : Bool :=
  (server.suspendedOn i).all fun operation => (server.table.answer answers operation).isSome

/-- The table behind the operation a session is suspended on. -/
def executed (server : AccountServer sqlite snapshotEndpoint) (i : Nat) : PlayerTable :=
  (server.suspendedOn i).elim server.table server.table.behind

/-- What happens to the sessions. -/
def sessionEvent (server : AccountServer sqlite snapshotEndpoint) :
    AccountEvent → PoolEvent (Sessions.service sqlite snapshotEndpoint)
  | .accepted i emulator peer => .accepted i emulator peer
  | .input i emulator input => .input i emulator input
  | .completed i emulator answers =>
      if server.succeeds i answers then .completed i emulator fun operation =>
        (server.table.answer answers operation).getD (answers operation)
      else .failed i
  | .failed i _ => .failed i

/-- What happens to the table. -/
def tableBehind (server : AccountServer sqlite snapshotEndpoint) : AccountEvent → PlayerTable
  | .accepted _ _ _ => server.table
  | .input _ _ _ => server.table
  | .completed i _ _ => server.executed i
  | .failed i executed => if executed then server.executed i else server.table

def step (server : AccountServer sqlite snapshotEndpoint) (event : AccountEvent) :
    AccountServer sqlite snapshotEndpoint × List SessionOperation :=
  let moved := server.sessions.step (server.sessionEvent event)
  (⟨moved.1, server.tableBehind event⟩, moved.2)

def start (table : PlayerTable) : AccountServer sqlite snapshotEndpoint := ⟨Recorded.start, table⟩

/-! ### What a step does to the table -/

/-- The sessions are as their records say, and the rows they were shown by name are in the
table, but for the country. -/
structure Sound (server : AccountServer sqlite snapshotEndpoint) : Prop where
  meets : ∀ i, (Authority.contract : Contract (Sessions.service sqlite snapshotEndpoint)).Meets
    (server.record i) (server.sessions.pool i)
  shown : ∀ i emulator name row others,
    .completed emulator (.execute (.getPlayerByName name)) (row :: others) ∈
      server.record i →
    row.name = name ∧ ∃ row' ∈ server.table.rows, SameAccount row row'

/-- The session writes a player who logged in to it. -/
def Writes (server : AccountServer sqlite snapshotEndpoint) (i : Nat) (player : PlayerData) :
    Prop :=
  server.suspendedOn i = some (.execute (.updatePlayer player)) ∧
    ∃ serverChallenge loginTicket known,
      (server.record i).BeganWith (.login serverChallenge loginTicket) ∧
      (server.record i).LoggedIn serverChallenge known ∧ SamePlayer player known

variable {server : AccountServer sqlite snapshotEndpoint}

/-- Who logged in has an account. -/
theorem Sound.has (sound : server.Sound) {i : Nat} {serverChallenge : Bytes} {player : PlayerData}
    (loggedIn : (server.record i).LoggedIn serverChallenge player) :
    server.table.Has player := by
  obtain ⟨front, back, emulator, packet, clientChallenge, row, others, record, -, -, -, -, -, id,
    email, password⟩ := loggedIn
  obtain ⟨named, row', mem, same⟩ := sound.shown i emulator player.name row others
    (by rw [record]; simp)
  exact ⟨row', mem, same.id.trans id, same.name.trans named, same.password.trans password,
    same.email.trans email⟩

/-- What an executed operation does to the table. -/
inductive Change (server : AccountServer sqlite snapshotEndpoint) (i : Nat) : PlayerTable → Prop where
  | same : Change server i server.table
  | created (data : PlayerData) (id : UInt64) (table : PlayerTable)
      (inserted : server.table.insert data = some (table, id)) : Change server i table
  | updated (player : PlayerData) (writes : server.Writes i player)
      (has : server.table.Has player) : Change server i (server.table.update player)

theorem Sound.change (sound : server.Sound) (i : Nat) : Change server i (server.executed i) := by
  unfold executed
  cases waits : server.suspendedOn i with
  | none => exact .same
  | some operation =>
      rw [Option.elim_some]
      have served := server.table.behind_served operation
      generalize server.table.behind operation = table at served
      cases served with
      | same _ => exact .same
      | created data id table inserted => exact .created data id table inserted
      | updated player =>
          have written := Contract.meets_allowed (sound.meets i) waits
          have writes := written
          obtain ⟨serverChallenge, loginTicket, known, -, loggedIn, same⟩ := written
          exact .updated player ⟨waits, writes⟩ ((sound.has loggedIn).same same)

theorem Change.keeps {i : Nat} {table : PlayerTable} (change : Change server i table) :
    server.table.Keeps table := by
  cases change with
  | same => exact .refl server.table
  | created data id table inserted => exact PlayerTable.insert_keeps inserted
  | updated player writes has => exact PlayerTable.update_keeps has

/-- An event leaves the table, or executes the operation of a session. -/
theorem tableBehind_cases (server : AccountServer sqlite snapshotEndpoint) (event : AccountEvent) :
    server.tableBehind event = server.table ∨
      ∃ i, server.tableBehind event = server.executed i := by
  cases event with
  | accepted _ _ _ => exact .inl rfl
  | input _ _ _ => exact .inl rfl
  | completed i _ _ => exact .inr ⟨i, rfl⟩
  | failed i executed =>
      cases executed with
      | false => exact .inl rfl
      | true => exact .inr ⟨i, rfl⟩

theorem Sound.keeps (sound : server.Sound) (event : AccountEvent) :
    server.table.Keeps (server.step event).1.table := by
  change server.table.Keeps (server.tableBehind event)
  rcases tableBehind_cases server event with same | ⟨i, executed⟩
  · rw [same]
    exact .refl server.table
  · rw [executed]
    exact (sound.change i).keeps

/-- A session is answered as the table is. -/
theorem completed_answers {event : AccountEvent} {i : Nat} {emulator : Emulator}
    {answers : (operation : SessionOperation) → operation.Result}
    (happens : server.sessionEvent event = .completed i emulator answers) (name : Bytes) :
    answers (.execute (.getPlayerByName name)) = server.table.byName name := by
  cases event with
  | accepted _ _ _ => cases happens
  | input _ _ _ => cases happens
  | failed _ _ => cases happens
  | completed i' emulator' answers' =>
      simp only [sessionEvent] at happens
      split at happens
      · cases happens
        rfl
      · cases happens

theorem Sound.step (sound : server.Sound) (event : AccountEvent) : (server.step event).1.Sound where
  meets := Recorded.step_meets Authority.kept sound.meets (server.sessionEvent event)
  shown := by
    intro i emulator name row others mem
    have keeps := sound.keeps event
    rcases Recorded.completed_mem mem with old | ⟨answers, happens, waits, rows⟩
    · obtain ⟨named, row', mem', same⟩ := sound.shown i emulator name row others old
      obtain ⟨row'', mem'', same'⟩ := keeps row' mem'
      exact ⟨named, row'', mem'', same.trans same'⟩
    · have found := rows.trans (completed_answers happens name)
      have first : row ∈ server.table.byName name := by simp [← found]
      obtain ⟨inside, named⟩ := List.mem_filter.mp first
      obtain ⟨row', mem', same⟩ := keeps row inside
      exact ⟨of_decide_eq_true named, row', mem', same⟩

theorem start_sound (table : PlayerTable) : (start table : AccountServer sqlite snapshotEndpoint).Sound where
  meets _ := trivial
  shown _ _ _ _ _ mem := absurd mem List.not_mem_nil

/-! ### Runs -/

section Runs

variable (sqlite snapshotEndpoint) (table : PlayerTable) (events : List AccountEvent)

/-- The server behind a run. -/
def behind : AccountServer sqlite snapshotEndpoint := Run.final step (start table) events

theorem behind_snoc (event : AccountEvent) :
    behind sqlite snapshotEndpoint table (events ++ [event]) =
      ((behind sqlite snapshotEndpoint table events).step event).1 :=
  Run.final_snoc _ _ _

theorem run_sound : (behind sqlite snapshotEndpoint table events).Sound := by
  apply Run.stable
  · exact start_sound table
  · exact fun _ event sound => sound.step event

/-- **Accounts are kept.** Whatever the sessions do, and however their statements come
between each other or fail, a row that is in the table stays there, with its id, name,
password and e-mail. -/
theorem accounts_kept (later : List AccountEvent) :
    (behind sqlite snapshotEndpoint table events).table.Keeps
      (behind sqlite snapshotEndpoint table (events ++ later)).table := by
  induction later using List.reverseRecOn with
  | nil =>
      rw [List.append_nil]
      exact .refl _
  | append_singleton later event ih =>
      have sound := run_sound sqlite snapshotEndpoint table (events ++ later)
      have next := sound.keeps event
      rw [← List.append_assoc, behind_snoc]
      exact ih.trans next

/-- **Only who logged in changes a country.** A row whose country an event changes is that
of a player who logged in to the session whose statement is executed. -/
theorem country_authority (event : AccountEvent) {row row' : PlayerRow}
    (before : row ∈ (behind sqlite snapshotEndpoint table events).table.rows)
    (after : row' ∈ (behind sqlite snapshotEndpoint table (events ++ [event])).table.rows)
    (name : row'.name = row.name) (changed : row'.country ≠ row.country) :
    ∃ i player, (behind sqlite snapshotEndpoint table events).Writes i player ∧
      row.name = player.name ∧ row.id = player.id ∧ row'.country = player.country := by
  have sound := run_sound sqlite snapshotEndpoint table events
  rw [behind_snoc] at after
  generalize behind sqlite snapshotEndpoint table events = server at sound before after ⊢
  have same (held : row' ∈ server.table.rows) : False := by
    cases server.table.row_unique held before name
    exact changed rfl
  change row' ∈ (server.tableBehind event).rows at after
  rcases tableBehind_cases server event with unchanged | ⟨i, executed⟩
  · rw [unchanged] at after
    exact (same after).elim
  rw [executed] at after
  have change := sound.change i
  generalize server.executed i = table' at change after
  cases change with
  | same => exact (same after).elim
  | created data id _ inserted =>
      obtain ⟨rows, fresh⟩ := PlayerTable.insert_rows inserted
      rw [rows, List.mem_append, List.mem_singleton] at after
      rcases after with held | rfl
      · exact (same held).elim
      · exact (fresh (List.mem_map.mpr ⟨row, before, name.symm⟩)).elim
  | updated player writes has =>
      obtain ⟨old, held, rfl⟩ := List.mem_map.mp after
      rw [PlayerTable.update_row has held] at name changed ⊢
      cases server.table.row_unique held before name
      by_cases own : row.name = player.name
      · obtain ⟨known, mem, id, named, -, -⟩ := has
        cases server.table.row_unique mem before (named.trans own.symm)
        exact ⟨i, player, writes, own, id, by simp [own]⟩
      · simp [own] at changed

end Runs

end AccountServer

namespace LoginSample

def table : PlayerTable := ⟨[row], 2900001, by decide⟩

/-- A player logs in, and the statement with the new country is prepared. -/
def prepared : List AccountEvent :=
  [.accepted 0 emulator (.login (ascii "A") (ascii "0__")), .completed 0 emulator answers,
    .input 0 emulator (.packet (ascii "\\login\\\\challenge\\c\\uniquenick\\a\\response\\" ++
      generateChallenge (ascii "a") (ascii "p") (ascii "c") (ascii "A") ++ ascii "\\final\\"))] ++
    List.replicate 5 (.completed 0 emulator answers) ++
    [.input 0 emulator (.packet (ascii "\\updatepro\\\\countrycode\\de\\final\\")),
      .completed 0 emulator answers]

theorem country_authority_updated : ∃ i player,
    (AccountServer.behind StoreSample.sqlite none table prepared).Writes i player ∧
      row.name = player.name ∧ row.id = player.id ∧ ascii "DE" = player.country := by
  have before : row ∈ (AccountServer.behind StoreSample.sqlite none table prepared).table.rows := by
    decide +kernel
  have after : { row with country := ascii "DE" } ∈ (AccountServer.behind StoreSample.sqlite none
      table (prepared ++ [.completed 0 emulator answers])).table.rows := by
    decide +kernel
  exact AccountServer.country_authority StoreSample.sqlite none table prepared
    (.completed 0 emulator answers) before after rfl (by decide)

end LoginSample

end GamespyEmulator
