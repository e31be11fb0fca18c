import GamespyEmulator.Player.Accounts

/-!
The statements `PlayerDBSQLite` changes its table with. A `sqlite::stmt` keeps a handle
for the texts of its exceptions, `m_DB`, which neither of its constructors sets.

`table_kept` is what every call does to the table. `player_table_iff` adds what the
exceptions are: a name that exists is never reported through the handle its statement
was prepared on.
-/

namespace GamespyEmulator

open Wire

/-! ### Databases -/

/-- A pointer to an open database. -/
structure Handle where
  address : Nat
deriving DecidableEq, Repr

/-- An open database with the table `player`, and the message of its last call. -/
structure PlayerDatabase where
  handle : Handle
  message : Bytes := ascii "not an error"
  table : PlayerTable := .created

/-- The two statements that change the table. -/
inductive Change where
  | insertPlayer
  | updatePlayer
deriving DecidableEq

/-- What the model leaves to SQLite: the texts it binds, and what it refuses for reasons
of its own, such as a disk that is full. -/
structure Engine where
  binds : Bytes → Bool
  refuses : Change → PlayerTable → PlayerData → Option Bytes

/-- What `sqlite3_step` returns: `SQLITE_ROW` with the id, `SQLITE_DONE`, or an error. -/
inductive StepResult where
  | row (id : UInt64)
  | done
  | failed
deriving DecidableEq

/-- The change itself. The id is taken before the `UNIQUE` name is checked. -/
def Change.perform (db : PlayerDatabase) (player : PlayerData) : Change → PlayerDatabase × StepResult
  | .updatePlayer => ({ db with table := db.table.update player }, .done)
  | .insertPlayer =>
      match db.table.insert player with
      | some (table, id) => ({ db with table := table }, .row id)
      | none =>
          if PlayerTable.maxRowid ≤ db.table.sequence then
            ({ db with message := ascii "database or disk is full" }, .failed)
          else ({ db with message := ascii "UNIQUE constraint failed: player.name" }, .failed)

/-- `sqlite3_step` on a change with the values of `player`. -/
def Engine.step (engine : Engine) (db : PlayerDatabase) (player : PlayerData) (change : Change) :
    PlayerDatabase × StepResult :=
  match engine.refuses change db.table player with
  | some message => ({ db with message := message }, .failed)
  | none => change.perform db player

/-! ### `sqlite::stmt` -/

/-- Where the text of a `sqlite::error` is read from. -/
inductive ErrorText where
  | read (handle : Handle) (message : Bytes)
  | unset
deriving DecidableEq

/-- `sqlite3_errmsg(m_DB)`. -/
def errmsg (db : PlayerDatabase) : Option Handle → ErrorText
  | some handle => .read handle db.message
  | none => .unset

/-- The exceptions of a statement. -/
inductive StmtError where
  | error (text : ErrorText)
  | tooLarge
  | bindFailed
deriving DecidableEq

/-- A prepared statement: `m_DB`, if it was set, and the database it was prepared on. -/
structure Stmt where
  db : Option Handle
  prepared : Handle
  change : Change

/-- The two constructors: with a checked format, and with a text. -/
inductive Constructor where
  | format
  | text
deriving DecidableEq

namespace Stmt

/-- The constructor with a checked format. -/
def ofFormat (db : PlayerDatabase) (change : Change) : Stmt where
  db := none
  prepared := db.handle
  change := change

/-- The constructor with a text. -/
def ofText (db : PlayerDatabase) (change : Change) : Stmt where
  db := none
  prepared := db.handle
  change := change

/-- `std::numeric_limits<int>::max()`. -/
def maxInt : Nat := 2 ^ 31 - 1

/-- `bind_at` for each value in turn. -/
def bind (engine : Engine) : List Bytes → Except StmtError Unit
  | [] => .ok ()
  | value :: rest =>
      if value.length > maxInt then .error .tooLarge
      else if engine.binds value then bind engine rest
      else .error .bindFailed

/-- `query`. -/
def query (self : Stmt) (db : PlayerDatabase) : StepResult → Except StmtError (Option UInt64)
  | .row id => .ok (some id)
  | .done => .ok none
  | .failed => .error (.error (errmsg db self.db))

/-- `insert`, which is also `update`. -/
def insert (self : Stmt) (db : PlayerDatabase) : StepResult → Except StmtError Unit
  | .done => .ok ()
  | _ => .error (.error (errmsg db self.db))

def construct : Constructor → PlayerDatabase → Change → Stmt
  | .format => ofFormat
  | .text => ofText

end Stmt

/-! ### `CreatePlayer` and `UpdatePlayer` -/

namespace PlayerDatabase

/-- `PlayerDBSQLite::CreatePlayer`, with the id it sets. -/
def createPlayer (engine : Engine) (constructor : Constructor) (db : PlayerDatabase)
    (player : PlayerData) : PlayerDatabase × Except StmtError PlayerData :=
  let stmt := Stmt.construct constructor db .insertPlayer
  match Stmt.bind engine [player.name, player.password, player.email, player.country] with
  | .error e => (db, .error e)
  | .ok () =>
      let (db, result) := engine.step db player stmt.change
      match stmt.query db result with
      | .error e => (db, .error e)
      | .ok none => (db, .ok player)
      | .ok (some id) => (db, .ok { player with id := id })

/-- `PlayerDBSQLite::UpdatePlayer`. -/
def updatePlayer (engine : Engine) (constructor : Constructor) (db : PlayerDatabase)
    (player : PlayerData) : PlayerDatabase × Except StmtError Unit :=
  let stmt := Stmt.construct constructor db .updatePlayer
  match Stmt.bind engine [player.password, player.email, player.country, player.name] with
  | .error e => (db, .error e)
  | .ok () =>
      let (db, result) := engine.step db player stmt.change
      (db, stmt.insert db result)

/-- A call, and the constructor its statement is made with. -/
inductive Call where
  | createPlayer (constructor : Constructor) (player : PlayerData)
  | updatePlayer (constructor : Constructor) (player : PlayerData)

/-- What a call did: the tables, and the exception it ended with. -/
structure Report where
  before : PlayerTable
  call : Call
  after : PlayerTable
  exception : Option StmtError

/-- The exception a call ends with. -/
def thrown {A : Type} : Except StmtError A → Option StmtError
  | .ok _ => none
  | .error e => some e

def step (engine : Engine) (db : PlayerDatabase) (call : Call) : PlayerDatabase × List Report :=
  let (db', exception) := match call with
    | .createPlayer constructor player =>
        let (db', result) := db.createPlayer engine constructor player
        (db', thrown result)
    | .updatePlayer constructor player =>
        let (db', result) := db.updatePlayer engine constructor player
        (db', thrown result)
  (db', [⟨db.table, call, db'.table, exception⟩])

/-! ### What one call does -/

/-- The exception does not come from the handle of a database. -/
def Unread (e : StmtError) : Prop := ∀ handle message, e ≠ .error (.read handle message)

theorem construct_unset (constructor : Constructor) (db : PlayerDatabase) (change : Change) :
    (Stmt.construct constructor db change).db = none ∧
      (Stmt.construct constructor db change).change = change := by
  cases constructor with
  | format => exact ⟨rfl, rfl⟩
  | text => exact ⟨rfl, rfl⟩

theorem bind_unread {engine : Engine} {values : List Bytes} {e : StmtError}
    (failed : Stmt.bind engine values = .error e) : Unread e := by
  induction values with
  | nil => cases failed
  | cons value rest ih =>
      rw [Stmt.bind] at failed
      split at failed
      · cases failed
        rintro handle message ⟨⟩
      · split at failed
        · exact ih failed
        · cases failed
          rintro handle message ⟨⟩

section Call

variable (engine : Engine) (constructor : Constructor) (db : PlayerDatabase) (player : PlayerData)

theorem step_insert :
    (∃ table id, db.table.insert player = some (table, id) ∧
      engine.step db player .insertPlayer = ({ db with table := table }, .row id)) ∨
    ∃ message, engine.step db player .insertPlayer = ({ db with message := message }, .failed) := by
  unfold Engine.step
  split
  · exact .inr ⟨_, rfl⟩
  · unfold Change.perform
    dsimp only
    split
    · rename_i table id inserted
      exact .inl ⟨table, id, inserted, rfl⟩
    · split
      · exact .inr ⟨_, rfl⟩
      · exact .inr ⟨_, rfl⟩

theorem step_update :
    engine.step db player .updatePlayer = ({ db with table := db.table.update player }, .done) ∨
    ∃ message, engine.step db player .updatePlayer = ({ db with message := message }, .failed) := by
  unfold Engine.step
  split
  · exact .inr ⟨_, rfl⟩
  · exact .inl rfl

/-- **What `CreatePlayer` does**: it inserts the row, or it throws and leaves the table. -/
theorem createPlayer_cases :
    (∃ table id, db.table.insert player = some (table, id) ∧
      db.createPlayer engine constructor player =
        ({ db with table := table }, .ok { player with id := id })) ∨
    ∃ message e, Unread e ∧
      db.createPlayer engine constructor player = ({ db with message := message }, .error e) := by
  obtain ⟨unset, change⟩ := construct_unset constructor db .insertPlayer
  unfold createPlayer
  dsimp only
  split
  · rename_i e failed
    exact .inr ⟨db.message, e, bind_unread failed, rfl⟩
  · rw [change]
    rcases step_insert engine db player with ⟨table, id, inserted, stepped⟩ | ⟨message, stepped⟩
    · rw [stepped]
      exact .inl ⟨table, id, inserted, rfl⟩
    · rw [stepped]
      refine .inr ⟨message, .error .unset, ?_, ?_⟩
      · rintro handle text ⟨⟩
      · simp only [Stmt.query, unset, errmsg]

theorem updatePlayer_cases :
    db.updatePlayer engine constructor player =
      ({ db with table := db.table.update player }, .ok ()) ∨
    ∃ message e, Unread e ∧
      db.updatePlayer engine constructor player = ({ db with message := message }, .error e) := by
  obtain ⟨unset, change⟩ := construct_unset constructor db .updatePlayer
  unfold updatePlayer
  dsimp only
  split
  · rename_i e failed
    exact .inr ⟨db.message, e, bind_unread failed, rfl⟩
  · rw [change]
    rcases step_update engine db player with stepped | ⟨message, stepped⟩
    · rw [stepped]
      exact .inl rfl
    · rw [stepped]
      refine .inr ⟨message, .error .unset, ?_, ?_⟩
      · rintro handle text ⟨⟩
      · simp only [Stmt.insert, unset, errmsg]

end Call

end PlayerDatabase

/-! ### Ids -/

namespace PlayerTable

variable {table table' : PlayerTable} {data : PlayerData} {id : UInt64}

/-- The ids, in the order of their rows. -/
def ids (table : PlayerTable) : List UInt64 := table.rows.map (·.id)

/-- The ids grow, from above 2900000 up to the last one that was handed out. -/
structure Numbered (table : PlayerTable) : Prop where
  grow : table.ids.Pairwise (· < ·)
  above : ∀ id ∈ table.ids, 2900000 < id ∧ id ≤ table.sequence
  started : 2900000 ≤ table.sequence

theorem created_numbered : created.Numbered where
  grow := .nil
  above _ mem := absurd mem List.not_mem_nil
  started := UInt64.le_refl _

theorem insert_sequence (inserted : table.insert data = some (table', id)) :
    id = table.sequence + 1 ∧ table'.sequence = id ∧ table.sequence < id := by
  unfold insert at inserted
  split at inserted
  · cases inserted
  · rename_i fits
    have room : table.sequence < maxRowid := UInt64.not_le.mp (not_or.mp fits).2
    cases inserted
    refine ⟨rfl, rfl, ?_⟩
    have bound := UInt64.lt_iff_toNat_lt.mp room
    have limit : maxRowid.toNat = 2 ^ 63 - 1 := rfl
    rw [UInt64.lt_iff_toNat_lt, UInt64.toNat_add, UInt64.toNat_one, Nat.mod_eq_of_lt (by omega)]
    omega

theorem insert_ids (inserted : table.insert data = some (table', id)) :
    table'.ids = table.ids ++ [id] := by
  rw [ids, (insert_rows inserted).1, List.map_append]
  rfl

theorem update_ids (table : PlayerTable) (data : PlayerData) :
    (table.update data).ids = table.ids := by
  rw [ids, update, List.map_map]
  apply List.map_congr_left
  intro row _
  rw [Function.comp_apply]
  split <;> rfl

theorem Numbered.insert (numbered : table.Numbered)
    (inserted : table.insert data = some (table', id)) : table'.Numbered := by
  obtain ⟨-, sequence, later⟩ := insert_sequence inserted
  have ids := insert_ids inserted
  constructor
  · rw [ids, List.pairwise_append]
    refine ⟨numbered.grow, List.pairwise_singleton _ _, fun old mem new same => ?_⟩
    rw [List.mem_singleton.mp same]
    exact UInt64.lt_of_le_of_lt (numbered.above old mem).2 later
  · intro old mem
    rw [sequence]
    rw [ids, List.mem_append, List.mem_singleton] at mem
    rcases mem with held | rfl
    · have before := numbered.above old held
      exact ⟨before.1, UInt64.le_of_lt (UInt64.lt_of_le_of_lt before.2 later)⟩
    · exact ⟨UInt64.lt_of_le_of_lt numbered.started later, UInt64.le_refl _⟩
  · rw [sequence]
    exact UInt64.le_of_lt (UInt64.lt_of_le_of_lt numbered.started later)

theorem Numbered.update (numbered : table.Numbered) : (table.update data).Numbered where
  grow := update_ids table data ▸ numbered.grow
  above := update_ids table data ▸ numbered.above
  started := numbered.started

end PlayerTable

/-! ### Runs -/

namespace PlayerDatabase

/-- The table is still sound behind the call, and new ids are larger than the old ones. -/
structure Report.Kept (report : Report) : Prop where
  names : (report.after.rows.map (·.name)).Nodup
  ids : report.after.ids.Nodup
  above : ∀ id ∈ report.after.ids, 2900000 < id
  grow : ∃ new, report.after.ids = report.before.ids ++ new ∧
    ∀ id ∈ new, ∀ old ∈ report.before.ids, old < id

/-- A name that exists leaves the table as it is, and is reported with the text of the
database `handle`. -/
def Report.Reported (handle : Handle) (report : Report) : Prop :=
  ∀ constructor player, report.call = .createPlayer constructor player →
    player.name ∈ report.before.rows.map (·.name) →
    report.after = report.before ∧
      ∃ message, report.exception = some (.error (.read handle message))

/-- No player is created under a name that exists. -/
def NewName (db : PlayerDatabase) : Call → Prop
  | .createPlayer _ player => player.name ∉ db.table.rows.map (·.name)
  | .updatePlayer _ _ => True

/-- A database as `PlayerDBSQLite` creates it. -/
def fresh (handle : Handle) : PlayerDatabase := { handle := handle }

theorem kept_same {table : PlayerTable} (numbered : table.Numbered) (call : Call)
    (exception : Option StmtError) : Report.Kept ⟨table, call, table, exception⟩ where
  names := table.names
  ids := numbered.grow.imp UInt64.ne_of_lt
  above id mem := (numbered.above id mem).1
  grow := ⟨[], (List.append_nil _).symm, fun _ mem => absurd mem List.not_mem_nil⟩

section Step

variable (engine : Engine) {db : PlayerDatabase}

/-- What a call leaves behind is sound, whether it succeeds or throws. -/
theorem step_kept (numbered : db.table.Numbered) (call : Call) :
    (db.step engine call).1.table.Numbered ∧ ∀ report ∈ (db.step engine call).2, report.Kept := by
  cases call with
  | createPlayer constructor player =>
      simp only [step, List.mem_singleton, forall_eq]
      rcases createPlayer_cases engine constructor db player with
        ⟨table, id, inserted, same⟩ | ⟨message, e, -, same⟩
      · rw [same]
        have after := numbered.insert inserted
        have ids := PlayerTable.insert_ids inserted
        refine ⟨after, table.names, after.grow.imp UInt64.ne_of_lt, fun id mem => (after.above id mem).1,
          [id], ids, ?_⟩
        intro new same old mem
        rw [List.mem_singleton.mp same]
        have later := (PlayerTable.insert_sequence inserted).2.2
        exact UInt64.lt_of_le_of_lt (numbered.above old mem).2 later
      · rw [same]
        exact ⟨numbered, kept_same numbered _ _⟩
  | updatePlayer constructor player =>
      simp only [step, List.mem_singleton, forall_eq]
      rcases updatePlayer_cases engine constructor db player with same | ⟨message, e, -, same⟩
      · rw [same]
        have after : (db.table.update player).Numbered := numbered.update
        have ids := PlayerTable.update_ids db.table player
        refine ⟨after, (db.table.update player).names, after.grow.imp UInt64.ne_of_lt,
          fun id mem => (after.above id mem).1, [], ?_, ?_⟩
        · exact ids.trans (List.append_nil _).symm
        · exact fun _ mem => absurd mem List.not_mem_nil
      · rw [same]
        exact ⟨numbered, kept_same numbered _ _⟩

/-- A call is reported as it should be exactly when it creates no name that exists. -/
theorem step_reported_iff (handle : Handle) (call : Call) :
    (∀ report ∈ (db.step engine call).2, report.Reported handle) ↔ NewName db call := by
  simp only [step, List.mem_singleton, forall_eq]
  cases call with
  | updatePlayer constructor player =>
      refine iff_of_true ?_ trivial
      rintro _ _ ⟨⟩
  | createPlayer constructor player =>
      constructor
      · intro reported taken
        obtain ⟨-, message, thrown'⟩ := reported constructor player rfl taken
        rcases createPlayer_cases engine constructor db player with
          ⟨table, id, inserted, -⟩ | ⟨text, e, unread, same⟩
        · exact (PlayerTable.insert_rows inserted).2 taken
        · dsimp only at thrown'
          rw [same] at thrown'
          exact unread handle message (Option.some.inj thrown')
      · rintro new constructor' player' ⟨⟩ taken
        exact absurd taken new

end Step

/-- **Every call keeps the table sound**, in every run from a fresh database. -/
theorem table_kept (engine : Engine) (handle : Handle) (calls : List Call) :
    ∀ report ∈ Run.outputs (step engine) (fresh handle) calls, report.Kept := by
  have rule := @Run.forall_outputs_iff _ _ _ (step engine) (fun _ _ => True)
    (fun db => db.table.Numbered) Report.Kept (fresh handle) PlayerTable.created_numbered
  refine (rule ?_ ?_ calls).mpr (Run.stepsMeet_true calls)
  · exact fun db call numbered => (step_kept engine numbered call).1
  · exact fun db call numbered => iff_of_true (step_kept engine numbered call).2 trivial

/-- **A run keeps its table sound and reports every name that exists as it should exactly
when no player is created under a name that exists.** -/
theorem player_table_iff (engine : Engine) (handle : Handle) (calls : List Call) :
    (∀ report ∈ Run.outputs (step engine) (fresh handle) calls,
        report.Kept ∧ report.Reported handle) ↔
      Run.StepsMeet (step engine) NewName (fresh handle) calls := by
  have rule := @Run.forall_outputs_iff _ _ _ (step engine) NewName (fun _ => True)
    (Report.Reported handle) (fresh handle) trivial
  rw [← rule (fun _ _ _ => trivial) (fun db call _ => step_reported_iff engine handle call) calls]
  constructor
  · exact fun both report mem => (both report mem).2
  · exact fun reported report mem => ⟨table_kept engine handle calls report mem, reported report mem⟩

end PlayerDatabase

namespace PlayerSample

/-- A database that binds and stores everything. -/
def engine : Engine where
  binds _ := true
  refuses _ _ _ := none

def gamer : PlayerData where
  name := ascii "gamer"
  email := ascii "gamer@example.com"
  password := ascii "secret"
  country := ascii "de"

/-- The same player twice. -/
theorem player_table_fails_taken :
    ¬ ∀ (engine : Engine) (handle : Handle) (calls : List PlayerDatabase.Call),
      ∀ report ∈ Run.outputs (PlayerDatabase.step engine) (PlayerDatabase.fresh handle) calls,
        report.Kept ∧ report.Reported handle := by
  intro claimed
  let create : PlayerDatabase.Call := .createPlayer .format gamer
  let table := (PlayerDatabase.step engine (PlayerDatabase.fresh ⟨1⟩) create).1.table
  have reported := claimed engine ⟨1⟩ [create, create]
    ⟨table, create, table, some (.error .unset)⟩ (.tail _ (.head _))
  obtain ⟨-, message, read⟩ := reported.2 .format gamer rfl (.head _)
  cases read

end PlayerSample

end GamespyEmulator
