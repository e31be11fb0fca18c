import GamespyEmulator.Lib.Run
import GamespyEmulator.Lib.Wire

/-!
The player database: the table `player` with the statements both implementations
execute, and the implementations `PlayerDBSQLite` and `PlayerDBMySQL`. They differ in
how they read a result: SQLite hands out C strings and an empty string for NULL, the
MySQL client whole strings and an exception for NULL; and `result.empty()` is false
for every executed statement, so a missing row is read as the front of no rows.

`answers_agree_iff` shows when the two give the same answers over a run.
-/

namespace GamespyEmulator

open Wire

structure PlayerData where
  id : UInt64 := 0
  name : Bytes
  email : Bytes
  password : Bytes
  country : Bytes
  session : UInt16 := 0
deriving DecidableEq, Repr

/-! ### The table -/

/-- A row of `player`, with the columns the server reads. -/
structure PlayerRow where
  id : UInt64
  name : Bytes
  password : Bytes
  email : Option Bytes
  country : Bytes
deriving DecidableEq, Repr

/-- The table, with its `UNIQUE` name and the last id handed out. -/
structure PlayerTable where
  rows : List PlayerRow
  sequence : UInt64
  names : (rows.map (·.name)).Nodup
deriving DecidableEq

namespace PlayerTable

/-- The table the constructor of `PlayerDBSQLite` creates. -/
def created : PlayerTable := ⟨[], 2900000, by decide⟩

/-- `WHERE name=?`. -/
def byName (table : PlayerTable) (name : Bytes) : List PlayerRow :=
  table.rows.filter (·.name = name)

/-- `WHERE email=? AND password=?`. -/
def byMailAndPassword (table : PlayerTable) (email password : Bytes) : List PlayerRow :=
  table.rows.filter fun row => row.email = some email ∧ row.password = password

/-- The largest id, an `std::int64_t`. `AUTOINCREMENT` hands out none behind it. -/
def maxRowid : UInt64 := 0x7FFFFFFFFFFFFFFF

/-- `INSERT INTO player (name, password, email, country, rank_id)`; `none` when the
name is taken or no id is left. -/
def insert (table : PlayerTable) (data : PlayerData) : Option (PlayerTable × UInt64) :=
  if refused : data.name ∈ table.rows.map (·.name) ∨ maxRowid ≤ table.sequence then none
  else
    let id := table.sequence + 1
    some ({
      rows := table.rows ++ [⟨id, data.name, data.password, some data.email, data.country⟩]
      sequence := id
      names := by simpa [List.nodup_append, table.names] using (not_or.mp refused).1 }, id)

/-- `UPDATE player SET password=?, email=?, country=? WHERE name=?`. -/
def update (table : PlayerTable) (data : PlayerData) : PlayerTable where
  rows := table.rows.map fun row =>
    if row.name = data.name then
      { row with password := data.password, email := some data.email, country := data.country }
    else row
  sequence := table.sequence
  names := by
    have same : (fun row : PlayerRow => (if row.name = data.name then
        { row with password := data.password, email := some data.email, country := data.country }
        else row).name) = (·.name) := by
      funext row
      split <;> rfl
    rw [List.map_map]
    exact (congrArg (fun f => (table.rows.map f).Nodup) same).mpr table.names

end PlayerTable

/-! ### The interface -/

/-- The operations of `PlayerDB`. -/
inductive Operation where
  | hasPlayer (name : Bytes)
  | getPlayerByName (name : Bytes)
  | getPlayerByPID (pid : UInt64)
  | getPlayerByMailAndPassword (email password : Bytes)
  | createPlayer (data : PlayerData)
  | updatePlayer (data : PlayerData)

/-- What an operation returns, `CreatePlayer` in the id it sets. -/
inductive Answer where
  | flag (found : Bool)
  | player (player : Option PlayerData)
  | players (players : List PlayerData)
  | id (id : UInt64)
  | done
deriving DecidableEq

/-- How an operation ends: `undefined` is the use of a row that is not there. -/
inductive Ending (A : Type) where
  | returned (value : A)
  | threw
  | undefined
deriving DecidableEq

/-! ### SQLite -/

namespace PlayerDBSQLite

/-- `column_at<std::string_view>`: a C string, or the empty string for NULL. -/
def columnText : Option Bytes → Bytes
  | some text => cstr text
  | none => []

def hasPlayer (table : PlayerTable) (name : Bytes) : Bool := (table.byName name).length > 0

def getPlayerByName (table : PlayerTable) (name : Bytes) : Option PlayerData :=
  (table.byName name).head?.map fun row =>
    { id := row.id
      name := name
      email := columnText row.email
      password := columnText (some row.password)
      country := columnText (some row.country) }

/-- The id is compared as `std::int64_t`. -/
def getPlayerByPID (table : PlayerTable) (pid : UInt64) : Option PlayerData :=
  (table.rows.filter (·.id.toInt64 = pid.toInt64)).head?.map fun row =>
    { id := pid
      name := columnText (some row.name)
      email := columnText row.email
      password := columnText (some row.password)
      country := columnText (some row.country) }

def getPlayerByMailAndPassword (table : PlayerTable) (email password : Bytes) : List PlayerData :=
  (table.byMailAndPassword email password).map fun row =>
    { id := row.id
      name := columnText (some row.name)
      email := email
      password := password
      country := columnText (some row.country) }

/-- The created player has its id; `none` when the statement fails. -/
def createPlayer (table : PlayerTable) (data : PlayerData) : Option (PlayerTable × PlayerData) :=
  (table.insert data).map fun (table, id) => (table, { data with id := id })

def updatePlayer (table : PlayerTable) (data : PlayerData) : PlayerTable := table.update data

def run (table : PlayerTable) : Operation → PlayerTable × Ending Answer
  | .hasPlayer name => (table, .returned (.flag (hasPlayer table name)))
  | .getPlayerByName name => (table, .returned (.player (getPlayerByName table name)))
  | .getPlayerByPID pid => (table, .returned (.player (getPlayerByPID table pid)))
  | .getPlayerByMailAndPassword email password =>
      (table, .returned (.players (getPlayerByMailAndPassword table email password)))
  | .createPlayer data =>
      match createPlayer table data with
      | some (table, data) => (table, .returned (.id data.id))
      | none => (table, .threw)
  | .updatePlayer data => (updatePlayer table data, .returned .done)

end PlayerDBSQLite

/-! ### MySQL -/

namespace PlayerDBMySQL

/-- `as_string`, which throws for NULL. -/
def asString : Option Bytes → Ending Bytes
  | some text => .returned text
  | none => .threw

def hasPlayer (table : PlayerTable) (name : Bytes) : Bool := (table.byName name).length > 0

/-- `if (!result.empty())` holds for every executed statement. -/
def front (rows : List PlayerRow) (read : PlayerRow → Ending (Option PlayerData)) :
    Ending (Option PlayerData) :=
  match rows with
  | [] => .undefined
  | row :: _ => read row

def getPlayerByName (table : PlayerTable) (name : Bytes) : Ending (Option PlayerData) :=
  front (table.byName name) fun row =>
    match asString row.email with
    | .returned email => .returned (some
        { id := row.id, name := name, email := email, password := row.password
          country := row.country })
    | .threw => .threw
    | .undefined => .undefined

def getPlayerByPID (table : PlayerTable) (pid : UInt64) : Ending (Option PlayerData) :=
  front (table.rows.filter (·.id = pid)) fun row =>
    match asString row.email with
    | .returned email => .returned (some
        { id := pid, name := row.name, email := email, password := row.password
          country := row.country })
    | .threw => .threw
    | .undefined => .undefined

def getPlayerByMailAndPassword (table : PlayerTable) (email password : Bytes) : List PlayerData :=
  (table.byMailAndPassword email password).map fun row =>
    { id := row.id, name := row.name, email := email, password := password
      country := row.country }

def createPlayer (table : PlayerTable) (data : PlayerData) : Option (PlayerTable × PlayerData) :=
  (table.insert data).map fun (table, id) => (table, { data with id := id })

def updatePlayer (table : PlayerTable) (data : PlayerData) : PlayerTable := table.update data

def Ending.player : Ending (Option PlayerData) → Ending Answer
  | .returned player => .returned (.player player)
  | .threw => .threw
  | .undefined => .undefined

def run (table : PlayerTable) : Operation → PlayerTable × Ending Answer
  | .hasPlayer name => (table, .returned (.flag (hasPlayer table name)))
  | .getPlayerByName name => (table, Ending.player (getPlayerByName table name))
  | .getPlayerByPID pid => (table, Ending.player (getPlayerByPID table pid))
  | .getPlayerByMailAndPassword email password =>
      (table, .returned (.players (getPlayerByMailAndPassword table email password)))
  | .createPlayer data =>
      match createPlayer table data with
      | some (table, data) => (table, .returned (.id data.id))
      | none => (table, .threw)
  | .updatePlayer data => (updatePlayer table data, .returned .done)

end PlayerDBMySQL

/-! ### When the two agree -/

/-- A row both libraries read alike. -/
structure ReadsAlike (row : PlayerRow) : Prop where
  email : ∃ email, row.email = some email ∧ NulFree email
  password : NulFree row.password
  country : NulFree row.country

/-- The answers to an operation agree: a row that is looked up is there and reads
alike. -/
def AnswersAgree (table : PlayerTable) : Operation → Prop
  | .getPlayerByName name => ∃ row ∈ (table.byName name).head?, ReadsAlike row
  | .getPlayerByPID pid =>
      ∃ row ∈ (table.rows.filter (·.id = pid)).head?, ReadsAlike row ∧ NulFree row.name
  | .getPlayerByMailAndPassword email password =>
      ∀ row ∈ table.byMailAndPassword email password, NulFree row.name ∧ NulFree row.country
  | .hasPlayer _ => True
  | .createPlayer _ => True
  | .updatePlayer _ => True

theorem cstr_eq_iff {s : Bytes} : cstr s = s ↔ NulFree s :=
  ⟨fun same => same ▸ cstr_nulFree s, cstr_eq_self⟩

section Agree

variable {table : PlayerTable}

theorem read_agree {row : PlayerRow} {id : UInt64} {name name' : Bytes} :
    (Ending.returned (Answer.player (some
        { id := id
          name := name
          email := PlayerDBSQLite.columnText row.email
          password := PlayerDBSQLite.columnText (some row.password)
          country := PlayerDBSQLite.columnText (some row.country) })) =
      PlayerDBMySQL.Ending.player (match PlayerDBMySQL.asString row.email with
        | .returned email => .returned (some
            { id := id, name := name', email := email, password := row.password
              country := row.country })
        | .threw => .threw
        | .undefined => .undefined)) ↔ ReadsAlike row ∧ name = name' := by
  cases stored : row.email with
  | none =>
      refine iff_of_false (by simp [PlayerDBMySQL.asString, PlayerDBMySQL.Ending.player]) ?_
      rintro ⟨⟨⟨email, held, -⟩, -, -⟩, -⟩
      rw [stored] at held
      cases held
  | some email =>
      simp only [PlayerDBMySQL.asString, PlayerDBMySQL.Ending.player, PlayerDBSQLite.columnText,
        Ending.returned.injEq, Answer.player.injEq, Option.some.injEq, PlayerData.mk.injEq,
        true_and, and_true, cstr_eq_iff]
      constructor
      · rintro ⟨same, free, password, country⟩
        exact ⟨⟨⟨email, stored, free⟩, password, country⟩, same⟩
      · rintro ⟨⟨⟨email', held, free⟩, password, country⟩, same⟩
        rw [stored] at held
        cases held
        exact ⟨same, free, password, country⟩

theorem getPlayerByName_agree {name : Bytes} :
    (PlayerDBSQLite.run table (.getPlayerByName name)).2 =
        (PlayerDBMySQL.run table (.getPlayerByName name)).2 ↔
      AnswersAgree table (.getPlayerByName name) := by
  simp only [PlayerDBSQLite.run, PlayerDBMySQL.run, PlayerDBSQLite.getPlayerByName,
    PlayerDBMySQL.getPlayerByName, PlayerDBMySQL.front, AnswersAgree]
  cases table.byName name with
  | nil => simp [PlayerDBMySQL.Ending.player]
  | cons row rest =>
      simp only [List.head?_cons, Option.map_some, Option.mem_def, Option.some.injEq,
        exists_eq_left']
      exact read_agree.trans (and_iff_left rfl)

theorem getPlayerByPID_agree {pid : UInt64} :
    (PlayerDBSQLite.run table (.getPlayerByPID pid)).2 =
        (PlayerDBMySQL.run table (.getPlayerByPID pid)).2 ↔
      AnswersAgree table (.getPlayerByPID pid) := by
  have cast : ∀ a b : UInt64, a.toInt64 = b.toInt64 ↔ a = b := fun a b =>
    ⟨fun same => congrArg Int64.toUInt64 same, congrArg UInt64.toInt64⟩
  have same : table.rows.filter (·.id.toInt64 = pid.toInt64) = table.rows.filter (·.id = pid) := by
    simp only [cast]
  simp only [PlayerDBSQLite.run, PlayerDBMySQL.run, PlayerDBSQLite.getPlayerByPID,
    PlayerDBMySQL.getPlayerByPID, PlayerDBMySQL.front, AnswersAgree, same]
  cases table.rows.filter (·.id = pid) with
  | nil => simp [PlayerDBMySQL.Ending.player]
  | cons row rest =>
      simp only [List.head?_cons, Option.map_some, Option.mem_def, Option.some.injEq,
        exists_eq_left']
      rw [read_agree, PlayerDBSQLite.columnText, cstr_eq_iff]

theorem getPlayerByMailAndPassword_agree {email password : Bytes} :
    (PlayerDBSQLite.run table (.getPlayerByMailAndPassword email password)).2 =
        (PlayerDBMySQL.run table (.getPlayerByMailAndPassword email password)).2 ↔
      AnswersAgree table (.getPlayerByMailAndPassword email password) := by
  simp only [PlayerDBSQLite.run, PlayerDBMySQL.run, PlayerDBSQLite.getPlayerByMailAndPassword,
    PlayerDBMySQL.getPlayerByMailAndPassword, AnswersAgree, Ending.returned.injEq,
    Answer.players.injEq, List.map_inj_left, PlayerData.mk.injEq, PlayerDBSQLite.columnText,
    cstr_eq_iff, true_and, and_true]

/-- Both implementations execute the same statements. -/
theorem run_table (operation : Operation) :
    (PlayerDBSQLite.run table operation).1 = (PlayerDBMySQL.run table operation).1 := by
  cases operation <;> rfl

theorem run_agree {operation : Operation} :
    (PlayerDBSQLite.run table operation).2 = (PlayerDBMySQL.run table operation).2 ↔
      AnswersAgree table operation := by
  cases operation with
  | hasPlayer name => exact iff_of_true rfl trivial
  | getPlayerByName name => exact getPlayerByName_agree
  | getPlayerByPID pid => exact getPlayerByPID_agree
  | getPlayerByMailAndPassword email password => exact getPlayerByMailAndPassword_agree
  | createPlayer data => exact iff_of_true rfl trivial
  | updatePlayer data => exact iff_of_true rfl trivial

end Agree

/-! ### Runs -/

/-- An implementation as a step that emits how the operation ended. -/
def answering (run : PlayerTable → Operation → PlayerTable × Ending Answer) (table : PlayerTable)
    (operation : Operation) : PlayerTable × List (Ending Answer) :=
  ((run table operation).1, [(run table operation).2])

/-- **Started on equal tables, both implementations keep equal tables, and they answer
alike exactly when every row that is looked up is there and reads alike.** -/
theorem answers_agree_iff (table : PlayerTable) (operations : List Operation) :
    Run.final (answering PlayerDBSQLite.run) table operations =
        Run.final (answering PlayerDBMySQL.run) table operations ∧
      (Run.outputs (answering PlayerDBSQLite.run) table operations =
          Run.outputs (answering PlayerDBMySQL.run) table operations ↔
        Run.StepsMeet (answering PlayerDBSQLite.run) AnswersAgree table operations) := by
  induction operations generalizing table with
  | nil => exact ⟨rfl, iff_of_true rfl trivial⟩
  | cons operation rest ih =>
      have same : (answering PlayerDBMySQL.run table operation).1 =
          (answering PlayerDBSQLite.run table operation).1 := (run_table operation).symm
      obtain ⟨final, outputs⟩ := ih (answering PlayerDBSQLite.run table operation).1
      constructor
      · rw [Run.final_cons, Run.final_cons, same]
        exact final
      · rw [Run.outputs, Run.outputs, same, Run.StepsMeet, ← outputs, ← run_agree]
        simp only [answering, List.singleton_append, List.cons.injEq]

/-- An id without a row. -/
theorem answers_differ_unknown_pid :
    ¬ ∀ (table : PlayerTable) (operations : List Operation),
      Run.outputs (answering PlayerDBSQLite.run) table operations =
        Run.outputs (answering PlayerDBMySQL.run) table operations := by
  intro agree
  have answers := agree .created [.getPlayerByPID 1]
  revert answers
  decide

end GamespyEmulator
