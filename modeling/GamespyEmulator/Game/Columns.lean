import GamespyEmulator.Game.ReadBack

/-!
`GetServers` over columns of every type. A text bound to a column is stored by the
column's affinity, and `Affinity` says what of it is read back. `Condition` states what
a filter does that is a condition on rows: it picks rows, whatever columns are read.

`getServers_condition` is what `GetServers` makes of it. `calls_registered` carries the
agreement of keys and columns through every run, failed calls included.
-/

namespace GamespyEmulator

open Wire

/-! ### Stored values -/

/-- The decimals of a 64-bit integer, as SQLite prints them. -/
def CanonicalInteger (text : Bytes) : Prop :=
  ∃ n : Nat, (n < 2 ^ 63 ∧ text = Numeral.decimal n) ∨
    (0 < n ∧ n ≤ 2 ^ 63 ∧ text = 45 :: Numeral.decimal n)

/-- The text that is read back from a column of a type after a text was bound to it. -/
structure Affinity where
  convert : Store → Bytes → Bytes
  text : ∀ value, convert .asText value = value
  integer : ∀ value, CanonicalInteger value → convert .asInteger value = value

namespace Table

def store (table : Table) (field : Bytes) : Store :=
  ((table.columns.find? (·.name = field)).map (·.store)).getD .asText

/-- The stored value of a column, as text. -/
def stored (affinity : Affinity) (table : Table) (row : OrdMap Bytes Bytes) (field : Bytes) : Bytes :=
  affinity.convert (table.store field) (table.cell row field)

def readRow (affinity : Affinity) (table : Table) (fields : List Bytes)
    (entry : RowKey × OrdMap Bytes Bytes) : ResultRow :=
  ⟨entry.1.publicIp, entry.1.publicPort, fields.map (table.stored affinity entry.2)⟩

/-- The fields are names of columns. -/
def Columns (table : Table) (fields : List Bytes) : Prop :=
  ∀ field ∈ fields, isValidParamName field ∧ field ∈ table.columns.map (·.name)

end Table

/-! ### Conditions -/

/-- `LIMIT limit OFFSET skip`; a number SQLite cannot take fails the statement. -/
def window {A : Type} (limit skip : Nat) (rows : List A) : List A :=
  if limit ≤ maxLimit ∧ skip ≤ maxLimit then (rows.drop skip).take limit else []

theorem mem_of_mem_window {A : Type} {limit skip : Nat} {rows : List A} {a : A}
    (mem : a ∈ window limit skip rows) : a ∈ rows := by
  unfold window at mem
  split at mem
  · exact List.mem_of_mem_drop (List.mem_of_mem_take mem)
  · cases mem

/-- `query` is a condition that picks `rows`, in an order of SQLite's own, and fails on
none. -/
structure Condition (sqlite : Sqlite) (affinity : Affinity) (query : Bytes)
    (rows : Table → List (RowKey × OrdMap Bytes Bytes)) : Prop where
  held : ∀ table, ∀ entry ∈ rows table, table.rows[entry.1]? = some entry.2
  selects : ∀ (table : Table) (fields : List Bytes) (limit skip : Nat), table.Columns fields →
    sqlite.Selectable fields → sqlite.select table (Game.selectText query fields limit skip) =
      (window limit skip (rows table)).map (table.readRow affinity fields)
  steps : ∀ (table : Table) (fields : List Bytes) (limit skip : Nat), table.Columns fields →
    sqlite.Selectable fields → limit ≤ maxLimit → skip ≤ maxLimit →
    sqlite.fails table (Game.selectText query fields limit skip) = false

/-- The server `GetServers` makes of a row. -/
def Table.shown (affinity : Affinity) (table : Table) (fields : List Bytes)
    (entry : RowKey × OrdMap Bytes Bytes) : SavedServer :=
  Game.ResultRow.saved fields (table.readRow affinity fields entry)

theorem Table.shown_getElem? (affinity : Affinity) (table : Table) (fields : List Bytes)
    (entry : RowKey × OrdMap Bytes Bytes) (field : Bytes) :
    (table.shown affinity fields entry).data[field]? =
      if field ∈ fields then some (cstr (table.stored affinity entry.2 field)) else none :=
  saved_data _ rfl field

namespace Game

theorem getServers_condition {sqlite : Sqlite} {affinity : Affinity} {query : Bytes}
    {rows : Table → List (RowKey × OrdMap Bytes Bytes)}
    (condition : Condition sqlite affinity query rows) {game : Game} {fields : List Bytes}
    (columns : game.table.Columns fields) (selectable : sqlite.Selectable fields)
    (limit skip : Nat) : game.getServers sqlite query fields limit skip =
      (window limit skip (rows game.table)).map (game.table.shown affinity fields) := by
  rw [getServers, condition.selects game.table fields limit skip columns selectable, List.map_map]
  rfl

/-! ### Keys and columns -/

theorem Registered.columns {game : Game} (registered : Registered game) {fields : List Bytes}
    (known : ∀ field ∈ fields, field ∈ game.params) : game.table.Columns fields := by
  intro field mem
  exact ⟨registered.valid field (known field mem), game.params_columns field (known field mem)⟩

/-- A registered key's column has its type. -/
theorem Registered.store {game : Game} (registered : Registered game) {field : Bytes}
    {key : GameKey} (held : game.params[field]? = some key) : game.table.store field = key.store := by
  obtain ⟨column, inside, name⟩ := List.mem_map.mp
    (game.params_columns field (OrdMap.mem_iff.mpr ⟨key, held⟩))
  cases found : game.table.columns.find? (·.name = field) with
  | none =>
      have absent := List.find?_eq_none.mp found column inside
      simp [name] at absent
  | some other =>
      have same : other.name = field := by simpa using List.find?_some found
      rw [Table.store, found]
      exact registered.stores field key held other (List.mem_of_find?_eq_some found) same

/-- The columns that a batch leaves behind are the first of it. -/
theorem execAddColumns_prefix (sqlite : Sqlite) (table : Table) (names : List Bytes) :
    ∃ added, added <+: names ∧
      (execAddColumns sqlite table names).1.columns = table.columns ++ added.map addedColumn := by
  induction names generalizing table with
  | nil => exact ⟨[], List.prefix_rfl, by simp [execAddColumns]⟩
  | cons name rest ih =>
      unfold execAddColumns
      split
      · exact ⟨[], List.nil_prefix, by simp⟩
      · rename_i table' added
        obtain ⟨names', front, eq⟩ := ih table'
        refine ⟨name :: names', List.cons_prefix_cons.mpr ⟨rfl, front⟩, ?_⟩
        rw [eq, Sqlite.addColumn_columns added]
        simp

theorem addColumns_prefix (sqlite : Sqlite) (game : Game) (names : List Bytes) :
    ∃ added, added <+: names ∧
      (game.addColumns sqlite names).1.table.columns =
        game.table.columns ++ added.map addedColumn := by
  obtain ⟨added, front, eq⟩ := execAddColumns_prefix sqlite game.table names
  refine ⟨added, front, ?_⟩
  rw [← eq]
  unfold addColumns
  dsimp only
  split <;> rfl

/-- A batch that fails leaves text columns that no key is registered for. -/
theorem registered_addColumns_failed {sqlite : Sqlite} {game : Game} {server : ServerData}
    (registered : Registered game)
    (unfit : ¬ NewColumns sqlite game.table.columns (game.columnsToAdd server)) :
    Registered (game.addColumns sqlite (game.columnsToAdd server)).1 := by
  obtain ⟨added, front, columns⟩ := addColumns_prefix sqlite game (game.columnsToAdd server)
  have params := addColumns_params_failed unfit
  constructor
  · rw [params]
    exact registered.valid
  · intro name key held column inside same
    rw [params] at held
    rw [columns] at inside
    rcases List.mem_append.mp inside with old | new
    · exact registered.stores name key held column old same
    · obtain ⟨name', mem, rfl⟩ := List.mem_map.mp new
      have unknown := unknown_of_columnsToAdd (front.subset mem)
      have eq : name' = name := same
      exact absurd (OrdMap.mem_iff.mpr ⟨key, eq ▸ held⟩) unknown
  · intro column inside text
    rw [columns] at inside
    rcases List.mem_append.mp inside with old | new
    · exact registered.empty column old text
    · obtain ⟨name, -, rfl⟩ := List.mem_map.mp new
      rfl

theorem call_registered {sqlite : Sqlite} {game : Game} (registered : Registered game)
    (call : Call) : Registered (game.call sqlite call).game := by
  cases call with
  | subscribers fieldLists => exact registered.congr rfl rfl
  | remove servers =>
      obtain ⟨params, columns, -⟩ := removeServers_keeps game servers
      exact registered.congr params columns
  | add server =>
      rcases addOrUpdateServer_cases sqlite game server with
        ⟨-, same, -⟩ | ⟨-, unfit, same, -⟩ | ⟨checked, fits, same, -⟩
      · rw [call, same]
        exact registered
      · rw [call, same]
        exact registered_addColumns_failed registered unfit
      · rw [call, same]
        exact registered_stored fits registered checked

/-- Keys and columns agree in every game, whatever was called before. -/
theorem calls_registered {sqlite : Sqlite} {data : GameData} {game : Game}
    (connected : connect sqlite data = .ok game) (calls : List Call) :
    Registered (Run.final (callStep sqlite) game calls) :=
  @Run.stable _ _ _ (callStep sqlite) calls Registered game (connect_registered connected)
    fun _ call registered => call_registered registered call

end Game

namespace StoreSample

/-- Texts and canonical integers, as they are. -/
def affinity : Affinity where
  convert _ value := value
  text _ := rfl
  integer _ _ := rfl

/-- What follows the columns of a `SELECT`. -/
theorem selectText_behind {fields : List Bytes} (valid : ∀ field ∈ fields,
    isValidParamName field) (query : Bytes) (limit skip : Nat) :
    ((Game.selectText query fields limit skip).drop 7).dropWhile (· ≠ 32) =
      32 :: (ascii "FROM server" ++
        ((if query.isEmpty then [] else ascii " WHERE " ++ query) ++ (ascii " LIMIT " ++
          (Numeral.decimal limit ++
            (if skip = 0 then [] else ascii " OFFSET " ++ Numeral.decimal skip))))) := by
  rw [selectText_columns, List.dropWhile_append_of_pos]
  · rfl
  · intro c mem
    simpa using columnText_blankFree valid c mem

/-- The numbers of a `LIMIT`, and of the `OFFSET` behind it. -/
def windowOf (numbers : Bytes) : Nat × Nat :=
  (Numeral.value (numbers.takeWhile Numeral.isDigit),
    Numeral.value ((numbers.dropWhile Numeral.isDigit).drop 8))

theorem windowOf_text (limit skip : Nat) :
    windowOf (Numeral.decimal limit ++
      (if skip = 0 then [] else ascii " OFFSET " ++ Numeral.decimal skip)) = (limit, skip) := by
  have digits := Numeral.decimal_all_digits limit
  have first : ∀ tail : Bytes, tail.head?.all (!Numeral.isDigit ·) →
      (Numeral.decimal limit ++ tail).takeWhile Numeral.isDigit = Numeral.decimal limit ∧
        (Numeral.decimal limit ++ tail).dropWhile Numeral.isDigit = tail := by
    intro tail apart
    rw [List.takeWhile_append_of_pos digits, List.dropWhile_append_of_pos digits]
    cases tail with
    | nil => simp
    | cons c rest =>
        have notDigit : Numeral.isDigit c = false := by simpa using apart
        simp [notDigit]
  rw [windowOf]
  by_cases none : skip = 0
  · obtain ⟨take, drop⟩ := first [] rfl
    rw [if_pos none, take, drop, Numeral.value_decimal, none]
    rfl
  · obtain ⟨take, drop⟩ := first (ascii " OFFSET " ++ Numeral.decimal skip) rfl
    rw [if_neg none, take, drop, Numeral.value_decimal]
    exact congrArg (limit, ·) (Numeral.value_decimal skip)

/-- The numbers behind `LIMIT` and `OFFSET` in a `SELECT` text without a condition. -/
def selectedWindow (text : Bytes) : Nat × Nat :=
  let numbers := ((text.drop 7).dropWhile (· ≠ 32)).drop 19
  (Numeral.value (numbers.takeWhile Numeral.isDigit),
    Numeral.value ((numbers.dropWhile Numeral.isDigit).drop 8))

theorem selectedWindow_selectText {fields : List Bytes} (valid : ∀ field ∈ fields,
    isValidParamName field) (limit skip : Nat) :
    selectedWindow (Game.selectText [] fields limit skip) = (limit, skip) := by
  rw [selectedWindow, selectText_behind valid]
  exact windowOf_text limit skip

/-- A database that answers `SELECT`s without a condition. -/
def listing : Sqlite where
  reserved := sqlite.reserved
  special := sqlite.special
  select table text :=
    (window (selectedWindow text).1 (selectedWindow text).2 table.rows.toList).map
      (table.readRow affinity (selectedFields text))
  fails _ _ := false

theorem condition_empty : Condition listing affinity [] fun table => table.rows.toList := by
  constructor
  · exact fun table entry mem => OrdMap.mem_toList.mp mem
  · intro table fields limit skip columns _
    have valid : ∀ field ∈ fields, isValidParamName field := fun field mem => (columns field mem).1
    simp only [listing, selectedFields_selectText valid, selectedWindow_selectText valid]
  · intros
    rfl

end StoreSample

end GamespyEmulator
