import GamespyEmulator.Game.Select

/-!
The columns of the server table and the registered keys. `AddOrUpdateServer` adds all
new columns in one batch and registers their keys behind it; a batch that fails
midway leaves columns without a key. `call_schemaMatches` shows that a call keeps columns
and keys in agreement exactly when its batch does not fail behind its first statement.
-/

namespace GamespyEmulator

open Wire Fallible

namespace Game

/-! ### Agreement -/

/-- The columns are the registered keys, so no column that exists is added again. -/
structure SchemaMatches (game : Game) : Prop where
  columns : ∀ name, name ∈ game.columnNames ↔ name ∈ game.params
  fresh : ∀ server, ∀ name ∈ game.columnsToAdd server, name ∉ game.columnNames

theorem unknown_of_columnsToAdd {game : Game} {server : ServerData} {name : Bytes}
    (mem : name ∈ game.columnsToAdd server) : name ∉ game.params := by
  unfold columnsToAdd at mem
  split at mem
  · simpa using (List.mem_filter.mp mem).2
  · cases mem

theorem schemaMatches_iff {game : Game} :
    SchemaMatches game ↔ ∀ name, name ∈ game.columnNames ↔ name ∈ game.params := by
  constructor
  · exact fun agree => agree.columns
  · intro agree
    refine ⟨agree, fun server name mem held => ?_⟩
    exact unknown_of_columnsToAdd mem ((agree name).mp held)

theorem SchemaMatches.congr {game game' : Game} (columns : game'.columnNames = game.columnNames)
    (params : game'.params = game.params) : SchemaMatches game' ↔ SchemaMatches game := by
  rw [schemaMatches_iff, schemaMatches_iff, columns, params]

/-! ### Connecting -/

theorem register_schemaMatches {sqlite : Sqlite} {game game' : Game} {key : GameKey}
    {column : Column} {same : column.name = key.name} (agree : SchemaMatches game)
    (registered : game.register sqlite key column same = some game') : SchemaMatches game' := by
  obtain ⟨added, params⟩ := register_inv registered
  rw [schemaMatches_iff]
  intro name
  have step : name ∈ game'.columnNames ↔ name ∈ game.columnNames ∨ name = key.name := by
    rw [columnNames, Sqlite.addColumn_columns added]
    simp [columnNames, same]
  have keys : name ∈ game'.params ↔ name ∈ game.params ∨ name = key.name := by
    rw [params, Std.ExtTreeMap.mem_insertIfNew, Std.LawfulEqOrd.compare_eq_iff_eq, or_comm, eq_comm]
  exact step.trans ((or_congr_left (agree.columns name)).trans keys.symm)

theorem empty_schemaMatches (data : GameData) : SchemaMatches (empty data) :=
  schemaMatches_iff.mpr (by simp [empty, columnNames])

theorem connect_schemaMatches {sqlite : Sqlite} {data : GameData} {game : Game}
    (connected : connect sqlite data = .ok game) : SchemaMatches game :=
  connect_invariant (fun agree _ registered => register_schemaMatches agree registered)
    (empty_schemaMatches data) connected

/-! ### One call -/

/-- The batch of `ADD COLUMN` statements runs to its end or fails at its first
statement. -/
def WholeOrNone (sqlite : Sqlite) (columns : List Column) : List Bytes → Prop
  | [] => True
  | name :: rest =>
      (sqlite.reserved name = false ∧
        ∀ column ∈ columns, sameColumn name column.name = false) →
      NewColumns sqlite columns (name :: rest)

instance (sqlite : Sqlite) (columns : List Column) :
    (names : List Bytes) → Decidable (WholeOrNone sqlite columns names)
  | [] => .isTrue trivial
  | name :: rest => inferInstanceAs (Decidable (_ → NewColumns sqlite columns (name :: rest)))

/-- The batch of a call, if the call comes to it, is whole or none. -/
def BatchWhole (sqlite : Sqlite) (game : Game) : Call → Prop
  | .add server => game.Checked server →
      WholeOrNone sqlite game.table.columns (game.columnsToAdd server)
  | .remove _ => True
  | .subscribers _ => True

instance (sqlite : Sqlite) (game : Game) (call : Call) :
    Decidable (BatchWhole sqlite game call) := by
  cases call <;> unfold BatchWhole <;> infer_instance

section Step

variable {sqlite : Sqlite} {game : Game} (agree : SchemaMatches game)
include agree

theorem addColumns_schemaMatches {names : List Bytes}
    (unknown : ∀ name ∈ names, name ∉ game.params) :
    SchemaMatches (game.addColumns sqlite names).1 ↔
      WholeOrNone sqlite game.table.columns names := by
  by_cases fits : NewColumns sqlite game.table.columns names
  · refine iff_of_true (schemaMatches_iff.mpr fun name => ?_) ?_
    · have columns : name ∈ (game.addColumns sqlite names).1.columnNames ↔
          name ∈ game.columnNames ∨ name ∈ names := by
        rw [columnNames, addColumns_columns fits, List.map_append, List.map_map, List.mem_append]
        simp [columnNames, addedColumn]
      rw [columns, mem_addColumns_params fits, agree.columns]
    · cases names with
      | nil => trivial
      | cons name rest => exact fun _ => fits
  · cases names with
    | nil => exact absurd (by simp [NewColumns]) fits
    | cons name rest =>
        by_cases first : sqlite.reserved name = false ∧
            ∀ column ∈ game.table.columns, sameColumn name column.name = false
        · -- The first column stays and its key is not registered.
          refine iff_of_false (fun after => ?_) fun whole => fits (whole first)
          have stays := (after.columns name).mp (addColumns_first first.1 first.2)
          rw [addColumns_params_failed fits] at stays
          exact unknown name List.mem_cons_self stays
        · rw [addColumns_refused first]
          exact iff_of_true agree fun fits => absurd fits first

theorem addOrUpdateServer_schemaMatches (server : ServerData) :
    SchemaMatches (game.addOrUpdateServer sqlite server).game ↔
      (game.Checked server → WholeOrNone sqlite game.table.columns (game.columnsToAdd server)) := by
  have batch := @addColumns_schemaMatches sqlite game agree (game.columnsToAdd server)
    fun name mem => unknown_of_columnsToAdd mem
  rcases addOrUpdateServer_cases sqlite game server with
    ⟨unchecked, same, -⟩ | ⟨checked, -, same, -⟩ | ⟨checked, -, same, -⟩
  · rw [same]
    exact iff_of_true agree fun checked => absurd checked unchecked
  · rw [same, batch]
    exact ⟨fun whole _ => whole, fun whole => whole checked⟩
  · have stored : SchemaMatches (game.stored sqlite server) ↔
        SchemaMatches (game.addColumns sqlite (game.columnsToAdd server)).1 := SchemaMatches.congr rfl rfl
    rw [same, stored, batch]
    exact ⟨fun whole _ => whole, fun whole => whole checked⟩

theorem call_schemaMatches (call : Call) :
    SchemaMatches (game.call sqlite call).game ↔ BatchWhole sqlite game call := by
  cases call with
  | add server => exact addOrUpdateServer_schemaMatches agree server
  | remove servers =>
      obtain ⟨params, columns, -⟩ := removeServers_keeps game servers
      have same : (game.removeServers servers).game.columnNames = game.columnNames := by
        rw [columnNames, columns, columnNames]
      exact iff_of_true ((SchemaMatches.congr same params).mpr agree) trivial
  | subscribers fieldLists =>
      have same : SchemaMatches { game with subscribers := fieldLists } ↔ SchemaMatches game :=
        SchemaMatches.congr rfl rfl
      exact iff_of_true (same.mpr agree) trivial

end Step

end Game

namespace StoreSample

def data : GameData where
  name := ascii "gmtest"
  secretKey := ascii "HA6zkS"
  keys := [{ name := ascii "hostname" }]
  missingKeyPolicy := .addAsString

/-- The game with the key `hostname`, as `Connect` leaves it. -/
def game : Game where
  data := data
  params := OrdMap.emplaceAll [(ascii "hostname", { name := ascii "hostname" })] ∅
  popularValues := []
  table := ⟨[⟨ascii "hostname", .asText, none⟩], ∅⟩
  subscribers := []
  popularValues_le := by decide
  params_columns := by
    intro name mem
    rcases OrdMap.mem_emplaceAll.mp mem with absent | listed
    · simp at absent
    · simpa using listed

theorem connected : Game.connect sqlite data = .ok game := rfl

/-- A server with one value for each of `names`. -/
def server (names : List String) : ServerData where
  publicIp := ascii "192.168.0.7"
  publicPort := 6500
  data := OrdMap.emplaceAll (names.map fun name => (ascii name, ascii "x")) ∅

end StoreSample

end GamespyEmulator
