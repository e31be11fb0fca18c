import GamespyEmulator.Game.Acceptance
import GamespyEmulator.Lib.Run

/-!
Sequences of calls on one game. A call adds a server, removes servers, or stands for
browsers that subscribe and leave in between. `addOrUpdateServer_cases` says once what
`AddOrUpdateServer` does to a game, whether it succeeds or throws.
-/

namespace GamespyEmulator

open Wire Fallible

inductive Call where
  | add (server : ServerData)
  | remove (servers : List RowKey)
  | subscribers (fieldLists : List (List Bytes))

namespace Game

def call (sqlite : Sqlite) (game : Game) : Call → Outcome
  | .add server => game.addOrUpdateServer sqlite server
  | .remove servers => game.removeServers servers
  | .subscribers fieldLists => { game := { game with subscribers := fieldLists } }

/-- A call as a step; it emits the exception the call ends with. -/
def callStep (sqlite : Sqlite) (game : Game) (call : Call) : Game × List GameError :=
  ((game.call sqlite call).game, (game.call sqlite call).exception.toList)

/-- The call returns. -/
def Succeeds (sqlite : Sqlite) (game : Game) (call : Call) : Prop :=
  (game.call sqlite call).exception = none

instance (sqlite : Sqlite) (game : Game) (call : Call) : Decidable (Succeeds sqlite game call) :=
  inferInstanceAs (Decidable (_ = _))

def columnNames (game : Game) : List Bytes := game.table.columns.map (·.name)

/-! ### What adding columns does -/

/-- The columns `AddOrUpdateServer` is about to add. -/
def columnsToAdd (game : Game) (server : ServerData) : List Bytes :=
  if game.data.missingKeyPolicy = .addAsString then game.unknownKeys server else []

/-- The server is looked at: it has an endpoint, and every column to add a valid name. -/
structure Checked (game : Game) (server : ServerData) : Prop where
  endpoint : server.publicIp ≠ [] ∧ server.publicPort ≠ 0
  names : ∀ name ∈ game.columnsToAdd server, isValidParamName name

instance (game : Game) (server : ServerData) : Decidable (game.Checked server) :=
  decidable_of_iff ((server.publicIp ≠ [] ∧ server.publicPort ≠ 0) ∧
      ∀ name ∈ game.columnsToAdd server, isValidParamName name)
    ⟨fun both => ⟨both.1, both.2⟩, fun checked => ⟨checked.endpoint, checked.names⟩⟩

section AddColumns

variable {sqlite : Sqlite} {game : Game} {names : List Bytes}

theorem addColumns_columns (fits : NewColumns sqlite game.table.columns names) :
    (game.addColumns sqlite names).1.table.columns =
      game.table.columns ++ names.map addedColumn := by
  obtain ⟨added, eq, all⟩ := execAddColumns_table sqlite game.table names
  have same := all (execAddColumns_ok.mpr fits)
  subst same
  unfold addColumns
  dsimp only
  split
  · exact (congrArg Table.columns eq :)
  · exact (congrArg Table.columns eq :)

theorem addColumns_params (fits : NewColumns sqlite game.table.columns names) :
    (game.addColumns sqlite names).1.params =
      OrdMap.emplaceAll (names.map fun name => (name, addedKey name)) game.params := by
  unfold addColumns
  dsimp only
  rw [dif_pos (execAddColumns_ok.mpr fits)]

theorem mem_addColumns_params (fits : NewColumns sqlite game.table.columns names) {name : Bytes} :
    name ∈ (game.addColumns sqlite names).1.params ↔ name ∈ game.params ∨ name ∈ names := by
  rw [addColumns_params fits, OrdMap.mem_emplaceAll]
  simp

theorem addColumns_params_failed (unfit : ¬ NewColumns sqlite game.table.columns names) :
    (game.addColumns sqlite names).1.params = game.params := by
  unfold addColumns
  dsimp only
  rw [dif_neg (mt execAddColumns_ok.mp unfit)]

/-- The first name fits and stays, whatever becomes of the others. -/
theorem addColumns_first {name : Bytes} {rest : List Bytes}
    (free : sqlite.reserved name = false)
    (distinct : ∀ column ∈ game.table.columns, sameColumn name column.name = false) :
    name ∈ (game.addColumns sqlite (name :: rest)).1.columnNames := by
  have fits : sqlite.addColumn game.table (addedColumn name) =
      some { game.table with columns := game.table.columns ++ [addedColumn name] } := by
    cases refused : sqlite.addColumn game.table (addedColumn name) with
    | none => exact absurd ⟨free, distinct⟩ (addColumn_eq_none.mp refused)
    | some table => rw [Sqlite.addColumn_columns refused]
  have kept : name ∈ (execAddColumns sqlite game.table (name :: rest)).1.columns.map (·.name) := by
    rw [execAddColumns, fits]
    obtain ⟨added, eq, -⟩ := execAddColumns_table sqlite
      { game.table with columns := game.table.columns ++ [addedColumn name] } rest
    simp only [eq, List.map_append, List.mem_append]
    exact .inl (.inr (by simp [addedColumn]))
  unfold columnNames addColumns
  dsimp only
  split
  · exact kept
  · exact kept

/-- A batch that fails at its first name changes nothing. -/
theorem addColumns_refused {name : Bytes} {rest : List Bytes}
    (unfit : ¬ (sqlite.reserved name = false ∧
      ∀ column ∈ game.table.columns, sameColumn name column.name = false)) :
    (game.addColumns sqlite (name :: rest)).1 = game := by
  have refused : sqlite.addColumn game.table (addedColumn name) = none :=
    addColumn_eq_none.mpr unfit
  have stopped : execAddColumns sqlite game.table (name :: rest) = (game.table, false) := by
    rw [execAddColumns, refused]
  simp [addColumns, stopped]

end AddColumns

/-! ### What a call does -/

section Plan

variable {game : Game}

theorem plan_values {entries : List (Bytes × Bytes)} {columns : List Bytes}
    {values : List (Bytes × Bytes)} (h : game.plan entries = .ok (columns, values)) :
    values = entries.filter (·.1 ∈ game.params) := by
  induction entries generalizing columns values with
  | nil =>
      cases h
      rfl
  | cons e rest ih =>
      obtain ⟨key, value⟩ := e
      rw [plan] at h
      by_cases known : key ∈ game.params
      · rw [if_pos known] at h
        obtain ⟨⟨columns', values'⟩, read, eq⟩ := map_eq_ok.mp h
        cases eq
        rw [List.filter_cons_of_pos (by simpa using known), ih read]
      · rw [if_neg known] at h
        rw [List.filter_cons_of_neg (by simpa using known)]
        cases policy : game.data.missingKeyPolicy with
        | ignore =>
            simp only [policy] at h
            exact ih h
        | addAsString =>
            simp only [policy] at h
            split at h
            · obtain ⟨⟨columns', values'⟩, read, eq⟩ := map_eq_ok.mp h
              cases eq
              exact ih read
            · cases h

end Plan

/-- The loop over the data ends when all names to add are valid. -/
theorem planned_iff {game : Game} {server : ServerData} :
    Returns (game.plan server.data.toList) ↔
      ∀ name ∈ game.columnsToAdd server, isValidParamName name := by
  rw [plan_returns, columnsToAdd]
  split
  · rename_i policy
    exact ⟨fun valid => valid policy, fun valid _ => valid⟩
  · rename_i other
    exact iff_of_true (fun policy => absurd policy other) fun name mem => absurd mem List.not_mem_nil

/-- The row a server leaves: its values for the registered keys. -/
def rowOf (game : Game) (server : ServerData) : OrdMap Bytes Bytes :=
  OrdMap.emplaceAll (server.data.toList.filter (·.1 ∈ game.params)) ∅

theorem rowOf_getElem? (game : Game) (server : ServerData) (key value : Bytes) :
    (game.rowOf server)[key]? = some value ↔ server.data[key]? = some value ∧ key ∈ game.params := by
  unfold rowOf
  rw [OrdMap.emplaceAll_getElem?]
  · simp
  · exact (OrdMap.toList_keys_nodup server.data).sublist ((List.filter_sublist).map _)
  · simp

/-- The game a call leaves when its columns were added. -/
def stored (sqlite : Sqlite) (game : Game) (server : ServerData) : Game :=
  let added := (game.addColumns sqlite (game.columnsToAdd server)).1
  { added with table := { added.table with
      rows := added.table.rows.insert server.rowKey (game.rowOf server) } }

/-- **What `AddOrUpdateServer` does.** A server that does not pass the checks leaves the
game alone; one whose columns do not all fit leaves those that did; any other is stored
and signalled. -/
theorem addOrUpdateServer_cases (sqlite : Sqlite) (game : Game) (server : ServerData) :
    let out := game.addOrUpdateServer sqlite server
    (¬ game.Checked server ∧ out.game = game ∧ out.exception ≠ none ∧ out.queued = []) ∨
    (game.Checked server ∧
      ¬ NewColumns sqlite game.table.columns (game.columnsToAdd server) ∧
      out.game = (game.addColumns sqlite (game.columnsToAdd server)).1 ∧ out.exception ≠ none ∧
      out.queued = []) ∨
    (game.Checked server ∧ NewColumns sqlite game.table.columns (game.columnsToAdd server) ∧
      out.game = game.stored sqlite server ∧
      out.queued = (signal (pushMessage out.game server) out.game.subscribers).1) := by
  by_cases endpoint : server.publicIp ≠ [] ∧ server.publicPort ≠ 0
  swap
  · have missing : server.publicIp.isEmpty = true ∨ server.publicPort = 0 := by
      by_contra present
      exact endpoint (by simpa using present)
    refine .inl ⟨fun checked => endpoint checked.endpoint, ?_⟩
    rw [addOrUpdateServer, if_pos missing]
    exact ⟨rfl, by simp, rfl⟩
  have present : ¬ (server.publicIp.isEmpty = true ∨ server.publicPort = 0) := by
    simpa using endpoint
  cases planned : game.plan server.data.toList with
  | error e =>
      refine .inl ⟨fun checked => ?_, ?_⟩
      · have returns : Returns (game.plan server.data.toList) :=
          planned_iff.mpr checked.names
        rw [planned] at returns
        exact not_returns_error e returns
      · rw [addOrUpdateServer, if_neg present, planned]
        exact ⟨rfl, by simp, rfl⟩
  | ok out =>
      obtain ⟨columns, values⟩ := out
      obtain rfl : columns = game.columnsToAdd server := plan_columns planned
      have checked : game.Checked server :=
        ⟨endpoint, planned_iff.mp (planned ▸ returns_ok _)⟩
      by_cases fits : NewColumns sqlite game.table.columns (game.columnsToAdd server)
      · refine .inr (.inr ⟨checked, fits, ?_⟩)
        rw [addOrUpdateServer_inv endpoint planned fits, plan_values planned]
        exact ⟨rfl, rfl⟩
      · refine .inr (.inl ⟨checked, fits, ?_⟩)
        have failed := mt addColumns_ok.mp fits
        unfold addOrUpdateServer
        rw [if_neg present, planned]
        dsimp only
        split
        · rename_i game' same
          exact ⟨by rw [same], by simp, rfl⟩
        · rename_i game' same
          rw [same] at failed
          exact absurd rfl failed

/-- The rows that are left, and nothing else, once all of them are removed. -/
theorem removeServers_game {game : Game} {servers : List RowKey}
    (succeeds : (game.removeServers servers).exception = none) :
    (game.removeServers servers).game = { game with table := { game.table with
      rows := servers.foldl (·.erase ·) game.table.rows } } := by
  induction servers generalizing game with
  | nil => rfl
  | cons key rest ih =>
      rw [removeServers] at succeeds ⊢
      dsimp only at succeeds ⊢
      split at succeeds
      · cases succeeds
      · exact ih succeeds

theorem removeServers_keeps (game : Game) (servers : List RowKey) :
    (game.removeServers servers).game.params = game.params ∧
      (game.removeServers servers).game.table.columns = game.table.columns ∧
      (game.removeServers servers).game.data = game.data := by
  induction servers generalizing game with
  | nil => exact ⟨rfl, rfl, rfl⟩
  | cons key rest ih =>
      rw [removeServers]
      dsimp only
      split
      · exact ⟨rfl, rfl, rfl⟩
      · exact ih _

end Game

end GamespyEmulator
