import GamespyEmulator.Game.Servers

/-!
When `AddOrUpdateServer` accepts a server. `Accepts` is a condition on the game and on
the server alone: endpoint, names and columns of unknown keys, and the field lists of
the connected browsers. `addOrUpdateServer_accepts` shows that the call ends without
an exception exactly then, and `addOrUpdateServer_row` that the server has its row
afterwards.
-/

namespace GamespyEmulator

open Wire Fallible

namespace Game

/-- The keys of a server that the game has not registered, in map order. -/
def unknownKeys (game : Game) (server : ServerData) : List Bytes :=
  (server.data.toList.map Prod.fst).filter (· ∉ game.params)

/-- Names SQLite takes as new columns one after the other. -/
def NewColumns (sqlite : Sqlite) (columns : List Column) (names : List Bytes) : Prop :=
  (∀ name ∈ names, sqlite.reserved name = false ∧
      ∀ column ∈ columns, sameColumn name column.name = false) ∧
    names.Pairwise fun earlier later => sameColumn later earlier = false

instance (sqlite : Sqlite) (columns : List Column) (names : List Bytes) :
    Decidable (NewColumns sqlite columns names) := by
  unfold NewColumns; infer_instance

/-- The servers the game takes. -/
structure Accepts (sqlite : Sqlite) (game : Game) (server : ServerData) : Prop where
  endpoint : server.publicIp ≠ [] ∧ server.publicPort ≠ 0
  names : game.data.missingKeyPolicy = .addAsString →
    ∀ key ∈ game.unknownKeys server, isValidParamName key
  columns : game.data.missingKeyPolicy = .addAsString →
    NewColumns sqlite game.table.columns (game.unknownKeys server)
  slots : ∀ keyList ∈ game.subscribers, Encodable game server keyList

/-! ### The parts -/

theorem addColumn_eq_none {sqlite : Sqlite} {table : Table} {column : Column} :
    sqlite.addColumn table column = none ↔ ¬ (sqlite.reserved column.name = false ∧
      ∀ other ∈ table.columns, sameColumn column.name other.name = false) := by
  unfold Sqlite.addColumn
  split
  · rename_i refused
    rw [Bool.or_eq_true, List.any_eq_true] at refused
    refine iff_of_true rfl ?_
    rintro ⟨free, distinct⟩
    rcases refused with reserved | ⟨other, mem, same⟩
    · simp [reserved] at free
    · simp [distinct other mem] at same
  · rename_i fits
    simp only [Bool.or_eq_true, not_or, Bool.not_eq_true, List.any_eq_false] at fits
    simpa using fits

theorem execAddColumns_ok {sqlite : Sqlite} {table : Table} {names : List Bytes} :
    (execAddColumns sqlite table names).2 = true ↔ NewColumns sqlite table.columns names := by
  induction names generalizing table with
  | nil => simp [execAddColumns, NewColumns]
  | cons name rest ih =>
      rw [execAddColumns]
      split
      · rename_i refused
        have unfit := addColumn_eq_none.mp refused
        refine iff_of_false Bool.false_ne_true ?_
        rintro ⟨each, -⟩
        exact unfit (each name List.mem_cons_self)
      · rename_i table' added
        have fits : sqlite.reserved name = false ∧
            ∀ column ∈ table.columns, sameColumn name column.name = false := by
          by_contra unfit
          rw [addColumn_eq_none.mpr unfit] at added
          cases added
        rw [ih, Sqlite.addColumn_columns added, NewColumns, NewColumns, List.forall_mem_cons,
          List.pairwise_cons]
        constructor
        · rintro ⟨each, distinct⟩
          refine ⟨⟨fits, fun n mem => ⟨(each n mem).1, fun column held => ?_⟩⟩, fun n mem => ?_,
            distinct⟩
          · exact (each n mem).2 column (List.mem_append_left _ held)
          · exact (each n mem).2 (addedColumn name) (by simp)
        · rintro ⟨⟨-, each⟩, apart, distinct⟩
          refine ⟨fun n mem => ⟨(each n mem).1, fun column held => ?_⟩, distinct⟩
          rcases List.mem_append.mp held with old | new
          · exact (each n mem).2 column old
          · rw [List.mem_singleton.mp new]
            exact apart n mem

theorem addColumns_ok {sqlite : Sqlite} {game : Game} {names : List Bytes} :
    (game.addColumns sqlite names).2 = true ↔ NewColumns sqlite game.table.columns names := by
  rw [← execAddColumns_ok]
  unfold addColumns
  dsimp only
  split <;> simp [*]

section Plan

variable {game : Game} {entries : List (Bytes × Bytes)}

theorem plan_returns : Returns (game.plan entries) ↔ (game.data.missingKeyPolicy = .addAsString →
    ∀ key ∈ (entries.map Prod.fst).filter (· ∉ game.params), isValidParamName key) := by
  induction entries with
  | nil => simp [plan]
  | cons e rest ih =>
      obtain ⟨key, value⟩ := e
      rw [plan, List.map_cons, List.filter_cons]
      by_cases known : key ∈ game.params
      · simp only [known, if_true, returns_map, ih, not_true_eq_false, decide_false,
          Bool.false_eq_true, if_false]
      · simp only [known, if_false, not_false_eq_true, decide_true, if_true,
          List.forall_mem_cons]
        cases policy : game.data.missingKeyPolicy with
        | ignore => simp [ih, policy]
        | addAsString =>
            by_cases valid : isValidParamName key = true
            · simp [valid, ih, policy]
            · simp [valid]

theorem plan_columns {columns : List Bytes} {values : List (Bytes × Bytes)}
    (h : game.plan entries = .ok (columns, values)) :
    columns = if game.data.missingKeyPolicy = .addAsString then
      (entries.map Prod.fst).filter (· ∉ game.params) else [] := by
  induction entries generalizing columns values with
  | nil =>
      cases h
      simp
  | cons e rest ih =>
      obtain ⟨key, value⟩ := e
      rw [plan] at h
      by_cases known : key ∈ game.params
      · rw [if_pos known] at h
        obtain ⟨⟨columns', values'⟩, read, eq⟩ := map_eq_ok.mp h
        cases eq
        rw [List.map_cons, List.filter_cons_of_neg (by simpa using known)]
        exact ih read
      · rw [if_neg known] at h
        rw [List.map_cons, List.filter_cons_of_pos (by simpa using known)]
        cases policy : game.data.missingKeyPolicy with
        | ignore =>
            simp only [policy] at h
            simpa [policy] using ih h
        | addAsString =>
            simp only [policy] at h
            split at h
            · obtain ⟨⟨columns', values'⟩, read, eq⟩ := map_eq_ok.mp h
              cases eq
              simpa [policy] using ih read
            · cases h

end Plan

/-! ### The call -/

/-- What an accepted call did: the columns were added, the row inserted, and the slots
run on the game that came of it. -/
theorem addOrUpdateServer_inv {sqlite : Sqlite} {game : Game} {server : ServerData}
    (endpoint : server.publicIp ≠ [] ∧ server.publicPort ≠ 0)
    {columns : List Bytes} {values : List (Bytes × Bytes)}
    (planned : game.plan server.data.toList = .ok (columns, values))
    (fits : NewColumns sqlite game.table.columns columns) :
    let game' := (game.addColumns sqlite columns).1.insertRow server values
    game.addOrUpdateServer sqlite server =
      { game := game'
        queued := (signal (pushMessage game' server) game'.subscribers).1
        exception := (signal (pushMessage game' server) game'.subscribers).2.map .slot } := by
  have present : ¬ (server.publicIp.isEmpty = true ∨ server.publicPort = 0) := by
    simpa using endpoint
  have ok := addColumns_ok.mpr fits
  unfold addOrUpdateServer
  rw [if_neg present, planned]
  dsimp only
  split
  · rename_i game' same
    rw [same] at ok
    cases ok
  · rename_i game' same
    rw [same]

/-- **A server is accepted exactly when it meets `Accepts`.** -/
theorem addOrUpdateServer_accepts {sqlite : Sqlite} {game : Game} {server : ServerData} :
    (game.addOrUpdateServer sqlite server).exception = none ↔ game.Accepts sqlite server := by
  by_cases endpoint : server.publicIp ≠ [] ∧ server.publicPort ≠ 0
  swap
  · have missing : server.publicIp.isEmpty = true ∨ server.publicPort = 0 := by
      by_contra present
      exact endpoint (by simpa using present)
    rw [addOrUpdateServer, if_pos missing]
    exact iff_of_false (by simp) fun accepts => endpoint accepts.endpoint
  have present : ¬ (server.publicIp.isEmpty = true ∨ server.publicPort = 0) := by
    simpa using endpoint
  cases planned : game.plan server.data.toList with
  | error e =>
      rw [addOrUpdateServer, if_neg present, planned]
      refine iff_of_false (by simp) fun accepts => ?_
      have returns : Returns (game.plan server.data.toList) := plan_returns.mpr accepts.names
      rw [planned] at returns
      exact not_returns_error e returns
  | ok out =>
      obtain ⟨columns, values⟩ := out
      have names : game.data.missingKeyPolicy = .addAsString →
          ∀ key ∈ game.unknownKeys server, isValidParamName key :=
        plan_returns.mp (planned ▸ returns_ok _)
      have added : NewColumns sqlite game.table.columns columns ↔
          (game.data.missingKeyPolicy = .addAsString →
            NewColumns sqlite game.table.columns (game.unknownKeys server)) := by
        rw [plan_columns planned]
        split
        · simp [*, unknownKeys]
        · simp [*, NewColumns]
      by_cases fits : NewColumns sqlite game.table.columns columns
      · rw [addOrUpdateServer_inv endpoint planned fits]
        have same : SameConfig game ((game.addColumns sqlite columns).1.insertRow server values) :=
          (addColumns_sameConfig sqlite game columns).trans (insertRow_sameConfig _ server values)
        have slots : ∀ keyList, Returns (pushMessage
            ((game.addColumns sqlite columns).1.insertRow server values) server keyList) ↔
            Encodable game server keyList := by
          intro keyList
          rw [pushMessage, returns_map, prepareServer_returns, same.encodable_iff]
        simp only [Option.map_eq_none_iff, signal_completes, slots, same.subscribers]
        constructor
        · intro encodable
          exact ⟨endpoint, names, added.mp fits, encodable⟩
        · exact fun accepts => accepts.slots
      · have refused : (game.addColumns sqlite columns).2 = false := by
          rw [← Bool.not_eq_true, addColumns_ok]
          exact fits
        have failed : (game.addOrUpdateServer sqlite server).exception = some .sqlite := by
          unfold addOrUpdateServer
          rw [if_neg present, planned]
          dsimp only
          split
          · rfl
          · rename_i game' same
            rw [same] at refused
            cases refused
        rw [failed]
        exact iff_of_false (by simp) fun accepts => fits (added.mpr accepts.columns)

instance (sqlite : Sqlite) (game : Game) (server : ServerData) :
    Decidable (game.Accepts sqlite server) :=
  decidable_of_iff _ addOrUpdateServer_accepts

/-- An accepted server has its row. -/
theorem addOrUpdateServer_row {sqlite : Sqlite} {game : Game} {server : ServerData}
    (accepts : game.Accepts sqlite server) :
    server.rowKey ∈ (game.addOrUpdateServer sqlite server).game.table.rows := by
  obtain ⟨⟨columns, values⟩, planned⟩ : Returns (game.plan server.data.toList) :=
    plan_returns.mpr accepts.names
  have fits : NewColumns sqlite game.table.columns columns := by
    rw [plan_columns planned]
    split
    · exact accepts.columns (by assumption)
    · simp [NewColumns]
  rw [addOrUpdateServer_inv accepts.endpoint planned fits]
  simp [insertRow]

end Game

end GamespyEmulator
