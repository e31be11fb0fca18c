import GamespyEmulator.Browser.RequestRoundTrip
import GamespyEmulator.Browser.Subscription
import GamespyEmulator.Game.Columns

/-!
What a field list does to a server list. `GetServers` splices the names of a request
into the columns of its `SELECT`, and an error of SQLite ends the list; `PrepareServer`
sends a field without a value as an empty one.

`selects_columns_iff` shows that the field list only selects columns exactly when every
name is registered and a result has room for all, or there is no server to lose.
-/

namespace GamespyEmulator

open Wire Fallible

/-! ### Unknown names -/

/-- A name that is no column and none of the words SQLite knows anyway. -/
structure Table.Unknown (builtin : Bytes → Prop) (table : Table) (field : Bytes) : Prop where
  name : isValidParamName field
  word : ¬ builtin field
  column : ∀ column ∈ table.columns, sameColumn field column.name = false

/-- A statement over names fails when one of them is unknown (no such column), or when there
are too many of them. -/
structure RefusesNames (sqlite : Sqlite) (builtin : Bytes → Prop) : Prop where
  unknown : ∀ (table : Table) (query : Bytes) (fields : List Bytes) (limit skip : Nat),
    (∀ field ∈ fields, isValidParamName field) → (∃ field ∈ fields, table.Unknown builtin field) →
    sqlite.select table (Game.selectText query fields limit skip) = []
  many : ∀ (table : Table) (query : Bytes) (fields : List Bytes) (limit skip : Nat),
    (∀ field ∈ fields, isValidParamName field) → maxColumns < 3 + fields.length →
    sqlite.select table (Game.selectText query fields limit skip) = []

namespace Game

/-! ### Selecting columns -/

/-- A server tells its row: the stored value of each registered field, and nothing of
the others. -/
structure Shows (game : Game) (affinity : Affinity) (fields : List Bytes)
    (entry : RowKey × OrdMap Bytes Bytes) (server : SavedServer) : Prop where
  endpoint : server.rowKey = entry.1.shown
  stored : ∀ field ∈ fields, field ∈ game.params →
    server.data[field]? = some (cstr (game.table.stored affinity entry.2 field))
  absent : ∀ field ∈ fields, field ∉ game.params → server.toServerData.value field = []

/-- With the field list the same rows are read as without it, and each server tells its
row. -/
def SelectsColumns (sqlite : Sqlite) (affinity : Affinity) (game : Game) (query : Bytes)
    (fields : List Bytes) (limit skip : Nat) : Prop :=
  ∃ entries : List (RowKey × OrdMap Bytes Bytes),
    (∀ entry ∈ entries, game.table.rows[entry.1]? = some entry.2) ∧
      List.Forall₂ (game.Shows affinity []) entries
        (game.getServers sqlite query [] limit skip) ∧
      List.Forall₂ (game.Shows affinity fields) entries
        (game.getServers sqlite query fields limit skip)

section Registered

variable {sqlite : Sqlite} {affinity : Affinity} {query : Bytes}
  {rows : Table → List (RowKey × OrdMap Bytes Bytes)}
  (condition : Condition sqlite affinity query rows) {game : Game}
  (registered : game.Registered) {fields : List Bytes} (limit skip : Nat)

/-- A row is told by the server made of it. -/
theorem shows_shown (known : ∀ field ∈ fields, field ∈ game.params)
    (entry : RowKey × OrdMap Bytes Bytes) :
    game.Shows affinity fields entry (game.table.shown affinity fields entry) := by
  constructor
  · rfl
  · intro field mem _
    rw [Table.shown_getElem?, if_pos mem]
  · intro field mem unknown
    exact absurd (known field mem) unknown

include condition registered in
theorem getServers_shows (known : ∀ field ∈ fields, field ∈ game.params)
    (selectable : sqlite.Selectable fields) :
    List.Forall₂ (game.Shows affinity fields) (window limit skip (rows game.table))
      (game.getServers sqlite query fields limit skip) := by
  rw [getServers_condition condition (registered.columns known) selectable,
    List.forall₂_map_right_iff]
  exact List.forall₂_same.mpr fun entry _ => shows_shown known entry

include condition registered in
theorem selectsColumns_of_registered (known : ∀ field ∈ fields, field ∈ game.params)
    (selectable : sqlite.Selectable fields) :
    SelectsColumns sqlite affinity game query fields limit skip := by
  refine ⟨window limit skip (rows game.table), ?_, ?_, ?_⟩
  · intro entry mem
    exact condition.held _ entry (mem_of_mem_window mem)
  · exact getServers_shows condition registered limit skip (by simp) sqlite.selectable_nil
  · exact getServers_shows condition registered limit skip known selectable

end Registered

/-- **A list of names only selects columns exactly when every name is registered and a result
has room for all of them, or there is no server to lose.** -/
theorem selects_columns_iff {sqlite : Sqlite} {affinity : Affinity} {query : Bytes}
    {rows : Table → List (RowKey × OrdMap Bytes Bytes)}
    (condition : Condition sqlite affinity query rows) {builtin : Bytes → Prop}
    (refuses : RefusesNames sqlite builtin) {data : GameData} {start game : Game}
    (connected : connect sqlite data = .ok start) (calls : List Call)
    (reached : Run.final (callStep sqlite) start calls = game) {fields : List Bytes}
    (names : ∀ field ∈ fields, (field ∈ game.params ∧ sqlite.special field = false) ∨
      game.table.Unknown builtin field)
    (limit skip : Nat) :
    SelectsColumns sqlite affinity game query fields limit skip ↔
      ((∀ field ∈ fields, field ∈ game.params) ∧ 3 + fields.length ≤ maxColumns) ∨
        window limit skip (rows game.table) = [] := by
  have registered : game.Registered := reached ▸ calls_registered connected calls
  have bare := getServers_condition condition (@Registered.columns game registered [] (by simp))
    sqlite.selectable_nil limit skip
  have valid : ∀ field ∈ fields, isValidParamName field := by
    intro field mem
    rcases names field mem with held | unknown
    · exact registered.valid field held.1
    · exact unknown.name
  by_cases known : (∀ field ∈ fields, field ∈ game.params) ∧ 3 + fields.length ≤ maxColumns
  · have selectable : sqlite.Selectable fields := by
      refine ⟨known.2, fun field mem => ?_⟩
      rcases names field mem with held | unknown
      · exact held.2
      · obtain ⟨column, inside, name⟩ := List.mem_map.mp (game.params_columns field (known.1 field mem))
        have apart := unknown.column column inside
        simp [name, sameColumn] at apart
    exact iff_of_true (selectsColumns_of_registered condition registered limit skip known.1 selectable)
      (.inl known)
  · have none : game.getServers sqlite query fields limit skip = [] := by
      have refused : sqlite.select game.table (selectText query fields limit skip) = [] := by
        by_cases many : maxColumns < 3 + fields.length
        · exact refuses.many game.table query fields limit skip valid many
        · obtain ⟨field, mem, unregistered⟩ : ∃ field ∈ fields, field ∉ game.params := by
            by_contra all
            simp only [not_exists, not_and, not_not] at all
            exact known ⟨all, Nat.le_of_not_lt many⟩
          have unknown := (names field mem).resolve_left fun held => unregistered held.1
          exact refuses.unknown game.table query fields limit skip valid ⟨field, mem, unknown⟩
      rw [getServers, refused]
      rfl
    rw [SelectsColumns, none, bare]
    constructor
    · rintro ⟨entries, -, all, lost⟩
      obtain rfl := List.forall₂_nil_right_iff.mp lost
      exact .inr (List.map_eq_nil_iff.mp (List.forall₂_nil_left_iff.mp all))
    · rintro (known' | empty)
      · exact absurd known' known
      · rw [empty]
        exact ⟨[], by simp, .nil, .nil⟩

end Game

namespace StoreSample

/-- A database that refuses unknown names, and too many. -/
def strict : Sqlite where
  reserved := sqlite.reserved
  special := sqlite.special
  select table text :=
    if maxColumns < 3 + (selectedFields text).length ∨ ∃ field ∈ selectedFields text,
        ∀ column ∈ table.columns, sameColumn field column.name = false
    then [] else listing.select table text
  fails _ _ := false

theorem condition_strict : Condition strict affinity [] fun table => table.rows.toList := by
  constructor
  · exact condition_empty.held
  · intro table fields limit skip columns selectable
    have valid : ∀ field ∈ fields, isValidParamName field := fun field mem => (columns field mem).1
    rw [← condition_empty.selects table fields limit skip columns ⟨selectable.few, selectable.plain⟩,
      strict]
    apply if_neg
    rw [selectedFields_selectText valid]
    rintro (many | ⟨field, mem, apart⟩)
    · exact many.not_ge selectable.few
    · obtain ⟨column, inside, name⟩ := List.mem_map.mp (columns field mem).2
      have other := apart column inside
      simp [name, sameColumn] at other
  · intros
    rfl

theorem strict_refuses : RefusesNames strict fun _ => False := by
  constructor
  · intro table query fields limit skip valid unknown
    obtain ⟨field, mem, apart⟩ := unknown
    apply if_pos
    rw [selectedFields_selectText valid]
    exact .inr ⟨field, mem, apart.column⟩
  · intro table query fields limit skip valid many
    apply if_pos
    rw [selectedFields_selectText valid]
    exact .inl many

theorem connected_strict : Game.connect strict data = .ok game := rfl

/-- The game with one server. -/
def listed : Game := Run.final (Game.callStep strict) game [.add (server ["hostname"])]

/-- A registered name. -/
theorem selects_columns_hostname :
    Game.SelectsColumns strict affinity listed [] [ascii "hostname"] 500 0 :=
  (Game.selects_columns_iff condition_strict strict_refuses connected_strict
    [.add (server ["hostname"])] rfl
    (by
      intro field mem
      rw [List.mem_singleton.mp mem]
      exact .inl (by decide +kernel)) 500 0).mpr (.inl (by decide +kernel))

/-- One unknown name, and the server is gone from the list. -/
theorem selects_columns_fails_unknown :
    ¬ ∀ (sqlite : Sqlite) (affinity : Affinity) (query : Bytes)
      (rows : Table → List (RowKey × OrdMap Bytes Bytes)), Condition sqlite affinity query rows →
      ∀ (data : GameData) (start : Game), Game.connect sqlite data = .ok start →
      ∀ (calls : List Call) (packet : Bytes) (request : ServerListRequest),
      ServerListRequest.parse packet = .ok request → request.serverFilter = query →
      Game.SelectsColumns sqlite affinity (Run.final (Game.callStep sqlite) start calls) query
        request.fieldList (Listing.limit request) 0 := by
  intro claim
  let unknown : ServerListRequest :=
    { request with fieldList := [ascii "hostname", ascii "nosuchkey"] }
  have parsed : ServerListRequest.parse unknown.encode = .ok unknown := by decide +kernel
  obtain ⟨entries, -, all, lost⟩ := claim strict affinity [] _ condition_strict data game
    connected_strict [.add (server ["hostname"])] unknown.encode unknown parsed rfl
  have none : listed.getServers strict [] unknown.fieldList (Listing.limit unknown) 0 = [] := by
    decide +kernel
  have one : (listed.getServers strict [] [] (Listing.limit unknown) 0).length = 1 := by
    decide +kernel
  have same := all.length_eq.symm.trans lost.length_eq
  exact absurd (one.symm.trans (same.trans (congrArg List.length none))) (by decide)

end StoreSample

end GamespyEmulator
