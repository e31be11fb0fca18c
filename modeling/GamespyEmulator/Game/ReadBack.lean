import GamespyEmulator.Game.Schema

/-!
What `GetServers` reads after a sequence of successful calls. The abstract store is
the map of the servers last added; `Stores` connects the table to it, and `ReadsBack` is
reduced to the rows (`readsBack_of_faithful`, `faithful_of_readsBack`).

A key that a call introduces gets its column in that call, but no value: the list of
values to insert was built before (`faithful_call`).
-/

namespace GamespyEmulator

open Wire

/-! ### The abstract store -/

/-- The servers last added and not removed since. -/
def note (added : OrdMap RowKey ServerData) : Call → OrdMap RowKey ServerData
  | .add server => added.insert server.rowKey server
  | .remove servers => servers.foldl (·.erase ·) added
  | .subscribers _ => added

def lastAdded (calls : List Call) : OrdMap RowKey ServerData := calls.foldl note ∅

theorem lastAdded_snoc (past : List Call) (call : Call) :
    lastAdded (past ++ [call]) = note (lastAdded past) call := by
  simp [lastAdded]

/-- No value of the call has a NUL. -/
def Call.NulFree : Call → Prop
  | .add server => Wire.NulFree server.publicIp ∧
      ∀ key value : Bytes, server.data[key]? = some value → Wire.NulFree value
  | .remove _ => True
  | .subscribers _ => True

def SavedServer.rowKey (server : SavedServer) : RowKey := ⟨server.publicIp, server.publicPort⟩

namespace Game

/-! ### Text keys -/

/-- A registered key that is stored as text. -/
def TextKey (game : Game) (key : Bytes) : Prop :=
  ∃ found, game.params[key]? = some found ∧ found.store = .asText

/-- Registered keys are valid names with columns of their own type, and a text column
without a value reads as the empty string. -/
structure Registered (game : Game) : Prop where
  valid : ∀ name ∈ game.params, isValidParamName name
  stores : ∀ (name : Bytes) (key : GameKey), game.params[name]? = some key →
    ∀ column ∈ game.table.columns, column.name = name → column.store = key.store
  empty : ∀ column ∈ game.table.columns, column.store = .asText → column.default.getD [] = []

theorem Registered.congr {game game' : Game} (registered : Registered game)
    (params : game'.params = game.params) (columns : game'.table.columns = game.table.columns) :
    Registered game' := by
  constructor
  · rw [params]
    exact registered.valid
  · rw [params, columns]
    exact registered.stores
  · rw [columns]
    exact registered.empty

theorem Registered.textFields {game : Game} (registered : Registered game) {fields : List Bytes}
    (text : ∀ field ∈ fields, game.TextKey field) : game.table.TextFields fields := by
  intro field mem
  obtain ⟨key, held, store⟩ := text field mem
  have listed : field ∈ game.params := OrdMap.mem_iff.mpr ⟨key, held⟩
  obtain ⟨column, inside, name⟩ := List.mem_map.mp (game.params_columns field listed)
  refine ⟨registered.valid field listed, column, inside, name, ?_⟩
  rw [registered.stores field key held column inside name, store]

theorem Registered.cell {game : Game} (registered : Registered game) {field : Bytes}
    (text : game.TextKey field) (row : OrdMap Bytes Bytes) :
    game.table.cell row field = row[field]?.getD [] := by
  obtain ⟨key, held, store⟩ := text
  suffices default : ((game.table.columns.find? (·.name = field)).bind (·.default)).getD [] = [] by
    rw [Table.cell, default]
  cases found : game.table.columns.find? (·.name = field) with
  | none => rfl
  | some column =>
      have inside := List.mem_of_find?_eq_some found
      have name : column.name = field := by simpa using List.find?_some found
      refine registered.empty column inside ?_
      rw [registered.stores field key held column inside name, store]

theorem register_registered {sqlite : Sqlite} {game game' : Game} {key : GameKey}
    (registered : Registered game) (agree : SchemaMatches game)
    (valid : isValidParamName key.name = true)
    (added : game.register sqlite key key.column rfl = some game') : Registered game' := by
  obtain ⟨fits, params⟩ := register_inv added
  have columns : game'.table.columns = game.table.columns ++ [key.column] := by
    rw [Sqlite.addColumn_columns fits]
  have fresh : key.name ∉ game.columnNames := by
    intro there
    have distinct := (@addColumn_eq_none sqlite game.table key.column).not.mp (by simp [fits])
    obtain ⟨column, inside, name⟩ := List.mem_map.mp there
    have := (not_not.mp distinct).2 column inside
    simp [name, GameKey.column, sameColumn] at this
  have unknown := mt (agree.columns key.name).mpr fresh
  constructor
  · intro name mem
    rw [params] at mem
    rcases Std.ExtTreeMap.mem_insertIfNew.mp mem with eq | old
    · exact Std.LawfulEqOrd.eq_of_compare eq ▸ valid
    · exact registered.valid name old
  · intro name found held column inside same
    rw [params] at held
    rw [columns] at inside
    rcases List.mem_append.mp inside with old | new
    · rcases OrdMap.insertIfNew_eq_some.mp held with ⟨rfl, -, -⟩ | found
      · exact absurd (List.mem_map.mpr ⟨column, old, same⟩) fresh
      · exact registered.stores name _ found column old same
    · obtain rfl := List.mem_singleton.mp new
      rcases OrdMap.insertIfNew_eq_some.mp held with ⟨-, -, rfl⟩ | found
      · rfl
      · have name : key.name = name := same
        exact absurd (OrdMap.mem_iff.mpr ⟨_, name ▸ found⟩) unknown
  · intro column inside text
    rw [columns] at inside
    rcases List.mem_append.mp inside with old | new
    · exact registered.empty column old text
    · obtain rfl := List.mem_singleton.mp new
      have text : key.store = .asText := text
      simp [GameKey.column, text]

theorem connect_registered {sqlite : Sqlite} {data : GameData} {game : Game}
    (connected : connect sqlite data = .ok game) : Registered game := by
  refine (@connect_invariant sqlite data game (fun game => Registered game ∧ SchemaMatches game)
    ?_ ⟨?_, empty_schemaMatches data⟩ connected).1
  · rintro game game' key ⟨registered, agree⟩ valid added
    exact ⟨register_registered registered agree valid added, register_schemaMatches agree added⟩
  · constructor <;> simp [empty]

theorem connect_rows {sqlite : Sqlite} {data : GameData} {game : Game}
    (connected : connect sqlite data = .ok game) : game.table.rows = ∅ := by
  refine @connect_invariant sqlite data game (fun game => game.table.rows = ∅) ?_ rfl connected
  intro game game' key empty _ added
  rw [Sqlite.addColumn_columns (register_inv added).1]
  exact empty

/-! ### A stored server -/

theorem mem_columnsToAdd {game : Game} {server : ServerData} {name : Bytes} :
    name ∈ game.columnsToAdd server ↔
      game.data.missingKeyPolicy = .addAsString ∧ name ∈ server.data ∧ name ∉ game.params := by
  have keys : name ∈ server.data.toList.map Prod.fst ↔ name ∈ server.data := by
    have list : server.data.toList.map Prod.fst = server.data.keys :=
      Std.ExtTreeMap.map_fst_toList_eq_keys
    rw [list, Std.ExtTreeMap.mem_keys]
  unfold columnsToAdd unknownKeys
  split
  · rename_i policy
    rw [List.mem_filter, keys]
    simp [policy]
  · rename_i policy
    simp [policy]

section Stored

variable {sqlite : Sqlite} {game : Game} {server : ServerData}

theorem succeeds_add (succeeds : Succeeds sqlite game (.add server)) :
    game.Checked server ∧ NewColumns sqlite game.table.columns (game.columnsToAdd server) ∧
      (game.addOrUpdateServer sqlite server).game = game.stored sqlite server := by
  rcases addOrUpdateServer_cases sqlite game server with
    ⟨-, -, threw, -⟩ | ⟨-, -, -, threw, -⟩ | ⟨checked, fits, stored, -⟩
  · exact absurd succeeds threw
  · exact absurd succeeds threw
  · exact ⟨checked, fits, stored⟩

theorem stored_rows : (game.stored sqlite server).table.rows =
    game.table.rows.insert server.rowKey (game.rowOf server) := by
  rw [← addColumns_rows sqlite game (game.columnsToAdd server)]
  rfl

/-- Row and server of a key are both the stored ones, or both older. -/
theorem stored_both {added : OrdMap RowKey ServerData} {key : RowKey} {row : OrdMap Bytes Bytes}
    {other : ServerData} (inRows : (game.stored sqlite server).table.rows[key]? = some row)
    (inAdded : (added.insert server.rowKey server)[key]? = some other) :
    (row = game.rowOf server ∧ other = server) ∨
      (game.table.rows[key]? = some row ∧ added[key]? = some other) := by
  rw [stored_rows] at inRows
  rcases OrdMap.insert_eq_some.mp inRows with ⟨same, rfl⟩ | ⟨apart, old⟩
  · rcases OrdMap.insert_eq_some.mp inAdded with ⟨-, rfl⟩ | ⟨apart, -⟩
    · exact .inl ⟨rfl, rfl⟩
    · exact absurd same apart
  · rcases OrdMap.insert_eq_some.mp inAdded with ⟨same, -⟩ | ⟨-, old'⟩
    · exact absurd same apart
    · exact .inr ⟨old, old'⟩

theorem rowOf_unregistered {name : Bytes} (unknown : name ∉ game.params) :
    (game.rowOf server)[name]? = none := by
  rw [Option.eq_none_iff_forall_not_mem]
  intro found inside
  exact unknown ((rowOf_getElem? game server name found).mp inside).2

variable (fits : NewColumns sqlite game.table.columns (game.columnsToAdd server))
include fits

theorem mem_stored_params {name : Bytes} : name ∈ (game.stored sqlite server).params ↔
    name ∈ game.params ∨ name ∈ game.columnsToAdd server :=
  mem_addColumns_params fits

/-- A key that was registered stays the same key; the others are text keys. -/
theorem stored_params_getElem? {name : Bytes} {key : GameKey}
    (held : (game.stored sqlite server).params[name]? = some key) :
    game.params[name]? = some key ∨ (name ∈ game.columnsToAdd server ∧ key = addedKey name) := by
  have params : (game.stored sqlite server).params = _ := addColumns_params fits
  rw [params] at held
  rcases OrdMap.emplaceAll_getElem?_source held with added | old
  · obtain ⟨name', mem, eq⟩ := List.mem_map.mp added
    cases eq
    exact .inr ⟨mem, rfl⟩
  · exact .inl old

theorem textKey_stored {name : Bytes} : (game.stored sqlite server).TextKey name ↔
    game.TextKey name ∨ name ∈ game.columnsToAdd server := by
  constructor
  · rintro ⟨key, held, store⟩
    rcases stored_params_getElem? fits held with old | ⟨mem, -⟩
    · exact .inl ⟨key, old, store⟩
    · exact .inr mem
  · rintro (⟨key, held, store⟩ | mem)
    · refine ⟨key, ?_, store⟩
      have params : (game.stored sqlite server).params = _ := addColumns_params fits
      rw [params]
      exact OrdMap.emplaceAll_getElem?_held held
    · obtain ⟨key, held⟩ := OrdMap.mem_iff.mp ((mem_stored_params fits).mpr (.inr mem))
      refine ⟨key, held, ?_⟩
      rcases stored_params_getElem? fits held with old | ⟨-, rfl⟩
      · exact absurd (OrdMap.mem_iff.mpr ⟨key, old⟩) (mem_columnsToAdd.mp mem).2.2
      · rfl

theorem registered_stored (registered : Registered game) (checked : game.Checked server) :
    Registered (game.stored sqlite server) := by
  have columns : (game.stored sqlite server).table.columns = _ := addColumns_columns fits
  constructor
  · intro name mem
    rcases (mem_stored_params fits).mp mem with old | new
    · exact registered.valid name old
    · exact checked.names name new
  · intro name key held column inside same
    rw [columns] at inside
    rcases List.mem_append.mp inside with old | new
    · rcases stored_params_getElem? fits held with found | ⟨mem, -⟩
      · exact registered.stores name key found column old same
      · have apart := (fits.1 name mem).2 column old
        simp [same, sameColumn] at apart
    · obtain ⟨name', mem, rfl⟩ := List.mem_map.mp new
      obtain rfl : name' = name := same
      rcases stored_params_getElem? fits held with found | ⟨-, rfl⟩
      · exact absurd (OrdMap.mem_iff.mpr ⟨key, found⟩) (mem_columnsToAdd.mp mem).2.2
      · rfl
  · intro column inside text
    rw [columns] at inside
    rcases List.mem_append.mp inside with old | new
    · exact registered.empty column old text
    · obtain ⟨name, -, rfl⟩ := List.mem_map.mp new
      rfl

end Stored

/-! ### The table and the abstract store -/

/-- The rows are those of the servers last added, each with some of its server's
values. -/
structure Stores (game : Game) (added : OrdMap RowKey ServerData) : Prop where
  registered : Registered game
  rows : ∀ key, key ∈ game.table.rows ↔ key ∈ added
  servers : ∀ (key : RowKey) (server : ServerData), added[key]? = some server →
    server.rowKey = key ∧ (Call.add server).NulFree
  values : ∀ (key : RowKey) (row : OrdMap Bytes Bytes) (server : ServerData),
    game.table.rows[key]? = some row → added[key]? = some server →
    ∀ name value : Bytes, row[name]? = some value → server.data[name]? = some value
  known : game.data.missingKeyPolicy = .addAsString → ∀ (key : RowKey) (server : ServerData),
    added[key]? = some server → ∀ name ∈ server.data, name ∈ game.params

/-- Every text key that can be selected reads in its row as the server gave it. -/
def Faithful (sqlite : Sqlite) (game : Game) (added : OrdMap RowKey ServerData) : Prop :=
  ∀ (key : RowKey) (row : OrdMap Bytes Bytes) (server : ServerData),
    game.table.rows[key]? = some row → added[key]? = some server →
    ∀ name value : Bytes, game.TextKey name → sqlite.special name = false →
      server.data[name]? = some value → row[name]?.getD [] = value

/-- No key that can be selected is introduced with a nonempty value. -/
def ValuesRegistered (sqlite : Sqlite) (game : Game) : Call → Prop
  | .add server => ∀ key ∈ game.columnsToAdd server, sqlite.special key = false →
      server.value key = []
  | .remove _ => True
  | .subscribers _ => True

instance (sqlite : Sqlite) (game : Game) : DecidablePred (ValuesRegistered sqlite game)
  | .add server => inferInstanceAs (Decidable (∀ key ∈ game.columnsToAdd server, _))
  | .remove _ => .isTrue trivial
  | .subscribers _ => .isTrue trivial

section Step

variable {sqlite : Sqlite} {game : Game} {added : OrdMap RowKey ServerData}
  (stores : Stores game added)
include stores

theorem stores_stored {server : ServerData}
    (succeeds : Succeeds sqlite game (.add server)) (free : (Call.add server).NulFree) :
    Stores (game.stored sqlite server) (added.insert server.rowKey server) := by
  obtain ⟨checked, fits, -⟩ := succeeds_add succeeds
  have policy : (game.stored sqlite server).data.missingKeyPolicy = game.data.missingKeyPolicy :=
    (addColumns_sameConfig sqlite game _).policy
  refine ⟨registered_stored fits stores.registered checked, ?_, ?_, ?_, ?_⟩
  · intro key
    rw [stored_rows, Std.ExtTreeMap.mem_insert, Std.ExtTreeMap.mem_insert, stores.rows key]
  · intro key other held
    rcases OrdMap.insert_eq_some.mp held with ⟨same, rfl⟩ | ⟨-, old⟩
    · exact ⟨same, free⟩
    · exact stores.servers key other old
  · intro key row other inRows inAdded
    rcases stored_both inRows inAdded with ⟨rfl, rfl⟩ | ⟨inRows, inAdded⟩
    · exact fun name value held => ((rowOf_getElem? game other name value).mp held).1
    · exact stores.values key row other inRows inAdded
  · intro adds key other held name mem
    rw [policy] at adds
    rw [mem_stored_params fits]
    rcases OrdMap.insert_eq_some.mp held with ⟨-, rfl⟩ | ⟨-, held⟩
    · by_cases old : name ∈ game.params
      · exact .inl old
      · exact .inr (mem_columnsToAdd.mpr ⟨adds, mem, old⟩)
    · exact .inl (stores.known adds key other held name mem)

theorem faithful_stored {server : ServerData} (faithful : Faithful sqlite game added)
    (succeeds : Succeeds sqlite game (.add server)) :
    Faithful sqlite (game.stored sqlite server) (added.insert server.rowKey server) ↔
      ValuesRegistered sqlite game (.add server) := by
  obtain ⟨-, fits, -⟩ := succeeds_add succeeds
  have value_eq : ∀ {name value : Bytes}, server.data[name]? = some value →
      server.value name = value := by
    intro name value held
    rw [ServerData.value, held, Option.getD_some]
  constructor
  · intro after key mem plain
    obtain ⟨value, held⟩ := OrdMap.mem_iff.mp (mem_columnsToAdd.mp mem).2.1
    have noValue := @rowOf_unregistered game server key (mem_columnsToAdd.mp mem).2.2
    have read := after server.rowKey (game.rowOf server) server
      (by rw [stored_rows, OrdMap.insert_getElem?, if_pos rfl])
      (by rw [OrdMap.insert_getElem?, if_pos rfl]) key value ((textKey_stored fits).mpr (.inr mem))
      plain held
    rw [noValue] at read
    rw [value_eq held, ← read, Option.getD_none]
  · intro registered key row other inRows inAdded name value text plain held
    rcases stored_both inRows inAdded with ⟨rfl, rfl⟩ | ⟨inRows, inAdded⟩
    · by_cases old : name ∈ game.params
      · rw [(rowOf_getElem? game other name value).mpr ⟨held, old⟩, Option.getD_some]
      · have mem : name ∈ game.columnsToAdd other := by
          rcases (textKey_stored fits).mp text with ⟨key, found, -⟩ | mem
          · exact absurd (OrdMap.mem_iff.mpr ⟨key, found⟩) old
          · exact mem
        rw [rowOf_unregistered old, ← value_eq held, registered name mem plain, Option.getD_none]
    · refine faithful key row other inRows inAdded name value ?_ plain held
      rcases (textKey_stored fits).mp text with old | new
      · exact old
      · obtain ⟨adds, -, unknown⟩ := mem_columnsToAdd.mp new
        have mem : name ∈ other.data := OrdMap.mem_iff.mpr ⟨value, held⟩
        exact absurd (stores.known adds key other inAdded name mem) unknown

theorem stores_call {call : Call} (succeeds : Succeeds sqlite game call) (free : call.NulFree) :
    Stores (game.call sqlite call).game (note added call) := by
  cases call with
  | add server =>
      have same : (game.call sqlite (.add server)).game = game.stored sqlite server :=
        (succeeds_add succeeds).2.2
      rw [same]
      exact stores_stored stores succeeds free
  | remove servers =>
      have same := removeServers_game succeeds
      have rows : (game.call sqlite (.remove servers)).game.table.rows =
          servers.foldl (·.erase ·) game.table.rows := congrArg (·.table.rows) same
      refine ⟨?_, ?_, ?_, ?_, ?_⟩
      · obtain ⟨params, columns, -⟩ := removeServers_keeps game servers
        exact stores.registered.congr params columns
      · intro key
        rw [rows, note, OrdMap.mem_erase_foldl, OrdMap.mem_erase_foldl, stores.rows key]
      · intro key server held
        exact stores.servers key server (OrdMap.erase_foldl_getElem? held)
      · intro key row server inRows inAdded
        rw [rows] at inRows
        exact stores.values key row server (OrdMap.erase_foldl_getElem? inRows)
          (OrdMap.erase_foldl_getElem? inAdded)
      · obtain ⟨params, -, data⟩ := removeServers_keeps game servers
        intro adds key server held name mem
        have adds : (game.removeServers servers).game.data.missingKeyPolicy = .addAsString := adds
        rw [data] at adds
        have known := stores.known adds key server (OrdMap.erase_foldl_getElem? held) name mem
        rw [← params] at known
        exact known
  | subscribers fieldLists =>
      exact ⟨stores.registered.congr rfl rfl, stores.rows, stores.servers, stores.values,
        stores.known⟩

theorem faithful_call {call : Call} (faithful : Faithful sqlite game added)
    (succeeds : Succeeds sqlite game call) :
    Faithful sqlite (game.call sqlite call).game (note added call) ↔
      ValuesRegistered sqlite game call := by
  cases call with
  | add server =>
      have same : (game.call sqlite (.add server)).game = game.stored sqlite server :=
        (succeeds_add succeeds).2.2
      rw [same]
      exact faithful_stored stores faithful succeeds
  | remove servers =>
      refine iff_of_true ?_ trivial
      have same := removeServers_game succeeds
      have rows : (game.call sqlite (.remove servers)).game.table.rows =
          servers.foldl (·.erase ·) game.table.rows := congrArg (·.table.rows) same
      obtain ⟨params, -, -⟩ := removeServers_keeps game servers
      intro key row server inRows inAdded name value text plain held
      rw [rows] at inRows
      refine faithful key row server (OrdMap.erase_foldl_getElem? inRows)
        (OrdMap.erase_foldl_getElem? inAdded) name value ?_ plain held
      obtain ⟨found, there, store⟩ := text
      exact ⟨found, params ▸ there, store⟩
  | subscribers fieldLists => exact iff_of_true faithful trivial

end Step

/-! ### What a browser reads -/

/-- One server for each endpoint last added, with the values it was added with. -/
structure ReadsAs (servers : List SavedServer) (fields : List Bytes)
    (added : OrdMap RowKey ServerData) : Prop where
  endpoints : (servers.map SavedServer.rowKey).Perm added.keys
  values : ∀ server ∈ servers, ∀ last : ServerData, added[server.rowKey]? = some last →
    ∀ field ∈ fields, ∀ value : Bytes, last.data[field]? = some value →
      server.data[field]? = some value

/-- `GetServers` with an empty query, text keys that can be selected and room for every server
reads the servers last added. -/
def ReadsBack (sqlite : Sqlite) (game : Game) (added : OrdMap RowKey ServerData) : Prop :=
  ∀ (fields : List Bytes) (limit : Nat), (∀ field ∈ fields, game.TextKey field) →
    sqlite.Selectable fields → added.size ≤ limit → limit ≤ maxLimit →
    ReadsAs (game.getServers sqlite [] fields limit 0) fields added

section Read

variable {sqlite : Sqlite} (selects : SelectsAll sqlite) {game : Game}
  {added : OrdMap RowKey ServerData} (stores : Stores game added)

include stores in
/-- The endpoint of a row survives being read as a C string. -/
theorem saved_rowKey {entry : RowKey × OrdMap Bytes Bytes} (fields : List Bytes)
    (mem : entry ∈ game.table.rows.toList) :
    (ResultRow.saved fields (game.table.resultRow fields entry)).rowKey = entry.1 := by
  obtain ⟨key, row⟩ := entry
  have inRows : key ∈ game.table.rows := OrdMap.mem_iff.mpr ⟨row, OrdMap.mem_toList.mp mem⟩
  obtain ⟨server, held⟩ := OrdMap.mem_iff.mp ((stores.rows key).mp inRows)
  obtain ⟨rfl, free⟩ := stores.servers key server held
  have ip : cstr server.publicIp = server.publicIp := cstr_eq_self free.1
  simp only [SavedServer.rowKey, ResultRow.saved, Table.resultRow, ServerData.rowKey, ip]

include stores in
/-- A text key reads as the row's value, or as the empty string. -/
theorem saved_value {key : RowKey} {row : OrdMap Bytes Bytes} {server : ServerData}
    (inRows : game.table.rows[key]? = some row) (inAdded : added[key]? = some server)
    {fields : List Bytes} {field : Bytes} (requested : field ∈ fields)
    (text : game.TextKey field) :
    (ResultRow.saved fields (game.table.resultRow fields (key, row))).data[field]? =
      some (row[field]?.getD []) := by
  rw [saved_getElem? game.table (key, row) requested, stores.registered.cell text]
  cases held : row[field]? with
  | none => rfl
  | some value =>
      have given := stores.values key row server inRows inAdded field value held
      rw [Option.getD_some, cstr_eq_self ((stores.servers key server inAdded).2.2 field value given)]

include selects stores in
theorem readsBack_of_faithful (faithful : Faithful sqlite game added) : ReadsBack sqlite game added := by
  intro fields limit text selectable room small
  have keys := OrdMap.keys_perm stores.rows
  have size : game.table.rows.size ≤ limit := by
    rw [← Std.ExtTreeMap.length_keys, keys.length_eq, Std.ExtTreeMap.length_keys]
    exact room
  have read := getServers_perm selects (stores.registered.textFields text) selectable size small
  constructor
  · have endpoints := read.map SavedServer.rowKey
    have same : game.table.rows.toList.map (SavedServer.rowKey ∘ fun entry =>
        ResultRow.saved fields (game.table.resultRow fields entry)) =
          game.table.rows.toList.map Prod.fst :=
      List.map_congr_left fun entry mem => saved_rowKey stores fields mem
    have list : game.table.rows.toList.map Prod.fst = game.table.rows.keys :=
      Std.ExtTreeMap.map_fst_toList_eq_keys
    rw [List.map_map, same, list] at endpoints
    exact endpoints.trans keys
  · intro server mem last held field requested value given
    obtain ⟨⟨key, row⟩, inside, rfl⟩ := List.mem_map.mp (read.mem_iff.mp mem)
    rw [saved_rowKey stores fields inside] at held
    have inRows := OrdMap.mem_toList.mp inside
    rw [saved_value stores inRows held requested (text field requested)]
    exact congrArg some (faithful key row last inRows held field value (text field requested)
      (selectable.plain field requested) given)

include selects stores in
theorem faithful_of_readsBack (small : added.size ≤ maxLimit)
    (reads : ReadsBack sqlite game added) : Faithful sqlite game added := by
  intro key row server inRows inAdded name value text plain given
  have single : ∀ field ∈ [name], game.TextKey field := by
    intro field mem
    rw [List.mem_singleton.mp mem]
    exact text
  have selectable : sqlite.Selectable [name] := by
    have one : 3 + 1 ≤ maxColumns := by decide
    refine ⟨one, fun field mem => ?_⟩
    rw [List.mem_singleton.mp mem]
    exact plain
  have keys := OrdMap.keys_perm stores.rows
  have size : game.table.rows.size ≤ added.size := by
    rw [← Std.ExtTreeMap.length_keys, keys.length_eq, Std.ExtTreeMap.length_keys]
  have read := getServers_perm selects (stores.registered.textFields single) selectable size small
  have inside := OrdMap.mem_toList.mpr inRows
  have mem := read.mem_iff.mpr (List.mem_map.mpr ⟨(key, row), inside, rfl⟩)
  have back := (reads [name] added.size single selectable le_rfl small).values _ mem server
    (by rw [saved_rowKey stores [name] inside]; exact inAdded) name List.mem_cons_self value given
  rw [saved_value stores inRows inAdded List.mem_cons_self text] at back
  exact Option.some.inj back

end Read

/-! ### Runs -/

theorem connect_stores {sqlite : Sqlite} {data : GameData} {game : Game}
    (connected : connect sqlite data = .ok game) : Stores game (lastAdded []) := by
  refine ⟨connect_registered connected, ?_, ?_, ?_, ?_⟩
  · intro key
    rw [connect_rows connected]
    simp [lastAdded]
  · simp [lastAdded]
  · intro key row server inRows
    rw [connect_rows connected] at inRows
    simp at inRows
  · simp [lastAdded]

theorem lastAdded_size (calls : List Call) : (lastAdded calls).size ≤ calls.length := by
  induction calls using List.reverseRecOn with
  | nil => simp [lastAdded]
  | append_singleton past call ih =>
      rw [lastAdded_snoc, List.length_append, List.length_singleton]
      cases call with
      | add server => exact Std.ExtTreeMap.size_insert_le.trans (Nat.succ_le_succ ih)
      | remove servers =>
          have shrinks : (servers.foldl (·.erase ·) (lastAdded past)).size ≤
              (lastAdded past).size := by
            generalize lastAdded past = added
            induction servers generalizing added with
            | nil => exact le_rfl
            | cons first rest smaller =>
                exact (smaller _).trans Std.ExtTreeMap.size_erase_le
          exact shrinks.trans (ih.trans (Nat.le_succ _))
      | subscribers fieldLists => exact ih.trans (Nat.le_succ _)

end Game

end GamespyEmulator
