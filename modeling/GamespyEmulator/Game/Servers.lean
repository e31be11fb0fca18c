import GamespyEmulator.Browser.ServerBytes

/-!
The server operations of `game.cpp`: `AddOrUpdateServer`, `GetServers` and
`RemoveServers`. Each operation keeps what it changed before an exception, as the
in-memory database and the registered keys do.

`addOrUpdateServer_accepts` says when a server is accepted, `RowsStep` what the call
can do to the rows, and `SameConfig` what it never touches.
-/

namespace GamespyEmulator

open Wire Fallible

/-! ### Signals -/

/-- `OnServerAdded(server)` and `OnServerRemoved(ip, port)`: the slots run in order,
and the first exception stops them. The messages queued and the exception. -/
def signal (message : List Bytes → Except EncodeError Bytes) :
    List (List Bytes) → List Bytes × Option EncodeError
  | [] => ([], none)
  | keyList :: rest =>
      match message keyList with
      | .error e => ([], some e)
      | .ok bytes =>
          let (queued, exception) := signal message rest
          (bytes :: queued, exception)

theorem signal_completes {message : List Bytes → Except EncodeError Bytes}
    {keyLists : List (List Bytes)} :
    (signal message keyLists).2 = none ↔ ∀ keyList ∈ keyLists, Returns (message keyList) := by
  induction keyLists with
  | nil => simp [signal]
  | cons keyList rest ih =>
      rw [List.forall_mem_cons, ← ih, signal]
      cases message keyList with
      | error e => simp
      | ok bytes => simp

/-- The outcome of a server operation: the game it leaves, the messages it queued for
browsers, and the exception it ended with. -/
structure Outcome where
  game : Game
  queued : List Bytes := []
  exception : Option GameError := none

namespace Game

/-! ### Adding columns -/

/-- `m_DB.exec(columnSQL)`: the statements run one by one and stop at the first that
fails; the columns added before it stay. -/
def execAddColumns (sqlite : Sqlite) (table : Table) : List Bytes → Table × Bool
  | [] => (table, true)
  | name :: rest =>
      match sqlite.addColumn table (addedColumn name) with
      | none => (table, false)
      | some table => execAddColumns sqlite table rest

theorem execAddColumns_table (sqlite : Sqlite) (table : Table) (names : List Bytes) :
    ∃ added, (execAddColumns sqlite table names).1 =
        { table with columns := table.columns ++ added.map addedColumn } ∧
      ((execAddColumns sqlite table names).2 = true → added = names) := by
  induction names generalizing table with
  | nil => exact ⟨[], by simp [execAddColumns], fun _ => rfl⟩
  | cons name rest ih =>
      unfold execAddColumns
      split
      · exact ⟨[], by simp, by simp⟩
      · rename_i table' added
        obtain ⟨names', eq, all⟩ := ih table'
        rw [Sqlite.addColumn_columns added] at eq
        refine ⟨name :: names', ?_, fun ok => by rw [all ok]⟩
        rw [Sqlite.addColumn_columns added, eq]
        simp

/-- `m_Data.keys.emplace_back(std::string(column))`. -/
def addedKey (name : Bytes) : GameKey := { name := name }

/-- The `columnsToAdd` branch: add the columns, then register their keys. When the
statements fail, no key is registered. -/
def addColumns (sqlite : Sqlite) (game : Game) (names : List Bytes) : Game × Bool :=
  let out := execAddColumns sqlite game.table names
  have kept : ∀ name ∈ game.params, name ∈ out.1.columns.map (·.name) := by
    intro name mem
    obtain ⟨added, eq, -⟩ := execAddColumns_table sqlite game.table names
    have := game.params_columns name mem
    simp only [out, eq, List.map_append, List.mem_append]
    exact .inl this
  if ok : out.2 = true then
    ({ game with
        data := { game.data with keys := game.data.keys ++ names.map addedKey }
        params := OrdMap.emplaceAll (names.map fun name => (name, addedKey name)) game.params
        table := out.1
        params_columns := by
          intro name mem
          rcases OrdMap.mem_emplaceAll.mp mem with old | new
          · exact kept name old
          · obtain ⟨added, eq, all⟩ := execAddColumns_table sqlite game.table names
            obtain ⟨n, hn, rfl⟩ : ∃ n ∈ names, n = name := by simpa using new
            simp only [out, eq, all ok, List.map_append, List.map_map, List.mem_append,
              List.mem_map, Function.comp_apply, addedColumn]
            exact .inr ⟨n, hn, rfl⟩ }, true)
  else ({ game with table := out.1, params_columns := kept }, false)

/-! ### Adding a server -/

/-- The loop of `AddOrUpdateServer` over the server's data: the columns to add, and
the columns and values to insert. -/
def plan (game : Game) : List (Bytes × Bytes) →
    Except GameError (List Bytes × List (Bytes × Bytes))
  | [] => .ok ([], [])
  | (key, value) :: rest =>
      if key ∈ game.params then
        (game.plan rest).map fun (columns, values) => (columns, (key, value) :: values)
      else match game.data.missingKeyPolicy with
        | .ignore => game.plan rest
        | .addAsString =>
            if isValidParamName key then
              (game.plan rest).map fun (columns, values) => (key :: columns, values)
            else .error (.illegalColumnName key)

/-- `INSERT OR REPLACE` of the endpoint and the planned values. -/
def insertRow (game : Game) (server : ServerData) (values : List (Bytes × Bytes)) : Game :=
  { game with table := { game.table with
      rows := game.table.rows.insert server.rowKey (OrdMap.emplaceAll values ∅) } }

/-- `Game::AddOrUpdateServer`. -/
def addOrUpdateServer (sqlite : Sqlite) (game : Game) (server : ServerData) : Outcome :=
  if server.publicIp.isEmpty ∨ server.publicPort = 0 then
    { game := game, exception := some .missingEndpoint }
  else match game.plan server.data.toList with
    | .error e => { game := game, exception := some e }
    | .ok (columnsToAdd, valuesToInsert) =>
        match game.addColumns sqlite columnsToAdd with
        | (game, false) => { game := game, exception := some .sqlite }
        | (game, true) =>
            let game := game.insertRow server valuesToInsert
            let (queued, exception) := signal (pushMessage game server) game.subscribers
            { game := game, queued := queued, exception := exception.map .slot }

/-! ### Removing servers -/

/-- `Game::RemoveServers`: each row is deleted before its signal. -/
def removeServers (game : Game) : List RowKey → Outcome
  | [] => { game := game }
  | key :: rest =>
      let game := { game with table := { game.table with rows := game.table.rows.erase key } }
      match signal (fun _ => deleteMessage key.publicIp key.publicPort) game.subscribers with
      | (queued, some e) => { game := game, queued := queued, exception := some (.slot e) }
      | (queued, none) =>
          let out := removeServers game rest
          { out with queued := queued ++ out.queued }

/-! ### Listing servers -/

/-- The `SELECT` of `Game::GetServers`. -/
def selectText (query : Bytes) (fields : List Bytes) (limit skip : Nat) : Bytes :=
  ascii "SELECT __last_update,__public_ip,__public_port" ++
    (fields.flatMap fun field => 44 :: field) ++ ascii " FROM server" ++
    (if query.isEmpty then [] else ascii " WHERE " ++ query) ++
    ascii " LIMIT " ++ Numeral.decimal limit ++
    (if skip = 0 then [] else ascii " OFFSET " ++ Numeral.decimal skip)

/-- One row as a server: `column_at<std::string>` for each field, the first of equal
fields. -/
def ResultRow.saved (fields : List Bytes) (row : ResultRow) : SavedServer where
  publicIp := cstr row.publicIp
  publicPort := row.publicPort
  data := OrdMap.emplaceAll (fields.zipIdx.map fun (field, i) => (field, cstr (row.cells.getD i []))) ∅
  data_free := by
    intro key value held
    rcases OrdMap.emplaceAll_getElem?_source held with mem | absent
    · obtain ⟨pair, -, eq⟩ := List.mem_map.mp mem
      cases eq
      exact cstr_nulFree _
    · simp at absent

/-- `Game::GetServers`. -/
def getServers (sqlite : Sqlite) (game : Game) (query : Bytes) (fields : List Bytes)
    (limit skip : Nat) : List SavedServer :=
  (sqlite.select game.table (selectText query fields limit skip)).map (ResultRow.saved fields)

/-! ### What the operations keep -/

/-- Two states of one game: everything but the registered keys and the table rows
and columns is the same, and every key is sent as before. -/
structure SameConfig (game game' : Game) : Prop where
  name : game'.data.name = game.data.name
  secretKey : game'.data.secretKey = game.data.secretKey
  queryPort : game'.data.queryPort = game.data.queryPort
  availability : game'.data.availability = game.data.availability
  backend : game'.data.backend = game.data.backend
  policy : game'.data.missingKeyPolicy = game.data.missingKeyPolicy
  popularValues : game'.popularValues = game.popularValues
  subscribers : game'.subscribers = game.subscribers
  sendType : ∀ key, game'.getParamSendType key = game.getParamSendType key

namespace SameConfig

theorem refl (game : Game) : SameConfig game game :=
  ⟨rfl, rfl, rfl, rfl, rfl, rfl, rfl, rfl, fun _ => rfl⟩

theorem trans {a b c : Game} (ab : SameConfig a b) (bc : SameConfig b c) : SameConfig a c where
  name := bc.name.trans ab.name
  secretKey := bc.secretKey.trans ab.secretKey
  queryPort := bc.queryPort.trans ab.queryPort
  availability := bc.availability.trans ab.availability
  backend := bc.backend.trans ab.backend
  policy := bc.policy.trans ab.policy
  popularValues := bc.popularValues.trans ab.popularValues
  subscribers := bc.subscribers.trans ab.subscribers
  sendType key := (bc.sendType key).trans (ab.sendType key)

/-- Only the send types decide whether an entry can be built. -/
theorem encodable_iff {game game' : Game} (same : SameConfig game game') {server : ServerData}
    {fieldList : List Bytes} :
    Encodable game' server fieldList ↔ Encodable game server fieldList := by
  constructor
  · rintro ⟨publicIp, privateIp, icmpIp, values⟩
    exact ⟨publicIp, privateIp, icmpIp, fun key mem => same.sendType key ▸ values key mem⟩
  · rintro ⟨publicIp, privateIp, icmpIp, values⟩
    exact ⟨publicIp, privateIp, icmpIp, fun key mem => (same.sendType key).symm ▸ values key mem⟩

end SameConfig

/-- A key registered by `addColumns` is sent as an unregistered one is. -/
theorem getParamSendType_emplaced (params : OrdMap Bytes GameKey) (names : List Bytes)
    (key : Bytes) :
    ((OrdMap.emplaceAll (names.map fun name => (name, addedKey name)) params)[key]?.map
        (·.send)).getD .asString = (params[key]?.map (·.send)).getD .asString := by
  cases old : params[key]? with
  | some found => rw [OrdMap.emplaceAll_getElem?_held old]
  | none =>
      cases now : (OrdMap.emplaceAll (names.map fun name => (name, addedKey name)) params)[key]? with
      | none => rfl
      | some found =>
          rcases OrdMap.emplaceAll_getElem?_source now with mem | held
          · obtain ⟨name, -, eq⟩ := List.mem_map.mp mem
            cases eq
            rfl
          · rw [old] at held
            cases held

theorem addColumns_sameConfig (sqlite : Sqlite) (game : Game) (names : List Bytes) :
    SameConfig game (game.addColumns sqlite names).1 := by
  unfold addColumns
  dsimp only
  split
  · exact ⟨rfl, rfl, rfl, rfl, rfl, rfl, rfl, rfl, getParamSendType_emplaced game.params names⟩
  · exact ⟨rfl, rfl, rfl, rfl, rfl, rfl, rfl, rfl, fun _ => rfl⟩

theorem addColumns_rows (sqlite : Sqlite) (game : Game) (names : List Bytes) :
    (game.addColumns sqlite names).1.table.rows = game.table.rows := by
  obtain ⟨added, eq, -⟩ := execAddColumns_table sqlite game.table names
  unfold addColumns
  dsimp only
  split
  · exact (congrArg Table.rows eq :)
  · exact (congrArg Table.rows eq :)

theorem insertRow_sameConfig (game : Game) (server : ServerData)
    (values : List (Bytes × Bytes)) : SameConfig game (game.insertRow server values) :=
  ⟨rfl, rfl, rfl, rfl, rfl, rfl, rfl, rfl, fun _ => rfl⟩

theorem addOrUpdateServer_sameConfig (sqlite : Sqlite) (game : Game) (server : ServerData) :
    SameConfig game (game.addOrUpdateServer sqlite server).game := by
  unfold addOrUpdateServer
  split
  · exact .refl game
  · split
    · exact .refl game
    · rename_i columnsToAdd valuesToInsert _
      have added := addColumns_sameConfig sqlite game columnsToAdd
      split
      · rename_i game' same
        rw [same] at added
        exact added
      · rename_i game' same
        rw [same] at added
        exact added.trans (insertRow_sameConfig game' server valuesToInsert)

/-- The rows of `game'` are those of `game`, or those with a row of `key` on top. -/
def RowsStep (key : RowKey) (game game' : Game) : Prop :=
  game'.table.rows = game.table.rows ∨ ∃ row, game'.table.rows = game.table.rows.insert key row

theorem addOrUpdateServer_rows (sqlite : Sqlite) (game : Game) (server : ServerData) :
    RowsStep server.rowKey game (game.addOrUpdateServer sqlite server).game := by
  unfold addOrUpdateServer
  split
  · exact .inl rfl
  · split
    · exact .inl rfl
    · rename_i columnsToAdd valuesToInsert _
      have rows := addColumns_rows sqlite game columnsToAdd
      split
      · rename_i game' same
        rw [same] at rows
        exact .inl rows
      · rename_i game' same
        have rows : game'.table.rows = game.table.rows := by simpa [same] using rows
        exact .inr ⟨OrdMap.emplaceAll valuesToInsert ∅, by rw [← rows]; rfl⟩

end Game

end GamespyEmulator
