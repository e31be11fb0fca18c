import GamespyEmulator.Address
import GamespyEmulator.Lib.OrdMap

/-!
`GameData` and `Game` of `game.h`: a game's configuration, its registered keys, its
popular values and its server table. The table is an in-memory SQLite database; the
model keeps its columns and, for each row, the texts bound to the row's columns. What
SQLite itself decides (its reserved words, and what a `SELECT` text returns) is the
parameter `Sqlite`.

`m_Params` refers to elements of `m_Data.keys`; the model keeps the key itself, and
`Game.KeyStorage` the references.
-/

namespace GamespyEmulator

open Wire

/-! ### Configuration -/

/-- `GameKey::Send`. -/
inductive Send where
  | asString
  | asByte
  | asShort
deriving DecidableEq, Repr

/-- `GameKey::Store`. -/
inductive Store where
  | asInteger
  | asReal
  | asText
deriving DecidableEq, Repr

structure GameKey where
  name : Bytes
  send : Send := .asString
  store : Store := .asText
deriving DecidableEq, Repr

inductive Availability where
  | available
  | disabledTemporary
  | disabledPermanently
deriving DecidableEq, Repr

inductive BackendOptions where
  | none
  | qr2UseQueryChallenge
deriving DecidableEq, Repr

/-- `std::to_underlying` of a backend option. -/
def BackendOptions.toNat : BackendOptions → Nat
  | .none => 0
  | .qr2UseQueryChallenge => 128

inductive MissingKeyPolicy where
  | ignore
  | addAsString
deriving DecidableEq, Repr

structure GameData where
  name : Bytes
  secretKey : Bytes
  queryPort : UInt16 := 6500
  availability : Availability := .available
  backend : BackendOptions := .qr2UseQueryChallenge
  keys : List GameKey
  missingKeyPolicy : MissingKeyPolicy := .ignore
deriving DecidableEq, Repr

/-- `gamespy_max_registered_keys`. -/
def maxRegisteredKeys : Nat := 254

/-- `gamespy_max_popular_values`. -/
def maxPopularValues : Nat := 255

def isAlpha (c : UInt8) : Bool := (65 ≤ c && c ≤ 90) || (97 ≤ c && c ≤ 122)

def isAlnum (c : UInt8) : Bool := isAlpha c || Numeral.isDigit c

def underscore : UInt8 := 95

/-- `Game::IsValidParamName`: letters, digits and underscores, no digit in front, no
leading double underscore. -/
def isValidParamName (paramName : Bytes) : Bool :=
  match paramName with
  | [] => false
  | first :: _ =>
      !(ascii "__").isPrefixOf paramName && (isAlpha first || first == underscore) &&
        paramName.all fun c => isAlnum c || c == underscore

/-! ### The server table -/

/-- A column: its name, its type, and the text a row without a value of its own
reads as (`none` for NULL). -/
structure Column where
  name : Bytes
  store : Store
  default : Option Bytes
deriving DecidableEq, Repr

/-- The column `Game::Connect` declares for a configured key. -/
def GameKey.column (key : GameKey) : Column where
  name := key.name
  store := key.store
  default := match key.store with
    | .asInteger => some (ascii "0")
    | .asReal => some (ascii "0.00")
    | .asText => none

/-- The column `ALTER TABLE server ADD COLUMN name TEXT DEFAULT ''` declares. -/
def addedColumn (name : Bytes) : Column := ⟨name, .asText, some []⟩

structure Table where
  columns : List Column
  rows : OrdMap RowKey (OrdMap Bytes Bytes)
deriving DecidableEq

/-- One row of a `SELECT __last_update,__public_ip,__public_port,…`: the endpoint and
the texts of the further columns. -/
structure ResultRow where
  publicIp : Bytes
  publicPort : UInt16
  cells : List Bytes
deriving DecidableEq, Repr

/-- What the model leaves to SQLite. -/
structure Sqlite where
  /-- Words that are no column name. -/
  reserved : Bytes → Bool
  /-- Words that can name a column, and are not read as its name where a value stands:
  `cast` is refused there, and `current_time` is the time. -/
  special : Bytes → Bool
  /-- The rows stepping through a statement yields before it ends or fails. -/
  select : Table → Bytes → List ResultRow
  /-- A step through a statement fails. -/
  fails : Table → Bytes → Bool

/-- The columns that the result of a `SELECT` can have. -/
def maxColumns : Nat := 2000

/-- Columns that a `SELECT` reads by their names, behind the three of every server. -/
structure Sqlite.Selectable (sqlite : Sqlite) (fields : List Bytes) : Prop where
  few : 3 + fields.length ≤ maxColumns
  plain : ∀ field ∈ fields, sqlite.special field = false

instance (sqlite : Sqlite) (fields : List Bytes) : Decidable (sqlite.Selectable fields) :=
  decidable_of_iff (3 + fields.length ≤ maxColumns ∧ ∀ field ∈ fields, sqlite.special field = false)
    ⟨fun both => ⟨both.1, both.2⟩, fun selectable => ⟨selectable.few, selectable.plain⟩⟩

theorem Sqlite.selectable_nil (sqlite : Sqlite) : sqlite.Selectable [] :=
  ⟨by decide, fun _ mem => absurd mem List.not_mem_nil⟩

def toLower (c : UInt8) : UInt8 := if 65 ≤ c ∧ c ≤ 90 then c + 32 else c

/-- Column names are compared without regard to ASCII case. -/
def sameColumn (a b : Bytes) : Bool := a.map toLower == b.map toLower

/-- One column definition, of `CREATE TABLE` or of `ADD COLUMN`; `none` when SQLite
refuses it. -/
def Sqlite.addColumn (sqlite : Sqlite) (table : Table) (column : Column) : Option Table :=
  if sqlite.reserved column.name || table.columns.any (sameColumn column.name ·.name) then none
  else some { table with columns := table.columns ++ [column] }

theorem Sqlite.addColumn_columns {sqlite : Sqlite} {table table' : Table} {column : Column}
    (h : sqlite.addColumn table column = some table') :
    table' = { table with columns := table.columns ++ [column] } := by
  unfold addColumn at h
  split at h
  · cases h
  · exact (Option.some.inj h).symm

/-! ### Servers -/

/-- `Game::ServerData`. -/
structure ServerData where
  publicIp : Bytes
  publicPort : UInt16
  privateIp : Bytes := []
  privatePort : UInt16 := 0
  icmpIp : Bytes := []
  data : OrdMap Bytes Bytes
  rules : Bytes := []
deriving DecidableEq

/-- `server.data.contains(key) ? server.data.at(key) : T{}`. -/
def ServerData.value (server : ServerData) (key : Bytes) : Bytes := server.data[key]?.getD []

def ServerData.rowKey (server : ServerData) : RowKey := ⟨server.publicIp, server.publicPort⟩

/-- A server as `GetServers` returns it: only endpoint and data are set, and a text
read from a column ends at its first NUL. -/
structure SavedServer where
  publicIp : Bytes
  publicPort : UInt16
  data : OrdMap Bytes Bytes
  data_free : ∀ key value : Bytes, data[key]? = some value → NulFree value
deriving DecidableEq

def SavedServer.toServerData (server : SavedServer) : ServerData where
  publicIp := server.publicIp
  publicPort := server.publicPort
  data := server.data

/-! ### Errors -/

/-- The exceptions of `PrepareServer`. -/
inductive EncodeError where
  | invalidAddress
  | invalidArgument
  | resultOutOfRange
  | invalidByteValue
  | invalidShortValue
deriving DecidableEq, Repr

/-- The exceptions of `Game`. -/
inductive GameError where
  | tooManyKeys
  | emptySecretKey
  | parameterNotAllowed (name : Bytes)
  | tooManyPopularValues
  | missingEndpoint
  | illegalColumnName (key : Bytes)
  | sqlite
  | slot (error : EncodeError)
deriving DecidableEq, Repr

/-! ### Games -/

/-- A connected game. Every registered key has its column. -/
structure Game where
  data : GameData
  params : OrdMap Bytes GameKey
  popularValues : List Bytes
  table : Table
  /-- The field lists of the connected `OnServerAdded` slots, in connection order. -/
  subscribers : List (List Bytes)
  popularValues_le : popularValues.length ≤ maxPopularValues
  params_columns : ∀ name ∈ params, name ∈ table.columns.map (·.name)

namespace Game

/-- `Game::GetParamSendType`. -/
def getParamSendType (game : Game) (keyName : Bytes) : Send :=
  (game.params[keyName]?.map (·.send)).getD .asString

/-- `Game::SetPopularValues`. -/
def setPopularValues (game : Game) (values : List Bytes) : Except GameError Game :=
  if h : values.length ≤ maxPopularValues then
    .ok { game with popularValues := values, popularValues_le := h }
  else .error .tooManyPopularValues

/-- A game before its keys are registered. -/
def empty (data : GameData) : Game where
  data := data
  params := ∅
  popularValues := []
  table := ⟨[], ∅⟩
  subscribers := []
  popularValues_le := Nat.zero_le _
  params_columns := by simp

/-- Register a key and its column: `m_Params.emplace`, and the column definition. -/
def register (sqlite : Sqlite) (game : Game) (key : GameKey) (column : Column)
    (same : column.name = key.name) : Option Game :=
  match h : sqlite.addColumn game.table column with
  | none => none
  | some table => some { game with
      params := game.params.insertIfNew key.name key
      table := table
      params_columns := by
        rw [Sqlite.addColumn_columns h]
        intro name mem
        rcases Std.ExtTreeMap.mem_insertIfNew.mp mem with eq | old
        · simp [same, Std.LawfulEqOrd.eq_of_compare eq]
        · have := game.params_columns name old
          simp only [List.map_append, List.mem_append]
          exact .inl this }

/-- The loop of `Game::Connect` over the configured keys. -/
def connectKeys (sqlite : Sqlite) (game : Game) : List GameKey → Except GameError Game
  | [] => .ok game
  | key :: rest =>
      if isValidParamName key.name then
        match game.register sqlite key key.column rfl with
        | none => .error .sqlite
        | some game => connectKeys sqlite game rest
      else .error (.parameterNotAllowed key.name)

/-- The constructor and `Game::Connect`. -/
def connect (sqlite : Sqlite) (data : GameData) : Except GameError Game :=
  if data.keys.length > maxRegisteredKeys then .error .tooManyKeys
  else if data.secretKey.isEmpty then .error .emptySecretKey
  else connectKeys sqlite (empty data) data.keys

theorem register_inv {sqlite : Sqlite} {game game' : Game} {key : GameKey} {column : Column}
    {same : column.name = key.name} (registered : game.register sqlite key column same = some game') :
    sqlite.addColumn game.table column = some game'.table ∧
      game'.params = game.params.insertIfNew key.name key := by
  unfold register at registered
  split at registered
  · cases registered
  · rename_i table added
    cases registered
    exact ⟨added, rfl⟩

section Connect

variable {sqlite : Sqlite} {data : GameData} {game game' : Game} {P : Game → Prop}

theorem connectKeys_invariant (step : ∀ {game game' : Game} {key : GameKey}, P game →
      isValidParamName key.name = true → game.register sqlite key key.column rfl = some game' →
      P game') {keys : List GameKey} (init : P game)
    (connected : connectKeys sqlite game keys = .ok game') : P game' := by
  induction keys generalizing game with
  | nil =>
      cases connected
      exact init
  | cons key rest ih =>
      unfold connectKeys at connected
      split at connected
      · rename_i valid
        split at connected
        · cases connected
        · rename_i next registered
          exact ih (step init valid registered) connected
      · cases connected

theorem connectKeys_of_connect (connected : connect sqlite data = .ok game) :
    connectKeys sqlite (empty data) data.keys = .ok game := by
  unfold connect at connected
  split at connected
  · cases connected
  · split at connected
    · cases connected
    · exact connected

/-- What holds of the empty game and stays true with each registered key holds of the
connected game. -/
theorem connect_invariant (step : ∀ {game game' : Game} {key : GameKey}, P game →
      isValidParamName key.name = true → game.register sqlite key key.column rfl = some game' →
      P game') (init : P (empty data)) (connected : connect sqlite data = .ok game) : P game :=
  connectKeys_invariant step init (connectKeys_of_connect connected)

end Connect

end Game

end GamespyEmulator
