import GamespyEmulator.Game.Select
import GamespyEmulator.Lib.Exec
import GamespyEmulator.Sessions.Operations

/-!
`AdminClient::HandleAPI` of `admin.cpp`: the requests below `/api/` that list the games,
list a game's servers, and add or remove a server.

A handler runs on an `Exchange`, which keeps the responses it sends and the rows it
writes. It ends with a result, with an exception, or with the value of an empty optional.
The response is written to a peer that takes it.
-/

namespace GamespyEmulator

open Wire Exec

/-- `utils::parse_uint32`. -/
def Utils.parseUInt32 (str : Bytes) : Option UInt32 :=
  match Numeral.fromChars 4294967295 str with
  | .ok value [] => some (UInt32.ofNat value)
  | _ => none

namespace Admin

/-! ### Numbers -/

/-- What is in an optional that `parseInt` returns: the number, or the variable it did
not set. -/
inductive Scanned where
  | set (value : UInt32)
  | unset
deriving DecidableEq, Repr

/-- The value that is read from it. -/
def Scanned.value (unset : UInt32) : Scanned → UInt32
  | .set value => value
  | .unset => unset

/-- `parseInt` asks where `std::from_chars` stopped, and not whether it read a number. -/
def parseInt (str : Bytes) : Option Scanned :=
  match Numeral.fromChars 4294967295 str with
  | .ok value [] => some (.set (UInt32.ofNat value))
  | .ok _ _ => none
  | .invalidArgument => if str.isEmpty then some .unset else none
  | .resultOutOfRange => if str.all Numeral.isDigit then some .unset else none

/-! ### JSON -/

/-- `nlohmann::json`, with the members of an object in the order of their names. -/
inductive Json where
  | text (value : Bytes)
  | number (value : Nat)
  | array (items : List Json)
  | object (members : List (Bytes × Json))

mutual

/-- The texts of a value, names of members included. -/
def Json.texts : Json → List Bytes
  | .text value => [value]
  | .number _ => []
  | .array items => Json.itemTexts items
  | .object members => Json.memberTexts members

def Json.itemTexts : List Json → List Bytes
  | [] => []
  | item :: rest => item.texts ++ Json.itemTexts rest

def Json.memberTexts : List (Bytes × Json) → List Bytes
  | [] => []
  | (name, value) :: rest => name :: (value.texts ++ Json.memberTexts rest)

end

def IsUtf8 (text : Bytes) : Prop := (ByteArray.mk text.toArray).IsValidUTF8

instance : DecidablePred IsUtf8 := fun text =>
  inferInstanceAs (Decidable (ByteArray.mk text.toArray).IsValidUTF8)

def Json.IsUtf8 (json : Json) : Prop := ∀ text ∈ json.texts, Admin.IsUtf8 text

instance : DecidablePred Json.IsUtf8 := fun json =>
  inferInstanceAs (Decidable (∀ text ∈ json.texts, Admin.IsUtf8 text))

theorem isUtf8_ascii (text : String) : IsUtf8 (ascii text) := by
  unfold IsUtf8 ascii
  rw [Array.toArray_toList]
  exact text.isValidUTF8

/-- `{ {"error", message} }` as an optional body: the outer braces are the optional's. -/
def Json.error (message : String) : Json := .array [.text (ascii "error"), .text (ascii message)]

def Json.success (message : String) : Json :=
  .object [(ascii "message", .text (ascii message)), (ascii "status", .text (ascii "success"))]

theorem error_isUtf8 (message : String) : (Json.error message).IsUtf8 := by
  simp [Json.error, Json.IsUtf8, Json.texts, Json.itemTexts, isUtf8_ascii]

theorem success_isUtf8 (message : String) : (Json.success message).IsUtf8 := by
  simp [Json.success, Json.IsUtf8, Json.texts, Json.memberTexts, isUtf8_ascii]

/-- A character of a JSON text. -/
def escaped (c : UInt8) : Bytes :=
  if c = 34 ∨ c = 92 then [92, c]
  else if c = 8 then [92, 98]
  else if c = 9 then [92, 116]
  else if c = 10 then [92, 110]
  else if c = 12 then [92, 102]
  else if c = 13 then [92, 114]
  else if c < 32 then
    [92, 117, 48, 48, 48 + c / 16, if c % 16 < 10 then 48 + c % 16 else 87 + c % 16]
  else [c]

def quoted (text : Bytes) : Bytes := 34 :: text.flatMap escaped ++ [34]

mutual

/-- A value without blanks. -/
def Json.compact : Json → Bytes
  | .text value => quoted value
  | .number value => Numeral.decimal value
  | .array items => 91 :: [44].intercalate (Json.compactItems items) ++ [93]
  | .object members => 123 :: [44].intercalate (Json.compactMembers members) ++ [125]

def Json.compactItems : List Json → List Bytes
  | [] => []
  | item :: rest => item.compact :: Json.compactItems rest

def Json.compactMembers : List (Bytes × Json) → List Bytes
  | [] => []
  | (name, value) :: rest => (quoted name ++ 58 :: value.compact) :: Json.compactMembers rest

end

example : (Json.error "unknown game").compact = ascii "[\"error\",\"unknown game\"]" := by decide

/-! ### Requests and responses -/

/-- `http::verb`. -/
inductive Verb where
  | get
  | post
  | delete
  | other
deriving DecidableEq, Repr

/-- `boost::urls::param`. -/
structure Param where
  key : Bytes
  value : Option Bytes
deriving DecidableEq, Repr

/-- A request with its path and its parameters, decoded. -/
structure ApiRequest where
  method : Verb
  path : Bytes
  params : List Param
deriving DecidableEq, Repr

/-- `(*params.find(name))->value`, if the request has the parameter. One without a value
has the empty one. -/
def ApiRequest.param? (request : ApiRequest) (name : String) : Option Bytes :=
  (request.params.find? (·.key = ascii name)).map fun param => param.value.getD []

/-- `http::status`. -/
inductive Status where
  | ok
  | badRequest
  | notFound
deriving DecidableEq, Repr

/-- A response; a body is JSON text. -/
structure Response where
  status : Status
  body : Option Bytes
deriving DecidableEq, Repr

/-! ### What the handler works on -/

/-- The members of a `GameKey` that only the admin API reads. -/
structure KeyTexts where
  type : Bytes
  label : Bytes
  description : Bytes

/-- What the handler finds: the libraries, the stats database, and the parts of the games
that nothing else reads. -/
structure AdminSetting where
  sqlite : Sqlite
  /-- The texts of a game's key. -/
  texts : (game key : Bytes) → KeyTexts
  /-- The rows of `BF2`'s statement, or its failure, if `BF2` has MySQL parameters. -/
  stats : Option (Option (List BF2.StatsRow))
  /-- What a variable holds that is not set. -/
  unset : UInt32
  /-- `nlohmann::json::dump`. -/
  dump : Json → Option Bytes
  /-- It throws on a text that is not UTF-8. -/
  dump_isSome : ∀ json, (dump json).isSome ↔ json.IsUtf8

/-- A setting without a stats database. -/
def AdminSetting.plain : AdminSetting where
  sqlite := StoreSample.sqlite
  texts _ _ := ⟨[], [], []⟩
  stats := none
  unset := 0
  dump json := if json.IsUtf8 then some json.compact else none
  dump_isSome json := by split <;> simp_all

/-- A row of a game's table that a request writes. -/
inductive ServerAct where
  | add (key : RowKey)
  | remove (key : RowKey)
deriving DecidableEq, Repr

def ServerAct.key : ServerAct → RowKey
  | .add key => key
  | .remove key => key

/-- The games, and what a handler has done so far. -/
structure Exchange where
  games : GameDB
  /-- The rows it wrote. -/
  acts : List ServerAct := []
  /-- The messages for the browsers of the game. -/
  queued : List Bytes := []
  responses : List Response := []
  readsUnset : Bool := false

abbrev Handler := ExceptT Fault (StateM Exchange)

section Handler

variable (setting : AdminSetting)

/-- `SendResponse`. -/
def sendResponse (status : Status) (body : Option Json) : Handler Unit :=
  let send (body : Option Bytes) : Handler Unit :=
    modify fun x => { x with responses := x.responses ++ [⟨status, body⟩] }
  match body with
  | none => send none
  | some json =>
      match setting.dump json with
      | none => throw .thrown
      | some text => send (some text)

/-- `SendResponse` and `co_return`. -/
def respond (status : Status) (body : Option Json) (result : Bool) : Handler Bool := do
  sendResponse setting status body
  return result

def reject (message : String) : Handler Bool :=
  respond setting .badRequest (some (.error message)) false

section Respond

variable (x : Exchange) (status : Status) (result : Bool)

@[simp] theorem exec_respond_none :
    exec (respond setting status none result) x =
      (.ok result, { x with responses := x.responses ++ [⟨status, none⟩] }) := rfl

theorem exec_respond (json : Json) :
    exec (respond setting status (some json) result) x =
      if json.IsUtf8 then
        (.ok result, { x with responses := x.responses ++ [⟨status, setting.dump json⟩] })
      else (.error .thrown, x) := by
  have throws := setting.dump_isSome json
  rw [respond, exec_bind, sendResponse]
  dsimp only
  cases dumped : setting.dump json with
  | none =>
      rw [dumped] at throws
      rw [if_neg (fun utf8 => by simpa using throws.mpr utf8)]
      rfl
  | some text =>
      rw [dumped] at throws
      rw [if_pos (throws.mp rfl)]
      rfl

@[simp] theorem exec_reject (message : String) :
    exec (reject setting message) x = (.ok false,
      { x with
        responses := x.responses ++ [⟨.badRequest, setting.dump (.error message)⟩] }) := by
  rw [reject, exec_respond, if_pos (error_isUtf8 message)]

@[simp] theorem exec_success (message : String) :
    exec (respond setting status (some (.success message)) result) x = (.ok result,
      { x with
        responses := x.responses ++ [⟨status, setting.dump (.success message)⟩] }) := by
  rw [exec_respond, if_pos (success_isUtf8 message)]

end Respond

/-- The value in an optional of `parseInt`. -/
def Scanned.read : Scanned → Handler UInt32
  | .set value => return value
  | .unset => do
      modify fun x => { x with readsUnset := true }
      return setting.unset

theorem exec_read (scanned : Scanned) (x : Exchange) :
    exec (scanned.read setting) x = (.ok (scanned.value setting.unset),
      { x with readsUnset := x.readsUnset || scanned == .unset }) := by
  cases scanned with
  | set value =>
      have held : (Scanned.set value == .unset) = false := rfl
      rw [held, Bool.or_false]
      rfl
  | unset =>
      have open' : (Scanned.unset == .unset) = true := rfl
      rw [open', Bool.or_true]
      rfl

/-- `*parseInt(value)`. -/
def number (value : Bytes) : Handler UInt32 :=
  match parseInt value with
  | none => throw .undefined
  | some scanned => scanned.read setting

/-- The number in a parameter, if the request has it. -/
def numberOr (value? : Option Bytes) (default : UInt32) : Handler UInt32 :=
  match value? with
  | none => return default
  | some value => number setting value

/-- `GameDBInMemory::GetGame`: `m_Games.at(name)`, which holds no null pointer. -/
def getGame (name : Bytes) : Handler (Option Game) := do
  match (← get).games[name]? with
  | none => throw .thrown
  | some game => return some game

theorem exec_getGame (name : Bytes) (x : Exchange) :
    exec (getGame name) x =
      match x.games[name]? with
      | none => (.error .thrown, x)
      | some game => (.ok (some game), x) := by
  rw [getGame, exec_bind, exec_get]
  dsimp only
  cases x.games[name]? <;> rfl

/-! ### Games -/

/-- A key of a game. -/
def keyJson (game : Game) (key : GameKey) : Json :=
  let texts := setting.texts game.data.name key.name
  .object [(ascii "description", .text texts.description), (ascii "label", .text texts.label),
    (ascii "name", .text key.name), (ascii "type", .text texts.type)]

def gamesJson (games : GameDB) : Json :=
  .array (games.toList.map fun (_, game) =>
    .object [(ascii "keys", .array (game.data.keys.map (keyJson setting game))),
      (ascii "name", .text game.data.name)])

def handleGames (request : ApiRequest) : Handler Bool :=
  if request.method ≠ .get then reject setting "invalid http method"
  else do
    let games := gamesJson setting (← get).games
    respond setting .ok (some games) true

/-! ### Servers -/

/-- The game's `GetServers`, the one of `BF2` for Battlefield 2. It throws when the stats
database does not answer. -/
def AdminSetting.getServers (name : Bytes) (game : Game) (query : Bytes) (fields : List Bytes)
    (limit skip : Nat) : Option (List SavedServer) :=
  if name = ascii "battlefield2" then
    match setting.stats with
    | none => some (BF2.getServers setting.sqlite game none query fields limit skip)
    | some answer =>
        if BF2.asksStats true (BF2.listed setting.sqlite game query fields limit skip) then
          answer.map fun rows =>
            BF2.getServers setting.sqlite game (some rows) query fields limit skip
        else some (BF2.listed setting.sqlite game query fields limit skip)
  else some (game.getServers setting.sqlite query fields limit skip)

/-- The steps of `GetServers` through its statement. One that fails makes the error's text from
`m_DB`, which the statement's constructor does not set. -/
def stepThrough (game : Game) (statement : Bytes) : Handler Unit :=
  if setting.sqlite.fails game.table statement then
    modify fun x => { x with readsUnset := true }
  else return

theorem exec_stepThrough (game : Game) (statement : Bytes) (x : Exchange) :
    exec (stepThrough setting game statement) x = (.ok (),
      { x with readsUnset := x.readsUnset || setting.sqlite.fails game.table statement }) := by
  rw [stepThrough]
  cases setting.sqlite.fails game.table statement with
  | true =>
      rw [Bool.or_true]
      rfl
  | false =>
      rw [Bool.or_false]
      rfl

/-- The parameter `fields`, split at its commas; the empty text has no part. -/
def ApiRequest.fields (request : ApiRequest) : List Bytes :=
  match (request.params.find? (·.key = ascii "fields")).bind (·.value) with
  | none => []
  | some text => if text.isEmpty then [] else text.splitOn 44

def serverJson (server : SavedServer) : Json :=
  let data : OrdMap Bytes Json := server.data.map fun _ value => .text value
  .object ((data.insert (ascii "ip") (.text server.publicIp)).insert (ascii "port")
    (.number server.publicPort.toNat)).toList

/-- The response with what `GetServers` gave. -/
def sendServers : Option (List SavedServer) → Handler Bool
  | none => throw .thrown
  | some servers => respond setting .ok (some (.array (servers.map serverJson))) true

def handleServers (request : ApiRequest) (name : Bytes) (game : Game) : Handler Bool :=
  if request.method ≠ .get then reject setting "invalid http method"
  else do
    let query := (request.param? "query").getD []
    let limit ← numberOr setting (request.param? "limit") 100
    let skip ← numberOr setting (request.param? "skip") 0
    stepThrough setting game
      (BF2.selectedText name query request.fields limit.toNat skip.toNat)
    sendServers setting
      (setting.getServers name game query request.fields limit.toNat skip.toNat)

/-! ### One server -/

/-- The parameters that are data of the server: the first of each name. -/
def ApiRequest.values (request : ApiRequest) : OrdMap Bytes Bytes :=
  OrdMap.emplaceAll (request.params.filterMap fun param =>
    if param.key.isEmpty ∨ param.key = ascii "game" ∨ param.key = ascii "ip" ∨
        param.key = ascii "port" then none
    else param.value.map fun value => (param.key, value)) ∅

/-- The server of a request. -/
def ApiRequest.server (request : ApiRequest) (ip : Bytes) (port : UInt32) : ServerData where
  publicIp := ip
  publicPort := port.toUInt16
  data := request.values

/-- The `INSERT` ran: an exception of a slot comes behind it. -/
def inserted (out : Outcome) : Bool :=
  match out.exception with
  | none => true
  | some (.slot _) => true
  | some _ => false

/-- What an operation of the game leaves; it wrote the row of `act` if it got that far. -/
def Exchange.after (x : Exchange) (name : Bytes) (act : ServerAct) (wrote : Bool)
    (out : Outcome) : Exchange :=
  { x with
    games := x.games.insert name out.game
    queued := x.queued ++ out.queued
    acts := x.acts ++ if wrote then [act] else [] }

/-- An operation of the game, and the response if it returns. -/
def carryOut (name : Bytes) (act : ServerAct) (wrote : Bool) (out : Outcome)
    (message : String) : Handler Bool := do
  modify (·.after name act wrote out)
  if out.exception.isSome then throw .thrown
  else respond setting .ok (some (.success message)) true

theorem exec_carryOut (name : Bytes) (act : ServerAct) (wrote : Bool) (out : Outcome)
    (message : String) (x : Exchange) :
    exec (carryOut setting name act wrote out message) x =
      if out.exception = none then (.ok true,
        { x.after name act wrote out with
          responses := x.responses ++ [⟨.ok, setting.dump (.success message)⟩] })
      else (.error .thrown, x.after name act wrote out) := by
  rw [carryOut, exec_bind, exec_modify]
  dsimp only
  cases threw : out.exception with
  | none =>
      rw [if_pos rfl]
      exact exec_success setting _ .ok true message
  | some e => rfl

def handleServer (request : ApiRequest) (name : Bytes) (game : Game) : Handler Bool :=
  match request.param? "ip", request.param? "port" with
  | some ip, some value =>
      match parseInt value with
      | none => reject setting "invalid port parameter"
      | some scanned => do
          let port ← scanned.read setting
          match request.method with
          | .post =>
              let server := request.server ip port
              let out := game.addOrUpdateServer setting.sqlite server
              carryOut setting name (.add server.rowKey) (inserted out) out "added server"
          | .delete =>
              let key : RowKey := ⟨ip, port.toUInt16⟩
              carryOut setting name (.remove key) true (game.removeServers [key]) "removed server"
          | _ => reject setting "invalid http method"
  | _, _ => reject setting "missing ip or port parameter"

/-- `AdminClient::HandleAPI`. -/
def handleAPI (request : ApiRequest) : Handler Bool :=
  if request.path = ascii "/api/games" then handleGames setting request
  else match request.param? "game" with
    | none => reject setting "missing game parameter"
    | some name => do
        match ← getGame name with
        | none => reject setting "unknown game"
        | some game =>
            if request.path = ascii "/api/servers" then handleServers setting request name game
            else if request.path = ascii "/api/server" then handleServer setting request name game
            else respond setting .notFound none false

/-- A request, and what its handler leaves. -/
def handled (games : GameDB) (request : ApiRequest) : Except Fault Bool × Exchange :=
  exec (handleAPI setting request) { games := games }

/-! ### The ways through -/

variable {setting} {games : GameDB} {request : ApiRequest} {name : Bytes} {game : Game}

theorem handled_missing (path : request.path ≠ ascii "/api/games")
    (missing : request.param? "game" = none) :
    handled setting games request =
      exec (reject setting "missing game parameter") { games := games } := by
  rw [handled, handleAPI, if_neg path, missing]

theorem handled_unknown (path : request.path ≠ ascii "/api/games")
    (given : request.param? "game" = some name) (unknown : games[name]? = none) :
    handled setting games request = (.error .thrown, { games := games }) := by
  rw [handled, handleAPI, if_neg path, given]
  dsimp only
  rw [exec_bind, exec_getGame]
  dsimp only
  rw [unknown]

theorem handled_known (path : request.path ≠ ascii "/api/games")
    (given : request.param? "game" = some name) (known : games[name]? = some game) :
    handled setting games request = exec
      (if request.path = ascii "/api/servers" then handleServers setting request name game
        else if request.path = ascii "/api/server" then handleServer setting request name game
        else respond setting .notFound none false) { games := games } := by
  rw [handled, handleAPI, if_neg path, given]
  dsimp only
  rw [exec_bind, exec_getGame]
  dsimp only
  rw [known]

/-- A request whose port is read. -/
theorem exec_handleServer {ip value : Bytes} {scanned : Scanned}
    (ipGiven : request.param? "ip" = some ip) (portGiven : request.param? "port" = some value)
    (parsed : parseInt value = some scanned) (x : Exchange) :
    exec (handleServer setting request name game) x =
      let port := scanned.value setting.unset
      let y := { x with readsUnset := x.readsUnset || scanned == .unset }
      match request.method with
      | .post =>
          let server := request.server ip port
          let out := game.addOrUpdateServer setting.sqlite server
          exec (carryOut setting name (.add server.rowKey) (inserted out) out "added server") y
      | .delete =>
          let key : RowKey := ⟨ip, port.toUInt16⟩
          exec (carryOut setting name (.remove key) true (game.removeServers [key])
            "removed server") y
      | _ => exec (reject setting "invalid http method") y := by
  rw [handleServer, ipGiven, portGiven]
  dsimp only
  rw [parsed]
  dsimp only
  rw [exec_bind, exec_read]
  cases request.method <;> rfl

end Handler

end Admin

end GamespyEmulator
