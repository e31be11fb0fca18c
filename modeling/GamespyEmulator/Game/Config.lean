import GamespyEmulator.Game.BF2
import GamespyEmulator.Game.KeyLimit
import GamespyEmulator.Lib.Loading
import GamespyEmulator.Master.Machine

/-!
The games of the emulator: `GameDBInMemory::Connect` of `gamedb.cpp`, with `BF2::Connect`
and `GameData::common_keys`.

`connect_eq_ok_iff` says which games are served behind a configuration: of each name the
first entry, and `gmtest` where no entry has that name. Every one of them is as its own
`Connect` left it (`connect_fresh`).
-/

namespace GamespyEmulator

open Wire Fallible Loading

/-! ### The configuration -/

/-- A `nlohmann::json`. Of a number that is no integer the model keeps the integral part,
which is all that a conversion to `std::uint16_t` reads. The members of an object are in
the order of their names. -/
inductive ConfigValue where
  | null
  | boolean (value : Bool)
  | integer (value : Int)
  | real (whole : Int)
  | text (value : Bytes)
  | array (items : List ConfigValue)
  | object (members : List (Bytes × ConfigValue))

/-- What ends `Connect`: an exception of `nlohmann::json`, one of `Game`, or a database
that cannot be reached. A conversion can be undefined instead. -/
inductive ConfigError where
  | json
  | undefined
  | game (error : GameError)
  | mysql
deriving DecidableEq, Repr

namespace ConfigValue

/-- What a range-based `for` goes over. -/
def items : ConfigValue → List ConfigValue
  | .null => []
  | .array items => items
  | .object members => members.map Prod.snd
  | value => [value]

def isEmpty (value : ConfigValue) : Bool := value.items.isEmpty

/-- `at`. -/
def member (value : ConfigValue) (name : Bytes) : Except ConfigError ConfigValue :=
  match value with
  | .object members =>
      match members.find? (·.1 = name) with
      | none => .error .json
      | some found => .ok found.2
  | _ => .error .json

/-- `get<std::string>`. -/
def getText : ConfigValue → Except ConfigError Bytes
  | .text value => .ok value
  | _ => .error .json

/-- `get<bool>`. -/
def getBoolean : ConfigValue → Except ConfigError Bool
  | .boolean value => .ok value
  | _ => .error .json

/-- `get<std::uint16_t>`. -/
def getPort : ConfigValue → Except ConfigError UInt16
  | .boolean value => .ok (if value then 1 else 0)
  | .integer value => .ok (UInt16.ofInt value)
  | .real whole =>
      if 0 ≤ whole ∧ whole < 65536 then .ok (UInt16.ofInt whole) else .error .undefined
  | _ => .error .json

/-- `std::find` for a text. -/
def lists (value : ConfigValue) (name : Bytes) : Bool :=
  value.items.any fun item => match item with
    | .text other => other = name
    | _ => false

end ConfigValue

/-! ### Keys -/

/-- `GameData::common_keys`. -/
def commonKeys : List GameKey :=
  [⟨ascii "country", .asString, .asText⟩, ⟨ascii "gamemode", .asString, .asText⟩,
    ⟨ascii "gametype", .asString, .asText⟩, ⟨ascii "gamever", .asString, .asText⟩,
    ⟨ascii "hostname", .asString, .asText⟩, ⟨ascii "mapname", .asString, .asText⟩,
    ⟨ascii "maxplayers", .asByte, .asInteger⟩, ⟨ascii "numplayers", .asByte, .asInteger⟩,
    ⟨ascii "password", .asByte, .asInteger⟩]

/-- One turn of `parse_keys`. -/
def parseKey (sendAsShort sendAsByte saveAsReal ignoredKeys : ConfigValue) (name : Bytes) :
    GameKey :=
  if ignoredKeys.lists name then ⟨name, .asString, .asText⟩
  else
    let send : Send :=
      if sendAsShort.lists name then .asShort
      else if sendAsByte.lists name then .asByte
      else .asString
    let store : Store :=
      if saveAsReal.lists name then .asReal
      else if send = .asShort ∨ send = .asByte then .asInteger
      else .asText
    ⟨name, send, store⟩

/-- `parse_keys`. -/
def parseKeys (keys sendAsShort sendAsByte saveAsReal ignoredKeys : ConfigValue) :
    Except ConfigError (List GameKey) :=
  keys.items.mapM fun key => do
    pure (parseKey sendAsShort sendAsByte saveAsReal ignoredKeys (← key.getText))

/-! ### Games -/

/-- `boost::mysql::connect_params`. -/
structure ConnectParams where
  host : Bytes
  port : UInt16
  username : Bytes
  password : Bytes
  database : Bytes
deriving DecidableEq, Repr

/-- What the model leaves to SQLite and to MySQL. -/
structure GameEnvironment where
  sqlite : Sqlite
  /-- `any_connection::async_connect` succeeds. -/
  accepts : ConnectParams → Bool

/-- A game of `m_Games`, with the parameters of a `BF2`. -/
structure ServedGame where
  game : Game
  params : Option ConnectParams

/-- `m_Games`. -/
abbrev ServedGames := OrdMap Bytes ServedGame

/-- The constructor of a `Game` with its `Connect`, as a part of `GameDBInMemory::Connect`. -/
def connectGame (env : GameEnvironment) (data : GameData) : Except ConfigError Game :=
  (Game.connect env.sqlite data).mapError .game

/-- `BF2::BF2` and `BF2::Connect`. -/
def BF2.connect (env : GameEnvironment) (params : Option ConnectParams) :
    Except ConfigError ServedGame := do
  let game ← connectGame env bf2Data
  match params with
  | none => pure ⟨game, none⟩
  | some params => if env.accepts params then pure ⟨game, some params⟩ else .error .mysql

def gmtestData : GameData where
  name := ascii "gmtest"
  secretKey := ascii "HA6zkS"
  keys := commonKeys

/-- The parameters of an entry for Battlefield 2. -/
def entryParams (entry : ConfigValue) : Except ConfigError ConnectParams := do
  let host ← (← entry.member (ascii "mysql-host")).getText
  let port ← (← entry.member (ascii "mysql-port")).getPort
  let username ← (← entry.member (ascii "mysql-username")).getText
  let password ← (← entry.member (ascii "mysql-password")).getText
  let database ← (← entry.member (ascii "mysql-database")).getText
  pure ⟨host, port, username, password, database⟩

/-- The data of an entry for another game. -/
def entryData (name : Bytes) (entry : ConfigValue) : Except ConfigError GameData := do
  let secretKey ← (← entry.member (ascii "secretKey")).getText
  let keys ← parseKeys (← entry.member (ascii "keys")) (← entry.member (ascii "sendAsShort"))
    (← entry.member (ascii "sendAsByte")) (← entry.member (ascii "saveAsReal"))
    (← entry.member (ascii "ignoredKeys"))
  let autoKeys ← (← entry.member (ascii "autoKeys")).getBoolean
  pure { name, secretKey, keys, missingKeyPolicy := if autoKeys then .addAsString else .ignore }

/-- Where a game comes from: an entry, or one of the two that are built in. -/
inductive Source where
  | entry (value : ConfigValue)
  | battlefield2
  | gmtest

/-- The name a source gives its game. -/
def Source.name? : Source → Option Bytes
  | .entry value => (value.member (ascii "name") >>= ConfigValue.getText).toOption
  | .battlefield2 => some (ascii "battlefield2")
  | .gmtest => some (ascii "gmtest")

/-- What is emplaced for a source. -/
def Source.read (env : GameEnvironment) : Source → Except ConfigError (Bytes × ServedGame)
  | .entry value => do
      let name ← (← value.member (ascii "name")).getText
      if name = ascii "battlefield2" then
        let served ← BF2.connect env (some (← entryParams value))
        pure (served.game.data.name, served)
      else
        let game ← connectGame env (← entryData name value)
        pure (game.data.name, ⟨game, none⟩)
  | .battlefield2 => do
      let served ← BF2.connect env none
      pure (ascii "battlefield2", served)
  | .gmtest => do
      let game ← connectGame env gmtestData
      pure (ascii "gmtest", ⟨game, none⟩)

/-- The loop over the configuration, or the game that is served without one. -/
def listed (config : ConfigValue) : List Source :=
  if config.isEmpty then [.battlefield2] else config.items.map .entry

/-- `GameDBInMemory::Connect`. -/
def GameDBInMemory.connect (env : GameEnvironment) (config : ConfigValue) :
    Except ConfigError ServedGames := do
  let games ← load (Source.read env) (listed config) ∅
  if ascii "gmtest" ∈ games then pure games
  else load (Source.read env) [.gmtest] games

/-! ### What is served -/

/-- The sources in the order they are tried: the configuration, and `gmtest` unless an
entry has its name. -/
def plan (config : ConfigValue) : List Source :=
  if (listed config).any (·.name? = some (ascii "gmtest")) then listed config
  else listed config ++ [.gmtest]

section Read

variable {env : GameEnvironment} {source : Source} {e : Bytes × ServedGame}

theorem connectGame_eq_ok {data : GameData} {game : Game} :
    connectGame env data = .ok game ↔ Game.connect env.sqlite data = .ok game := by
  unfold connectGame
  cases connected : Game.connect env.sqlite data with
  | error error => simp [Except.mapError]
  | ok other => simp [Except.mapError]

/-- A game behind its `Connect`. -/
def AsConnected (sqlite : Sqlite) (game : Game) : Prop := Game.connect sqlite game.data = .ok game

theorem connectGame_fresh {data : GameData} {game : Game}
    (connected : connectGame env data = .ok game) :
    game.data = data ∧ AsConnected env.sqlite game := by
  have done := connectGame_eq_ok.mp connected
  have same : game.data = data := Game.connect_data done
  refine ⟨same, ?_⟩
  unfold AsConnected
  rw [same]
  exact done

theorem BF2.connect_fresh {params : Option ConnectParams} {served : ServedGame}
    (connected : BF2.connect env params = .ok served) :
    served.game.data = bf2Data ∧ AsConnected env.sqlite served.game ∧ served.params = params := by
  obtain ⟨game, done, rest⟩ := bind_eq_ok.mp connected
  obtain ⟨same, fresh⟩ := connectGame_fresh done
  cases params with
  | none =>
      cases rest
      exact ⟨same, fresh, rfl⟩
  | some params =>
      dsimp only at rest
      split at rest
      · cases rest
        exact ⟨same, fresh, rfl⟩
      · cases rest

theorem entryData_name {name : Bytes} {entry : ConfigValue} {data : GameData}
    (read : entryData name entry = .ok data) : data.name = name := by
  unfold entryData at read
  simp only [bind_eq_ok] at read
  obtain ⟨_, _, _, _, _, _, _, _, _, _, _, _, _, _, _, _, _, _, _, _, built⟩ := read
  cases built
  rfl

/-- A source is read under its own name, and to a game as its `Connect` left it. -/
theorem read_fresh (read : source.read env = .ok e) :
    source.name? = some e.1 ∧ e.2.game.data.name = e.1 ∧ AsConnected env.sqlite e.2.game := by
  cases source with
  | entry value =>
      simp only [Source.read, bind_eq_ok] at read
      obtain ⟨member, found, name, named, rest⟩ := read
      have given : (Source.entry value).name? = some name := by
        simp [Source.name?, found, named, bind, Except.bind, Except.toOption]
      split at rest
      · rename_i bf2
        simp only [bind_eq_ok] at rest
        obtain ⟨params, -, served, connected, rest⟩ := rest
        obtain ⟨same, fresh, -⟩ := BF2.connect_fresh connected
        cases rest
        have called : served.game.data.name = name := by rw [same, bf2]; rfl
        exact ⟨by rw [given, called], rfl, fresh⟩
      · simp only [bind_eq_ok] at rest
        obtain ⟨data, parsed, game, connected, rest⟩ := rest
        obtain ⟨same, fresh⟩ := connectGame_fresh connected
        cases rest
        have called : game.data.name = name := by rw [same, entryData_name parsed]
        exact ⟨by rw [given, called], rfl, fresh⟩
  | battlefield2 =>
      obtain ⟨served, connected, rest⟩ := bind_eq_ok.mp read
      obtain ⟨same, fresh, -⟩ := BF2.connect_fresh connected
      cases rest
      exact ⟨rfl, by rw [same]; rfl, fresh⟩
  | gmtest =>
      obtain ⟨game, connected, rest⟩ := bind_eq_ok.mp read
      obtain ⟨same, fresh⟩ := connectGame_fresh connected
      cases rest
      exact ⟨rfl, by rw [same]; rfl, fresh⟩

end Read

variable {env : GameEnvironment} {config : ConfigValue} {games : ServedGames}

theorem mem_load_iff {sources : List Source}
    (done : load (Source.read env) sources ∅ = .ok games) (name : Bytes) :
    name ∈ games ↔ ∃ source ∈ sources, source.name? = some name := by
  obtain ⟨readable, entries⟩ := (load_eq_ok_iff fun read => (read_fresh read).1).mp done
  rw [OrdMap.mem_iff, ← first?_isSome_iff]
  constructor
  · rintro ⟨served, held⟩
    rcases (entries name served).mp held with absent | ⟨-, source, first, -⟩
    · simp at absent
    · exact ⟨source, first⟩
  · rintro ⟨source, first⟩
    obtain ⟨mem, same⟩ := mem_of_first? first
    obtain ⟨e, read⟩ := readable source mem
    have called : name = e.1 := by
      have given := (read_fresh read).1
      rw [same] at given
      exact Option.some.inj given
    refine ⟨e.2, (entries name e.2).mpr (.inr ⟨by simp, source, first, ?_⟩)⟩
    rw [read, called]

/-- `Connect` loads its plan. -/
theorem connect_eq_load :
    GameDBInMemory.connect env config = load (Source.read env) (plan config) ∅ := by
  unfold GameDBInMemory.connect plan
  cases done : load (Source.read env) (listed config) ∅ with
  | error e =>
      split
      · exact done.symm
      · rw [load_append, done]
        rfl
  | ok games =>
      have tested : ascii "gmtest" ∈ games ↔
          (listed config).any (·.name? = some (ascii "gmtest")) = true := by
        rw [mem_load_iff done]
        simp
      by_cases held : ascii "gmtest" ∈ games
      · rw [if_pos (tested.mp held), done]
        exact if_pos held
      · rw [if_neg fun listed => held (tested.mpr listed), load_append, done]
        exact if_neg held

/-- **The games of a configuration.** `Connect` succeeds when everything of its plan can be
read, entries included that are not kept. Then a name is served with the game of the first
source that has the name. -/
theorem connect_eq_ok_iff :
    GameDBInMemory.connect env config = .ok games ↔
      (∀ source ∈ plan config, Returns (source.read env)) ∧
        ∀ (name : Bytes) (served : ServedGame), games[name]? = some served ↔
          ∃ source, first? Source.name? (plan config) name = some source ∧
            source.read env = .ok (name, served) := by
  rw [connect_eq_load, load_eq_ok_iff fun read => (read_fresh read).1]
  simp

/-- Every served game has the name it is served under, and is as its `Connect` left it. -/
theorem connect_fresh (done : GameDBInMemory.connect env config = .ok games) {name : Bytes}
    {served : ServedGame} (held : games[name]? = some served) :
    served.game.data.name = name ∧ AsConnected env.sqlite served.game := by
  rw [connect_eq_load] at done
  have entries := ((load_eq_ok_iff fun read => (read_fresh read).1).mp done).2
  rcases (entries name served).mp held with absent | ⟨-, source, -, read⟩
  · simp at absent
  · exact (read_fresh read).2

end GamespyEmulator
