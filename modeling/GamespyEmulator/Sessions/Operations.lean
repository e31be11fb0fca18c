import GamespyEmulator.Browser.Request
import GamespyEmulator.Game.BF2
import GamespyEmulator.Lib.Coroutine
import GamespyEmulator.Master.Machine
import GamespyEmulator.Player.Session

/-!
The database operations with their suspension points: `PlayerDBMySQL` and
`BF2::GetServers`. Each call prepares a statement and executes it, on the one connection
its database has. `players_alone` says that a call no other comes between ends as the
function of the table in `Player.DB` does.

The use of a row that is not there ends the session here; what it does to the process is
not modelled.
-/

namespace GamespyEmulator

open Wire Coroutine

/-! ### What sessions wait for -/

/-- The databases, each with one `boost::mysql::any_connection`: `PlayerDBMySQL` and
`BF2`. -/
inductive Database where
  | players
  | stats
deriving DecidableEq, Repr

/-- What a session sends. The header of a server list is kept with its request. -/
inductive Message where
  | text (bytes : Bytes)
  | header (request : ServerListRequest)
deriving DecidableEq, Repr

/-- The asynchronous operations of the sessions. -/
inductive SessionOperation where
  | prepare (database : Database) (statement : Bytes)
  | execute (operation : Operation)
  | executeStats
  | send (message : Message)
  | connect (endpoint : Endpoint)
  | write (body : Bytes)
  | read

/-- The columns of a result that the code reads. -/
@[reducible] def Operation.Rows : Operation → Type
  | .hasPlayer _ => Nat
  | .getPlayerByName _ => List PlayerRow
  | .getPlayerByPID _ => List PlayerRow
  | .getPlayerByMailAndPassword _ _ => List PlayerRow
  | .createPlayer _ => UInt64
  | .updatePlayer _ => Unit

@[reducible] def SessionOperation.Result : SessionOperation → Type
  | .prepare _ _ => Unit
  | .execute operation => operation.Rows
  | .executeStats => List BF2.StatsRow
  | .send _ => Unit
  | .connect _ => Unit
  | .write _ => Unit
  | .read => Unit

/-- What the sessions share: the games, whether `BF2` has MySQL parameters, and the
clock. -/
structure Emulator where
  games : GameDB
  hasParams : Bool
  time : Int

/-- An exception, or the use of what is not there. -/
inductive Fault where
  | thrown
  | undefined
deriving DecidableEq, Repr

abbrev sessions : Setting where
  World := Emulator
  Operation := SessionOperation
  Result := SessionOperation.Result
  Fault := Fault

/-- `boost::asio::awaitable`. -/
abbrev Awaitable (A : Type) := Coroutine sessions A

/-- The connection an operation is on. -/
def SessionOperation.database? : SessionOperation → Option Database
  | .prepare database _ => some database
  | .execute _ => some .players
  | .executeStats => some .stats
  | .send _ => none
  | .connect _ => none
  | .write _ => none
  | .read => none

/-- `async_send`. -/
def asyncSend (message : Message) : Awaitable Unit := @perform sessions (.send message)

/-- How the code goes on with a value it could read. -/
def Ending.await {A : Type} : Ending A → Awaitable A
  | .returned value => .ret value
  | .threw => .fault .thrown
  | .undefined => .fault .undefined

/-! ### The player database -/

def Operation.statement : Operation → Bytes
  | .hasPlayer _ => ascii "SELECT COUNT(*) FROM player WHERE name=?"
  | .getPlayerByName _ => ascii "SELECT id, email, password, country FROM player WHERE name=?"
  | .getPlayerByPID _ => ascii "SELECT name, email, password, country FROM player WHERE id=?"
  | .getPlayerByMailAndPassword _ _ =>
      ascii "SELECT id, name, country FROM player WHERE email=? AND password=?"
  | .createPlayer _ => ascii
      "INSERT INTO player (name, password, email, country, rank_id) VALUES (?, ?, ?, ?, 0)"
  | .updatePlayer _ => ascii "UPDATE player SET password=?, email=?, country=? WHERE name=?"

namespace PlayerDBMySQL.Suspending

/-- `async_prepare_statement` and `async_execute`. -/
def query (operation : Operation) : Awaitable operation.Rows := do
  let _ ← @perform sessions (.prepare .players operation.statement)
  @perform sessions (.execute operation)

def hasPlayer (name : Bytes) : Awaitable Bool := do
  let count : Nat ← query (.hasPlayer name)
  return count > 0

def getPlayerByName (name : Bytes) : Awaitable (Option PlayerData) := do
  let rows : List PlayerRow ← query (.getPlayerByName name)
  (front rows fun row =>
    match asString row.email with
    | .returned email => .returned (some
        { id := row.id, name := name, email := email, password := row.password
          country := row.country })
    | .threw => .threw
    | .undefined => .undefined).await

def getPlayerByPID (pid : UInt64) : Awaitable (Option PlayerData) := do
  let rows : List PlayerRow ← query (.getPlayerByPID pid)
  (front rows fun row =>
    match asString row.email with
    | .returned email => .returned (some
        { id := pid, name := row.name, email := email, password := row.password
          country := row.country })
    | .threw => .threw
    | .undefined => .undefined).await

def getPlayerByMailAndPassword (email password : Bytes) : Awaitable (List PlayerData) := do
  let rows : List PlayerRow ← query (.getPlayerByMailAndPassword email password)
  return rows.map fun row =>
    { id := row.id, name := row.name, email := email, password := password
      country := row.country }

/-- The created player has its id. -/
def createPlayer (player : PlayerData) : Awaitable PlayerData := do
  let id : UInt64 ← query (.createPlayer player)
  return { player with id := id }

def updatePlayer (player : PlayerData) : Awaitable Unit := query (.updatePlayer player)

/-- An operation of the interface. -/
def run : Operation → Awaitable Answer
  | .hasPlayer name => do return .flag (← hasPlayer name)
  | .getPlayerByName name => do return .player (← getPlayerByName name)
  | .getPlayerByPID pid => do return .player (← getPlayerByPID pid)
  | .getPlayerByMailAndPassword email password => do
      return .players (← getPlayerByMailAndPassword email password)
  | .createPlayer player => do return .id (← createPlayer player).id
  | .updatePlayer player => do
      updatePlayer player
      return .done

end PlayerDBMySQL.Suspending

/-! ### Ranked servers -/

namespace BF2

def statsStatement : Bytes := ascii "
		SELECT
			server.ip as ip,
			server.queryport as port,
			stats_provider.plasma as plasma
		FROM server
		JOIN stats_provider ON stats_provider.id = server.provider_id
		WHERE stats_provider.authorized = 1
	"

/-- The servers of the stats database are read only to rank some. -/
def asksStats (hasParams : Bool) (servers : List SavedServer) : Prop :=
  hasParams = true ∧ servers ≠ []

instance (hasParams : Bool) (servers : List SavedServer) : Decidable (asksStats hasParams servers) :=
  inferInstanceAs (Decidable (_ ∧ _))

/-- What `Game::GetServers` gives `BF2::GetServers`. -/
def listed (sqlite : Sqlite) (game : Game) (query : Bytes) (fields : List Bytes)
    (limit skip : Nat) : List SavedServer :=
  game.getServers sqlite (repairHostname (repairGametype query)) fields limit skip

/-- `BF2::GetServers`. -/
def Suspending.getServers (sqlite : Sqlite) (game : Game) (hasParams : Bool) (query : Bytes)
    (fields : List Bytes) (limit skip : Nat) : Awaitable (List SavedServer) :=
  let servers := listed sqlite game query fields limit skip
  if asksStats hasParams servers then do
    let _ ← @perform sessions (.prepare .stats statsStatement)
    let rows : List StatsRow ← @perform sessions .executeStats
    return servers.map (rank (rankedServers rows))
  else return servers

end BF2

/-! ### A call on its own -/

/-- What a session that nothing comes between works on: the player table, what it has
sent, and whether the peer can be sent to. -/
structure Surroundings where
  table : PlayerTable
  sent : List Message
  reachable : Bool

/-- The table answers an operation, or fails its statement; other operations complete. -/
def Surroundings.serve (s : Surroundings) :
    (operation : SessionOperation) → Surroundings × Option operation.Result
  | .prepare _ _ => (s, some ())
  | .execute (.hasPlayer name) => (s, some ((s.table.byName name).length : Nat))
  | .execute (.getPlayerByName name) => (s, some (s.table.byName name))
  | .execute (.getPlayerByPID pid) => (s, some (s.table.rows.filter (·.id = pid)))
  | .execute (.getPlayerByMailAndPassword email password) =>
      (s, some (s.table.byMailAndPassword email password))
  | .execute (.createPlayer data) =>
      match s.table.insert data with
      | none => (s, none)
      | some (table, id) => ({ s with table := table }, some id)
  | .execute (.updatePlayer data) => ({ s with table := s.table.update data }, some ())
  | .executeStats => (s, some [])
  | .send message =>
      ({ s with sent := s.sent ++ [message] }, if s.reachable then some () else none)
  | .connect _ => (s, some ())
  | .write _ => (s, some ())
  | .read => (s, some ())

/-- A failed operation throws. -/
def endingOf {A : Type} : Ended sessions A → Ending A
  | .returned value => .returned value
  | .fault .thrown => .threw
  | .fault .undefined => .undefined
  | .failed => .threw

/-- **A call that no other comes between ends as on the table.** -/
theorem players_alone (world : Emulator) (s : Surroundings) (operation : Operation) :
    let out := (PlayerDBMySQL.Suspending.run operation).alone Surroundings.serve world s
    (out.1, endingOf out.2) =
      ({ s with table := (PlayerDBMySQL.run s.table operation).1 },
        (PlayerDBMySQL.run s.table operation).2) := by
  have player (read : Ending (Option PlayerData)) :
      let out := (read.await >>= fun player => .ret (Answer.player player)).alone
        Surroundings.serve world s
      (out.1, endingOf out.2) = (s, PlayerDBMySQL.Ending.player read) := by
    cases read <;> rfl
  cases operation with
  | hasPlayer name => rfl
  | getPlayerByName name => exact player _
  | getPlayerByPID pid => exact player _
  | getPlayerByMailAndPassword email password => rfl
  | createPlayer data =>
      have created : PlayerDBMySQL.Suspending.run (.createPlayer data) =
          .await (.prepare .players (Operation.createPlayer data).statement) fun _ =>
            .await (.execute (.createPlayer data)) fun (id : UInt64) => .ret (.id id) := rfl
      have prepared : s.serve (.prepare .players (Operation.createPlayer data).statement) =
          (s, some ()) := rfl
      dsimp only
      rw [created, alone_served prepared, PlayerDBMySQL.run, PlayerDBMySQL.createPlayer]
      cases inserted : s.table.insert data with
      | none =>
          have failed : s.serve (.execute (.createPlayer data)) = (s, none) := by
            simp [Surroundings.serve, inserted]
          rw [alone_failed failed]
          rfl
      | some out =>
          have served : s.serve (.execute (.createPlayer data)) =
              ({ s with table := out.1 }, some out.2) := by
            simp [Surroundings.serve, inserted]
          rw [alone_served served]
          rfl
  | updatePlayer data => rfl

end GamespyEmulator
