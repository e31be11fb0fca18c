import GamespyEmulator.Game.Servers
import GamespyEmulator.Lib.Run
import GamespyEmulator.QR.Packet
import GamespyEmulator.Utils

/-!
The master server of `master.cpp` as a state machine. A handler that sends runs in two
halves, up to the send and behind it: `MasterServer.handle` is the first, and the
`Continuation` it leaves says what `MasterServer.finish` does when the send has
completed. `Machine.step` runs both halves as one event; the interleaved machine lets
other coroutines in between.

An exception ends a handler where it is thrown, and the receive loop goes on with the
state reached there.
-/

namespace GamespyEmulator

open Wire

/-! ### Games -/

/-- The games of `GameDBInMemory`, by name. -/
abbrev GameDB := OrdMap Bytes Game

/-- Act on a game, if there is one of that name. -/
def GameDB.update (db : GameDB) (name : Bytes) (f : Game → Game) : GameDB :=
  match db[name]? with
  | none => db
  | some game => db.insert name (f game)

/-! ### State -/

/-- `MasterServer::server`. Times are in nanoseconds. -/
structure ServerEntry where
  lastUpdate : Int
  proof : Bytes
  instanceKey : Bytes
  gamename : Bytes
  values : OrdMap Bytes Bytes
deriving DecidableEq

/-- The members of `MasterServer` that its handlers change. -/
structure MasterServer where
  awaitingValidation : OrdMap Endpoint ServerEntry
  validated : OrdMap Endpoint ServerEntry
  db : GameDB

/-- The characters of a challenge prefix. -/
def challengeTable : Bytes := ascii "ABCDEFGHJIKLMNOPQRSTUVWXYZ123456789"

/-- A received datagram: its sender, its bytes, the clock its handler reads, and the
characters `random_string` draws for it. -/
structure Datagram where
  client : Endpoint
  bytes : Bytes
  bytes_le : bytes.length ≤ 1400
  now : Int
  picks : Vector (Fin challengeTable.length) 7

/-- What the master server sends. -/
inductive Reply where
  | available (client : Endpoint) (status : Availability)
  | challenge (client : Endpoint) (instanceKey text : Bytes)
  | registered (client : Endpoint) (instanceKey : Bytes)
deriving DecidableEq, Repr

/-- The bytes of a reply. The status reply is a string literal and keeps its
terminator. -/
def Reply.bytes : Reply → Bytes
  | .available _ .available => [0xFE, 0xFD, 0x09, 0, 0, 0, 0, 0]
  | .available _ .disabledTemporary => [0xFE, 0xFD, 0x09, 0, 0, 0, 1, 0]
  | .available _ .disabledPermanently => [0xFE, 0xFD, 0x09, 0, 0, 0, 2, 0]
  | .challenge _ instanceKey text => [0xFE, 0xFD, 0x01] ++ instanceKey ++ terminated text
  | .registered _ instanceKey => [0xFE, 0xFD, 0x0A] ++ instanceKey

/-- What a suspended handler does behind its send. `entry` is the pending entry its
iterator points to. -/
inductive Continuation where
  | done
  | register (client : Endpoint) (entry : ServerEntry)
deriving DecidableEq

/-! ### Handlers -/

/-- The server a heartbeat or a validated entry describes. -/
def incoming (client : Endpoint) (values : OrdMap Bytes Bytes) : ServerData where
  publicIp := addressText client.address
  publicPort := client.port
  data := values

/-- `std::format("{}{:2X}{:8X}{:4X}", challenge, backend, address, port)`. -/
def challengeText (game : Game) (client : Endpoint)
    (picks : Vector (Fin challengeTable.length) 7) : Bytes :=
  Utils.randomString challengeTable picks.toList ++
    Numeral.padLeft 2 (Numeral.hexUpper game.data.backend.toNat) ++
    Numeral.padLeft 8 (Numeral.hexUpper client.address.toNat) ++
    Numeral.padLeft 4 (Numeral.hexUpper client.port.toNat)

/-- The entry of a first heartbeat. -/
def pendingEntry (game : Game) (d : Datagram) (heartbeat : QRHeartbeatPacket)
    (gamename : Bytes) : ServerEntry where
  lastUpdate := d.now
  proof := Utils.encode game.data.secretKey (challengeText game d.client d.picks)
  instanceKey := heartbeat.instanceKey
  gamename := gamename
  values := heartbeat.serverData

/-- What the first half of a handler leaves: the state, and the send it waits for. -/
abbrev Handling := MasterServer × Option (Reply × Continuation)

namespace MasterServer

/-- `HandleAvailable`. Without data the name's length wraps around, and no game is
called that. -/
def handleAvailable (s : MasterServer) (d : Datagram) (packet : QRPacket) : Handling :=
  if packet.data.size = 0 then (s, none)
  else match s.db[packet.data.bytes.dropLast]? with
    | none => (s, none)
    | some game => (s, some (.available d.client game.data.availability, .done))

/-- `HandleHeartbeat`. -/
def handleHeartbeat (sqlite : Sqlite) (s : MasterServer) (d : Datagram) (packet : QRPacket) :
    Handling :=
  match QRHeartbeatPacket.parse packet with
  | .error _ => (s, none)
  | .ok heartbeat =>
      match heartbeat.serverData[ascii "gamename"]? with
      | none => (s, none)
      | some gamename =>
          match s.db[gamename]? with
          | none => (s, none)
          | some game =>
              if d.client ∈ s.validated then
                ({ s with db := s.db.update gamename fun game =>
                    (game.addOrUpdateServer sqlite (incoming d.client heartbeat.serverData)).game },
                  none)
              else match s.awaitingValidation[d.client]? with
                | none =>
                    ({ s with awaitingValidation :=
                        s.awaitingValidation.insert d.client (pendingEntry game d heartbeat gamename) },
                      some (.challenge d.client heartbeat.instanceKey
                        (challengeText game d.client d.picks), .done))
                | some entry =>
                    let entry :=
                      { entry with lastUpdate := d.now, values := heartbeat.serverData }
                    ({ s with awaitingValidation := s.awaitingValidation.insert d.client entry },
                      none)

/-- `HandleKeepAlive`: the pending entry comes first. -/
def handleKeepAlive (s : MasterServer) (d : Datagram) : Handling :=
  match s.awaitingValidation[d.client]? with
  | some entry =>
      let entry := { entry with lastUpdate := d.now }
      ({ s with awaitingValidation := s.awaitingValidation.insert d.client entry }, none)
  | none =>
      match s.validated[d.client]? with
      | some entry =>
          let entry := { entry with lastUpdate := d.now }
          ({ s with validated := s.validated.insert d.client entry }, none)
      | none => (s, none)

/-- `HandleChallenge` up to its send. The answer is the C string at the data, which
reaches into the rest of the buffer when the data holds no NUL. -/
def handleChallenge (s : MasterServer) (d : Datagram) (packet : QRPacket) : Handling :=
  match s.awaitingValidation[d.client]? with
  | none => (s, none)
  | some entry =>
      if entry.proof = cstr packet.data.memory then
        ({ s with validated := s.validated.insertIfNew d.client entry },
          some (.registered d.client entry.instanceKey, .register d.client entry))
      else ({ s with awaitingValidation := s.awaitingValidation.erase d.client }, none)

/-- `HandleChallenge` behind its send. Without the pending entry the iterator dangles;
the model then does nothing. An exception leaves the entry pending. -/
def completeChallenge (sqlite : Sqlite) (s : MasterServer) (client : Endpoint) : MasterServer :=
  match s.awaitingValidation[client]? with
  | none => s
  | some entry =>
      match s.db[entry.gamename]? with
      | none => s
      | some game =>
          let out := game.addOrUpdateServer sqlite (incoming client entry.values)
          let db := s.db.insert entry.gamename out.game
          match out.exception with
          | some _ => { s with db := db }
          | none => { s with db := db, awaitingValidation := s.awaitingValidation.erase client }

/-- The `switch` of `AcceptConnections`. -/
def handle (sqlite : Sqlite) (s : MasterServer) (d : Datagram) (packet : QRPacket) : Handling :=
  match packet.type with
  | .prequeryIpVerify => s.handleAvailable d packet
  | .heartbeat => s.handleHeartbeat sqlite d packet
  | .keepalive => s.handleKeepAlive d
  | .challenge => s.handleChallenge d packet
  | _ => (s, none)

/-- The second half of a handler. A failed send throws. -/
def finish (sqlite : Sqlite) (s : MasterServer) (continuation : Continuation) (sent : Bool) :
    MasterServer :=
  match continuation with
  | .done => s
  | .register client _ => if sent then s.completeChallenge sqlite client else s

/-- The second half, if the first one left a send. -/
def resume (sqlite : Sqlite) (s : MasterServer) (waiting : Option (Reply × Continuation))
    (sent : Bool) : MasterServer :=
  match waiting with
  | none => s
  | some (_, continuation) => s.finish sqlite continuation sent

/-! ### Cleanup -/

/-- More than 60 whole seconds old; `duration_cast` drops the fraction. -/
def expired (now : Int) (entry : ServerEntry) : Bool :=
  60 < (now - entry.lastUpdate).tdiv 1000000000

/-- One map's pass: expired entries go, each with the row of its endpoint in its
game's table. -/
def expire (now : Int) (servers : OrdMap Endpoint ServerEntry) (db : GameDB) :
    OrdMap Endpoint ServerEntry × GameDB :=
  (OrdMap.eraseAll (fun e => expired now e.2) servers.toList servers,
    servers.toList.foldl (fun db e =>
      if expired now e.2 then db.update e.2.gamename fun game =>
        (game.removeServers [e.1.rowKey]).game
      else db) db)

/-- One pass of `Cleanup`: first the pending entries, then the validated ones. -/
def cleanup (s : MasterServer) (now : Int) : MasterServer :=
  let pending := expire now s.awaitingValidation s.db
  let listed := expire now s.validated pending.2
  ⟨pending.1, listed.1, listed.2⟩

end MasterServer

/-- What other coroutines do: a cleanup pass, browsers that connect or disconnect
their `OnServerAdded` slots, and writes through the admin API. -/
inductive Background where
  | cleanup (now : Int)
  | subscribe (gamename : Bytes) (keyList : List Bytes)
  | unsubscribe (gamename : Bytes) (slot : Nat)
  | addServer (gamename : Bytes) (server : ServerData)
  | removeServer (gamename : Bytes) (key : RowKey)

def MasterServer.background (sqlite : Sqlite) (s : MasterServer) : Background → MasterServer
  | .cleanup now => s.cleanup now
  | .subscribe gamename keyList => { s with db := s.db.update gamename fun game =>
      { game with subscribers := game.subscribers ++ [keyList] } }
  | .unsubscribe gamename slot => { s with db := s.db.update gamename fun game =>
      { game with subscribers := game.subscribers.eraseIdx slot } }
  | .addServer gamename server => { s with db := s.db.update gamename fun game =>
      (game.addOrUpdateServer sqlite server).game }
  | .removeServer gamename key => { s with db := s.db.update gamename fun game =>
      (game.removeServers [key]).game }

/-! ### The receive loop -/

/-- The master server with the buffer of its receive loop, which keeps the bytes of
earlier datagrams, and whether the loop still runs. -/
structure Machine where
  server : MasterServer
  buffer : Bytes
  receiving : Bool

namespace Machine

/-- The received datagram in the buffer. -/
def view (m : Machine) (d : Datagram) : Span :=
  ⟨d.bytes ++ m.buffer.drop d.bytes.length, d.bytes.length, by simp⟩

/-- One turn of `AcceptConnections` up to the handler's send. A datagram without bytes
ends the loop. -/
def receive (sqlite : Sqlite) (m : Machine) (d : Datagram) :
    Machine × Option (Reply × Continuation) :=
  if m.receiving = false then (m, none)
  else if d.bytes.isEmpty then ({ m with receiving := false }, none)
  else
    let buffer := (m.view d).memory
    match QRPacket.parse (m.view d) with
    | .error _ => ({ m with buffer := buffer }, none)
    | .ok packet =>
        let out := m.server.handle sqlite d packet
        ({ m with server := out.1, buffer := buffer }, out.2)

/-- An event of the master server: a datagram, handled to the end, with the outcome of
its reply's send; or what another coroutine does. -/
inductive Event where
  | datagram (d : Datagram) (sent : Bool)
  | background (b : Background)

def step (sqlite : Sqlite) (m : Machine) : Event → Machine × List Reply
  | .background b => ({ m with server := m.server.background sqlite b }, [])
  | .datagram d sent =>
      let (m, waiting) := m.receive sqlite d
      ({ m with server := m.server.resume sqlite waiting sent }, waiting.toList.map Prod.fst)

/-- The machine at startup: empty maps, and games whose tables are empty. -/
structure Initial (m : Machine) : Prop where
  awaiting : m.server.awaitingValidation = ∅
  validated : m.server.validated = ∅
  tables : ∀ (name : Bytes) (game : Game), m.server.db[name]? = some game → game.table.rows = ∅

end Machine

end GamespyEmulator
