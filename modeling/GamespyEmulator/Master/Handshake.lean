import GamespyEmulator.Game.Acceptance
import GamespyEmulator.Master.Steps

/-!
The handshake that lists a server: a first heartbeat, which is answered by a
challenge, and the challenge's proof. The sample machine at the end, two games and a
server that has sent its first heartbeat, is where the concrete runs of the other
modules start.
-/

namespace GamespyEmulator

open Wire

namespace MasterServer

section FirstHeartbeat

variable {sqlite : Sqlite} {s : MasterServer} {d : Datagram} {packet : QRPacket}
  {heartbeat : QRHeartbeatPacket} {gamename : Bytes} {game : Game}

/-- A first heartbeat for a known game leaves a pending entry and its challenge. -/
theorem handle_firstHeartbeat (type : packet.type = .heartbeat)
    (parsed : QRHeartbeatPacket.parse packet = .ok heartbeat)
    (named : heartbeat.serverData[ascii "gamename"]? = some gamename)
    (known : s.db[gamename]? = some game) (invalid : d.client ∉ s.validated)
    (unheld : s.awaitingValidation[d.client]? = none) :
    s.handle sqlite d packet =
      ({ s with awaitingValidation :=
          s.awaitingValidation.insert d.client (pendingEntry game d heartbeat gamename) },
        some (.challenge d.client heartbeat.instanceKey (challengeText game d.client d.picks),
          .done)) := by
  simp only [handle, type, handleHeartbeat, parsed, named, known, invalid, unheld, if_false]

end FirstHeartbeat

section RightAnswer

variable {sqlite : Sqlite} {s : MasterServer} {d : Datagram} {packet : QRPacket}
  {entry : ServerEntry} {game : Game}

theorem handle_rightAnswer (type : packet.type = .challenge)
    (held : s.awaitingValidation[d.client]? = some entry)
    (right : entry.proof = cstr packet.data.memory) :
    s.handle sqlite d packet =
      ({ s with validated := s.validated.insertIfNew d.client entry },
        some (.registered d.client entry.instanceKey, .register d.client entry)) := by
  simp only [handle, type, handleChallenge, held, right, if_true]

/-- Behind the send, an accepted server moves from the pending entries to the rows. -/
theorem completeChallenge_accepts {client : Endpoint}
    (held : s.awaitingValidation[client]? = some entry)
    (known : s.db[entry.gamename]? = some game)
    (accepts : game.Accepts sqlite (incoming client entry.values)) :
    s.completeChallenge sqlite client =
      ⟨s.awaitingValidation.erase client, s.validated, s.db.update entry.gamename fun game =>
        (game.addOrUpdateServer sqlite (incoming client entry.values)).game⟩ := by
  have returned := Game.addOrUpdateServer_accepts.mpr accepts
  simp only [completeChallenge, held, known, returned, GameDB.update]

theorem completeChallenge_row {client : Endpoint}
    (held : s.awaitingValidation[client]? = some entry)
    (known : s.db[entry.gamename]? = some game)
    (accepts : game.Accepts sqlite (incoming client entry.values)) :
    (s.completeChallenge sqlite client).db.Listed entry.gamename client.rowKey := by
  rw [completeChallenge_accepts held known accepts]
  refine GameDB.listed_update.mpr ⟨game, known, ?_⟩
  rw [if_pos rfl]
  exact Game.addOrUpdateServer_row accepts

end RightAnswer

end MasterServer

/-! ### A sample machine -/

namespace MasterSample

def sqlite : Sqlite where
  reserved _ := false
  special _ := false
  select _ _ := []
  fails _ _ := false

def game (name secretKey : String) : Game :=
  Game.empty
    { name := ascii name, secretKey := ascii secretKey, keys := [], missingKeyPolicy := .addAsString }

def gmtest : Game := game "gmtest" "HA6zkS"

def battlefield2 : Game := game "battlefield2" "hW6m9a"

def db : GameDB :=
  OrdMap.emplaceAll [(ascii "gmtest", gmtest), (ascii "battlefield2", battlefield2)] ∅

def start : Machine := ⟨⟨∅, ∅, db⟩, [], true⟩

theorem start_initial : start.Initial where
  awaiting := rfl
  validated := rfl
  tables := by
    intro name game known
    rcases OrdMap.emplaceAll_getElem?_source known with mem | absent
    · simp only [List.mem_cons, Prod.mk.injEq, List.not_mem_nil, or_false] at mem
      rcases mem with ⟨-, rfl⟩ | ⟨-, rfl⟩ <;> rfl
    · simp at absent

def client : Endpoint := ⟨0xC0A80007, 6500⟩

def instanceKey : Bytes := [1, 2, 3, 4]

def datagram (bytes : Bytes) (fits : bytes.length ≤ 1400) (second : Nat) : Datagram :=
  ⟨client, bytes, fits, second * 1000000000, Vector.replicate 7 ⟨0, by decide⟩⟩

def pairs (gamename key : String) : List (Bytes × Bytes) :=
  [(ascii "gamename", ascii gamename), (ascii key, ascii "x")]

/-- A heartbeat for a game that gives one more key. -/
def heartbeat (gamename key : String) : Bytes :=
  3 :: instanceKey ++ strings ((pairs gamename key).flatMap fun (key, value) => [key, value]) ++ [0]

theorem heartbeat_fits : (heartbeat "gmtest" "hostname").length ≤ 1400 := by decide

def first : Datagram := datagram (heartbeat "gmtest" "hostname") heartbeat_fits 0

def challenge : Bytes := ascii "AAAAAAA80C0A800071964"

def proof : Bytes := ascii "liLHmY7rglx1O1qgOef0NOgT/ix2"

/-- The right answer to the challenge. -/
def answer (second : Nat) : Datagram :=
  datagram (1 :: instanceKey ++ terminated proof) (by decide) second

def entry : ServerEntry :=
  ⟨0, proof, instanceKey, ascii "gmtest", OrdMap.emplaceAll (pairs "gmtest" "hostname") ∅⟩

/-- The machine behind the first heartbeat. -/
def pending : Machine := ⟨⟨OrdMap.emplaceAll [(client, entry)] ∅, ∅, db⟩, first.bytes, true⟩

def handshakeRun : List Machine.Event := [.datagram first true, .datagram (answer 1) true]

theorem challenge_eq : challengeText gmtest client first.picks = challenge := rfl

theorem proof_eq : Utils.encode gmtest.data.secretKey challenge = proof := by
  decide +kernel

theorem start_first (sent : Bool) :
    Machine.step sqlite start (.datagram first sent) =
      (pending, [.challenge client instanceKey challenge]) := by
  let packet : QRPacket := ⟨.heartbeat, instanceKey, (start.view first).subspan 5⟩
  let heartbeat : QRHeartbeatPacket :=
    { type := .heartbeat, instanceKey := instanceKey, serverData := entry.values }
  have framed : start.packet? first = some packet := rfl
  have parsed : QRHeartbeatPacket.parse packet = .ok heartbeat := by decide +kernel
  have named : heartbeat.serverData[ascii "gamename"]? = some (ascii "gmtest") := rfl
  have known : start.server.db[ascii "gmtest"]? = some gmtest := rfl
  have made : pendingEntry gmtest first heartbeat (ascii "gmtest") = entry := by
    have proves : Utils.encode gmtest.data.secretKey
        (challengeText gmtest first.client first.picks) = proof := by
      rw [← proof_eq, ← challenge_eq]
      rfl
    rw [pendingEntry, proves]
    rfl
  rw [Machine.step_packet framed, MasterServer.handle_firstHeartbeat rfl parsed named known
    (by simp [start]) (by simp [start]), made]
  have issued : challengeText gmtest first.client first.picks = challenge := challenge_eq
  rw [issued]
  rfl

theorem handshake_final (rest : List Machine.Event) :
    Run.final (Machine.step sqlite) start (handshakeRun ++ rest) =
      Run.final (Machine.step sqlite) pending (.datagram (answer 1) true :: rest) := by
  rw [handshakeRun, List.cons_append, Run.final_cons, start_first]
  rfl

end MasterSample

end GamespyEmulator
