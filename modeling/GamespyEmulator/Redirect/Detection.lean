import GamespyEmulator.Game.Config
import GamespyEmulator.Game.ReadBack
import GamespyEmulator.Master.Handshake

/-!
How the redirect library finds an emulator: `detect_gamespy` of `redirect/main.cpp` against
the master servers of a network, each behind a run of its own.

A master server answers the broadcast when it serves the game that is asked for, whatever
it went through before, unless a datagram without bytes has ended its receive loop. The
answer fits the buffer of the library. So the addresses that can be found are those of the
hosts that serve the game (`detects_iff`), and one is found when nothing is lost
(`detects_complete`).
-/

namespace GamespyEmulator

open Wire

/-! ### The games of a running master server -/

namespace Machine

open MasterServer

/-- The master server at startup, with the array of its receive loop. -/
def launched (games : ServedGames) (buffer : Bytes) : Machine :=
  ⟨⟨∅, ∅, games.map fun _ served => served.game⟩, buffer, true⟩

/-- What holds in every run from an initial state holds behind every configuration that
`Connect` accepts. -/
theorem launched_initial {env : GameEnvironment} {config : ConfigValue} {games : ServedGames}
    (done : GameDBInMemory.connect env config = .ok games) (buffer : Bytes) :
    (launched games buffer).Initial where
  awaiting := rfl
  validated := rfl
  tables := by
    intro name game held
    simp only [launched, Std.ExtTreeMap.getElem?_map, Option.map_eq_some_iff] at held
    obtain ⟨served, held, rfl⟩ := held
    obtain ⟨-, fresh⟩ := connect_fresh done held
    exact Game.connect_rows fresh

/-- No event adds a game or takes one away. -/
theorem step_names (sqlite : Sqlite) (m : Machine) (event : Event) (name : Bytes) :
    name ∈ (m.step sqlite event).1.server.db ↔ name ∈ m.server.db := by
  cases event with
  | background b => exact (background_prunes sqlite m.server b).descends.mem_db
  | datagram d sent =>
      rcases step_datagram sqlite m d sent with ⟨same, -⟩ | ⟨packet, out, -, handled, server, -⟩
      · rw [same]
      · rw [server]
        cases handled with
        | refreshed refreshes idle =>
            rw [resume_idle idle]
            exact refreshes.toDescends.mem_db
        | updated type parsed named known held =>
            exact (prunes_add sqlite m.server _ _).descends.mem_db
        | challenged known invalid unheld => exact Iff.rfl
        | accepted type held right =>
            rw [resume_register]
            split
            · exact (completeChallenge_prunes sqlite _ d.client).descends.mem_db
            · exact Iff.rfl

/-- A datagram without bytes. -/
def Event.ends : Event → Bool
  | .datagram d _ => d.bytes.isEmpty
  | .background _ => false

theorem step_receiving (sqlite : Sqlite) (m : Machine) (event : Event) :
    (m.step sqlite event).1.receiving = (m.receiving && !event.ends) := by
  cases event with
  | background b => simp [step, Event.ends]
  | datagram d sent =>
      cases live : m.receiving with
      | false => simp [step, receive, live]
      | true =>
          cases absent : d.bytes.isEmpty with
          | true => simp [step, receive, live, absent, Event.ends]
          | false =>
              simp only [step, receive, live, absent, Event.ends]
              cases QRPacket.parse (m.view d) <;> simp

theorem run_names (sqlite : Sqlite) (m : Machine) (events : List Event) (name : Bytes) :
    name ∈ (Run.final (step sqlite) m events).server.db ↔ name ∈ m.server.db := by
  apply @Run.stable _ _ _ (step sqlite) events
    (fun m' => name ∈ m'.server.db ↔ name ∈ m.server.db) m Iff.rfl
  exact fun m' event same => (step_names sqlite m' event name).trans same

theorem run_receiving (sqlite : Sqlite) (m : Machine) (events : List Event) :
    (Run.final (step sqlite) m events).receiving = (m.receiving && events.all fun e => !e.ends) := by
  induction events generalizing m with
  | nil => simp
  | cons event rest ih => rw [Run.final_cons, ih, step_receiving, List.all_cons, Bool.and_assoc]

end Machine

/-! ### The probe -/

/-- The packet of `detect_gamespy`. -/
def availablePacket (game : Bytes) : Bytes := [9, 0, 0, 0, 0] ++ game ++ [0]

/-- The length of a name whose packet fits a receive buffer. -/
def maxProbedName : Nat := 1394

/-- What a receive loop keeps of the packet. -/
def probe (client : Endpoint) (game : Bytes) (now : Int)
    (picks : Vector (Fin challengeTable.length) 7) : Datagram where
  client := client
  bytes := (availablePacket game).take 1400
  bytes_le := List.length_take_le _ _
  now := now
  picks := picks

namespace Machine

variable {m : Machine} {d : Datagram} {game : Bytes}

theorem parse_probe (short : game.length ≤ maxProbedName)
    (sends : d.bytes = (availablePacket game).take 1400) :
    d.bytes.drop 5 = game ++ [0] ∧ QRPacket.parse (m.view d) =
      .ok ⟨.prequeryIpVerify, [0, 0, 0, 0], (m.view d).subspan 5⟩ := by
  have all : d.bytes = 9 :: 0 :: 0 :: 0 :: 0 :: (game ++ [0]) := by
    rw [sends, List.take_of_length_le]
    · simp [availablePacket]
    · simp only [availablePacket, List.length_append, List.length_cons, List.length_nil]
      unfold maxProbedName at short
      omega
  refine ⟨by rw [all]; rfl, ?_⟩
  simp [QRPacket.parse, all, PacketType.ofByte]

/-- The packet of a longer name arrives without its NUL. -/
theorem parse_longProbe (long : ¬ game.length ≤ maxProbedName) (free : NulFree game)
    (sends : d.bytes = (availablePacket game).take 1400) :
    QRPacket.parse (m.view d) = .error .unexpectedEnd := by
  have enough : 1395 ≤ game.length := by
    unfold maxProbedName at long
    omega
  have cut : d.bytes = 9 :: 0 :: 0 :: 0 :: 0 :: game.take 1395 := by
    have whole : availablePacket game = 9 :: 0 :: 0 :: 0 :: 0 :: (game ++ [0]) := by
      simp [availablePacket]
    rw [sends, whole]
    simp only [List.take_succ_cons, List.take_append_of_le_length enough]
  have open_ : (game.take 1395).getLast?.any (· ≠ 0) = true := by
    cases last : (game.take 1395).getLast? with
    | none =>
        have none := List.getLast?_eq_none_iff.mp last
        rw [List.take_eq_nil_iff] at none
        rcases none with absurd | empty
        · omega
        · simp [empty] at enough
    | some b =>
        have mem : b ∈ game := List.mem_of_mem_take (List.mem_of_getLast? last)
        have nonzero : b ≠ 0 := fun zero => free (zero ▸ mem)
        simpa using nonzero
  simpa [QRPacket.parse, cut, PacketType.ofByte] using open_

/-- What a master server answers to the probe for a game. -/
theorem step_probe (sqlite : Sqlite) (free : NulFree game) (sent : Bool)
    (sends : d.bytes = (availablePacket game).take 1400) :
    (m.step sqlite (.datagram d sent)).2 =
      if m.receiving = true ∧ game.length ≤ maxProbedName then
        m.server.db[game]?.toList.map fun found => .available d.client found.data.availability
      else [] := by
  by_cases live : m.receiving = true
  · by_cases short : game.length ≤ maxProbedName
    · obtain ⟨data, framed⟩ := @parse_probe m d game short sends
      have size : ((m.view d).subspan 5).bytes = game ++ [0] := by
        rw [Span.bytes_subspan, view_bytes, data]
      have filled : ((m.view d).subspan 5).size ≠ 0 := by
        rw [← Span.bytes_length, size]
        simp
      rw [step_packet (packet?_eq_some.mpr ⟨live, framed⟩), if_pos ⟨live, short⟩]
      dsimp only [MasterServer.handle, MasterServer.handleAvailable]
      rw [if_neg filled, size, List.dropLast_concat]
      cases m.server.db[game]? with
      | none => rfl
      | some found => rfl
    · have some_bytes : d.bytes.isEmpty = false := by
        rw [sends]
        rfl
      rw [if_neg fun met => short met.2]
      simp [step, receive, live, some_bytes, @parse_longProbe m d game short free sends]
  · rw [if_neg fun met => live met.1]
    simp [step, receive, live]

end Machine

/-! ### The network -/

/-- A host with a master server, behind what the server went through. -/
structure Host where
  address : UInt32
  sqlite : Sqlite
  games : ServedGames
  buffer : Bytes
  events : List Machine.Event
  now : Int
  picks : Vector (Fin challengeTable.length) 7

namespace Host

def machine (host : Host) : Machine :=
  Run.final (Machine.step host.sqlite) (.launched host.games host.buffer) host.events

/-- The host can be found for a game: its receive loop runs, and the game is one of those
it was started with. -/
def Serves (host : Host) (game : Bytes) : Prop :=
  (∀ event ∈ host.events, event.ends = false) ∧ game ∈ host.games ∧ game.length ≤ maxProbedName

/-- The datagrams that leave the host for the probe of a client. -/
def answers (host : Host) (client : Endpoint) (game : Bytes) : List (UInt32 × Bytes) :=
  (host.machine.step host.sqlite (.datagram (probe client game host.now host.picks) true)).2.map
    fun reply => (host.address, reply.bytes)

end Host

/-- Everything that is sent back to a broadcast. -/
def answers (lan : List Host) (client : Endpoint) (game : Bytes) : List (UInt32 × Bytes) :=
  lan.flatMap fun host => host.answers client game

/-- `detect_gamespy` behind its broadcast: what comes first decides, and it has to fit the
buffer of `recvfrom`. Nothing comes before the timeout when there are no arrivals. -/
def detectGamespy : List (UInt32 × Bytes) → Option UInt32
  | [] => none
  | (address, bytes) :: _ => if bytes.length ≤ 8 then some address else none

section Detect

variable {lan : List Host} {client : Endpoint} {game : Bytes} {address : UInt32}

theorem Reply.available_length (client : Endpoint) (status : Availability) :
    (Reply.available client status).bytes.length = 8 := by
  cases status <;> rfl

theorem Host.machine_receiving {host : Host} :
    host.machine.receiving = true ↔ ∀ event ∈ host.events, event.ends = false := by
  simp [Host.machine, Machine.run_receiving, Machine.launched]

theorem Host.mem_machine_db {host : Host} :
    game ∈ host.machine.server.db ↔ game ∈ host.games := by
  rw [Host.machine, Machine.run_names, Machine.launched, Std.ExtTreeMap.mem_map]

/-- A host answers the probe with one datagram if it serves the game, else with none. -/
theorem Host.answers_cases (host : Host) (free : NulFree game) :
    (host.Serves game ∧ ∃ bytes, bytes.length = 8 ∧
      host.answers client game = [(host.address, bytes)]) ∨
    (¬ host.Serves game ∧ host.answers client game = []) := by
  have replies := @Machine.step_probe host.machine (probe client game host.now host.picks) game
    host.sqlite free true rfl
  unfold Host.answers Host.Serves
  rw [replies, ← Host.machine_receiving, ← Host.mem_machine_db]
  by_cases met : host.machine.receiving = true ∧ game.length ≤ maxProbedName
  · rw [if_pos met, OrdMap.mem_iff]
    cases known : host.machine.server.db[game]? with
    | none =>
        right
        simp
    | some found =>
        left
        exact ⟨⟨met.1, ⟨found, rfl⟩, met.2⟩, _, Reply.available_length _ _, rfl⟩
  · right
    rw [if_neg met]
    exact ⟨fun serves => met ⟨serves.1, serves.2.2⟩, rfl⟩

theorem mem_answers (free : NulFree game) {bytes : Bytes}
    (mem : (address, bytes) ∈ answers lan client game) :
    bytes.length = 8 ∧ ∃ host ∈ lan, host.address = address ∧ host.Serves game := by
  obtain ⟨host, inside, mem⟩ := List.mem_flatMap.mp mem
  rcases @Host.answers_cases client game host free with ⟨serves, bytes', length, one⟩ | ⟨-, none⟩
  · rw [one, List.mem_singleton] at mem
    cases mem
    exact ⟨length, host, inside, rfl, serves⟩
  · rw [none] at mem
    cases mem

/-- What is found is a host that serves the game, whatever is lost of the answers and in
which order they come. -/
theorem detected_serves (free : NulFree game) {arrivals : List (UInt32 × Bytes)}
    (arrive : arrivals ⊆ answers lan client game) (found : detectGamespy arrivals = some address) :
    ∃ host ∈ lan, host.address = address ∧ host.Serves game := by
  cases arrivals with
  | nil => cases found
  | cons first rest =>
      obtain ⟨length, host, inside, same, serves⟩ :=
        mem_answers free (arrive List.mem_cons_self)
      rw [detectGamespy, if_pos (Nat.le_of_eq length)] at found
      cases found
      exact ⟨host, inside, same, serves⟩

theorem detectGamespy_isSome (free : NulFree game) {arrivals : List (UInt32 × Bytes)}
    (arrive : arrivals ⊆ answers lan client game) :
    (∃ address, detectGamespy arrivals = some address) ↔ arrivals ≠ [] := by
  cases arrivals with
  | nil => simp [detectGamespy]
  | cons first rest =>
      obtain ⟨length, -⟩ := mem_answers free (arrive List.mem_cons_self)
      simp [detectGamespy, length]

/-- **Which emulators can be found.** An address can be found for a game exactly when it is
that of a host that serves the game. Without losses, one is found as soon as there is such
a host. -/
theorem detects_iff (free : NulFree game) :
    ((∃ arrivals, arrivals ⊆ answers lan client game ∧ detectGamespy arrivals = some address) ↔
        ∃ host ∈ lan, host.address = address ∧ host.Serves game) ∧
      ∀ arrivals, arrivals.Perm (answers lan client game) →
        ((∃ address, detectGamespy arrivals = some address) ↔ ∃ host ∈ lan, host.Serves game) := by
  have served {host : Host} (inside : host ∈ lan) (serves : host.Serves game) :
      ∃ bytes, bytes.length = 8 ∧ (host.address, bytes) ∈ answers lan client game := by
    rcases @Host.answers_cases client game host free with ⟨-, bytes, length, one⟩ | ⟨idle, -⟩
    · refine ⟨bytes, length, List.mem_flatMap.mpr ⟨host, inside, ?_⟩⟩
      rw [one]
      exact List.mem_cons_self
    · exact absurd serves idle
  refine ⟨⟨?_, ?_⟩, ?_⟩
  · rintro ⟨arrivals, arrive, found⟩
    exact detected_serves free arrive found
  · rintro ⟨host, inside, rfl, serves⟩
    obtain ⟨bytes, length, mem⟩ := served inside serves
    refine ⟨[(host.address, bytes)], by simpa using mem, ?_⟩
    rw [detectGamespy, if_pos (Nat.le_of_eq length)]
  · intro arrivals same
    rw [detectGamespy_isSome free same.subset]
    constructor
    · intro some_
      obtain ⟨⟨address, bytes⟩, mem⟩ := List.exists_mem_of_ne_nil arrivals some_
      obtain ⟨-, host, inside, -, serves⟩ := mem_answers free (same.subset mem)
      exact ⟨host, inside, serves⟩
    · rintro ⟨host, inside, serves⟩ none
      obtain ⟨bytes, -, mem⟩ := served inside serves
      rw [none] at same
      rw [same.symm.eq_nil] at mem
      cases mem

end Detect

namespace RedirectSample

theorem challengeTable_filled : 0 < challengeTable.length := by decide

/-- A host that serves `gmtest`, behind a cleanup pass. -/
def host : Host where
  address := 0xC0A80001
  sqlite := MasterSample.sqlite
  games := OrdMap.emplaceAll [(ascii "gmtest", ⟨MasterSample.gmtest, none⟩)] ∅
  buffer := []
  events := [.background (.cleanup 0)]
  now := 0
  picks := Vector.replicate 7 ⟨0, challengeTable_filled⟩

def client : Endpoint := ⟨0xC0A80007, 50000⟩

theorem detects_iff_gmtest :
    ((∃ arrivals, arrivals ⊆ answers [host] client (ascii "gmtest") ∧
        detectGamespy arrivals = some 0xC0A80001) ↔
      ∃ host' ∈ [host], host'.address = 0xC0A80001 ∧ host'.Serves (ascii "gmtest")) ∧
      ∀ arrivals, arrivals.Perm (answers [host] client (ascii "gmtest")) →
        ((∃ address, detectGamespy arrivals = some address) ↔
          ∃ host' ∈ [host], host'.Serves (ascii "gmtest")) :=
  detects_iff (by decide)

end RedirectSample

end GamespyEmulator
