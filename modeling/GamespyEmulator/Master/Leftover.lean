import GamespyEmulator.Lib.Reading
import GamespyEmulator.Master.Handshake

/-!
What the handlers of `master.cpp` read of the receive buffer, which holds the bytes of
earlier datagrams behind those of the one it was filled with. `MasterServer.Reads` has one
turn of the receive loop as a program over the cells of the buffer: it is the turn of
`Machine.receive` (`turn_run`), and `isolated_iff` says when it stays inside the datagram.
-/

namespace GamespyEmulator

open Wire

/-- The array of `AcceptConnections`. -/
def receiveBufferSize : Nat := 1400

/-- A framed packet: its head, and how many bytes of data follow at offset 5. -/
structure PacketView where
  type : PacketType
  instanceKey : Bytes
  size : Nat

namespace MasterServer.Reads

/-- The last byte of the data; without data none is looked at, and a NUL is as good. -/
def back (length : Nat) : Reading UInt8 UInt8 :=
  if length = 5 then .ret 0 else .cell (length - 1) .ret

/-- `QRPacket::Parse` of the first `length` cells. -/
def parse (length : Nat) : Reading UInt8 (Except QRError PacketView) :=
  if length < 5 then return .error .tooSmall
  else .cell 0 fun typeByte =>
    match PacketType.ofByte typeByte with
    | none => return .error .unknownType
    | some type => do
        let back ← back length
        if back ≠ 0 then return .error .unexpectedEnd
        else do
          let instanceKey ← Reading.cells 1 4
          return .ok ⟨type, instanceKey, length - 5⟩

/-- The view at the data, whose size is `npos` when it is none, against a name: the
characters of the shorter one are compared first. No string has the size `npos`. -/
def isNamed (size : Option Nat) (name : Bytes) : Reading UInt8 Bool := do
  let front ← Reading.cells 5 (size.elim name.length fun n => min n name.length)
  return decide (size = some name.length ∧ front = name)

/-- `HasGame` and `GetGame` of the view: a lookup compares it with names. -/
def findGame (size : Option Nat) : List (Bytes × Game) → Reading UInt8 (Option Game)
  | [] => return none
  | (name, game) :: rest => do
      if ← isNamed size name then return some game else findGame size rest

section Handlers

variable (sqlite : Sqlite) (s : MasterServer) (d : Datagram)

/-- `HandleAvailable`: without data, `data.size() - 1` wraps around to `npos`. -/
def handleAvailable (size : Nat) : Reading UInt8 Handling := do
  match ← findGame (if size = 0 then none else some (size - 1)) s.db.toList with
  | none => return (s, none)
  | some game => return (s, some (.available d.client game.data.availability, .done))

/-- `HandleHeartbeat`, whose parsers are given the end of the data. -/
def handleHeartbeat (view : PacketView) : Reading UInt8 Handling := do
  let data ← Reading.cells 5 view.size
  return s.handleHeartbeat sqlite d ⟨view.type, view.instanceKey, .whole data⟩

/-- `HandleChallenge`, which makes a string of what stands up to a NUL. -/
def handleChallenge : Reading UInt8 Handling :=
  match s.awaitingValidation[d.client]? with
  | none => return (s, none)
  | some entry => do
      let challenge ← Reading.cellsUntil 0 5 (receiveBufferSize - 5)
      if entry.proof = challenge then
        return ({ s with validated := s.validated.insertIfNew d.client entry },
          some (.registered d.client entry.instanceKey, .register d.client entry))
      else return ({ s with awaitingValidation := s.awaitingValidation.erase d.client }, none)

/-- The `switch` of `AcceptConnections`. -/
def handle (view : PacketView) : Reading UInt8 Handling :=
  match view.type with
  | .prequeryIpVerify => handleAvailable s d view.size
  | .heartbeat => handleHeartbeat sqlite s d view
  | .keepalive => return s.handleKeepAlive d
  | .challenge => handleChallenge s d
  | _ => return (s, none)

/-- One turn of `AcceptConnections`. -/
def turn : Reading UInt8 Handling := do
  match ← parse d.bytes.length with
  | .error _ => return (s, none)
  | .ok view => handle sqlite s d view

end Handlers

/-! ### The turn as `Machine.receive` has it -/

section Runs

variable {sqlite : Sqlite} {s : MasterServer} {d : Datagram} {buffer : Span}

/-- The first five bytes of a span and what follows. -/
theorem bytes_head (small : ¬ buffer.size < 5) :
    buffer.bytes = cellsOf buffer.memory 0 :: cellsOf buffer.memory 1 :: cellsOf buffer.memory 2 ::
      cellsOf buffer.memory 3 :: cellsOf buffer.memory 4 :: (buffer.subspan 5).bytes := by
  have fits : 0 + 5 ≤ buffer.memory.length := by
    have := buffer.size_le
    omega
  have front : buffer.bytes.take 5 = (List.range' 0 5).map (cellsOf buffer.memory) := by
    rw [cellsOf_range fits, Span.bytes, List.take_take, List.drop_zero]
    congr 1
    omega
  rw [Span.bytes_subspan, ← List.take_append_drop 5 buffer.bytes, front]
  simp [List.range']

/-- The last byte of the data. -/
theorem data_back (small : ¬ buffer.size < 5) :
    (buffer.subspan 5).bytes.getLast? =
      if buffer.size = 5 then none else some (cellsOf buffer.memory (buffer.size - 1)) := by
  have inside := buffer.size_le
  rw [List.getLast?_eq_getElem?, Span.bytes_length, Span.bytes_subspan, Span.bytes]
  split
  · rename_i none'
    simp [none', Span.subspan]
  · rename_i some'
    rw [List.getElem?_drop, Span.subspan]
    dsimp only
    have last : 5 + (buffer.size - 5 - 1) = buffer.size - 1 := by omega
    rw [last, List.getElem?_take_of_lt (by omega), cellsOf,
      List.getD_eq_getElem buffer.memory 0 (by omega), List.getElem?_eq_getElem]

/-- What the parser reads is what the span shows. -/
theorem parse_run (buffer : Span) :
    (parse buffer.size).run (cellsOf buffer.memory) =
      (QRPacket.parse buffer).map fun packet =>
        ⟨packet.type, packet.instanceKey, packet.data.size⟩ := by
  unfold parse
  by_cases small : buffer.size < 5
  · rw [if_pos small, QRPacket.parse]
    have short : buffer.bytes.length < 5 := by rwa [Span.bytes_length]
    split
    · rename_i front
      rw [front] at short
      simp only [List.length_cons] at short
      omega
    · rfl
  · rw [if_neg small, Reading.run_cell, QRPacket.parse, bytes_head small]
    dsimp only
    cases PacketType.ofByte (cellsOf buffer.memory 0) with
    | none => rfl
    | some type =>
        have key : (List.range' 1 4).map (cellsOf buffer.memory) =
            [cellsOf buffer.memory 1, cellsOf buffer.memory 2, cellsOf buffer.memory 3,
              cellsOf buffer.memory 4] := rfl
        dsimp only
        rw [data_back small]
        by_cases none' : buffer.size = 5
        · simp [back, none', Reading.cells_run, key, Span.subspan, Except.map]
        · by_cases closed : cellsOf buffer.memory (buffer.size - 1) = 0
          · simp [back, none', closed, Reading.cells_run, key, Span.subspan, Except.map]
          · simp [back, none', closed, Except.map]

/-- Without data no name is found. -/
theorem findGame_run_none {memory : Nat → UInt8} (games : List (Bytes × Game)) :
    (findGame none games).run memory = none := by
  induction games with
  | nil => rfl
  | cons entry rest ih => simp [findGame, isNamed, ih]

/-- A lookup finds the game of that name. -/
theorem findGame_run {memory : Bytes} {n : Nat} (fits : 5 + n ≤ memory.length)
    (games : List (Bytes × Game)) :
    (findGame (some n) games).run (cellsOf memory) =
      (games.find? fun entry => entry.1 = (memory.drop 5).take n).map Prod.snd := by
  have length : ((memory.drop 5).take n).length = n := by
    rw [List.length_take, List.length_drop]
    omega
  induction games with
  | nil => rfl
  | cons entry rest ih =>
      obtain ⟨name, game⟩ := entry
      have same : decide (some n = some name.length ∧
          (memory.drop 5).take (min n name.length) = name) =
            decide (name = (memory.drop 5).take n) := by
        apply decide_eq_decide.mpr
        constructor
        · rintro ⟨size, front⟩
          rw [← Option.some.inj size, Nat.min_self] at front
          exact front.symm
        · intro is
          rw [is, length, Nat.min_self]
          exact ⟨rfl, rfl⟩
      have fits' : 5 + min n name.length ≤ memory.length :=
        (Nat.add_le_add_left (Nat.min_le_left _ _) 5).trans fits
      rw [findGame, Reading.run_bind, isNamed, Reading.run_bind, Reading.run_pure,
        Reading.cells_run, Option.elim_some, cellsOf_range fits', same, List.find?_cons]
      by_cases here : name = (memory.drop 5).take n
      · simp [← here]
      · simp only [here, decide_false, Bool.false_eq_true, if_false]
        exact ih

theorem find_toList (db : GameDB) (name : Bytes) :
    (db.toList.find? fun entry => entry.1 = name).map Prod.snd = db[name]? := by
  cases found : db.toList.find? fun entry => entry.1 = name with
  | none =>
      cases known : db[name]? with
      | none => rfl
      | some game =>
          have absent := List.find?_eq_none.mp found (name, game) (OrdMap.mem_toList.mpr known)
          simp at absent
  | some entry =>
      have called : entry.1 = name := by simpa using List.find?_some found
      have mem := List.mem_of_find?_eq_some found
      rw [Option.map_some, ← called]
      exact (OrdMap.mem_toList.mp mem).symm

theorem handleAvailable_run {packet : QRPacket} (data : packet.data = buffer.subspan 5) :
    (handleAvailable s d packet.data.size).run (cellsOf buffer.memory) =
      s.handleAvailable d packet := by
  rw [handleAvailable, MasterServer.handleAvailable, Reading.run_bind]
  by_cases none' : packet.data.size = 0
  · rw [if_pos none', if_pos none', findGame_run_none]
    rfl
  · have fits : 5 + (packet.data.size - 1) ≤ buffer.memory.length := by
      have inside := buffer.size_le
      rw [data, Span.subspan] at none' ⊢
      dsimp only at none' ⊢
      omega
    have name : (buffer.memory.drop 5).take (packet.data.size - 1) =
        packet.data.bytes.dropLast := by
      rw [List.dropLast_eq_take, Span.bytes_length, Span.bytes, List.take_take, data]
      congr 1
      omega
    rw [if_neg none', if_neg none', findGame_run fits, name, find_toList]
    cases s.db[packet.data.bytes.dropLast]? <;> rfl

/-- Only the bytes of its data decide how a heartbeat is handled. -/
theorem handleHeartbeat_congr {packet other : QRPacket} (type : other.type = packet.type)
    (key : other.instanceKey = packet.instanceKey) (same : other.data.bytes = packet.data.bytes) :
    s.handleHeartbeat sqlite d other = s.handleHeartbeat sqlite d packet := by
  have parsed : QRHeartbeatPacket.parse other = QRHeartbeatPacket.parse packet := by
    simp only [QRHeartbeatPacket.parse, same, type, key, if_true]
  rw [MasterServer.handleHeartbeat, MasterServer.handleHeartbeat, parsed]

theorem handleHeartbeat_run {packet : QRPacket} (data : packet.data = buffer.subspan 5)
    (framed : 5 ≤ buffer.size) :
    (handleHeartbeat sqlite s d ⟨packet.type, packet.instanceKey, packet.data.size⟩).run
      (cellsOf buffer.memory) = s.handleHeartbeat sqlite d packet := by
  have fits : 5 + packet.data.size ≤ buffer.memory.length := by
    have inside := buffer.size_le
    rw [data, Span.subspan]
    dsimp only
    omega
  rw [handleHeartbeat, Reading.run_bind, Reading.run_pure, Reading.cells_run, cellsOf_range fits]
  apply handleHeartbeat_congr
  · rfl
  · rfl
  · rw [Span.bytes_whole, data]
    rfl

theorem handleChallenge_run {packet : QRPacket} (data : packet.data = buffer.subspan 5)
    (array : buffer.memory.length = receiveBufferSize) :
    (handleChallenge s d).run (cellsOf buffer.memory) = s.handleChallenge d packet := by
  have rest : (buffer.memory.drop 5).take (receiveBufferSize - 5) = packet.data.memory := by
    rw [data, Span.subspan, ← array, ← List.length_drop, List.take_length]
  have fits : 5 + (receiveBufferSize - 5) ≤ buffer.memory.length := by
    rw [array]
    decide
  rw [handleChallenge, MasterServer.handleChallenge]
  cases s.awaitingValidation[d.client]? with
  | none => rfl
  | some entry =>
      dsimp only
      rw [Reading.run_bind, Reading.cellsUntil_run, cellsOf_range fits, rest]
      unfold cstr
      split <;> rfl

theorem handle_run {packet : QRPacket} (data : packet.data = buffer.subspan 5)
    (framed : 5 ≤ buffer.size) (array : buffer.memory.length = receiveBufferSize) :
    (handle sqlite s d ⟨packet.type, packet.instanceKey, packet.data.size⟩).run
      (cellsOf buffer.memory) = s.handle sqlite d packet := by
  have heartbeat := @handleHeartbeat_run sqlite s d buffer packet data framed
  rw [handle, MasterServer.handle]
  generalize packet.type = type at heartbeat ⊢
  cases type with
  | prequeryIpVerify => exact handleAvailable_run data
  | heartbeat => exact heartbeat
  | keepalive => rfl
  | challenge => exact handleChallenge_run data array
  | _ => rfl

end Runs

/-! ### What is read -/

section Bounds

variable {memory : Nat → UInt8} {s : MasterServer} {d : Datagram}

theorem parse_inBounds (length : Nat) : (parse length).InBounds memory length := by
  unfold parse
  split
  · exact Reading.inBounds_pure _
  · rename_i framed
    rw [Reading.inBounds_cell]
    refine ⟨by omega, ?_⟩
    split
    · exact Reading.inBounds_pure _
    · rw [Reading.inBounds_bind]
      constructor
      · unfold back
        split
        · exact Reading.inBounds_ret _
        · rw [Reading.inBounds_cell]
          exact ⟨by omega, Reading.inBounds_ret _⟩
      · split
        · exact Reading.inBounds_pure _
        · rw [Reading.inBounds_bind]
          exact ⟨Reading.cells_inBounds (by omega), Reading.inBounds_pure _⟩

theorem isNamed_inBounds {size : Option Nat} {name : Bytes} {limit : Nat}
    (fits : 5 + (size.elim name.length fun n => min n name.length) ≤ limit) :
    (isNamed size name).InBounds memory limit := by
  rw [isNamed, Reading.inBounds_bind]
  exact ⟨Reading.cells_inBounds fits, Reading.inBounds_pure _⟩

theorem findGame_inBounds {n limit : Nat} (fits : 5 + n ≤ limit) (games : List (Bytes × Game)) :
    (findGame (some n) games).InBounds memory limit := by
  induction games with
  | nil => exact Reading.inBounds_pure _
  | cons entry rest ih =>
      rw [findGame, Reading.inBounds_bind]
      refine ⟨isNamed_inBounds ?_, ?_⟩
      · exact (Nat.add_le_add_left (Nat.min_le_left _ _) 5).trans fits
      · split
        · exact Reading.inBounds_pure _
        · exact ih

/-- Without data, a lookup reads behind the datagram unless there is no name to compare. -/
theorem findGame_none_inBounds_iff (games : List (Bytes × Game)) :
    (findGame none games).InBounds memory 5 ↔ ∀ entry ∈ games, entry.1 = [] := by
  induction games with
  | nil => exact iff_of_true (Reading.inBounds_pure _) (by simp)
  | cons entry rest ih =>
      have unequal : (isNamed none entry.1).run memory = false := by simp [isNamed]
      rw [findGame, Reading.inBounds_bind, unequal, if_neg Bool.false_ne_true, ih,
        List.forall_mem_cons]
      apply and_congr_left
      intro _
      constructor
      · intro bounds
        by_contra nonempty
        have first : 5 ∈ (isNamed none entry.1).touched memory := by
          rw [isNamed, Reading.touched_bind, Reading.cells_touched, Option.elim_none,
            List.mem_append, List.mem_range'_1]
          have pos := List.length_pos_iff.mpr nonempty
          omega
        exact absurd (bounds 5 first) (Nat.lt_irrefl 5)
      · intro empty
        apply isNamed_inBounds
        rw [empty]
        exact Nat.le_refl 5

end Bounds

end MasterServer.Reads

/-! ### Datagrams apart -/

/-- The machine that receives into an array. -/
def Machine.withArray (s : MasterServer) (buffer : Vector UInt8 receiveBufferSize) : Machine :=
  ⟨s, buffer.toList, true⟩

/-- An accepted datagram has a head, whose first byte is its type. -/
theorem parse_framed {buffer : Span} {packet : QRPacket}
    (framed : QRPacket.parse buffer = .ok packet) :
    5 ≤ buffer.size ∧
      ∃ b, buffer.bytes.head? = some b ∧ PacketType.ofByte b = some packet.type := by
  rw [← Span.bytes_length]
  unfold QRPacket.parse at framed
  split at framed
  · rename_i b _ _ _ _ _ front
    rw [front]
    refine ⟨by simp, b, rfl, ?_⟩
    split at framed
    · cases framed
    · rename_i known
      dsimp only at framed
      split at framed
      · cases framed
      · cases framed
        exact known
  · cases framed

/-- The data of an accepted datagram ends in a NUL, if there is any. -/
theorem parse_closed {buffer : Span} {packet : QRPacket}
    (framed : QRPacket.parse buffer = .ok packet) (some' : buffer.size ≠ 5) :
    cellsOf buffer.memory (buffer.size - 1) = 0 := by
  have long := (parse_framed framed).1
  have back := @MasterServer.Reads.data_back buffer (by omega)
  have ends := QRPacket.parse_endsNul framed
  rw [if_neg some'] at back
  rw [QRPacket.parse_data framed] at ends
  rcases ends with empty | last
  · rw [empty] at back
    cases back
  · rw [back] at last
    exact Option.some.inj last

/-- A head of a known type is a packet. -/
theorem parse_head {buffer : Span} {b : UInt8} {type : PacketType} (five : buffer.size = 5)
    (head : buffer.bytes.head? = some b) (known : PacketType.ofByte b = some type) :
    ∃ packet, QRPacket.parse buffer = .ok packet := by
  have framed : ¬ buffer.size < 5 := by omega
  have front := MasterServer.Reads.bytes_head framed
  have back := MasterServer.Reads.data_back framed
  rw [front, List.head?_cons] at head
  rw [if_pos five] at back
  rw [QRPacket.parse, front]
  dsimp only
  rw [Option.some.inj head, known, back]
  exact ⟨_, rfl⟩

theorem ofByte_challenge {b : UInt8} : PacketType.ofByte b = some .challenge ↔ b = 1 := by
  constructor
  · intro is
    unfold PacketType.ofByte at is
    split at is <;> first | rfl | cases is
  · rintro rfl
    rfl

theorem ofByte_prequery {b : UInt8} : PacketType.ofByte b = some .prequeryIpVerify ↔ b = 9 := by
  constructor
  · intro is
    unfold PacketType.ofByte at is
    split at is <;> first | rfl | cases is
  · rintro rfl
    rfl

/-- The datagrams that let a handler read behind them: a challenge without data from a
server that is awaiting validation, and an availability check without data where a game
has a name. -/
def Overreads (s : MasterServer) (d : Datagram) : Prop :=
  d.bytes.length = 5 ∧
    (d.bytes.head? = some 1 ∧ d.client ∈ s.awaitingValidation ∨
      d.bytes.head? = some 9 ∧ ∃ name, name ∈ s.db ∧ name ≠ [])

section Turn

variable {sqlite : Sqlite} {s : MasterServer} {d : Datagram}
  (buffer : Vector UInt8 receiveBufferSize)

theorem view_length : ((Machine.withArray s buffer).view d).memory.length = receiveBufferSize := by
  have fits := d.bytes_le
  change (d.bytes ++ buffer.toList.drop d.bytes.length).length = receiveBufferSize
  rw [List.length_append, List.length_drop, Vector.length_toList]
  exact Nat.add_sub_cancel' fits

/-- The turn over the cells is the turn of the receive loop. -/
theorem turn_run (some' : d.bytes ≠ []) :
    (MasterServer.Reads.turn sqlite s d).run
        (cellsOf ((Machine.withArray s buffer).view d).memory) =
      (((Machine.withArray s buffer).receive sqlite d).1.server,
        ((Machine.withArray s buffer).receive sqlite d).2) := by
  have parsed := MasterServer.Reads.parse_run ((Machine.withArray s buffer).view d)
  have size : ((Machine.withArray s buffer).view d).size = d.bytes.length := rfl
  have receiving : ¬ (Machine.withArray s buffer).receiving = false := by simp [Machine.withArray]
  rw [size] at parsed
  rw [MasterServer.Reads.turn, Reading.run_bind, parsed, Machine.receive, if_neg receiving, if_neg]
  · cases framed : QRPacket.parse ((Machine.withArray s buffer).view d) with
    | error e => rfl
    | ok packet =>
        exact MasterServer.Reads.handle_run (QRPacket.parse_data framed) (parse_framed framed).1
          (view_length buffer)
  · rwa [List.isEmpty_iff]

theorem handleAvailable_inBounds_iff {memory : Nat → UInt8} (framed : 5 ≤ d.bytes.length) :
    (MasterServer.Reads.handleAvailable s d (d.bytes.length - 5)).InBounds memory d.bytes.length ↔
      ¬ (d.bytes.length = 5 ∧ ∃ name, name ∈ s.db ∧ name ≠ []) := by
  rw [MasterServer.Reads.handleAvailable, Reading.inBounds_bind, and_iff_left]
  · by_cases none' : d.bytes.length = 5
    · rw [none', Nat.sub_self, if_pos rfl, MasterServer.Reads.findGame_none_inBounds_iff,
        and_iff_right rfl]
      push Not
      constructor
      · intro empty name known
        obtain ⟨game, known⟩ := OrdMap.mem_iff.mp known
        exact empty (name, game) (OrdMap.mem_toList.mpr known)
      · rintro empty ⟨name, game⟩ mem
        exact empty name (OrdMap.mem_iff.mpr ⟨game, OrdMap.mem_toList.mp mem⟩)
    · rw [if_neg (by omega)]
      refine iff_of_true (MasterServer.Reads.findGame_inBounds (by omega) _) ?_
      exact fun both => none' both.1
  · split <;> exact Reading.inBounds_pure _

theorem handleChallenge_inBounds_iff {memory : Nat → UInt8} (framed : 5 ≤ d.bytes.length)
    (closed : d.bytes.length ≠ 5 → memory (d.bytes.length - 1) = 0) :
    (MasterServer.Reads.handleChallenge s d).InBounds memory d.bytes.length ↔
      ¬ (d.bytes.length = 5 ∧ d.client ∈ s.awaitingValidation) := by
  rw [MasterServer.Reads.handleChallenge, OrdMap.mem_iff]
  cases s.awaitingValidation[d.client]? with
  | none => exact iff_of_true (Reading.inBounds_pure _) (by simp)
  | some entry =>
      have size : receiveBufferSize - 5 = 1394 + 1 := rfl
      dsimp only
      rw [Reading.inBounds_bind, and_iff_left (by split <;> exact Reading.inBounds_pure _)]
      by_cases none' : d.bytes.length = 5
      · refine iff_of_false ?_ (not_not.mpr ⟨none', entry, rfl⟩)
        intro bounds
        have first := bounds 5 (size ▸ Reading.cellsUntil_first 5 1394)
        omega
      · refine iff_of_true ?_ (fun both => none' both.1)
        have stops := @Reading.cellsUntil_inBounds UInt8 memory _ 0 5 (receiveBufferSize - 5) _
          (closed none') (by omega)
        have end' : d.bytes.length - 1 + 1 = d.bytes.length := by omega
        rwa [end'] at stops

/-- **What a turn reads**: it stays inside its datagram, these two kinds apart. -/
theorem turn_inBounds_iff :
    (MasterServer.Reads.turn sqlite s d).InBounds
        (cellsOf ((Machine.withArray s buffer).view d).memory) d.bytes.length ↔
      ¬ Overreads s d := by
  have parsed := MasterServer.Reads.parse_run ((Machine.withArray s buffer).view d)
  have viewed : ((Machine.withArray s buffer).view d).bytes = d.bytes := List.take_left
  have size : ((Machine.withArray s buffer).view d).size = d.bytes.length := rfl
  rw [size] at parsed
  rw [MasterServer.Reads.turn, Reading.inBounds_bind, parsed,
    and_iff_right (MasterServer.Reads.parse_inBounds _), Overreads]
  cases framed : QRPacket.parse ((Machine.withArray s buffer).view d) with
  | error e =>
      refine iff_of_true (Reading.inBounds_pure _) ?_
      have none' {b : UInt8} {type : PacketType} (five : d.bytes.length = 5)
          (head : d.bytes.head? = some b) (known : PacketType.ofByte b = some type) : False := by
        rw [← viewed] at head
        obtain ⟨packet, other⟩ := parse_head (size.trans five) head known
        rw [framed] at other
        cases other
      rintro ⟨five, ⟨head, -⟩ | ⟨head, -⟩⟩
      · exact none' five head (ofByte_challenge.mpr rfl)
      · exact none' five head (ofByte_prequery.mpr rfl)
  | ok packet =>
      obtain ⟨long, b, head, known⟩ := parse_framed framed
      have data := QRPacket.parse_data framed
      have dataSize : packet.data.size = d.bytes.length - 5 := by rw [data]; rfl
      rw [size] at long
      rw [viewed] at head
      rw [head, Option.some_inj, Option.some_inj, ← ofByte_challenge, ← ofByte_prequery, known,
        Option.some_inj, Option.some_inj]
      dsimp only [Except.map]
      rw [MasterServer.Reads.handle]
      cases type : packet.type with
      | prequeryIpVerify =>
          rw [dataSize]
          simpa using handleAvailable_inBounds_iff long
      | challenge =>
          have closed := parse_closed framed
          rw [size] at closed
          simpa using handleChallenge_inBounds_iff long closed
      | heartbeat =>
          refine iff_of_true ?_ (by simp)
          dsimp only
          rw [MasterServer.Reads.handleHeartbeat, Reading.inBounds_bind]
          refine ⟨Reading.cells_inBounds ?_, Reading.inBounds_pure _⟩
          change 5 + packet.data.size ≤ d.bytes.length
          omega
      | _ => exact iff_of_true (Reading.inBounds_pure _) (by simp)

end Turn

/-- What a parsed packet shows to its handler. -/
def QRPacket.shown (packet : QRPacket) : PacketType × Bytes × Bytes :=
  (packet.type, packet.instanceKey, packet.data.bytes)

/-- A datagram is handled as if the buffer held nothing else: with every two contents of
the array it is parsed alike, answered alike and leaves the same state, and nothing behind
it is read. -/
structure Isolated (sqlite : Sqlite) (s : MasterServer) (d : Datagram) (sent : Bool) : Prop where
  parsed (buffer other : Vector UInt8 receiveBufferSize) :
    (QRPacket.parse ((Machine.withArray s buffer).view d)).map QRPacket.shown =
      (QRPacket.parse ((Machine.withArray s other).view d)).map QRPacket.shown
  replies (buffer other : Vector UInt8 receiveBufferSize) :
    ((Machine.withArray s buffer).step sqlite (.datagram d sent)).2 =
      ((Machine.withArray s other).step sqlite (.datagram d sent)).2
  state (buffer other : Vector UInt8 receiveBufferSize) :
    ((Machine.withArray s buffer).step sqlite (.datagram d sent)).1.server =
      ((Machine.withArray s other).step sqlite (.datagram d sent)).1.server
  inside (buffer : Vector UInt8 receiveBufferSize) :
    (MasterServer.Reads.turn sqlite s d).InBounds
      (cellsOf ((Machine.withArray s buffer).view d).memory) d.bytes.length

section Isolation

variable {sqlite : Sqlite} {s : MasterServer} {d : Datagram} {sent : Bool}

/-- Spans that show the same parse alike. -/
theorem parse_shown {buffer other : Span} (same : other.bytes = buffer.bytes) :
    (QRPacket.parse other).map QRPacket.shown = (QRPacket.parse buffer).map QRPacket.shown := by
  have data : (other.subspan 5).bytes = (buffer.subspan 5).bytes := by
    rw [Span.bytes_subspan, Span.bytes_subspan, same]
  unfold QRPacket.parse
  rw [same]
  generalize buffer.bytes = bytes
  match bytes with
  | b :: k₀ :: k₁ :: k₂ :: k₃ :: _ =>
      dsimp only
      cases PacketType.ofByte b with
      | none => rfl
      | some type =>
          dsimp only
          rw [data]
          split
          · rfl
          · simp only [Except.map, QRPacket.shown, data]
  | [] => rfl
  | [_] => rfl
  | [_, _] => rfl
  | [_, _, _] => rfl
  | [_, _, _, _] => rfl

/-- Inside a datagram, every array it was received into holds it. -/
theorem cellsOf_received (buffer : Vector UInt8 receiveBufferSize) {i : Nat}
    (received : i < d.bytes.length) :
    cellsOf ((Machine.withArray s buffer).view d).memory i = cellsOf d.bytes i := by
  rw [Machine.view, cellsOf, cellsOf, List.getD_append _ _ _ _ received]

/-- **Datagrams are apart from what earlier ones left in the buffer**, exactly when they
are not of the two kinds that have no data where a handler takes it to be there. -/
theorem isolated_iff (some' : d.bytes ≠ []) :
    Isolated sqlite s d sent ↔ ¬ Overreads s d := by
  constructor
  · intro isolated
    exact (turn_inBounds_iff (Vector.replicate receiveBufferSize 0)).mp (isolated.inside _)
  · intro inside
    have same (buffer other : Vector UInt8 receiveBufferSize) :
        (((Machine.withArray s buffer).receive sqlite d).1.server,
          ((Machine.withArray s buffer).receive sqlite d).2) =
        (((Machine.withArray s other).receive sqlite d).1.server,
          ((Machine.withArray s other).receive sqlite d).2) := by
      rw [← turn_run buffer some', ← turn_run other some']
      apply ((turn_inBounds_iff other).mpr inside).agree
      intro i received
      rw [cellsOf_received buffer received, cellsOf_received other received]
    refine ⟨fun buffer other => parse_shown ?_, ?_, ?_, fun buffer => ?_⟩
    · exact Eq.trans List.take_left List.take_left.symm
    · intro buffer other
      exact congrArg (fun out : Handling => out.2.toList.map Prod.fst) (same buffer other)
    · intro buffer other
      exact congrArg (fun out : Handling => out.1.resume sqlite out.2 sent) (same buffer other)
    · exact (turn_inBounds_iff buffer).mpr inside

end Isolation

namespace MasterSample

/-- A challenge packet without data, from a server that is awaiting validation. -/
def emptyChallenge : Datagram := datagram (1 :: instanceKey) (by decide) 1

/-- An array in which the right answer is left behind the packet's head. -/
def proofLeft : Vector UInt8 receiveBufferSize :=
  ⟨(1 :: instanceKey ++ terminated proof ++ List.replicate 1366 0).toArray, by decide +kernel⟩

/-- What is left in the array decides whether the server is registered. -/
theorem isolated_fails_empty_challenge :
    ((Machine.withArray pending.server proofLeft).step sqlite (.datagram emptyChallenge true)).2 =
        [.registered client instanceKey] ∧
      ((Machine.withArray pending.server (.replicate receiveBufferSize 0)).step sqlite
        (.datagram emptyChallenge true)).2 = [] ∧
      ¬ Isolated sqlite pending.server emptyChallenge true := by
  have accepted : ((Machine.withArray pending.server proofLeft).step sqlite
      (.datagram emptyChallenge true)).2 = [.registered client instanceKey] := rfl
  have refused : ((Machine.withArray pending.server (.replicate receiveBufferSize 0)).step sqlite
      (.datagram emptyChallenge true)).2 = [] := rfl
  refine ⟨accepted, refused, fun isolated => ?_⟩
  have same := isolated.replies proofLeft (.replicate receiveBufferSize 0)
  rw [accepted, refused] at same
  cases same

/-- The right answer to a challenge is read from the datagram alone. -/
theorem isolated_answer : Isolated sqlite pending.server (answer 1) true :=
  (isolated_iff (by simp [answer, datagram])).mpr fun overreads => by
    have long : (answer 1).bytes.length ≠ 5 := by decide +kernel
    exact long overreads.1

end MasterSample

end GamespyEmulator
