import GamespyEmulator.Lib.Framing
import GamespyEmulator.Lib.Wire

/-!
The packet reader of `ms.client.cpp`: a fixed buffer, a fill level, and an offset up to
which its packets were yielded; what is left moves to the front of the buffer.

`serverBrowsing` is the format it reads, and `packetReader_eq_cut` says that the reader
yields what cutting the whole stream does, and never reads into nothing.
-/

namespace GamespyEmulator

open Wire Framing

namespace BrowserClient

/-! ### Packets -/

/-- `ServerBrowsingPacket::Type`. -/
inductive PacketType where
  | serverListRequest
  | serverInfoRequest
  | sendMessageRequest
  | keepaliveRequest
  | maploopRequest
  | playersearchRequest
deriving DecidableEq, Repr

/-- The type of a byte between `min` and `max`. -/
def PacketType.ofByte : UInt8 → Option PacketType
  | 0 => some .serverListRequest
  | 1 => some .serverInfoRequest
  | 2 => some .sendMessageRequest
  | 3 => some .keepaliveRequest
  | 4 => some .maploopRequest
  | 5 => some .playersearchRequest
  | _ => none

structure ServerBrowsingPacket where
  type : PacketType
  data : Bytes
deriving DecidableEq, Repr

/-- `gs_recv_buffer_size`. -/
def gsRecvBufferSize : Nat := 4096

/-- The big-endian length in front of a packet. -/
def packetLength (hi lo : UInt8) : Nat := (hi.toNat <<< 8) ||| lo.toNat

/-- Packets behind their lengths; a length counts itself. -/
def serverBrowsing : Format UInt8 ServerBrowsingPacket where
  front
    | hi :: lo :: type :: rest =>
        if packetLength hi lo < 3 ∨ gsRecvBufferSize < packetLength hi lo then .stop
        else if rest.length + 3 < packetLength hi lo then .incomplete
        else match PacketType.ofByte type with
          | none => .stop
          | some type => .packet ⟨type, rest.take (packetLength hi lo - 3)⟩ (packetLength hi lo)
    | _ => .incomplete
  length_pos := by
    intro buffer value length found
    split at found
    · split at found
      · cases found
      · rename_i bounds
        split at found
        · cases found
        · rename_i whole
          split at found
          · cases found
          · cases found
            simp only [List.length_cons]
            omega
    · cases found
  stable := by
    intro buffer more shown
    match buffer with
    | [] => exact absurd rfl shown
    | [_] => exact absurd rfl shown
    | [_, _] => exact absurd rfl shown
    | hi :: lo :: type :: rest =>
        simp only [List.cons_append] at shown ⊢
        by_cases bounds : packetLength hi lo < 3 ∨ gsRecvBufferSize < packetLength hi lo
        · simp only [if_pos bounds]
        · simp only [if_neg bounds] at shown ⊢
          by_cases whole : rest.length + 3 < packetLength hi lo
          · simp [whole] at shown
          · have longer : ¬ (rest ++ more).length + 3 < packetLength hi lo := by
              rw [List.length_append]
              omega
            have same : (rest ++ more).take (packetLength hi lo - 3) =
                rest.take (packetLength hi lo - 3) :=
              List.take_append_of_le_length (by omega)
            rw [if_neg whole, if_neg longer, same]

/-- A packet of a possible length. -/
theorem serverBrowsing_cons {hi lo : UInt8} (notShort : ¬ packetLength hi lo < 3)
    (notLong : ¬ gsRecvBufferSize < packetLength hi lo) (type : UInt8) (rest : Bytes) :
    serverBrowsing.front (hi :: lo :: type :: rest) =
      if rest.length + 3 < packetLength hi lo then .incomplete
      else match PacketType.ofByte type with
        | none => .stop
        | some type => .packet ⟨type, rest.take (packetLength hi lo - 3)⟩ (packetLength hi lo) :=
  if_neg (not_or.mpr ⟨notShort, notLong⟩)

theorem serverBrowsing_short {buffer : Bytes} (short : buffer.length < 3) :
    serverBrowsing.front buffer = .incomplete := by
  match buffer with
  | [] => rfl
  | [_] => rfl
  | [_, _] => rfl
  | _ :: _ :: _ :: rest =>
      simp only [List.length_cons] at short
      omega

/-- A buffer filled to the brim always shows what stands at its front. -/
theorem serverBrowsing_shows {buffer : Bytes} (full : gsRecvBufferSize ≤ buffer.length) :
    serverBrowsing.front buffer ≠ .incomplete := by
  match buffer with
  | [] => simp [gsRecvBufferSize] at full
  | [_] => simp [gsRecvBufferSize] at full
  | [_, _] => simp [gsRecvBufferSize] at full
  | hi :: lo :: type :: rest =>
      simp only [serverBrowsing]
      split
      · simp
      · rename_i bounds
        split
        · simp only [List.length_cons] at full
          omega
        · cases PacketType.ofByte type <;> simp

/-! ### The buffer -/

/-- The receive buffer: its memory, and how much of it is filled. -/
structure RecvBuffer where
  memory : Bytes
  available : Nat
  size : memory.length = gsRecvBufferSize
  inside : available ≤ gsRecvBufferSize

namespace RecvBuffer

/-- What was received and not yet consumed. -/
def contents (buffer : RecvBuffer) : Bytes := buffer.memory.take buffer.available

/-- The size of the region that the next read may fill. -/
def room (buffer : RecvBuffer) : Nat := gsRecvBufferSize - buffer.available

theorem contents_length (buffer : RecvBuffer) : buffer.contents.length = buffer.available := by
  rw [contents, List.length_take, buffer.size, Nat.min_eq_left buffer.inside]

/-- The buffer a coroutine begins with. -/
def fresh : RecvBuffer where
  memory := List.replicate gsRecvBufferSize 0
  available := 0
  size := List.length_replicate
  inside := Nat.zero_le _

/-- `async_read_some` puts what it reads behind what is there. -/
def receive (buffer : RecvBuffer) (bytes : Bytes) (fits : bytes.length ≤ buffer.room) :
    RecvBuffer where
  memory := buffer.memory.take buffer.available ++ bytes ++
    buffer.memory.drop (buffer.available + bytes.length)
  available := buffer.available + bytes.length
  size := by
    have inside := buffer.inside
    rw [room] at fits
    rw [List.length_append, List.length_append, List.length_take, List.length_drop, buffer.size]
    omega
  inside := by
    have inside := buffer.inside
    rw [room] at fits
    omega

/-- `std::memmove` of what is left behind an offset. -/
def compact (buffer : RecvBuffer) (offset : Nat) : RecvBuffer where
  memory := (buffer.memory.drop offset).take (buffer.available - offset) ++
    buffer.memory.drop (buffer.available - offset)
  available := buffer.available - offset
  size := by
    have inside := buffer.inside
    rw [List.length_append, List.length_take, List.length_drop, List.length_drop, buffer.size]
    omega
  inside := (Nat.sub_le _ _).trans buffer.inside

theorem receive_contents {buffer : RecvBuffer} {bytes : Bytes}
    (fits : bytes.length ≤ buffer.room) :
    (buffer.receive bytes fits).contents = buffer.contents ++ bytes := by
  have length := buffer.contents_length
  rw [contents] at length
  rw [contents, contents, receive]
  dsimp only
  rw [List.take_left' (by rw [List.length_append, length])]

theorem compact_contents (buffer : RecvBuffer) (offset : Nat) :
    (buffer.compact offset).contents = buffer.contents.drop offset := by
  have inside := buffer.inside
  have length : ((buffer.memory.drop offset).take (buffer.available - offset)).length =
      buffer.available - offset := by
    rw [List.length_take, List.length_drop, buffer.size]
    omega
  rw [contents, contents, compact]
  dsimp only
  rw [List.take_left' length, List.drop_take]

end RecvBuffer

/-! ### The inner loop -/

/-- The inner loop from an offset: the packets it yields, and the offset it is left with,
or none when the coroutine returns. -/
def scan (memory : Bytes) (available offset : Nat) : List ServerBrowsingPacket × Option Nat :=
  if available - offset < 3 then ([], some offset)
  else
    let length := packetLength (memory.getD offset 0) (memory.getD (offset + 1) 0)
    if length < 3 then ([], none)
    else if memory.length < length then ([], none)
    else if available - offset < length then ([], some offset)
    else match PacketType.ofByte (memory.getD (offset + 2) 0) with
      | none => ([], none)
      | some type =>
          let (later, left) := scan memory available (offset + length)
          (⟨type, (memory.drop (offset + 3)).take (length - 3)⟩ :: later, left)
termination_by available - offset
decreasing_by
  change available - (offset + length) < available - offset
  omega

/-- What is received and not yet yielded, three bytes of it at least, as a list. -/
theorem window_cons {memory : Bytes} {available offset : Nat} (inside : available ≤ memory.length)
    (some' : ¬ available - offset < 3) :
    (memory.take available).drop offset =
      memory.getD offset 0 :: memory.getD (offset + 1) 0 :: memory.getD (offset + 2) 0 ::
        (memory.take available).drop (offset + 3) := by
  have length : (memory.take available).length = available := by
    rw [List.length_take, Nat.min_eq_left inside]
  have at' (i : Nat) (small : i < available) :
      (memory.take available).drop i = memory.getD i 0 :: (memory.take available).drop (i + 1) := by
    rw [List.drop_eq_getElem_cons (by omega), List.getElem_take, List.getD_eq_getElem?_getD,
      List.getElem?_eq_getElem (by omega), Option.getD_some]
  rw [at' offset (by omega), at' (offset + 1) (by omega), at' (offset + 2) (by omega)]

/-- The payload in the buffer is the payload in the stream. -/
theorem window_payload {memory : Bytes} {available offset length : Nat}
    (inside : available ≤ memory.length) (whole : ¬ available - offset < length) (more : Bytes) :
    ((memory.take available).drop (offset + 3) ++ more).take (length - 3) =
      (memory.drop (offset + 3)).take (length - 3) := by
  have size : length - 3 ≤ ((memory.take available).drop (offset + 3)).length := by
    rw [List.length_drop, List.length_take, Nat.min_eq_left inside]
    omega
  rw [List.take_append_of_le_length size, List.drop_take, List.take_take]
  congr 1
  omega

/-- The inner loop takes from the front of what is received the packets that the whole
stream has there, and stops where it has none. -/
theorem scan_cut {memory : Bytes} {available offset : Nat} (size : memory.length = gsRecvBufferSize)
    (inside : available ≤ memory.length) (taken : offset ≤ available) (more : Bytes) :
    match scan memory available offset with
    | (packets, none) =>
        cut serverBrowsing ((memory.take available).drop offset ++ more) = (packets, true)
    | (packets, some left) =>
        left ≤ available ∧
          serverBrowsing.front ((memory.take available).drop left) = .incomplete ∧
          cut serverBrowsing ((memory.take available).drop offset ++ more) =
            (packets ++ (cut serverBrowsing ((memory.take available).drop left ++ more)).1,
              (cut serverBrowsing ((memory.take available).drop left ++ more)).2) := by
  have restLength (offset : Nat) :
      ((memory.take available).drop offset).length = available - offset := by
    rw [List.length_drop, List.length_take, Nat.min_eq_left inside]
  fun_induction scan memory available offset with
  | case1 offset short =>
      refine ⟨taken, serverBrowsing_short ?_, rfl⟩
      rw [restLength]
      exact short
  | case2 offset some' length tooShort =>
      apply cut_stop
      rw [window_cons inside some']
      exact if_pos (.inl tooShort)
  | case3 offset some' length _ tooLong =>
      apply cut_stop
      rw [window_cons inside some']
      exact if_pos (.inr (size ▸ tooLong))
  | case4 offset some' length notShort notLong partial' =>
      rw [size] at notLong
      refine ⟨taken, ?_, rfl⟩
      rw [window_cons inside some', serverBrowsing_cons notShort notLong, if_pos]
      rw [restLength]
      omega
  | case5 offset some' length notShort notLong whole invalid =>
      rw [size] at notLong
      apply cut_stop
      rw [window_cons inside some', List.cons_append, List.cons_append, List.cons_append,
        serverBrowsing_cons notShort notLong, if_neg, invalid]
      rw [List.length_append, restLength]
      omega
  | case6 offset some' length notShort notLong whole type valid later left scanned ih =>
      rw [size] at notLong
      have found : serverBrowsing.front ((memory.take available).drop offset ++ more) =
          .packet ⟨type, (memory.drop (offset + 3)).take (length - 3)⟩ length := by
        rw [window_cons inside some', List.cons_append, List.cons_append, List.cons_append,
          serverBrowsing_cons notShort notLong, if_neg, valid]
        · dsimp only
          rw [window_payload inside whole]
        · rw [List.length_append, restLength]
          omega
      have behind : ((memory.take available).drop offset ++ more).drop length =
          (memory.take available).drop (offset + length) ++ more := by
        rw [List.drop_append_of_le_length, List.drop_drop]
        rw [restLength]
        omega
      have tail := ih (by omega)
      rw [scanned] at tail
      rw [cut_packet found, behind]
      cases left with
      | none =>
          dsimp only at tail ⊢
          rw [tail]
      | some left =>
          obtain ⟨within, blocked, tail⟩ := tail
          refine ⟨within, blocked, ?_⟩
          rw [tail]
          rfl

/-! ### The reader -/

/-- What the reader does: it reads into a region of some size, or yields a packet. -/
inductive ReaderAction where
  | read (size : Nat)
  | yield (packet : ServerBrowsingPacket)
deriving DecidableEq, Repr

/-- The packet of an action that yields one. -/
def ReaderAction.packet? : ReaderAction → Option ServerBrowsingPacket
  | .read _ => none
  | .yield packet => some packet

/-- What a read into a region leaves of the chunks. -/
def remaining (room : Nat) (chunk : Bytes) (rest : List Bytes) : List Bytes :=
  if chunk.length ≤ room then rest else chunk.drop room :: rest

/-- `packet_reader` over the chunks the socket delivers. A read takes of the next chunk what
its region holds; one into an empty region returns at once with nothing, for ever. -/
def packetReader (buffer : RecvBuffer) (chunks : List Bytes) : List ReaderAction × Ended :=
  if buffer.room = 0 then ([.read 0], .full)
  else match chunks with
    | [] => ([.read buffer.room], .eof)
    | chunk :: rest =>
        let filled := buffer.receive (chunk.take buffer.room) (List.length_take_le _ _)
        match scan filled.memory filled.available 0 with
        | (packets, none) => (.read buffer.room :: packets.map .yield, .stopped)
        | (packets, some offset) =>
            let (actions, ended) := packetReader (filled.compact offset)
              (remaining buffer.room chunk rest)
            (.read buffer.room :: packets.map .yield ++ actions, ended)
termination_by 2 * chunks.flatten.length + chunks.length
decreasing_by
  unfold remaining
  split
  · simp only [List.flatten_cons, List.length_append, List.length_cons]
    omega
  · simp only [List.flatten_cons, List.length_append, List.length_cons, List.length_drop]
    omega

theorem packets_filterMap (packets : List ServerBrowsingPacket) :
    (packets.map ReaderAction.yield).filterMap ReaderAction.packet? = packets := by
  rw [List.filterMap_map]
  exact List.filterMap_some

theorem packets_read {size : Nat} {packets : List ServerBrowsingPacket} :
    ReaderAction.read size ∉ packets.map ReaderAction.yield := by
  simp

theorem remaining_flatten (room : Nat) (chunk : Bytes) (rest : List Bytes) :
    chunk.take room ++ (remaining room chunk rest).flatten = (chunk :: rest).flatten := by
  unfold remaining
  split
  · rename_i fits
    rw [List.take_of_length_le fits, List.flatten_cons]
  · rw [List.flatten_cons, List.flatten_cons, ← List.append_assoc, List.take_append_drop]

/-- One read and the inner loop behind it, seen from the whole stream. -/
theorem scan_whole {buffer filled : RecvBuffer} {chunk : Bytes} {rest : List Bytes}
    {packets : List ServerBrowsingPacket} {left : Option Nat}
    (received : filled.contents = buffer.contents ++ chunk.take buffer.room)
    (scanned : scan filled.memory filled.available 0 = (packets, left)) :
    match left with
    | none => cut serverBrowsing (buffer.contents ++ (chunk :: rest).flatten) = (packets, true)
    | some offset =>
        let stream := (filled.compact offset).contents ++
          (remaining buffer.room chunk rest).flatten
        serverBrowsing.front (filled.compact offset).contents = .incomplete ∧
          cut serverBrowsing (buffer.contents ++ (chunk :: rest).flatten) =
            (packets ++ (cut serverBrowsing stream).1, (cut serverBrowsing stream).2) := by
  have step := scan_cut filled.size (filled.size ▸ filled.inside) (Nat.zero_le filled.available)
    (remaining buffer.room chunk rest).flatten
  have whole : (filled.memory.take filled.available).drop 0 ++
      (remaining buffer.room chunk rest).flatten =
        buffer.contents ++ (chunk :: rest).flatten := by
    rw [List.drop_zero, ← RecvBuffer.contents, received, List.append_assoc, remaining_flatten]
  rw [scanned, whole] at step
  cases left with
  | none => exact step
  | some offset =>
      dsimp only
      rw [RecvBuffer.compact_contents]
      exact step.2

/-- A reader whose buffer holds less than a packet, and what it will do. -/
theorem packetReader_from (buffer : RecvBuffer) (chunks : List Bytes)
    (blocked : serverBrowsing.front buffer.contents = .incomplete) :
    (packetReader buffer chunks).1.filterMap ReaderAction.packet? =
        (cut serverBrowsing (buffer.contents ++ chunks.flatten)).1 ∧
      (packetReader buffer chunks).2 =
        (if (cut serverBrowsing (buffer.contents ++ chunks.flatten)).2 then .stopped else .eof) ∧
      ∀ size, .read size ∈ (packetReader buffer chunks).1 → 0 < size := by
  fun_induction packetReader buffer chunks with
  | case1 buffer chunks noRoom =>
      have full : gsRecvBufferSize ≤ buffer.contents.length := by
        rw [buffer.contents_length]
        exact Nat.le_of_sub_eq_zero noRoom
      exact absurd blocked (serverBrowsing_shows full)
  | case2 buffer room =>
      rw [List.flatten_nil, List.append_nil, cut_incomplete blocked]
      refine ⟨rfl, rfl, fun size mem => ?_⟩
      cases List.mem_singleton.mp mem
      exact Nat.pos_of_ne_zero room
  | case3 buffer room chunk rest filled packets scanned =>
      have step := @scan_whole buffer filled chunk rest _ _ (RecvBuffer.receive_contents _) scanned
      dsimp only at step
      rw [step, List.filterMap_cons, ReaderAction.packet?, packets_filterMap]
      refine ⟨rfl, rfl, fun size mem => ?_⟩
      rcases List.mem_cons.mp mem with this' | none
      · cases this'
        exact Nat.pos_of_ne_zero room
      · exact absurd none packets_read
  | case4 buffer room chunk rest filled packets offset scanned actions ended later ih =>
      obtain ⟨blocked', step⟩ := @scan_whole buffer filled chunk rest _ _
        (RecvBuffer.receive_contents _) scanned
      obtain ⟨yields, ends, reads⟩ := ih blocked'
      rw [later] at yields ends reads
      rw [step, List.cons_append, List.filterMap_cons, ReaderAction.packet?, List.filterMap_append,
        packets_filterMap]
      dsimp only at yields ends reads ⊢
      refine ⟨by rw [yields], ends, fun size mem => ?_⟩
      rcases List.mem_cons.mp mem with this' | other
      · cases this'
        exact Nat.pos_of_ne_zero room
      · rcases List.mem_append.mp other with none | later
        · exact absurd none packets_read
        · exact reads size later

/-- **Framing does not depend on the chunks**: the reader yields the packets of the whole
stream, ends where the stream has what ends it, and never reads into nothing. -/
theorem packetReader_eq_cut (chunks : List Bytes) :
    (packetReader .fresh chunks).1.filterMap ReaderAction.packet? =
        (cut serverBrowsing chunks.flatten).1 ∧
      (packetReader .fresh chunks).2 =
        (if (cut serverBrowsing chunks.flatten).2 then .stopped else .eof) ∧
      ∀ size, .read size ∈ (packetReader .fresh chunks).1 → 0 < size :=
  packetReader_from .fresh chunks rfl

end BrowserClient

end GamespyEmulator
