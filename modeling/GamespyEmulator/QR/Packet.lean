import GamespyEmulator.Lib.OrdMap
import GamespyEmulator.Lib.Wire

/-!
The query-and-reporting packets of `qr.cpp`: the packet frame, and the three
nested parsers of a heartbeat (key/value map, player table, team table) that
hand a moving position on to each other.

A `std::span` is the part of an array it views. The array's bytes after the view
stay readable through `data()`, so `Span` keeps them.
-/

namespace GamespyEmulator

open Wire

/-- A view of the first `size` bytes of `memory`, which reaches from the first
viewed byte to the end of the array. -/
structure Span where
  memory : Bytes
  size : Nat
  size_le : size ≤ memory.length
deriving DecidableEq, Repr

namespace Span

/-- A view of a whole array. -/
def whole (bytes : Bytes) : Span := ⟨bytes, bytes.length, Nat.le_refl _⟩

def bytes (s : Span) : Bytes := s.memory.take s.size

/-- `subspan(n)`. -/
def subspan (s : Span) (n : Nat) : Span :=
  ⟨s.memory.drop n, s.size - n, by have := s.size_le; simp only [List.length_drop]; omega⟩

@[simp] theorem bytes_whole (bytes : Bytes) : (whole bytes).bytes = bytes := by
  simp [Span.bytes, whole]

@[simp] theorem bytes_length (s : Span) : s.bytes.length = s.size := by
  simp [bytes, s.size_le]

@[simp] theorem bytes_subspan (s : Span) (n : Nat) : (s.subspan n).bytes = s.bytes.drop n := by
  simp [bytes, subspan, List.drop_take]

/-- The C string at `data()` is the view's own when the view holds a NUL. -/
theorem cstr_memory {s : Span} (h : 0 ∈ s.bytes) : cstr s.memory = cstr s.bytes := by
  conv_lhs => rw [← List.take_append_drop s.size s.memory]
  exact cstr_append_of_mem h _

end Span

/-- `QRPacket::Type`; every byte up to `prequery_ip_verify` is one. -/
inductive PacketType where
  | query | challenge | echo | heartbeat | adderror | echoResponse | clientMessage
  | clientMessageAck | keepalive | prequeryIpVerify
deriving DecidableEq, Repr

def PacketType.ofByte : UInt8 → Option PacketType
  | 0 => some .query
  | 1 => some .challenge
  | 2 => some .echo
  | 3 => some .heartbeat
  | 4 => some .adderror
  | 5 => some .echoResponse
  | 6 => some .clientMessage
  | 7 => some .clientMessageAck
  | 8 => some .keepalive
  | 9 => some .prequeryIpVerify
  | _ => none

/-- `QRPacket::ParseError`. -/
inductive QRError where
  | tooSmall
  | unexpectedEnd
  | unknownType
deriving DecidableEq, Repr

structure QRPacket where
  type : PacketType
  instanceKey : Bytes
  data : Span
deriving DecidableEq, Repr

/-- `QRPacket::Parse`. -/
def QRPacket.parse (buffer : Span) : Except QRError QRPacket :=
  match buffer.bytes with
  | typeByte :: k₀ :: k₁ :: k₂ :: k₃ :: _ =>
      match PacketType.ofByte typeByte with
      | none => .error .unknownType
      | some type =>
          let data := buffer.subspan 5
          if data.bytes.getLast?.any (· ≠ 0) then .error .unexpectedEnd
          else .ok ⟨type, [k₀, k₁, k₂, k₃], data⟩
  | _ => .error .tooSmall

/-- Accepted datagrams carry no data or data that ends in a NUL. -/
theorem QRPacket.parse_endsNul {buffer : Span} {packet : QRPacket}
    (framed : QRPacket.parse buffer = .ok packet) : EndsNul packet.data.bytes := by
  unfold QRPacket.parse at framed
  split at framed
  · split at framed
    · cases framed
    · dsimp only at framed
      split at framed
      · cases framed
      · rename_i closed
        cases framed
        cases last : (buffer.subspan 5).bytes.getLast? with
        | none => exact .inl (List.getLast?_eq_none_iff.mp last)
        | some b =>
            rw [last] at closed
            exact .inr (last.trans (by simpa using closed))
  · cases framed

/-- Only the viewed bytes decide whether a datagram is a packet. -/
theorem QRPacket.parse_congr {buffer other : Span} {packet : QRPacket}
    (same : other.bytes = buffer.bytes) (framed : QRPacket.parse buffer = .ok packet) :
    QRPacket.parse other = .ok { packet with data := other.subspan 5 } := by
  unfold QRPacket.parse at framed ⊢
  rw [same]
  split at framed
  · split at framed
    · cases framed
    · dsimp only at framed ⊢
      rw [Span.bytes_subspan] at framed ⊢
      rw [same]
      split at framed
      · cases framed
      · rename_i closed
        rw [if_neg closed]
        cases framed
        rfl
  · cases framed

theorem QRPacket.parse_data {buffer : Span} {packet : QRPacket}
    (framed : QRPacket.parse buffer = .ok packet) : packet.data = buffer.subspan 5 := by
  have again := framed.symm.trans (parse_congr rfl framed)
  exact congrArg QRPacket.data (Except.ok.inj again)

/-- Equal bytes give data of equal bytes. -/
theorem QRPacket.data_bytes {buffer other : Span} {packet : QRPacket}
    (same : other.bytes = buffer.bytes) (framed : QRPacket.parse buffer = .ok packet) :
    (other.subspan 5).bytes = packet.data.bytes := by
  rw [parse_data framed, Span.bytes_subspan, Span.bytes_subspan, same]

/-- Data that is not empty has the NUL it ends with. -/
theorem QRPacket.nul_mem_data {buffer : Span} {packet : QRPacket}
    (framed : QRPacket.parse buffer = .ok packet) (body : packet.data.size ≠ 0) :
    (0 : UInt8) ∈ packet.data.bytes := by
  rcases parse_endsNul framed with empty | last
  · rw [← Span.bytes_length, empty] at body
    exact absurd rfl body
  · exact List.mem_of_getLast? last

/-! ### The key/value map -/

/-- The loop of `QRMap::Parse`: `key` is the key still waiting for its value, empty
when none is. The map ends at an empty key or, without one, at the end of the
data. -/
def QRMap.loop (data : OrdMap Bytes Bytes) (key pos : Bytes) :
    Except QRError (OrdMap Bytes Bytes × Bytes) :=
  if pos.isEmpty then .ok (data, pos)
  else match _h : splitNul pos with
    | none => .error .tooSmall
    | some (str, rest) =>
        if key.isEmpty then
          if str.isEmpty then .ok (data, rest) else QRMap.loop data str rest
        else QRMap.loop (data.insertIfNew key str) [] rest
termination_by pos.length
decreasing_by all_goals exact splitNul_length_lt _h

/-- `QRMap::Parse`: the map and the position behind it. -/
def QRMap.parse (pos : Bytes) : Except QRError (OrdMap Bytes Bytes × Bytes) :=
  if pos.isEmpty then .error .tooSmall else QRMap.loop ∅ [] pos

/-! ### Player and team tables -/

/-- `QRTable::row_t`. -/
abbrev Row := List Bytes

structure QRTable where
  header : Row
  rows : List Row
deriving DecidableEq, Repr

namespace QRTable

/-- The size of `rows.back()`; zero without a row. -/
def lastSize (rows : List Row) : Nat := (rows.getLastD []).length

/-- Append a cell to the last row, or to a new one when there is none or the last
one has `width` cells. -/
def pushCell (width : Nat) (rows : List Row) (cell : Bytes) : List Row :=
  if rows.isEmpty ∨ lastSize rows = width then rows ++ [[cell]]
  else rows.dropLast ++ [rows.getLastD [] ++ [cell]]

/-- The loop of `QRTable::Parse`. A string is a header while `headersParsed` is
unset and it ends in `headerEnd`; otherwise an empty string closes the headers
and any other string is a cell, whether or not the headers are closed. -/
def loop (headerEnd : Bytes) (count : UInt16) (headersParsed : Bool) (headers : Row)
    (rows : List Row) (pos : Bytes) : Except QRError (Row × List Row × Bytes) :=
  if pos.isEmpty then .ok (headers, rows, pos)
  else match _h : splitNul pos with
    | none => .error .tooSmall
    | some (column, rest) =>
        if !headersParsed && headerEnd.isSuffixOf column then
          loop headerEnd count headersParsed (headers ++ [column]) rows rest
        else if headers.isEmpty then .error .unexpectedEnd
        else if column.isEmpty then
          if count = 0 then .ok (headers, rows, rest)
          else loop headerEnd count true headers rows rest
        else
          let rows' := pushCell headers.length rows column
          if rows'.length = count.toNat ∧ lastSize rows' = headers.length then
            .ok (headers, rows', rest)
          else loop headerEnd count headersParsed headers rows' rest
termination_by pos.length
decreasing_by all_goals exact splitNul_length_lt _h

/-- `QRTable::Parse`: the table and the position behind it. -/
def parse (headerEnd pos : Bytes) : Except QRError (QRTable × Bytes) :=
  match pos with
  | hi :: lo :: pos =>
      let count := readBe16 hi lo
      match loop headerEnd count false [] [] pos with
      | .error e => .error e
      | .ok (headers, rows, pos) =>
          if rows.length < count.toNat ∨ (rows ≠ [] ∧ lastSize rows ≠ headers.length) then
            .error .tooSmall
          else .ok (⟨headers, rows⟩, pos)
  | _ => .error .tooSmall

end QRTable

/-! ### Heartbeats -/

structure QRHeartbeatPacket where
  type : PacketType
  instanceKey : Bytes
  serverData : OrdMap Bytes Bytes
  playerKeys : Row := []
  playerValues : List Row := []
  teamKeys : Row := []
  teamValues : List Row := []
deriving DecidableEq

/-- The player table's header suffix `_`. -/
def playerSuffix : Bytes := ascii "_"

/-- The team table's header suffix `_t`. -/
def teamSuffix : Bytes := ascii "_t"

/-- `QRHeartbeatPacket::Parse`. -/
def QRHeartbeatPacket.parse (packet : QRPacket) : Except QRError QRHeartbeatPacket :=
  let stop := packet.data.size
  match QRMap.parse packet.data.bytes with
  | .error _ => .error .tooSmall
  | .ok (map, pos) =>
      match QRTable.parse playerSuffix pos with
      | .ok (players, pos) =>
          match QRTable.parse teamSuffix pos with
          | .ok (teams, _) =>
              .ok ⟨packet.type, packet.instanceKey, map, players.header, players.rows,
                teams.header, teams.rows⟩
          | .error _ => .error .tooSmall
      | .error _ =>
          -- The source compares `end`, which no parser moves, not the position.
          if stop = packet.data.size then
            .ok { type := packet.type, instanceKey := packet.instanceKey, serverData := map }
          else .error .tooSmall

end GamespyEmulator
