import GamespyEmulator.Lib.Framing
import GamespyEmulator.Lib.Wire

/-!
The stats link of `stats.client.cpp`: messages XORed with a key, each behind it the plain
terminator, and the reader that searches the terminator in what is still encoded.

`encoded_clean` is why that works: no encoded message contains the terminator, at any of
the nine phases of the key, nor does one run into the terminator that follows it.
-/

namespace GamespyEmulator

open Wire Framing

/-! ### The encoding -/

/-- `xor_types::GameSpy3D`. -/
def gameSpy3D : Bytes := ascii "GameSpy3D"

/-- The loop of `utils::gs_xor` from index `i`. -/
def gsXorFrom (gsxor : Bytes) : Nat → Bytes → Bytes
  | _, [] => []
  | i, c :: rest => (c ^^^ gsxor.getD (i % gsxor.length) 0) :: gsXorFrom gsxor (i + 1) rest

/-- `utils::gs_xor`. -/
def gsXor (gsxor message : Bytes) : Bytes := gsXorFrom gsxor 0 message

theorem gsXorFrom_length (gsxor : Bytes) (i : Nat) (message : Bytes) :
    (gsXorFrom gsxor i message).length = message.length := by
  induction message generalizing i with
  | nil => rfl
  | cons c rest ih => simp [gsXorFrom, ih]

theorem gsXorFrom_getElem? (gsxor : Bytes) (i p : Nat) (message : Bytes) :
    (gsXorFrom gsxor i message)[p]? =
      message[p]?.map fun c => c ^^^ gsxor.getD ((i + p) % gsxor.length) 0 := by
  induction message generalizing i p with
  | nil => rfl
  | cons c rest ih =>
      cases p with
      | zero => simp [gsXorFrom]
      | succ p =>
          rw [gsXorFrom, List.getElem?_cons_succ, List.getElem?_cons_succ, ih]
          have same : i + 1 + p = i + (p + 1) := by omega
          rw [same]

/-- Decoding is encoding again. -/
theorem gsXor_gsXor (gsxor message : Bytes) : gsXor gsxor (gsXor gsxor message) = message := by
  apply List.ext_getElem?
  intro p
  rw [gsXor, gsXor, gsXorFrom_getElem?, gsXorFrom_getElem?, Option.map_map]
  have undone (key : UInt8) : ((fun c => c ^^^ key) ∘ fun c : UInt8 => c ^^^ key) = id := by
    funext c
    simp
  rw [undone, Option.map_id, id]

/-! ### The reader -/

/-- `packetEnd`. -/
def packetEnd : Bytes := ascii "\\final\\"

theorem packetEnd_ne_nil : packetEnd ≠ [] := by decide

def maxSnapshotBufferSize : Nat := 512 * 1024

/-- What the reader yields for the bytes it read up to the terminator: it decodes in place
and leaves the terminator. -/
def yielded (encoded : Bytes) : Bytes := gsXor gameSpy3D encoded ++ packetEnd

/-- `packet_reader` over the chunks the socket delivers. `async_read_until` looks for the
terminator in the buffer first, fails when the buffer is full without it, and else reads
what there is room for. -/
def packetReader (chunks : List Bytes) : List Bytes × Framing.Ended :=
  read (delimited packetEnd_ne_nil yielded) maxSnapshotBufferSize [] chunks

/-- A message on the wire, as `StatsClient::SendPacket` and the games write it. -/
def encodePacket (message : Bytes) : Bytes := gsXor gameSpy3D message ++ packetEnd

/-! ### No terminator in a message -/

/-- The characters of a message: text, and what stands for a backslash in it. -/
def IsMessage (message : Bytes) : Prop := ∀ c ∈ message, c = 1 ∨ 32 ≤ c

/-- At each phase of the key, one of the first five bytes of the terminator decodes to a
control character other than 0x01. -/
theorem packetEnd_undecodable : ∀ phase < 9, ∃ j < 5,
    let c := packetEnd.getD j 0 ^^^ gameSpy3D.getD ((phase + j) % 9) 0
    c ≠ 1 ∧ c < 32 := by decide

/-- A terminator does not begin inside the first five bytes behind its own first. -/
theorem packetEnd_border : ∀ w < 6, 0 < w → packetEnd[w]? ≠ packetEnd[0]? := by decide

theorem encoded_clean {message : Bytes} (isMessage : IsMessage message) :
    Clean packetEnd (gsXor gameSpy3D message) := by
  intro p inside occurs
  have here : ∀ j < packetEnd.length,
      (gsXor gameSpy3D message ++ packetEnd)[p + j]? = packetEnd[j]? := by
    intro j small
    obtain ⟨rest, eq⟩ := occurs
    rw [← List.getElem?_drop, ← eq, List.getElem?_append_left small]
  have length : packetEnd.length = 7 := by decide
  by_cases far : p + 5 ≤ (gsXor gameSpy3D message).length
  · obtain ⟨j, small, other, control⟩ := packetEnd_undecodable (p % 9) (Nat.mod_lt _ (by decide))
    have encoded := here j (by omega)
    rw [List.getElem?_append_left (by omega), gsXor, gsXorFrom_getElem?] at encoded
    have last : packetEnd[j]? = some (packetEnd.getD j 0) := by
      rw [List.getD_eq_getElem?_getD, List.getElem?_eq_getElem (by omega), Option.getD_some]
    obtain ⟨c, found, shown⟩ := Option.map_eq_some_iff.mp (encoded.trans last)
    have phase : (0 + (p + j)) % gameSpy3D.length = (p % 9 + j) % 9 := by
      have nine : gameSpy3D.length = 9 := by decide
      rw [nine]
      omega
    have decoded : c = packetEnd.getD j 0 ^^^ gameSpy3D.getD ((p % 9 + j) % 9) 0 := by
      rw [← shown, phase]
      simp
    rcases isMessage c (List.mem_of_getElem? found) with escape | text
    · exact other (decoded ▸ escape)
    · rw [← decoded] at control
      exact absurd text (UInt8.not_le.mpr control)
  · -- The window reaches the real terminator, whose first byte would stand inside it.
    have back := here ((gsXor gameSpy3D message).length - p) (by omega)
    have behind : p + ((gsXor gameSpy3D message).length - p) =
        (gsXor gameSpy3D message).length := by omega
    rw [behind, List.getElem?_append_right (Nat.le_refl _), Nat.sub_self] at back
    exact packetEnd_border _ (by omega) (by omega) back.symm

/-! ### Messages over the link -/

/-- A message the link carries: its characters, and room for it in the reader's buffer. -/
structure LinkMessage where
  bytes : Bytes
  isMessage : IsMessage bytes
  fits : bytes.length + packetEnd.length ≤ maxSnapshotBufferSize

/-- **However TCP splits the stream, the reader yields the messages in order.** -/
theorem packetReader_encodePacket (messages : List LinkMessage) (chunks : List Bytes)
    (stream : chunks.flatten = messages.flatMap fun message => encodePacket message.bytes) :
    packetReader chunks = (messages.map fun message => message.bytes ++ packetEnd, .eof) := by
  have bodies : (messages.flatMap fun message => encodePacket message.bytes) =
      (messages.map fun message => gsXor gameSpy3D message.bytes).flatMap
        fun body => body ++ packetEnd := by
    rw [List.flatMap_map]
    rfl
  obtain ⟨cuts, fits⟩ := @cut_delimited UInt8 Bytes _ _ packetEnd packetEnd_ne_nil yielded
    maxSnapshotBufferSize (messages.map fun message => gsXor gameSpy3D message.bytes) (by
      intro body mem
      obtain ⟨message, -, rfl⟩ := List.mem_map.mp mem
      exact encoded_clean message.isMessage) (by
      intro body mem
      obtain ⟨message, -, rfl⟩ := List.mem_map.mp mem
      rw [gsXor, gsXorFrom_length]
      exact message.fits) (by decide)
  rw [← bodies, ← stream] at cuts fits
  rw [packetReader, read_eq_cut [] chunks fits, List.nil_append, cuts, List.map_map]
  refine Prod.ext (List.map_congr_left fun message _ => ?_) rfl
  rw [Function.comp_apply, yielded, gsXor_gsXor]

end GamespyEmulator
