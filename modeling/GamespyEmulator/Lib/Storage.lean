import Mathlib

/-!
Growable arrays in memory. The elements stand in one block that has room for a number of
them; a reference names a block and a place in it. An element that is added to a full
block moves all of them to a new block, and references into the old one find nothing.
-/

namespace Storage

/-- The room of a new block, by that of the old one. -/
structure Growth where
  next : Nat → Nat
  grows : ∀ n, n < next n

/-- A growable array. Blocks are numbered in the order in which they are taken. -/
structure Growable (α : Type*) where
  block : Nat
  capacity : Nat
  elements : List α
  fits : elements.length ≤ capacity

/-- A pointer to an element, or a view into it. -/
structure Ref where
  block : Nat
  place : Nat
deriving DecidableEq, Repr

namespace Growable

variable {α : Type*}

/-- The element a reference refers to, if there is one. -/
def deref (array : Growable α) (ref : Ref) : Option α :=
  if ref.block = array.block then array.elements[ref.place]? else none

def ref (array : Growable α) (place : Nat) : Ref := ⟨array.block, place⟩

/-- `emplace_back`. -/
def push (growth : Growth) (array : Growable α) (a : α) : Growable α :=
  if room : array.elements.length < array.capacity then
    { array with
      elements := array.elements ++ [a]
      fits := by simpa using room }
  else
    { block := array.block + 1
      capacity := growth.next array.capacity
      elements := array.elements ++ [a]
      fits := by
        have grows := growth.grows array.capacity
        have fits := array.fits
        rw [List.length_append, List.length_singleton]
        omega }

/-- The elements there can be before references to them are lost. Without a block there
are no references, and the first block may be taken. -/
def room (growth : Growth) (array : Growable α) : Nat :=
  if array.capacity = 0 then growth.next 0 else array.capacity

/-- The room of an array without a block behind `n` pushes. -/
def capacityAfter (growth : Growth) : Nat → Nat
  | 0 => 0
  | n + 1 =>
      if n < capacityAfter growth n then capacityAfter growth n
      else growth.next (capacityAfter growth n)

/-! ### References -/

@[simp] theorem deref_ref (array : Growable α) (place : Nat) :
    array.deref (array.ref place) = array.elements[place]? :=
  if_pos rfl

theorem deref_older {array : Growable α} {ref : Ref} (older : ref.block < array.block) :
    array.deref ref = none :=
  if_neg older.ne

section Push

variable (growth : Growth) (array : Growable α) (a : α)

@[simp] theorem push_elements : (array.push growth a).elements = array.elements ++ [a] := by
  unfold push
  split <;> rfl

theorem push_block_le : array.block ≤ (array.push growth a).block := by
  unfold push
  split
  · exact le_rfl
  · exact Nat.le_succ _

variable {growth array a}

/-- With room in the block, references stay what they are. -/
theorem push_room (room : array.elements.length < array.capacity) :
    (array.push growth a).ref = array.ref ∧ (array.push growth a).capacity = array.capacity := by
  unfold push
  rw [dif_pos room]
  exact ⟨rfl, rfl⟩

/-- Without, the block is left behind. -/
theorem push_full (full : ¬ array.elements.length < array.capacity) :
    (array.push growth a).block = array.block + 1 ∧
      (array.push growth a).capacity = growth.next array.capacity := by
  unfold push
  rw [dif_neg full]
  exact ⟨rfl, rfl⟩

theorem push_capacityAfter
    (capacity : array.capacity = capacityAfter growth array.elements.length) :
    (array.push growth a).capacity = capacityAfter growth (array.elements.length + 1) := by
  rw [capacityAfter, ← capacity]
  by_cases room : array.elements.length < array.capacity
  · rw [if_pos room, (push_room room).2]
  · rw [if_neg room, (push_full room).2]

theorem length_le_room : array.elements.length ≤ array.room growth := by
  have fits := array.fits
  unfold room
  split
  · omega
  · exact fits

/-- An element that is added to an array with room leaves the room as it was. -/
theorem push_room_same (room : array.elements.length < array.room growth) :
    (array.push growth a).room growth = array.room growth := by
  have grows := growth.grows 0
  unfold Growable.room at room ⊢
  by_cases empty : array.capacity = 0
  · have full : ¬ array.elements.length < array.capacity := by omega
    rw [(push_full full).2, if_pos empty, empty, if_neg (by omega)]
  · rw [if_neg empty] at room ⊢
    rw [(push_room room).2, if_neg empty]

end Push

end Growable

end Storage
