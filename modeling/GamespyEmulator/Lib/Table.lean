import Mathlib

/-!
Tables whose entries are moved around in place. `rotate` moves an entry along a list of
places, which may coincide in any way: it takes the entry out, fills each hole from the
next place, and puts the entry into the last one. No entry gets lost.
-/

namespace Table

variable {α : Type*} {n : Nat}

/-- Fill a hole from the next place on, and the last hole with what was kept. -/
def shift (kept : α) (table : Vector α n) (hole : Fin n) : List (Fin n) → Vector α n
  | [] => table.set hole kept
  | next :: rest => shift kept (table.set hole table[next]) next rest

/-- Move the entry at `place` along `places`. -/
def rotate (table : Vector α n) (place : Fin n) (places : List (Fin n)) : Vector α n :=
  shift table[place] table place places

/-- A hole that is filled from elsewhere leaves a hole there. -/
theorem set_set_perm (table : Vector α n) (hole next : Fin n) (kept : α) :
    ((table.set hole table[next]).set next kept).Perm (table.set hole kept) := by
  by_cases same : hole = next
  · subst same
    have unmoved : table.set hole table[hole] = table := Vector.set_getElem_self hole.isLt
    rw [unmoved]
  · have apart : hole.val ≠ next.val := fun eq => same (Fin.ext eq)
    have swapped : (table.set hole table[next]).set next kept =
        (table.set hole kept).swap hole next := by
      ext k inside
      simp only [Vector.getElem_swap, Vector.getElem_set, Fin.getElem_fin]
      split_ifs <;> first | rfl | omega
    rw [swapped]
    exact Vector.swap_perm hole.isLt next.isLt

theorem shift_perm (kept : α) (table : Vector α n) (hole : Fin n) (places : List (Fin n)) :
    (shift kept table hole places).Perm (table.set hole kept) := by
  induction places generalizing table hole with
  | nil => exact .refl _
  | cons next rest ih => exact (ih _ next).trans (set_set_perm table hole next kept)

/-- **A rotation keeps the entries.** -/
theorem rotate_perm (table : Vector α n) (place : Fin n) (places : List (Fin n)) :
    (rotate table place places).Perm table := by
  have moved := shift_perm table[place] table place places
  have unmoved : table.set place table[place] = table := Vector.set_getElem_self place.isLt
  rwa [unmoved] at moved

end Table
