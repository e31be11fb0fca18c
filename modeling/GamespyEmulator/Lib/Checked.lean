import Mathlib

/-!
Signed 32-bit arithmetic in which overflow has no result. A result has the value of the
operation on integers, and there is one exactly when that value fits.
-/

namespace Checked

/-- The range of `std::int32_t`. -/
def FitsInt32 (n : Int) : Prop := -2 ^ 31 ≤ n ∧ n < 2 ^ 31

instance (n : Int) : Decidable (FitsInt32 n) := inferInstanceAs (Decidable (_ ∧ _))

/-- The 32-bit number of a value, if the value fits. -/
def int32 (n : Int) : Option Int32 := if FitsInt32 n then some (.ofInt n) else none

def neg (a : Int32) : Option Int32 := int32 (-a.toInt)

def add (a b : Int32) : Option Int32 := int32 (a.toInt + b.toInt)

def sub (a b : Int32) : Option Int32 := int32 (a.toInt - b.toInt)

/-- `std::abs`. -/
def abs (a : Int32) : Option Int32 := int32 |a.toInt|

variable {n : Int} {a b c : Int32}

theorem fits_toInt (a : Int32) : FitsInt32 a.toInt := by
  have low := a.minValue_le_toInt
  have high := a.toInt_lt
  rw [Int32.toInt_minValue] at low
  exact ⟨low, high⟩

theorem int32_fits (fits : FitsInt32 n) : int32 n = some (.ofInt n) := if_pos fits

@[simp] theorem int32_eq_none : int32 n = none ↔ ¬ FitsInt32 n := by
  unfold int32
  split <;> simp [*]

@[simp] theorem int32_eq_some : int32 n = some a ↔ a.toInt = n := by
  unfold int32
  split
  · rename_i fits
    have exact' : (Int32.ofInt n).toInt = n := Int32.toInt_ofInt_of_le fits.1 fits.2
    rw [Option.some_inj]
    exact ⟨fun eq => eq ▸ exact', fun eq => Int32.toInt.inj (exact'.trans eq.symm)⟩
  · rename_i far
    exact iff_of_false (fun absent => nomatch absent) fun eq => far (eq ▸ fits_toInt a)

theorem neg_eq_some : neg a = some c ↔ c.toInt = -a.toInt := int32_eq_some

theorem add_eq_some : add a b = some c ↔ c.toInt = a.toInt + b.toInt := int32_eq_some

theorem sub_eq_some : sub a b = some c ↔ c.toInt = a.toInt - b.toInt := int32_eq_some

theorem abs_eq_some : abs a = some c ↔ c.toInt = |a.toInt| := int32_eq_some

/-- Only the least number has no negation. -/
theorem neg_eq_none : neg a = none ↔ a.toInt = -2 ^ 31 := by
  have range := fits_toInt a
  rw [neg, int32_eq_none, FitsInt32]
  unfold FitsInt32 at range
  omega

end Checked
