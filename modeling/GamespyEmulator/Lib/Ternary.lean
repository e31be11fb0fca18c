import Mathlib

/-!
Conditions over atoms that may be unknown. A connective is known as soon as the known part
of its arguments decides it; a condition picks what makes it true.
-/

namespace Ternary

/-- A combination of atoms. -/
inductive Formula (A : Type*) where
  | atom (a : A)
  | and (p q : Formula A)
  | or (p q : Formula A)
  | not (p : Formula A)

def both : Option Bool → Option Bool → Option Bool
  | some false, _ => some false
  | _, some false => some false
  | some true, some true => some true
  | _, _ => none

def either : Option Bool → Option Bool → Option Bool
  | some true, _ => some true
  | _, some true => some true
  | some false, some false => some false
  | _, _ => none

namespace Formula

variable {A : Type*}

def eval (value : A → Option Bool) : Formula A → Option Bool
  | atom a => value a
  | and p q => both (p.eval value) (q.eval value)
  | or p q => either (p.eval value) (q.eval value)
  | not p => (p.eval value).map (!·)

/-- The condition is true, not false and not unknown. -/
def met (value : A → Option Bool) (p : Formula A) : Bool := p.eval value == some true

def atoms : Formula A → List A
  | atom a => [a]
  | and p q => p.atoms ++ q.atoms
  | or p q => p.atoms ++ q.atoms
  | not p => p.atoms

/-- Only the atoms decide. -/
theorem eval_congr {value value' : A → Option Bool} {p : Formula A}
    (same : ∀ a ∈ p.atoms, value a = value' a) : p.eval value = p.eval value' := by
  induction p with
  | atom a => exact same a (List.mem_singleton.mpr rfl)
  | not p ih => rw [eval, eval, ih same]
  | and p q ihp ihq =>
      obtain ⟨left, right⟩ := List.forall_mem_append.mp same
      rw [eval, eval, ihp left, ihq right]
  | or p q ihp ihq =>
      obtain ⟨left, right⟩ := List.forall_mem_append.mp same
      rw [eval, eval, ihp left, ihq right]

theorem met_congr {value value' : A → Option Bool} {p : Formula A}
    (same : ∀ a ∈ p.atoms, value a = value' a) : p.met value = p.met value' := by
  rw [met, met, eval_congr same]

end Formula

end Ternary
