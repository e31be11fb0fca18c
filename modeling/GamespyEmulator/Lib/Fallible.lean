import Mathlib

/-!
Fallible computations: when an `Except` value returns, and what a returned value
says about the parts it was computed from.
-/

namespace Fallible

variable {E A B : Type} {x : Except E A}

/-- The computation returns a value. -/
def Returns (x : Except E A) : Prop := ∃ a, x = .ok a

@[simp] theorem returns_ok (a : A) : Returns (.ok a : Except E A) := ⟨a, rfl⟩

@[simp] theorem returns_pure (a : A) : Returns (pure a : Except E A) := ⟨a, rfl⟩

@[simp] theorem not_returns_error (e : E) : ¬ Returns (.error e : Except E A) := by
  rintro ⟨a, absent⟩
  cases absent

instance (x : Except E A) : Decidable (Returns x) :=
  match x with
  | .ok a => .isTrue (returns_ok a)
  | .error e => .isFalse (not_returns_error e)

theorem bind_eq_ok {f : A → Except E B} {b : B} :
    (x >>= f) = .ok b ↔ ∃ a, x = .ok a ∧ f a = .ok b := by
  cases x with
  | error e => simp [bind, Except.bind]
  | ok a => simp [bind, Except.bind]

theorem map_eq_ok {f : A → B} {b : B} : x.map f = .ok b ↔ ∃ a, x = .ok a ∧ f a = b := by
  cases x with
  | error e => simp [Except.map]
  | ok a => simp [Except.map]

@[simp] theorem returns_map {f : A → B} : Returns (x.map f) ↔ Returns x := by
  simp [Returns, map_eq_ok]

/-- A sequence returns when its first part does and what follows does, whatever
value it is given: the shape in which later parts do not depend on earlier ones. -/
theorem returns_bind {P : Prop} {f : A → Except E B} (rest : ∀ a, x = .ok a → (Returns (f a) ↔ P)) :
    Returns (x >>= f) ↔ Returns x ∧ P := by
  cases x with
  | error e => simp [bind, Except.bind]
  | ok a => simpa [bind, Except.bind] using rest a rfl

end Fallible
