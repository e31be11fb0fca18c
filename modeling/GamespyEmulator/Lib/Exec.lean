import Mathlib

/-!
Computations on a state that can fail and keep the state they failed in: how a sequence of
them runs, and what holds between the state before and the one it leaves.
-/

namespace Exec

variable {E S A B : Type}

/-- How a computation ends, and what it leaves. -/
def exec (action : ExceptT E (StateM S) A) (s : S) : Except E A × S := action.run.run s

variable (s : S) {first : ExceptT E (StateM S) A} {next : A → ExceptT E (StateM S) B}

theorem exec_bind (first : ExceptT E (StateM S) A) (next : A → ExceptT E (StateM S) B) :
    exec (first >>= next) s =
      match exec first s with
      | (.ok a, s) => exec (next a) s
      | (.error e, s) => (.error e, s) := by
  unfold exec
  rw [ExceptT.run_bind, StateT.run_bind]
  cases first.run.run s with
  | mk result s => cases result <;> rfl

@[simp] theorem exec_modify (f : S → S) :
    exec (modify f : ExceptT E (StateM S) PUnit) s = (.ok ⟨⟩, f s) := rfl

@[simp] theorem exec_get : exec (get : ExceptT E (StateM S) S) s = (.ok s, s) := rfl

/-- What a computation leaves stands in a relation to what it found. -/
def Leaves (R : S → S → Prop) (action : ExceptT E (StateM S) A) : Prop :=
  ∀ s, R s (exec action s).2

theorem Leaves.bind {R : S → S → Prop} (trans : ∀ {s t u}, R s t → R t u → R s u)
    (before : Leaves R first) (behind : ∀ a, Leaves R (next a)) : Leaves R (first >>= next) := by
  intro s
  have left := before s
  rw [exec_bind]
  cases ran : exec first s with
  | mk result t =>
      rw [ran] at left
      cases result with
      | error e => exact left
      | ok a => exact trans left (behind a t)

end Exec
