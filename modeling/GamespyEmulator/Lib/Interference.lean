import GamespyEmulator.Lib.Coroutine

/-!
A coroutine among others. While it is suspended, the state it works on moves on, and then
its operation is served there or fails. `Along` says how such a coroutine can end, and
each way a coroutine goes on has its rule.
-/

namespace Coroutine

variable {S : Setting} {A T : Type}

/-- What surrounds a coroutine: how the state moves on without it, and how an operation is
served, with no result when it fails. -/
structure Surrounding (S : Setting) (T : Type) where
  moves : T → T → Prop
  serves : T → (operation : S.Operation) → T → Option (S.Result operation) → Prop

/-- A coroutine that begins in one state ends in another one. -/
inductive Along (around : Surrounding S T) : T → Coroutine S A → T → Ended S A → Prop where
  | ret (state : T) (value : A) : Along around state (.ret value) state (.returned value)
  | fault (state : T) (fault : S.Fault) : Along around state (.fault fault) state (.fault fault)
  | look {state state' : T} {resume : S.World → Coroutine S A} {ended : Ended S A}
      (world : S.World) (rest : Along around state (resume world) state' ended) :
      Along around state (.look resume) state' ended
  | served {state moved answered state' : T} {operation : S.Operation}
      {resume : S.Result operation → Coroutine S A} {ended : Ended S A}
      (result : S.Result operation) (moves : around.moves state moved)
      (serves : around.serves moved operation answered (some result))
      (rest : Along around answered (resume result) state' ended) :
      Along around state (.await operation resume) state' ended
  | failed {state moved answered : T} {operation : S.Operation}
      {resume : S.Result operation → Coroutine S A}
      (moves : around.moves state moved) (serves : around.serves moved operation answered none) :
      Along around state (.await operation resume) answered .failed

namespace Along

variable {around : Surrounding S T} {state state' : T} {ended : Ended S A}

theorem of_ret {value : A} (along : Along around state (.ret value) state' ended) :
    state' = state ∧ ended = .returned value := by
  cases along
  exact ⟨rfl, rfl⟩

theorem of_fault {e : S.Fault} (along : Along around state (.fault e) state' ended) :
    state' = state ∧ ended = .fault e := by
  cases along
  exact ⟨rfl, rfl⟩

theorem of_look {resume : S.World → Coroutine S A}
    (along : Along around state (.look resume) state' ended) :
    ∃ world, Along around state (resume world) state' ended := by
  cases along with
  | look world rest => exact ⟨world, rest⟩

/-- An operation fails, or is served and followed by the rest. -/
theorem of_await {operation : S.Operation} {resume : S.Result operation → Coroutine S A}
    (along : Along around state (.await operation resume) state' ended) :
    ∃ moved, around.moves state moved ∧
      ((around.serves moved operation state' none ∧ ended = .failed) ∨
        ∃ answered result, around.serves moved operation answered (some result) ∧
          Along around answered (resume result) state' ended) := by
  cases along with
  | served result moves serves rest => exact ⟨_, moves, .inr ⟨_, result, serves, rest⟩⟩
  | failed moves serves => exact ⟨_, moves, .inl ⟨serves, rfl⟩⟩

end Along

end Coroutine
