import Mathlib

/-!
Runs of a deterministic event-driven system: the state after a sequence of
events, and the induction rules that turn a step lemma into a run lemma.
`history_invariant` carries the events seen so far, for properties of the shape
"this holds only if that happened earlier"; `StepsMeet` restricts a run to steps
that meet a condition on the state before the step and the event.
-/

namespace Run

variable {State Event Output : Type*}

/-- The state after `events`. -/
def final (step : State → Event → State × List Output) (state : State) (events : List Event) :
    State :=
  events.foldl (fun s e => (step s e).1) state

/-- Everything a run emits, in order. -/
def outputs (step : State → Event → State × List Output) : State → List Event → List Output
  | _, [] => []
  | state, event :: rest => (step state event).2 ++ outputs step (step state event).1 rest

/-- Every step of the run meets `Cond` in the state it starts from. -/
def StepsMeet (step : State → Event → State × List Output) (Cond : State → Event → Prop) :
    State → List Event → Prop
  | _, [] => True
  | state, event :: rest => Cond state event ∧ StepsMeet step Cond (step state event).1 rest

variable {step : State → Event → State × List Output} {Cond : State → Event → Prop}

instance decidableStepsMeet [∀ s e, Decidable (Cond s e)] :
    (state : State) → (events : List Event) → Decidable (StepsMeet step Cond state events)
  | _, [] => isTrue trivial
  | state, event :: rest =>
      have := decidableStepsMeet (step state event).1 rest
      inferInstanceAs (Decidable (Cond state event ∧ StepsMeet step Cond (step state event).1 rest))

@[simp] theorem final_nil (state : State) : final step state [] = state := rfl

@[simp] theorem final_cons (state : State) (event : Event) (rest : List Event) :
    final step state (event :: rest) = final step (step state event).1 rest := rfl

theorem final_append (state : State) (front back : List Event) :
    final step state (front ++ back) = final step (final step state front) back :=
  List.foldl_append ..

@[simp] theorem final_snoc (state : State) (front : List Event) (event : Event) :
    final step state (front ++ [event]) = (step (final step state front) event).1 :=
  final_append state front [event]

theorem outputs_append (state : State) (front back : List Event) :
    outputs step state (front ++ back) =
      outputs step state front ++ outputs step (final step state front) back := by
  induction front generalizing state with
  | nil => rfl
  | cons first rest ih => simp [outputs, ih, List.append_assoc]

@[simp] theorem outputs_snoc (state : State) (front : List Event) (event : Event) :
    outputs step state (front ++ [event]) =
      outputs step state front ++ (step (final step state front) event).2 := by
  rw [outputs_append, outputs, outputs, List.append_nil]

theorem stepsMeet_append {state : State} {front back : List Event} :
    StepsMeet step Cond state (front ++ back) ↔
      StepsMeet step Cond state front ∧ StepsMeet step Cond (final step state front) back := by
  induction front generalizing state with
  | nil => simp [StepsMeet]
  | cons first rest ih => simp [StepsMeet, ih, and_assoc]

theorem stepsMeet_of_forall {state : State} {events : List Event}
    (each : ∀ event ∈ events, ∀ s, Cond s event) : StepsMeet step Cond state events := by
  induction events generalizing state with
  | nil => trivial
  | cons event rest ih =>
      obtain ⟨now, later⟩ := List.forall_mem_cons.mp each
      exact ⟨now state, ih later⟩

theorem stepsMeet_imp {Cond' : State → Event → Prop} (weaker : ∀ s e, Cond s e → Cond' s e)
    {state : State} {events : List Event} (meets : StepsMeet step Cond state events) :
    StepsMeet step Cond' state events := by
  induction events generalizing state with
  | nil => trivial
  | cons event rest ih => exact ⟨weaker state event meets.1, ih meets.2⟩

/-- Conditions on the events alone join those on the steps. -/
theorem stepsMeet_and {P : Event → Prop} {state : State} {events : List Event}
    (meets : StepsMeet step Cond state events) (each : ∀ event ∈ events, P event) :
    StepsMeet step (fun s e => Cond s e ∧ P e) state events := by
  induction events generalizing state with
  | nil => trivial
  | cons event rest ih =>
      obtain ⟨now, later⟩ := List.forall_mem_cons.mp each
      exact ⟨⟨meets.1, now⟩, ih meets.2 later⟩

/-- The induction rule for a property of the state and of the events that led to
it: it holds before the first event, and a step that meets the condition
preserves it. -/
theorem history_invariant {Inv : List Event → State → Prop} {start : State}
    (init : Inv [] start)
    (preserves : ∀ past event, Inv past (final step start past) →
      Cond (final step start past) event →
      Inv (past ++ [event]) (step (final step start past) event).1)
    (events : List Event) (meets : StepsMeet step Cond start events) :
    Inv events (final step start events) := by
  induction events using List.reverseRecOn with
  | nil => exact init
  | append_singleton past event ih =>
      obtain ⟨before, now⟩ := stepsMeet_append.mp meets
      rw [final_snoc]
      exact preserves past event (ih before) now.1

/-- The induction rule for a property of the state alone. -/
theorem invariant {Inv : State → Prop} {start : State} (init : Inv start)
    (preserves : ∀ state event, Inv state → Cond state event → Inv (step state event).1)
    (events : List Event) (meets : StepsMeet step Cond start events) :
    Inv (final step start events) :=
  have rule := @history_invariant _ _ _ step Cond (fun _ => Inv) start init
  rule (fun _ _ holds met => preserves _ _ holds met) events meets

section Stable

variable (events : List Event)

theorem stepsMeet_true {start : State} : StepsMeet step (fun _ _ => True) start events :=
  stepsMeet_of_forall fun _ _ _ => trivial

/-- The rule for a property of the past and the state that every step preserves. -/
theorem history_stable {Inv : List Event → State → Prop} {start : State} (init : Inv [] start)
    (preserves : ∀ past event, Inv past (final step start past) →
      Inv (past ++ [event]) (step (final step start past) event).1) :
    Inv events (final step start events) :=
  history_invariant init (fun past event holds _ => preserves past event holds) events
    (stepsMeet_true events)

/-- The rule for a property of the state that every step preserves. -/
theorem stable {Inv : State → Prop} {start : State} (init : Inv start)
    (preserves : ∀ state event, Inv state → Inv (step state event).1) :
    Inv (final step start events) :=
  have rule := @history_stable _ _ _ step events (fun _ => Inv) start init
  rule fun _ event holds => preserves _ event holds

end Stable

/-- A property of everything a run emits, when each step meets `Cond` exactly if it
holds of what that step emits. `Inv` is what the steps keep. -/
theorem forall_outputs_iff {Inv : State → Prop} {P : Output → Prop} {start : State}
    (init : Inv start) (keeps : ∀ state event, Inv state → Inv (step state event).1)
    (exact : ∀ state event, Inv state → ((∀ o ∈ (step state event).2, P o) ↔ Cond state event))
    (events : List Event) :
    (∀ o ∈ outputs step start events, P o) ↔ StepsMeet step Cond start events := by
  induction events generalizing start with
  | nil => simp [outputs, StepsMeet]
  | cons event rest ih =>
      rw [outputs, List.forall_mem_append, exact start event init, ih (keeps start event init)]
      exact Iff.rfl

/-- A property that holds at first, and that every step keeps exactly when it meets
`Cond`, holds all along a run exactly when all its steps meet `Cond`. `Inv` is what
the steps keep anyway, as long as they meet `Good`. -/
theorem always_iff {Good : State → Event → Prop} {Inv Holds : List Event → State → Prop}
    {start : State} (init : Inv [] start) (holds : Holds [] start)
    (keeps : ∀ past event, Inv past (final step start past) → Good (final step start past) event →
      Inv (past ++ [event]) (step (final step start past) event).1)
    (exact : ∀ past event, Inv past (final step start past) → Holds past (final step start past) →
      Good (final step start past) event →
      (Holds (past ++ [event]) (step (final step start past) event).1 ↔
        Cond (final step start past) event))
    (events : List Event) (good : StepsMeet step Good start events) :
    (∀ front, front <+: events → Holds front (final step start front)) ↔
      StepsMeet step Cond start events := by
  induction events using List.reverseRecOn with
  | nil => simp [holds, StepsMeet]
  | append_singleton past event ih =>
      obtain ⟨before, now, -⟩ := stepsMeet_append.mp good
      have inv := history_invariant init keeps past before
      rw [stepsMeet_append, ← ih before]
      constructor
      · intro all
        have earlier : ∀ front, front <+: past → Holds front (final step start front) :=
          fun front pre => all front (pre.trans (List.prefix_append _ _))
        have last := all (past ++ [event]) (List.prefix_refl _)
        rw [final_snoc] at last
        exact ⟨earlier, (exact past event inv (earlier past (List.prefix_refl _)) now).mp last,
          trivial⟩
      · rintro ⟨earlier, met, -⟩ front pre
        rcases List.prefix_concat_iff.mp pre with rfl | shorter
        · rw [final_snoc]
          exact (exact past event inv (earlier past (List.prefix_refl _)) now).mpr met
        · exact earlier front shorter

/-! ### Runs that may end without a state -/

/-- A condition on the steps of such a run, as long as there is a state. -/
def OnSome (P : State → Event → Prop) (state : Option State) (event : Event) : Prop :=
  ∀ s ∈ state, P s event

instance {P : State → Event → Prop} [∀ s e, Decidable (P s e)] (state : Option State)
    (event : Event) : Decidable (OnSome P state event) :=
  match state with
  | none => .isTrue fun _ reached => by cases reached
  | some s => decidable_of_iff (P s event)
      ⟨fun met _ reached => by cases reached; exact met, fun met => met s rfl⟩

/-- What a run changes, one of its events changes. -/
theorem exists_change {B : Type} {view : State → B} {start : State} {events : List Event}
    (differs : view (final step start events) ≠ view start) :
    ∃ before event after, events = before ++ event :: after ∧
      view (step (final step start before) event).1 ≠ view (final step start before) := by
  induction events using List.reverseRecOn with
  | nil => exact absurd rfl differs
  | append_singleton front event ih =>
      rw [final_snoc] at differs
      by_cases same : view (step (final step start front) event).1 = view (final step start front)
      · rw [same] at differs
        obtain ⟨before, first, after, rfl, changed⟩ := ih differs
        exact ⟨before, first, after ++ [event], by simp, changed⟩
      · exact ⟨front, event, [], rfl, same⟩

end Run
