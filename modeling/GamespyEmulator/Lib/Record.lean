import GamespyEmulator.Lib.Coroutine

/-!
Records of sessions. A session of a pool is known to its peer by what happened to it: the
peer that connected, its inputs, and the results of its own operations. A contract says
which operations a record allows and what it means to be idle behind it; `Contract.meets`
turns a proof about each handler on its own into one about every interleaving, whatever
the operations are answered.
-/

variable {S : Setting} {service : Service S}

/-- What happens to a session, with the shared state it then finds. -/
inductive Happening (service : Service S) where
  | accepted (world : S.World) (peer : service.Peer)
  | input (world : S.World) (input : service.Input)
  | completed (world : S.World) (operation : S.Operation) (result : S.Result operation)

abbrev Record (service : Service S) := List (Happening service)

namespace Coroutine

variable {A B : Type}

/-- Behind a record a coroutine begins operations that are allowed, whatever they are
answered, and returns what may be left there. -/
def Guarded (allowed : Record service → S.Operation → Prop)
    (leaves : S.World → Record service → A → Prop) :
    S.World → Record service → Coroutine S A → Prop
  | world, record, .ret value => leaves world record value
  | _, _, .fault _ => True
  | world, record, .look resume => (resume world).Guarded allowed leaves world record
  | _, record, .await operation resume => allowed record operation ∧
      ∀ world result, (resume result).Guarded allowed leaves world
        (record ++ [.completed world operation result])

variable {allowed : Record service → S.Operation → Prop}
  {leaves : S.World → Record service → B → Prop} {between : S.World → Record service → A → Prop}
  {world : S.World} {record : Record service} {t : Coroutine S A} {next : A → Coroutine S B}

theorem Guarded.bind (first : t.Guarded allowed between world record)
    (rest : ∀ world record a, between world record a →
      (next a).Guarded allowed leaves world record) :
    (t >>= next).Guarded allowed leaves world record := by
  induction t generalizing world record with
  | ret value => exact rest world record value first
  | fault e => trivial
  | look resume ih => exact ih world first
  | await operation resume ih =>
      exact ⟨first.1, fun world result => ih result (first.2 world result)⟩

/-- A coroutine of operations that are allowed wherever the record has a property, which
they keep. -/
theorem Performs.guarded {harmless : S.Operation → Prop} {Holds : Record service → Prop}
    (performs : t.Performs harmless)
    (may : ∀ record operation, Holds record → harmless operation → allowed record operation)
    (keeps : ∀ record happening, Holds record → Holds (record ++ [happening]))
    (holds : Holds record) :
    t.Guarded allowed (fun _ record _ => Holds record) world record := by
  induction t generalizing world record with
  | ret value => exact holds
  | fault e => trivial
  | look resume ih => exact ih world (performs world) holds
  | await operation resume ih =>
      exact ⟨may record operation holds performs.1,
        fun world result => ih result (performs.2 result) (keeps record _ holds)⟩

end Coroutine

/-! ### Contracts -/

/-- What the sessions of a service promise. -/
structure Contract (service : Service S) where
  allowed : Record service → S.Operation → Prop
  idle : Record service → service.Idle → Prop

namespace Contract

variable (contract : Contract service)

/-- What a handler may leave: the end of the session, or an idle state. -/
def leaves (_ : S.World) (record : Record service) (state? : Option service.Idle) : Prop :=
  ∀ state, state? = some state → contract.idle record state

/-- A session is as its record says. -/
def Meets (record : Record service) : Session service → Prop
  | .idle state => contract.idle record state
  | .waiting operation resume => contract.allowed record operation ∧
      ∀ world result, (resume result).Guarded contract.allowed contract.leaves world
        (record ++ [.completed world operation result])
  | .closed => True

/-- Each handler keeps the contract. -/
structure Kept : Prop where
  greet : ∀ world peer, (service.greet peer).Guarded contract.allowed contract.leaves world
    [.accepted world peer]
  handle : ∀ world record state input, contract.idle record state →
    (service.handle state input).Guarded contract.allowed contract.leaves world
      (record ++ [.input world input])

variable {contract}

theorem meets_settle {world : S.World} {record : Record service}
    {t : Coroutine S (Option service.Idle)}
    (guarded : t.Guarded contract.allowed contract.leaves world record) :
    contract.Meets record (t.settle world) := by
  induction t with
  | ret value =>
      cases value with
      | none => trivial
      | some state => exact guarded state rfl
  | fault e => trivial
  | look resume ih => exact ih world guarded
  | await operation resume => exact guarded

theorem meets_allowed {record : Record service} {session : Session service}
    {operation : S.Operation} (meets : contract.Meets record session)
    (waits : session.operation? = some operation) : contract.allowed record operation := by
  cases session with
  | idle _ => cases waits
  | closed => cases waits
  | waiting operation' resume =>
      cases waits
      exact meets.1

end Contract

/-! ### Runs -/

/-- A pool with the record of each session since its peer connected. -/
structure Recorded (service : Service S) where
  pool : Pool service
  record : Nat → Record service

namespace Recorded

/-- The session an event happens to, and its record behind it. -/
def happened (r : Recorded service) : PoolEvent service → Option (Nat × Record service)
  | .accepted i world peer =>
      match r.pool i with
      | .closed => some (i, [.accepted world peer])
      | .idle _ => none
      | .waiting _ _ => none
  | .input i world input =>
      match r.pool i with
      | .idle _ => some (i, r.record i ++ [.input world input])
      | .waiting _ _ => none
      | .closed => none
  | .completed i world result =>
      match r.pool i with
      | .waiting operation _ =>
          some (i, r.record i ++ [.completed world operation (result operation)])
      | .idle _ => none
      | .closed => none
  | .failed _ => none

def step (r : Recorded service) (event : PoolEvent service) :
    Recorded service × List S.Operation :=
  let moved := r.pool.step event
  match r.happened event with
  | none => (⟨moved.1, r.record⟩, moved.2)
  | some (i, record) => (⟨moved.1, Function.update r.record i record⟩, moved.2)

def start : Recorded service := ⟨Pool.start, fun _ => []⟩

theorem step_pool (r : Recorded service) (event : PoolEvent service) :
    (r.step event).1.pool = (r.pool.step event).1 := by
  unfold step
  dsimp only
  split <;> rfl

/-- Records are kept beside a run and do not change it. -/
theorem final_pool (events : List (PoolEvent service)) :
    (Run.final step start events).pool = Run.final Pool.step Pool.start events := by
  induction events using List.reverseRecOn with
  | nil => rfl
  | append_singleton past event ih => rw [Run.final_snoc, Run.final_snoc, step_pool, ih]

/-- A result in a record was there, or an operation completes now. -/
theorem completed_mem {r : Recorded service} {event : PoolEvent service} {j : Nat} {world : S.World}
    {operation : S.Operation} {result : S.Result operation}
    (mem : .completed world operation result ∈ (r.step event).1.record j) :
    .completed world operation result ∈ r.record j ∨ ∃ answers,
      event = .completed j world answers ∧ (r.pool j).operation? = some operation ∧
        result = answers operation := by
  unfold step at mem
  dsimp only at mem
  split at mem
  · exact .inl mem
  rename_i i record happens
  dsimp only at mem
  rw [Function.update_apply] at mem
  split at mem
  rotate_left
  · exact .inl mem
  rename_i own
  cases own
  cases event with
  | accepted i' world' peer =>
      simp only [happened] at happens
      split at happens
      · cases happens
        cases List.mem_singleton.mp mem
      · cases happens
      · cases happens
  | input i' world' input =>
      simp only [happened] at happens
      split at happens
      · cases happens
        rcases List.mem_append.mp mem with old | new
        · exact .inl old
        · cases List.mem_singleton.mp new
      · cases happens
      · cases happens
  | completed i' world' answers =>
      simp only [happened] at happens
      split at happens
      · rename_i operation' resume state
        cases happens
        rcases List.mem_append.mp mem with old | new
        · exact .inl old
        · cases List.mem_singleton.mp new
          exact .inr ⟨answers, rfl, by rw [state]; rfl, rfl⟩
      · cases happens
      · cases happens
  | failed i' => cases happens

variable {contract : Contract service}

/-- A session that moves on meets the contract with its new record, and the other ones
are as they were. -/
theorem step_meets (kept : contract.Kept) {r : Recorded service}
    (meets : ∀ i, contract.Meets (r.record i) (r.pool i)) (event : PoolEvent service) :
    ∀ i, contract.Meets ((r.step event).1.record i) ((r.step event).1.pool i) := by
  have move (i : Nat) (record : Record service) (session : Session service)
      (moves : r.pool.moved event = some (i, session)) (happens : r.happened event = some (i, record))
      (new : contract.Meets record session) :
      ∀ j, contract.Meets ((r.step event).1.record j) ((r.step event).1.pool j) := by
    intro j
    simp only [step, happens, Pool.step, moves, Function.update_apply]
    by_cases own : j = i
    · rw [if_pos own, if_pos own]
      exact new
    · rw [if_neg own, if_neg own]
      exact meets j
  have stay (moves : r.pool.moved event = none) (happens : r.happened event = none) :
      ∀ j, contract.Meets ((r.step event).1.record j) ((r.step event).1.pool j) := by
    intro j
    simp only [step, happens, Pool.step, moves]
    exact meets j
  cases event with
  | accepted i world peer =>
      cases state : r.pool i with
      | closed =>
          exact move i _ _ (by simp only [Pool.moved, state]) (by simp only [happened, state])
            (Contract.meets_settle (kept.greet world peer))
      | idle _ => exact stay (by simp [Pool.moved, state]) (by simp [happened, state])
      | waiting _ _ => exact stay (by simp [Pool.moved, state]) (by simp [happened, state])
  | input i world input =>
      cases state : r.pool i with
      | idle held =>
          have idle := meets i
          rw [state] at idle
          exact move i _ _ (by simp only [Pool.moved, state]) (by simp only [happened, state])
            (Contract.meets_settle (kept.handle world _ held input idle))
      | waiting _ _ => exact stay (by simp [Pool.moved, state]) (by simp [happened, state])
      | closed => exact stay (by simp [Pool.moved, state]) (by simp [happened, state])
  | completed i world result =>
      cases state : r.pool i with
      | waiting operation resume =>
          have waiting := meets i
          rw [state] at waiting
          exact move i _ _ (by simp only [Pool.moved, state]) (by simp only [happened, state])
            (Contract.meets_settle (waiting.2 world (result operation)))
      | idle _ => exact stay (by simp [Pool.moved, state]) (by simp [happened, state])
      | closed => exact stay (by simp [Pool.moved, state]) (by simp [happened, state])
  | failed i =>
      intro j
      simp only [step, happened, Pool.step, Pool.moved, Function.update_apply]
      by_cases own : j = i
      · rw [if_pos own]
        trivial
      · rw [if_neg own]
        exact meets j

/-- **In every run each session is as its record says.** -/
theorem run_meets (kept : contract.Kept) (events : List (PoolEvent service)) (i : Nat) :
    contract.Meets ((Run.final step start events).record i)
      ((Run.final step start events).pool i) := by
  have rule := @Run.stable _ _ _ step events
    (fun r : Recorded service => ∀ i, contract.Meets (r.record i) (r.pool i)) start
    (fun _ => trivial) fun _ event meets => step_meets kept meets event
  exact rule i

/-- What a session is suspended on is allowed behind its record. -/
theorem run_allowed (kept : contract.Kept) (events : List (PoolEvent service)) {i : Nat}
    {operation : S.Operation}
    (waits : ((Run.final step start events).pool i).operation? = some operation) :
    contract.allowed ((Run.final step start events).record i) operation :=
  Contract.meets_allowed (run_meets kept events i) waits

end Recorded
