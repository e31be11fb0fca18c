import GamespyEmulator.Lib.Run

/-!
Coroutines of one thread. A coroutine runs undisturbed up to its next suspension; what
it waits for is an operation, and what it does with each result is its continuation.

A pool holds the sessions of a service, each of them idle, suspended or over, and an
event moves one of them on to its next suspension. Sessions share connections:
`exclusive_iff` reduces "no two sessions have an operation on one connection" over
every run to a condition on the events by which a session begins to use a connection.
-/

/-- What coroutines share and what they wait for. -/
structure Setting where
  World : Type
  Operation : Type
  Result : Operation → Type
  Fault : Type

/-- What a coroutine has left to do. -/
inductive Coroutine (S : Setting) (A : Type) where
  /-- It returns. -/
  | ret (value : A)
  /-- It ends with an exception. -/
  | fault (fault : S.Fault)
  /-- It looks at what it shares with others, without a suspension. -/
  | look (resume : S.World → Coroutine S A)
  /-- It is suspended on an operation. -/
  | await (operation : S.Operation) (resume : S.Result operation → Coroutine S A)

namespace Coroutine

variable {S : Setting} {A B : Type}

protected def bind : Coroutine S A → (A → Coroutine S B) → Coroutine S B
  | .ret value, next => next value
  | .fault e, _ => .fault e
  | .look resume, next => .look fun world => (resume world).bind next
  | .await operation resume, next => .await operation fun result => (resume result).bind next

instance : Monad (Coroutine S) where
  pure := .ret
  bind := Coroutine.bind

/-- The shared state as it is now. -/
def world : Coroutine S S.World := .look .ret

def perform (operation : S.Operation) : Coroutine S (S.Result operation) := .await operation .ret

section Simp

variable (next : A → Coroutine S B)

@[simp] theorem pure_eq (value : A) : (pure value : Coroutine S A) = .ret value := rfl

@[simp] theorem ret_bind (value : A) : Coroutine.ret value >>= next = next value := rfl

@[simp] theorem fault_bind (e : S.Fault) : Coroutine.fault e >>= next = .fault e := rfl

@[simp] theorem look_bind (resume : S.World → Coroutine S A) :
    Coroutine.look resume >>= next = .look fun world => resume world >>= next := rfl

@[simp] theorem await_bind (operation : S.Operation) (resume : S.Result operation → Coroutine S A) :
    Coroutine.await operation resume >>= next =
      .await operation fun result => resume result >>= next := rfl

end Simp

/-- The operation a coroutine is suspended on when it has run as far as it can. -/
def waitsFor (world : S.World) : Coroutine S A → Option S.Operation
  | .ret _ => none
  | .fault _ => none
  | .look resume => (resume world).waitsFor world
  | .await operation _ => some operation

theorem waitsFor_bind {t : Coroutine S A} {next : A → Coroutine S B} {world : S.World}
    (returns : ∀ a, (next a).waitsFor world = none) :
    (t >>= next).waitsFor world = t.waitsFor world := by
  induction t with
  | ret value => exact returns value
  | fault e => rfl
  | look resume ih => exact ih world
  | await operation resume => rfl

/-- How a coroutine ends. -/
inductive Ended (S : Setting) (A : Type) where
  | returned (value : A)
  | fault (fault : S.Fault)
  | failed

/-- A coroutine nothing comes between: each operation is served from a state, which
answers it or fails it. -/
def alone {T : Type} (serve : T → (operation : S.Operation) → T × Option (S.Result operation))
    (world : S.World) : T → Coroutine S A → T × Ended S A
  | state, .ret value => (state, .returned value)
  | state, .fault e => (state, .fault e)
  | state, .look resume => (resume world).alone serve world state
  | state, .await operation resume =>
      match serve state operation with
      | (state, none) => (state, .failed)
      | (state, some result) => (resume result).alone serve world state

section Alone

variable {T : Type} {serve : T → (operation : S.Operation) → T × Option (S.Result operation)}
  {world : S.World} {state state' : T} {operation : S.Operation}
  {resume : S.Result operation → Coroutine S A}

theorem alone_served {result : S.Result operation}
    (served : serve state operation = (state', some result)) :
    (Coroutine.await operation resume).alone serve world state =
      (resume result).alone serve world state' := by
  simp [alone, served]

theorem alone_failed (failed : serve state operation = (state', none)) :
    (Coroutine.await operation resume).alone serve world state = (state', .failed) := by
  simp [alone, failed]

/-- A coroutine that returns is followed by the next one. -/
theorem alone_bind (t : Coroutine S A) (next : A → Coroutine S B) :
    (t >>= next).alone serve world state =
      match t.alone serve world state with
      | (state, .returned value) => (next value).alone serve world state
      | (state, .fault e) => (state, .fault e)
      | (state, .failed) => (state, .failed) := by
  induction t generalizing state with
  | ret value => rfl
  | fault e => rfl
  | look resume ih => exact ih world
  | await operation resume ih =>
      cases served : serve state operation with
      | mk state' result? =>
          cases result? with
          | none => simp [alone, served]
          | some result => simp [alone, served, ih]

/-- A coroutine performs only operations that are allowed. -/
def Performs (allowed : S.Operation → Prop) : Coroutine S A → Prop
  | .ret _ => True
  | .fault _ => True
  | .look resume => ∀ world, (resume world).Performs allowed
  | .await operation resume => allowed operation ∧ ∀ result, (resume result).Performs allowed

variable {allowed : S.Operation → Prop} {t : Coroutine S A} {next : A → Coroutine S B}

theorem Performs.bind (first : t.Performs allowed) (rest : ∀ a, (next a).Performs allowed) :
    (t >>= next).Performs allowed := by
  induction t with
  | ret value => exact rest value
  | fault e => trivial
  | look resume ih => exact fun world => ih world (first world)
  | await operation resume ih => exact ⟨first.1, fun result => ih result (first.2 result)⟩

/-- What the allowed operations keep, a coroutine of them keeps. -/
theorem Performs.alone_invariant {Inv : T → Prop}
    (keeps : ∀ state operation, allowed operation → Inv state → Inv (serve state operation).1)
    (performs : t.Performs allowed) (inv : Inv state) : Inv (t.alone serve world state).1 := by
  induction t generalizing state with
  | ret value => exact inv
  | fault e => exact inv
  | look resume ih => exact ih world (performs world) inv
  | await operation resume ih =>
      have kept := keeps state operation performs.1 inv
      cases served : serve state operation with
      | mk state' result? =>
          rw [served] at kept
          cases result? with
          | none =>
              rw [alone_failed served]
              exact kept
          | some result =>
              rw [alone_served served]
              exact ih result (performs.2 result) kept

end Alone

end Coroutine

/-! ### Sessions -/

/-- The sessions of a service: how one begins with a peer, and how an idle one handles
its next input. A handler returns the state to be idle in, or `none` at the end of the
session. -/
structure Service (S : Setting) where
  Idle : Type
  Peer : Type
  Input : Type
  greet : Peer → Coroutine S (Option Idle)
  handle : Idle → Input → Coroutine S (Option Idle)

inductive Session {S : Setting} (service : Service S) where
  | idle (state : service.Idle)
  | waiting (operation : S.Operation) (resume : S.Result operation → Coroutine S (Option service.Idle))
  | closed

/-- A pool of sessions; those that have not begun are closed. -/
abbrev Pool {S : Setting} (service : Service S) := Nat → Session service

/-- What moves session `i`: a peer connects, an input arrives, or the operation it waits
for completes or fails. -/
inductive PoolEvent {S : Setting} (service : Service S) where
  | accepted (i : Nat) (world : S.World) (peer : service.Peer)
  | input (i : Nat) (world : S.World) (input : service.Input)
  | completed (i : Nat) (world : S.World) (result : (operation : S.Operation) → S.Result operation)
  | failed (i : Nat)

section Pool

variable {S : Setting} {service : Service S}

/-- Where a handler gets to before it is suspended. -/
def Coroutine.settle (world : S.World) : Coroutine S (Option service.Idle) → Session service
  | .ret (some state) => .idle state
  | .ret none => .closed
  | .fault _ => .closed
  | .look resume => (resume world).settle world
  | .await operation resume => .waiting operation resume

namespace Session

def operation? : Session service → Option S.Operation
  | .waiting operation _ => some operation
  | .idle _ => none
  | .closed => none

theorem operation?_settle (world : S.World) (t : Coroutine S (Option service.Idle)) :
    (t.settle world : Session service).operation? = t.waitsFor world := by
  induction t with
  | ret value => cases value <;> rfl
  | fault e => rfl
  | look resume ih => exact ih world
  | await operation resume => rfl

end Session

namespace Pool

/-- The session an event moves, and where it gets to. -/
def moved (pool : Pool service) : PoolEvent service → Option (Nat × Session service)
  | .accepted i world peer =>
      match pool i with
      | .closed => some (i, (service.greet peer).settle world)
      | .idle _ => none
      | .waiting _ _ => none
  | .input i world input =>
      match pool i with
      | .idle state => some (i, (service.handle state input).settle world)
      | .waiting _ _ => none
      | .closed => none
  | .completed i world result =>
      match pool i with
      | .waiting operation resume => some (i, (resume (result operation)).settle world)
      | .idle _ => none
      | .closed => none
  | .failed i => some (i, .closed)

/-- The pool behind an event, and the operation the moved session begins. -/
def step (pool : Pool service) (event : PoolEvent service) : Pool service × List S.Operation :=
  match pool.moved event with
  | none => (pool, [])
  | some (i, session) => (Function.update pool i session, session.operation?.toList)

/-- The pool before the first peer. -/
def start : Pool service := fun _ => .closed

/-! ### Connections -/

variable {Conn : Type} (conn : S.Operation → Option Conn)

/-- A session has an operation outstanding on a connection. -/
def Uses (pool : Pool service) (c : Conn) (i : Nat) : Prop :=
  (pool i).operation?.bind conn = some c

instance [DecidableEq Conn] (pool : Pool service) (c : Conn) (i : Nat) :
    Decidable (pool.Uses conn c i) := inferInstanceAs (Decidable (_ = _))

/-- At most one operation is outstanding on each connection. -/
def Exclusive (pool : Pool service) : Prop :=
  ∀ c i j, pool.Uses conn c i → pool.Uses conn c j → i = j

/-- The event moves a session into an operation on a connection it did not use. -/
def Enters (pool : Pool service) (event : PoolEvent service) (c : Conn) : Prop :=
  ∃ i session, pool.moved event = some (i, session) ∧
    session.operation?.bind conn = some c ∧ ¬ pool.Uses conn c i

/-- No session uses the connection. -/
def Unused (pool : Pool service) (c : Conn) : Prop := ∀ j, ¬ pool.Uses conn c j

variable {conn}

theorem exclusive_start : (start : Pool service).Exclusive conn := by
  intro c i j uses
  cases uses

/-- What a step keeps of a connection's use: another session's, as it was. -/
theorem uses_update {pool : Pool service} {i j : Nat} {session : Session service} {c : Conn} :
    Uses conn (Function.update pool i session) c j ↔
      (j = i ∧ session.operation?.bind conn = some c) ∨ (j ≠ i ∧ pool.Uses conn c j) := by
  unfold Uses
  by_cases same : j = i
  · subst same
    simp
  · simp [same]

/-- A step keeps the connections exclusive exactly when each connection it enters was
unused. -/
theorem exclusive_step_iff {pool : Pool service} (exclusive : pool.Exclusive conn)
    (event : PoolEvent service) :
    (pool.step event).1.Exclusive conn ↔ ∀ c, pool.Enters conn event c → pool.Unused conn c := by
  unfold step
  split
  · rename_i still
    refine iff_of_true exclusive fun c enters => ?_
    obtain ⟨i, session, moves, -⟩ := enters
    rw [still] at moves
    cases moves
  · rename_i i session moves
    constructor
    · rintro after c ⟨i', session', moves', uses, apart⟩ j other
      rw [moves] at moves'
      cases moves'
      by_cases same : j = i
      · exact apart (same ▸ other)
      · have both : i = j := after c i j (uses_update.mpr (.inl ⟨rfl, uses⟩))
          (uses_update.mpr (.inr ⟨same, other⟩))
        exact same both.symm
    · intro unused c j k first second
      have entered (uses : session.operation?.bind conn = some c) (l : Nat) (elsewhere : l ≠ i)
          (other : pool.Uses conn c l) : False := by
        by_cases own : pool.Uses conn c i
        · exact elsewhere (exclusive c l i other own)
        · exact unused c ⟨i, session, moves, uses, own⟩ l other
      rcases uses_update.mp first with ⟨rfl, uses⟩ | ⟨different, other⟩ <;>
        rcases uses_update.mp second with ⟨rfl, uses'⟩ | ⟨different', other'⟩
      · rfl
      · exact (entered uses k different' other').elim
      · exact (entered uses' j different other).elim
      · exact exclusive c j k other other'

/-- The rule for exclusive connections. `Calls` says, of a pool that meets the
invariant, which events begin to use a connection. -/
theorem exclusive_iff {Inv : Pool service → Prop}
    {Calls : Pool service → PoolEvent service → Conn → Prop} (init : Inv start)
    (keeps : ∀ pool event, Inv pool → Inv (pool.step event).1)
    (calls : ∀ pool event c, Inv pool → (pool.Enters conn event c ↔ Calls pool event c))
    (events : List (PoolEvent service)) :
    (∀ front, front <+: events → (Run.final step start front).Exclusive conn) ↔
      Run.StepsMeet step (fun pool event => ∀ c, Calls pool event c → pool.Unused conn c) start
        events := by
  have rule := @Run.always_iff _ _ _ step
    (fun pool event => ∀ c, Calls pool event c → pool.Unused conn c) (fun _ _ => True)
    (fun _ => Inv) (fun _ pool => pool.Exclusive conn) start init exclusive_start
  refine rule (fun _ event inv _ => keeps _ event inv) ?_ events (Run.stepsMeet_true events)
  intro past event inv exclusive _
  rw [exclusive_step_iff exclusive event]
  exact forall_congr' fun c => imp_congr_left (calls _ event c inv)

end Pool

/-! ### Where a session begins to use a connection -/

/-- The places where sessions begin to use a connection: at an input, or when an
operation completes. -/
structure EntryPoints (service : Service S) (Conn : Type) where
  input : S.World → service.Idle → service.Input → Conn → Prop
  completion : S.World → S.Operation → Conn → Prop

variable {Conn : Type} {conn : S.Operation → Option Conn} {points : EntryPoints service Conn}
  {A B : Type}

namespace Coroutine

/-- Behind an operation the coroutine begins to use a connection only where the entry
points say so. -/
def EntersBy (conn : S.Operation → Option Conn) (points : EntryPoints service Conn) :
    Coroutine S A → Prop
  | .ret _ => True
  | .fault _ => True
  | .look resume => ∀ world, (resume world).EntersBy conn points
  | .await operation resume => ∀ result, (resume result).EntersBy conn points ∧
      ∀ world c, conn operation ≠ some c →
        (((resume result).waitsFor world).bind conn = some c ↔
          points.completion world operation c)

/-- No operation of the coroutine uses a connection or is an entry point. -/
def Silent (conn : S.Operation → Option Conn) (points : EntryPoints service Conn) :
    Coroutine S A → Prop
  | .ret _ => True
  | .fault _ => True
  | .look resume => ∀ world, (resume world).Silent conn points
  | .await operation resume => conn operation = none ∧
      (∀ world c, ¬ points.completion world operation c) ∧
      ∀ result, (resume result).Silent conn points

/-- Each operation of the coroutine is on the connection. -/
def Within (conn : S.Operation → Option Conn) (points : EntryPoints service Conn) (c : Conn) :
    Coroutine S A → Prop
  | .ret _ => True
  | .fault _ => True
  | .look resume => ∀ world, (resume world).Within conn points c
  | .await operation resume => conn operation = some c ∧
      (∀ world c, ¬ points.completion world operation c) ∧
      ∀ result, (resume result).Within conn points c

/-- The coroutine uses the connection without a break, if at all, and is silent behind. -/
def UsesFirst (conn : S.Operation → Option Conn) (points : EntryPoints service Conn) (c : Conn) :
    Coroutine S A → Prop
  | .ret _ => True
  | .fault _ => True
  | .look resume => ∀ world, (resume world).UsesFirst conn points c
  | .await operation resume =>
      (conn operation = some c ∧ (∀ world c, ¬ points.completion world operation c) ∧
        ∀ result, (resume result).UsesFirst conn points c) ∨
      (Coroutine.await operation resume).Silent conn points

variable {t : Coroutine S A} {c : Conn}

theorem Silent.bind {next : A → Coroutine S B} (silent : t.Silent conn points)
    (later : ∀ a, (next a).Silent conn points) : (t >>= next).Silent conn points := by
  induction t with
  | ret value => exact later value
  | fault e => trivial
  | look resume ih => exact fun world => ih world (silent world)
  | await operation resume ih =>
      exact ⟨silent.1, silent.2.1, fun result => ih result (silent.2.2 result)⟩

theorem Silent.waitsFor (silent : t.Silent conn points) (world : S.World) :
    (t.waitsFor world).bind conn = none := by
  induction t with
  | ret value => rfl
  | fault e => rfl
  | look resume ih => exact ih world (silent world)
  | await operation resume => exact silent.1

theorem Silent.usesFirst (silent : t.Silent conn points) : t.UsesFirst conn points c := by
  induction t with
  | ret value => trivial
  | fault e => trivial
  | look resume ih => exact fun world => ih world (silent world)
  | await operation resume => exact .inr silent

theorem UsesFirst.bind_silent {next : A → Coroutine S B} (uses : t.UsesFirst conn points c)
    (later : ∀ a, (next a).Silent conn points) : (t >>= next).UsesFirst conn points c := by
  induction t with
  | ret value => exact (later value).usesFirst
  | fault e => trivial
  | look resume ih => exact fun world => ih world (uses world)
  | await operation resume ih =>
      rcases uses with ⟨on, noEntry, more⟩ | silent
      · exact .inl ⟨on, noEntry, fun result => ih result (more result)⟩
      · exact .inr (Silent.bind silent later)

theorem Within.bind_usesFirst {next : A → Coroutine S B} (within : t.Within conn points c)
    (later : ∀ a, (next a).UsesFirst conn points c) : (t >>= next).UsesFirst conn points c := by
  induction t with
  | ret value => exact later value
  | fault e => trivial
  | look resume ih => exact fun world => ih world (within world)
  | await operation resume ih =>
      exact .inl ⟨within.1, within.2.1, fun result => ih result (within.2.2 result)⟩

theorem UsesFirst.waitsFor (uses : t.UsesFirst conn points c) (world : S.World) {c' : Conn}
    (waits : (t.waitsFor world).bind conn = some c') : c' = c := by
  induction t with
  | ret value => cases waits
  | fault e => cases waits
  | look resume ih => exact ih world (uses world) waits
  | await operation resume =>
      have on : conn operation = some c' := waits
      rcases uses with ⟨same, -⟩ | silent
      · rw [same] at on
        exact (Option.some.inj on).symm
      · rw [silent.1] at on
        cases on

theorem Silent.entersBy (silent : t.Silent conn points) : t.EntersBy conn points := by
  induction t with
  | ret value => trivial
  | fault e => trivial
  | look resume ih => exact fun world => ih world (silent world)
  | await operation resume ih =>
      intro result
      refine ⟨ih result (silent.2.2 result), fun world c _ => iff_of_false ?_ (silent.2.1 world c)⟩
      rw [(silent.2.2 result).waitsFor world]
      simp

/-- What runs behind the coroutine without a suspension leaves its entry points. -/
theorem EntersBy.bind {next : A → Coroutine S B} (enters : t.EntersBy conn points)
    (later : ∀ a, (next a).EntersBy conn points)
    (returns : ∀ a world, (next a).waitsFor world = none) : (t >>= next).EntersBy conn points := by
  induction t with
  | ret value => exact later value
  | fault e => trivial
  | look resume ih => exact fun world => ih world (enters world)
  | await operation resume ih =>
      intro result
      obtain ⟨more, entry⟩ := enters result
      refine ⟨ih result more, fun world c other => ?_⟩
      rw [← entry world c other]
      have same : (resume result >>= next).waitsFor world = (resume result).waitsFor world :=
        waitsFor_bind (returns · world)
      rw [← same]
      rfl

theorem UsesFirst.entersBy (uses : t.UsesFirst conn points c) : t.EntersBy conn points := by
  induction t with
  | ret value => trivial
  | fault e => trivial
  | look resume ih => exact fun world => ih world (uses world)
  | await operation resume ih =>
      rcases uses with ⟨on, noEntry, later⟩ | silent
      · intro result
        refine ⟨ih result (later result), fun world c' other => iff_of_false ?_ (noEntry world c')⟩
        intro waits
        rw [(later result).waitsFor world waits] at other
        exact other on
      · exact silent.entersBy

end Coroutine

/-- The entry points are those of the service. -/
structure EntryPoints.Sound (conn : S.Operation → Option Conn) (points : EntryPoints service Conn) :
    Prop where
  greets : ∀ peer, (service.greet peer).Silent conn points
  handles : ∀ state input, (service.handle state input).EntersBy conn points
  inputs : ∀ world state input c,
    ((service.handle state input).waitsFor world).bind conn = some c ↔
      points.input world state input c

namespace Pool

/-- The event begins to use the connection, by the entry points. -/
def Calls (conn : S.Operation → Option Conn) (points : EntryPoints service Conn)
    (pool : Pool service) : PoolEvent service → Conn → Prop
  | .accepted _ _ _, _ => False
  | .input i world input, c => ∃ state, pool i = .idle state ∧ points.input world state input c
  | .completed i world _, c => ∃ operation, (pool i).operation? = some operation ∧
      conn operation ≠ some c ∧ points.completion world operation c
  | .failed _, _ => False

/-- Suspended sessions keep to the entry points. -/
def Obeys (conn : S.Operation → Option Conn) (points : EntryPoints service Conn)
    (pool : Pool service) : Prop :=
  ∀ i operation resume, pool i = .waiting operation resume →
    (Coroutine.await operation resume).EntersBy conn points

theorem settle_obeys {t : Coroutine S (Option service.Idle)} (obeys : t.EntersBy conn points)
    {world : S.World} {operation : S.Operation}
    {resume : S.Result operation → Coroutine S (Option service.Idle)}
    (settled : t.settle world = (.waiting operation resume : Session service)) :
    (Coroutine.await operation resume).EntersBy conn points := by
  induction t with
  | ret value => cases value <;> cases settled
  | fault e => cases settled
  | look resume ih => exact ih world (obeys world) settled
  | await operation' resume' =>
      cases settled
      exact obeys

/-- What an event moves a session to, if it moves one. -/
inductive Moves (pool : Pool service) : PoolEvent service → Nat → Session service → Prop where
  | accepted {i : Nat} {world : S.World} {peer : service.Peer} (before : pool i = .closed) :
      Moves pool (.accepted i world peer) i ((service.greet peer).settle world)
  | input {i : Nat} {world : S.World} {input : service.Input} {state : service.Idle}
      (before : pool i = .idle state) :
      Moves pool (.input i world input) i ((service.handle state input).settle world)
  | completed {i : Nat} {world : S.World} {result : (operation : S.Operation) → S.Result operation}
      {operation : S.Operation} {resume : S.Result operation → Coroutine S (Option service.Idle)}
      (before : pool i = .waiting operation resume) :
      Moves pool (.completed i world result) i ((resume (result operation)).settle world)
  | failed {i : Nat} : Moves pool (.failed i) i .closed

theorem moved_eq_some {pool : Pool service} {event : PoolEvent service} {i : Nat}
    {session : Session service} :
    pool.moved event = some (i, session) ↔ Moves pool event i session := by
  constructor
  · intro moves
    cases event <;> simp only [moved] at moves
    case accepted j world peer =>
      split at moves <;> cases moves
      exact .accepted (by assumption)
    case input j world input =>
      split at moves <;> cases moves
      exact .input (by assumption)
    case completed j world result =>
      split at moves <;> cases moves
      exact .completed (by assumption)
    case failed j =>
      cases moves
      exact .failed
  · intro moves
    cases moves with
    | accepted before => simp [moved, before]
    | input before => simp [moved, before]
    | completed before => simp [moved, before]
    | failed => rfl

theorem step_obeys (sound : points.Sound conn) {pool : Pool service}
    (obeys : pool.Obeys conn points) (event : PoolEvent service) :
    (pool.step event).1.Obeys conn points := by
  unfold step
  split
  · exact obeys
  · rename_i i session moves
    intro j operation resume waiting
    change Function.update pool i session j = _ at waiting
    by_cases same : j = i
    · subst same
      rw [Function.update_self] at waiting
      cases moved_eq_some.mp moves with
      | accepted before => exact settle_obeys (sound.greets _).entersBy waiting
      | input before => exact settle_obeys (sound.handles _ _) waiting
      | @completed j world result operation' resume' before =>
          exact settle_obeys (obeys j operation' resume' before (result operation')).1 waiting
      | failed => cases waiting
    · rw [Function.update_of_ne same] at waiting
      exact obeys j operation resume waiting

theorem enters_iff (sound : points.Sound conn) {pool : Pool service}
    (obeys : pool.Obeys conn points) (event : PoolEvent service) (c : Conn) :
    pool.Enters conn event c ↔ pool.Calls conn points event c := by
  constructor
  · rintro ⟨i, session, moves, uses, apart⟩
    cases moved_eq_some.mp moves with
    | accepted before =>
        rw [Session.operation?_settle, (sound.greets _).waitsFor] at uses
        cases uses
    | input before =>
        rw [Session.operation?_settle] at uses
        exact ⟨_, before, (sound.inputs _ _ _ c).mp uses⟩
    | @completed i world result operation resume before =>
        rw [Session.operation?_settle] at uses
        have other : conn operation ≠ some c := by
          intro on
          exact apart (by simp [Uses, before, Session.operation?, on])
        refine ⟨operation, by simp [before, Session.operation?], other, ?_⟩
        exact ((obeys i operation resume before (result operation)).2 world c other).mp uses
    | failed => cases uses
  · intro calls
    cases event with
    | accepted i world peer => exact calls.elim
    | input i world input =>
        obtain ⟨state, before, entry⟩ := calls
        refine ⟨i, _, moved_eq_some.mpr (.input before), ?_, ?_⟩
        · rw [Session.operation?_settle]
          exact (sound.inputs world state input c).mpr entry
        · simp [Uses, before, Session.operation?]
    | completed i world result =>
        obtain ⟨operation, waits, other, entry⟩ := calls
        cases before : pool i with
        | idle state =>
            rw [before] at waits
            cases waits
        | closed =>
            rw [before] at waits
            cases waits
        | waiting operation' resume =>
            rw [before] at waits
            cases waits
            refine ⟨i, _, moved_eq_some.mpr (.completed before), ?_, ?_⟩
            · rw [Session.operation?_settle]
              exact ((obeys i operation resume before (result operation)).2 world c other).mpr entry
            · simpa [Uses, before, Session.operation?] using other
    | failed i => exact calls.elim

/-- **Over every run, at most one operation is outstanding on each connection exactly
when no session begins to use a connection that is in use.** -/
theorem exclusive_calls_iff (sound : points.Sound conn) (events : List (PoolEvent service)) :
    (∀ front, front <+: events → (Run.final step start front).Exclusive conn) ↔
      Run.StepsMeet step (fun pool event => ∀ c, pool.Calls conn points event c →
        pool.Unused conn c) start events := by
  have init : (start : Pool service).Obeys conn points := by
    intro i operation resume waiting
    cases waiting
  exact exclusive_iff init (fun _ event obeys => step_obeys sound obeys event)
    (fun _ event c obeys => enters_iff sound obeys event c) events

end Pool

end Pool
