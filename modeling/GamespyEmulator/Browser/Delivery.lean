import GamespyEmulator.Lib.Run
import GamespyEmulator.Lib.Wire

/-!
Push delivery: the loop of `BrowserClient::Process` behind a subscription. It waits for
a signalled message or for a packet of the client, whichever comes first, and cancels
the other wait. The slots put messages into a channel of ten with `try_send`, which
drops what does not fit.

`delivers_iff` shows in which runs every signalled message is sent once and in order to
a client that stays: those in which no message is sent to the end, since the loop then
reads the packet that did not come.
-/

namespace GamespyEmulator

open Wire

/-! ### The loop -/

/-- What resuming a generator that has ended does: it yields nothing, or it throws and
the wait goes on for the other generator. -/
inductive EndedGenerator where
  | yieldsNothing
  | throws
deriving DecidableEq

/-- The size of `m_SignalChannel`. -/
def signalCapacity : Nat := 10

/-- Where the loop stands: at its head, in its wait, in the send of a message, or at the
end of the session. -/
inductive Delivery.Phase where
  | turning
  | waiting
  | sending (message : Bytes)
  | ended
deriving DecidableEq

/-- A subscribed browser session. `listening` says that `channel_reader` has not ended. -/
structure Delivery where
  phase : Delivery.Phase := .turning
  channel : List Bytes := []
  listening : Bool := true
deriving DecidableEq

/-- A slot signals a message; the loop comes to its wait; the reader yields a packet; the
send of a message completes; the client closes the connection, or sends what is no
packet. -/
inductive Delivery.Event where
  | signalled (message : Bytes)
  | turn
  | packet
  | sent
  | closed
deriving DecidableEq

namespace Delivery

/-- `try_send` with no receive waiting. -/
def trySend (d : Delivery) (message : Bytes) : Delivery :=
  if d.channel.length < signalCapacity then { d with channel := d.channel ++ [message] } else d

section Step

variable (endedGenerator : EndedGenerator)

/-- The loop of `BrowserClient::Process`; it emits what is sent. -/
def step (d : Delivery) : Event → Delivery × List Bytes
  | .signalled message =>
      match d.phase with
      -- The waiting receive takes the message.
      | .waiting =>
          if d.listening then ({ d with phase := .sending message }, [])
          else (d.trySend message, [])
      -- The slots went with the session.
      | .ended => (d, [])
      | .turning => (d.trySend message, [])
      | .sending _ => (d.trySend message, [])
  | .turn =>
      match d.phase with
      | .turning =>
          if d.listening then
            match d.channel with
            | [] => ({ d with phase := .waiting }, [])
            | message :: rest => ({ d with phase := .sending message, channel := rest }, [])
          else match endedGenerator with
            | .yieldsNothing => ({ d with phase := .ended }, [])
            | .throws => ({ d with phase := .waiting }, [])
      | _ => (d, [])
  | .packet =>
      match d.phase with
      -- The receive is cancelled, and `channel_reader` ends with its error.
      | .waiting => ({ d with phase := .turning, listening := false }, [])
      | _ => (d, [])
  | .sent =>
      match d.phase with
      -- `std::get<1>` of a variant that holds the message throws.
      | .sending message => ({ d with phase := .ended }, [message])
      | _ => (d, [])
  | .closed => ({ d with phase := .ended }, [])

/-! ### Delivery -/

/-- The messages signalled in a run. -/
def signals (events : List Event) : List Bytes :=
  events.filterMap fun
    | .signalled message => some message
    | _ => none

/-- The message in its send. -/
def Phase.message : Phase → List Bytes
  | .turning => []
  | .waiting => []
  | .sending message => [message]
  | .ended => []

/-- The message in its send, and those the channel still hands out. -/
def onItsWay (d : Delivery) : List Bytes := d.phase.message ++ bif d.listening then d.channel else []

/-- The session goes on, and every signalled message is sent or on its way, in order. -/
structure Delivers (past : List Event) (d : Delivery) : Prop where
  goesOn : d.phase ≠ .ended
  inOrder : Run.outputs (step endedGenerator) {} past ++ d.onItsWay = signals past

/-- An event that disturbs no delivery: a message is taken or fits, and nothing that was
taken is sent to the end. -/
def Undisturbed (d : Delivery) : Event → Prop
  | .signalled _ => d.phase = .ended ∨
      d.listening = true ∧ (d.phase = .waiting ∨ d.channel.length < signalCapacity)
  | .turn => ¬ (d.phase = .turning ∧ d.listening = false ∧ endedGenerator = .yieldsNothing)
  | .packet => True
  | .sent => ∀ message, d.phase ≠ .sending message
  | .closed => True

/-- A waiting receive has left nothing in the channel, and a client that closed has no
session. -/
structure Idle (past : List Event) (d : Delivery) : Prop where
  channel : d.phase = .waiting → d.listening = true → d.channel = []
  closed : .closed ∈ past → d.phase = .ended

variable {endedGenerator : EndedGenerator} {d : Delivery} {past : List Event}

theorem trySend_phase (message : Bytes) : (d.trySend message).phase = d.phase := by
  unfold trySend
  split <;> rfl

/-- A message is on its way when the channel is read and has room. -/
theorem trySend_onItsWay (message : Bytes) :
    (d.trySend message).onItsWay = d.onItsWay ++ [message] ↔
      d.listening = true ∧ d.channel.length < signalCapacity := by
  obtain ⟨phase, channel, listening⟩ := d
  unfold trySend
  split
  · rename_i room
    cases listening with
    | false => simp [onItsWay]
    | true => simpa [onItsWay] using room
  · rename_i full
    cases listening with
    | false => simp [onItsWay]
    | true => simpa [onItsWay] using full

/-- What one step emits and leaves on its way, in a session that goes on. -/
theorem step_iff (event : Event) (goesOn : d.phase ≠ .ended) (stays : event ≠ .closed)
    (empty : d.phase = .waiting → d.listening = true → d.channel = []) :
    (d.step endedGenerator event).1.phase ≠ .ended ∧
        (d.step endedGenerator event).2 ++ (d.step endedGenerator event).1.onItsWay =
          d.onItsWay ++ signals [event] ↔
      d.Undisturbed endedGenerator event := by
  obtain ⟨phase, channel, listening⟩ := d
  cases event with
  | signalled message =>
      have sends := @trySend_onItsWay ⟨phase, channel, listening⟩ message
      have stands := @trySend_phase ⟨phase, channel, listening⟩ message
      cases phase with
      | ended => exact absurd rfl goesOn
      | turning => simpa [step, stands, Undisturbed, signals] using sends
      | sending first => simpa [step, stands, Undisturbed, signals] using sends
      | waiting =>
          cases listening with
          | false => simpa [step, stands, Undisturbed, signals] using sends
          | true =>
              -- The receive takes it, and nothing stood before it.
              obtain rfl : channel = [] := empty rfl rfl
              simp [step, onItsWay, Phase.message, signals, Undisturbed]
  | turn =>
      cases phase with
      | ended => exact absurd rfl goesOn
      | waiting => simp [step, signals, Undisturbed]
      | sending first => simp [step, signals, Undisturbed]
      | turning =>
          cases listening with
          | true => cases channel <;> simp [step, onItsWay, Phase.message, signals, Undisturbed]
          | false =>
              cases endedGenerator <;> simp [step, onItsWay, Phase.message, signals, Undisturbed]
  | packet =>
      cases phase with
      | ended => exact absurd rfl goesOn
      | turning => simp [step, signals, Undisturbed]
      | sending first => simp [step, signals, Undisturbed]
      | waiting =>
          have left : (bif listening then channel else []) = [] := by
            cases listening with
            | false => rfl
            | true => exact empty rfl rfl
          simp [step, onItsWay, Phase.message, signals, Undisturbed, left]
  | sent =>
      cases phase with
      | ended => exact absurd rfl goesOn
      | turning => simp [step, signals, Undisturbed]
      | waiting => simp [step, signals, Undisturbed]
      | sending first => simp [step, Undisturbed]
  | closed => exact absurd rfl stays

theorem step_ended (ended : d.phase = .ended) (event : Event) :
    (d.step endedGenerator event).1.phase = .ended := by
  cases event with
  | closed => rfl
  | signalled message => simp [step, ended]
  | turn => simp [step, ended]
  | packet => simp [step, ended]
  | sent => simp [step, ended]

theorem idle_step (idle : Idle past d) (event : Event) :
    Idle (past ++ [event]) (d.step endedGenerator event).1 := by
  constructor
  · obtain ⟨phase, channel, listening⟩ := d
    have empty := idle.channel
    cases event with
    | closed => simp [step]
    | signalled message =>
        have stands := @trySend_phase ⟨phase, channel, listening⟩ message
        cases phase with
        | ended => simp [step]
        | turning => simp [step, stands]
        | sending first => simp [step, stands]
        | waiting =>
            cases listening with
            | true => simp [step]
            | false =>
                intro _ listens
                simp only [step, Bool.false_eq_true, if_false, trySend] at listens
                split at listens <;> cases listens
    | turn =>
        cases phase with
        | ended => simp [step]
        | waiting => exact empty
        | sending first => simp [step]
        | turning =>
            cases listening with
            | true => cases channel <;> simp [step]
            | false => cases endedGenerator <;> simp [step]
    | packet =>
        cases phase with
        | ended => simp [step]
        | turning => simp [step]
        | sending first => simp [step]
        | waiting => simp [step]
    | sent =>
        cases phase with
        | ended => simp [step]
        | turning => simp [step]
        | waiting => exact empty
        | sending first => simp [step]
  · intro mem
    rcases List.mem_append.mp mem with old | now
    · exact step_ended (idle.closed old) event
    · rw [← List.mem_singleton.mp now]
      rfl

/-- In a session that goes on, one step keeps the delivery exactly when it disturbs
nothing. -/
theorem delivers_step (delivers : Delivers endedGenerator past d)
    (state : d = Run.final (step endedGenerator) {} past) (idle : Idle past d) (event : Event)
    (stays : event ≠ .closed) :
    Delivers endedGenerator (past ++ [event]) (d.step endedGenerator event).1 ↔
      d.Undisturbed endedGenerator event := by
  rw [← step_iff event delivers.goesOn stays idle.channel]
  have grows : signals (past ++ [event]) = signals past ++ signals [event] :=
    List.filterMap_append ..
  have emits : Run.outputs (step endedGenerator) {} (past ++ [event]) =
      Run.outputs (step endedGenerator) {} past ++ (d.step endedGenerator event).2 := by
    rw [Run.outputs_snoc, state]
  constructor
  · rintro ⟨goesOn, inOrder⟩
    refine ⟨goesOn, ?_⟩
    rw [grows, ← delivers.inOrder, emits, List.append_assoc, List.append_assoc] at inOrder
    exact List.append_cancel_left inOrder
  · rintro ⟨goesOn, inOrder⟩
    refine ⟨goesOn, ?_⟩
    rw [grows, ← delivers.inOrder, emits, List.append_assoc, List.append_assoc, inOrder]

theorem undisturbed_of_ended (ended : d.phase = .ended) (event : Event) :
    d.Undisturbed endedGenerator event := by
  cases event with
  | signalled message => exact .inl ended
  | turn => simp [Undisturbed, ended]
  | packet => trivial
  | sent => simp [Undisturbed, ended]
  | closed => trivial

end Step

/-- **In every state of a run, every message signalled so far is sent or on its way to a
client that stays, once and in order, exactly when no step of the run disturbs it**: no
send of a message completes, no message is signalled behind a packet of the client, and
none while the channel is full. -/
theorem delivers_iff (endedGenerator : EndedGenerator) (events : List Event) :
    (∀ front, front <+: events → .closed ∈ front ∨
        Delivers endedGenerator front (Run.final (step endedGenerator) {} front)) ↔
      Run.StepsMeet (step endedGenerator) (Undisturbed endedGenerator) {} events := by
  refine @Run.always_iff _ _ _ (step endedGenerator) (Undisturbed endedGenerator)
    (fun _ _ => True) Idle (fun past d => .closed ∈ past ∨ Delivers endedGenerator past d) {}
    ⟨fun _ _ => rfl, fun mem => absurd mem List.not_mem_nil⟩ (.inr ⟨Phase.noConfusion, rfl⟩)
    (fun past event idle _ => idle_step idle event) ?_ events (Run.stepsMeet_true events)
  intro past event idle holds _
  by_cases left : .closed ∈ past
  · exact iff_of_true (.inl (List.mem_append_left _ left))
      (undisturbed_of_ended (idle.closed left) event)
  · have delivers := holds.resolve_left left
    by_cases closes : event = .closed
    · rw [closes]
      exact iff_of_true (.inl (List.mem_append_right _ (List.mem_singleton_self _))) trivial
    · rw [← delivers_step delivers rfl idle event closes, or_iff_right]
      intro mem
      rcases List.mem_append.mp mem with old | now
      · exact left old
      · exact closes (List.mem_singleton.mp now).symm

/-- One message, sent. -/
theorem delivers_fails_first :
    ¬ ∀ (endedGenerator : EndedGenerator) (events : List Event), .closed ∈ events ∨
      Delivers endedGenerator events (Run.final (step endedGenerator) {} events) := by
  intro claim
  rcases claim .throws [.turn, .signalled [0x02, 0, 0], .sent] with closes | delivers
  · revert closes
    decide
  · exact delivers.goesOn rfl

end Delivery

end GamespyEmulator
