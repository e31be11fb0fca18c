import GamespyEmulator.Address
import GamespyEmulator.Lib.Run
import GamespyEmulator.Player.TextPacket
import GamespyEmulator.Stats.Link

/-!
The key server of `key.cpp`, which accepts every CD key.

The loop decodes in its receive buffer, which keeps what earlier datagrams left there.
`keys_answered` says that nothing of that is ever read: up to the first failure, a run
answers each request by itself, and an answer goes to the client that asked and repeats the
client's own key and response. `request_answered` does this for the requests of a game
server.
-/

namespace GamespyEmulator

open Wire Utils

/-! ### Messages -/

/-- `xor_types::gamespy`. -/
def gamespyKey : Bytes := ascii "gamespy"

/-- The text of a response: the first 32 characters of the challenge, and the key. -/
def keyResponse (challenge cdKey : Bytes) : Bytes :=
  ascii "\\uok\\\\cd\\" ++ challenge.take 32 ++ ascii "\\skey\\" ++ cdKey

/-- The branches of `AcceptConnections` on a decoded message: the response, if there is
one. -/
def keyHandler (packet : Bytes) : Option Bytes :=
  if (ascii "\\ka\\").isPrefixOf packet then none
  else if (ascii "\\disc\\").isPrefixOf packet then none
  else if (ascii "\\auth\\").isPrefixOf packet then
    match valueForKey packet (ascii "\\skey\\"), valueForKey packet (ascii "\\resp\\") with
    | some cdKey, some challenge => some (keyResponse challenge cdKey)
    | _, _ => none
  else none

/-! ### The receive loop -/

/-- `buff`, and whether the loop still runs. -/
structure CDKeyServer where
  buff : Bytes
  running : Bool
deriving DecidableEq, Repr

/-- A datagram that is sent by the server, or received. -/
structure KeyMessage where
  client : Endpoint
  bytes : Bytes
deriving DecidableEq, Repr

/-- A receive of at most 1400 bytes with the outcome of a send that follows it, or a
receive that fails. -/
inductive KeyEvent where
  | received (message : KeyMessage) (fits : message.bytes.length ≤ 1400) (sent : Bool)
  | failed
deriving DecidableEq, Repr

/-- One turn of `AcceptConnections`. A send that fails throws. -/
def CDKeyServer.step (s : CDKeyServer) (event : KeyEvent) : CDKeyServer × List KeyMessage :=
  if s.running then
    match event with
    | .failed => ({ s with running := false }, [])
    | .received message _ sent =>
        if message.bytes.isEmpty then (s, [])
        else
          let buff := gsXor gamespyKey message.bytes ++ s.buff.drop message.bytes.length
          match keyHandler (buff.take message.bytes.length) with
          | none => ({ s with buff := buff }, [])
          | some response =>
              (⟨buff, sent⟩, [⟨message.client, gsXor gamespyKey response⟩])
  else (s, [])

/-! ### What is answered -/

/-- The answer to a datagram, of the datagram alone. -/
def KeyMessage.answer (message : KeyMessage) : Option KeyMessage :=
  (keyHandler (gsXor gamespyKey message.bytes)).map fun response =>
    ⟨message.client, gsXor gamespyKey response⟩

namespace KeyEvent

def answer : KeyEvent → Option KeyMessage
  | .received message _ _ => message.answer
  | .failed => none

/-- The event ends the loop. -/
def stops : KeyEvent → Bool
  | .received message _ sent => message.answer.isSome && !sent
  | .failed => true

/-- The events the loop gets to see. -/
def heard : List KeyEvent → List KeyEvent
  | [] => []
  | event :: rest => event :: if event.stops then [] else heard rest

end KeyEvent

/-- A request with the key and the response it carries. -/
structure IsRequest (packet cdKey challenge : Bytes) : Prop where
  auth : ascii "\\auth\\" <+: packet
  skey : valueForKey packet (ascii "\\skey\\") = some cdKey
  resp : valueForKey packet (ascii "\\resp\\") = some challenge

theorem keyHandler_eq_some {packet response : Bytes} :
    keyHandler packet = some response ↔
      ∃ cdKey challenge, IsRequest packet cdKey challenge ∧
        response = keyResponse challenge cdKey := by
  by_cases auth : ascii "\\auth\\" <+: packet
  · obtain ⟨rest, rfl⟩ := auth
    have alive : (ascii "\\ka\\").isPrefixOf (ascii "\\auth\\" ++ rest) = false := rfl
    have stays : (ascii "\\disc\\").isPrefixOf (ascii "\\auth\\" ++ rest) = false := rfl
    have asks : (ascii "\\auth\\").isPrefixOf (ascii "\\auth\\" ++ rest) = true :=
      List.isPrefixOf_iff_prefix.mpr (List.prefix_append _ _)
    rw [keyHandler, alive, stays, asks]
    simp only [Bool.false_eq_true, if_false, if_true]
    constructor
    · intro handled
      split at handled
      · rename_i cdKey challenge skey resp
        cases handled
        exact ⟨cdKey, challenge, ⟨List.prefix_append _ _, skey, resp⟩, rfl⟩
      · cases handled
    · rintro ⟨cdKey, challenge, request, rfl⟩
      rw [request.skey, request.resp]
  · constructor
    · intro handled
      unfold keyHandler at handled
      rw [if_neg fun asks => auth (List.isPrefixOf_iff_prefix.mp asks)] at handled
      split at handled
      · cases handled
      · split at handled <;> cases handled
    · rintro ⟨cdKey, challenge, request, -⟩
      exact absurd request.auth auth

/-- One turn depends on the buffer for nothing but what it leaves there. -/
theorem step_eq (buff : Bytes) (event : KeyEvent) :
    ∃ buff', CDKeyServer.step ⟨buff, true⟩ event =
      (⟨buff', !event.stops⟩, event.answer.toList) := by
  cases event with
  | failed => exact ⟨buff, rfl⟩
  | received message fits sent =>
      by_cases empty : message.bytes.isEmpty = true
      · have nothing : message.bytes = [] := List.isEmpty_iff.mp empty
        have silent : message.answer = none := by
          rw [KeyMessage.answer, nothing]
          rfl
        refine ⟨buff, ?_⟩
        simp [CDKeyServer.step, empty, KeyEvent.stops, KeyEvent.answer, silent]
      · have decoded (rest : Bytes) : (gsXor gamespyKey message.bytes ++ rest).take
            message.bytes.length = gsXor gamespyKey message.bytes := by
          have length : (gsXor gamespyKey message.bytes).length = message.bytes.length :=
            gsXorFrom_length gamespyKey 0 message.bytes
          rw [← length, List.take_left]
        refine ⟨gsXor gamespyKey message.bytes ++ buff.drop message.bytes.length, ?_⟩
        rw [CDKeyServer.step, if_pos rfl]
        dsimp only
        rw [if_neg empty, decoded, KeyEvent.stops, KeyEvent.answer, KeyMessage.answer]
        cases keyHandler (gsXor gamespyKey message.bytes) with
        | none => rfl
        | some response => simp

theorem outputs_stopped (buff : Bytes) (events : List KeyEvent) :
    Run.outputs CDKeyServer.step ⟨buff, false⟩ events = [] := by
  induction events with
  | nil => rfl
  | cons event rest ih => exact ih

theorem outputs_eq_answers (buff : Bytes) (events : List KeyEvent) :
    Run.outputs CDKeyServer.step ⟨buff, true⟩ events =
      (KeyEvent.heard events).filterMap KeyEvent.answer := by
  induction events generalizing buff with
  | nil => rfl
  | cons event rest ih =>
      obtain ⟨buff', turn⟩ := step_eq buff event
      rw [Run.outputs, turn, KeyEvent.heard]
      have here : (event :: if event.stops then [] else KeyEvent.heard rest).filterMap
          KeyEvent.answer = event.answer.toList ++
            (if event.stops then [] else KeyEvent.heard rest).filterMap KeyEvent.answer := by
        cases answered : event.answer <;> simp [answered]
      rw [here]
      cases event.stops with
      | true => rw [Bool.not_true, outputs_stopped]; rfl
      | false => rw [Bool.not_false, ih]; rfl

theorem answer_eq_some_iff {message answer : KeyMessage} :
    message.answer = some answer ↔ answer.client = message.client ∧
      ∃ cdKey challenge, IsRequest (gsXor gamespyKey message.bytes) cdKey challenge ∧
        gsXor gamespyKey answer.bytes = keyResponse challenge cdKey := by
  rw [KeyMessage.answer, Option.map_eq_some_iff]
  constructor
  · rintro ⟨response, handled, rfl⟩
    obtain ⟨cdKey, challenge, request, rfl⟩ := keyHandler_eq_some.mp handled
    exact ⟨rfl, cdKey, challenge, request, gsXor_gsXor _ _⟩
  · rintro ⟨client, cdKey, challenge, request, decoded⟩
    refine ⟨keyResponse challenge cdKey,
      keyHandler_eq_some.mpr ⟨cdKey, challenge, request, rfl⟩, ?_⟩
    rw [← decoded, gsXor_gsXor, ← client]

/-- **Every key is accepted.** Up to the first failure a run answers each datagram by
itself, in order. A datagram is answered exactly when it is a request, to its sender and
with its own key and response. -/
theorem keys_answered (buff : Bytes) (events : List KeyEvent) :
    Run.outputs CDKeyServer.step ⟨buff, true⟩ events =
        (KeyEvent.heard events).filterMap KeyEvent.answer ∧
      ∀ message answer : KeyMessage, message.answer = some answer ↔
        answer.client = message.client ∧
          ∃ cdKey challenge, IsRequest (gsXor gamespyKey message.bytes) cdKey challenge ∧
            gsXor gamespyKey answer.bytes = keyResponse challenge cdKey :=
  ⟨outputs_eq_answers buff events, fun _ _ => answer_eq_some_iff⟩

/-! ### Requests of a game server -/

/-- The first field of a name, with its value. -/
structure FirstField (parts : List Bytes) (name value : Bytes) : Prop where
  split : ∃ front back, parts = front ++ name :: value :: back ∧ name ∉ front ∧
    ∀ part ∈ front, Plain part
  plain : Plain value
  free : NulFree value

theorem FirstField.read {parts : List Bytes} {name value : Bytes}
    (field : FirstField parts name value) (plain : Plain name) :
    valueForKey (textPacket parts) (lookupKey name) = some value := by
  obtain ⟨front, back, rfl, absent, parts⟩ := field.split
  exact valueForKey_textPacket plain parts absent field.plain field.free

theorem running_of_quiet {buff : Bytes} {past : List KeyEvent}
    (quiet : ∀ event ∈ past, event.stops = false) :
    (Run.final CDKeyServer.step ⟨buff, true⟩ past).running = true := by
  induction past generalizing buff with
  | nil => rfl
  | cons event rest ih =>
      obtain ⟨now, later⟩ := List.forall_mem_cons.mp quiet
      obtain ⟨buff', turn⟩ := step_eq buff event
      rw [Run.final_cons, turn, now]
      exact ih later

/-- **A request is answered.** Behind every run that no failure has ended, a request in the
format of a text packet gets its response, with the first key and the first response in
it. -/
theorem request_answered {buff : Bytes} {past : List KeyEvent}
    (quiet : ∀ event ∈ past, event.stops = false) {rest : List Bytes} {cdKey challenge : Bytes}
    (skey : FirstField (ascii "auth" :: rest) (ascii "skey") cdKey)
    (resp : FirstField (ascii "auth" :: rest) (ascii "resp") challenge) {message : KeyMessage}
    (encoded : message.bytes = gsXor gamespyKey (textPacket (ascii "auth" :: rest)))
    (fits : message.bytes.length ≤ 1400) (sent : Bool) :
    (CDKeyServer.step (Run.final CDKeyServer.step ⟨buff, true⟩ past)
      (.received message fits sent)).2 =
      [⟨message.client, gsXor gamespyKey (keyResponse challenge cdKey)⟩] := by
  have running := @running_of_quiet buff past quiet
  generalize Run.final CDKeyServer.step ⟨buff, true⟩ past = s at running ⊢
  obtain ⟨buff', _⟩ := s
  subst running
  obtain ⟨buff'', turn⟩ := step_eq buff' (.received message fits sent)
  have asks : ascii "\\auth\\" <+: textPacket (ascii "auth" :: rest) :=
    lookupKey_prefix (ascii "auth") rest
  have request : IsRequest (gsXor gamespyKey message.bytes) cdKey challenge := by
    rw [encoded, gsXor_gsXor]
    exact ⟨asks, skey.read (by decide), resp.read (by decide)⟩
  have answered : message.answer =
      some ⟨message.client, gsXor gamespyKey (keyResponse challenge cdKey)⟩ :=
    answer_eq_some_iff.mpr ⟨rfl, cdKey, challenge, request, gsXor_gsXor _ _⟩
  rw [turn, KeyEvent.answer, answered]
  rfl

namespace KeySample

def client : Endpoint := ⟨0xC0A80007, 6500⟩

def fields : List Bytes :=
  [[], ascii "pid", ascii "1059", ascii "resp", ascii "abc", ascii "skey", ascii "7"]

def request : KeyMessage := ⟨client, gsXor gamespyKey (textPacket (ascii "auth" :: fields))⟩

theorem request_answered_skey :
    (CDKeyServer.step (Run.final CDKeyServer.step ⟨[], true⟩
        [.received ⟨client, [1, 2, 3]⟩ (by decide) true]) (.received request (by decide) true)).2 =
      [⟨client, gsXor gamespyKey (keyResponse (ascii "abc") (ascii "7"))⟩] := by
  have skey : FirstField (ascii "auth" :: fields) (ascii "skey") (ascii "7") :=
    ⟨⟨ascii "auth" :: fields.take 5, [], rfl, by decide, by decide⟩, by decide, by decide⟩
  have resp : FirstField (ascii "auth" :: fields) (ascii "resp") (ascii "abc") :=
    ⟨⟨ascii "auth" :: fields.take 3, fields.drop 5, rfl, by decide, by decide⟩, by decide,
      by decide⟩
  exact request_answered (by decide) skey resp rfl (by decide) true

end KeySample

end GamespyEmulator
