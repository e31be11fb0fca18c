import GamespyEmulator.Master.Handshake

/-!
Who is listed. `Proved` says of a run that an endpoint answered a challenge with the
proof of a game's secret key, and `listed_proved` that every row of that game belongs to
an endpoint that did, in runs whose datagrams meet two conditions:

* a heartbeat of a validated endpoint names the game the endpoint was validated for
  (`KeepsGame`); the code takes any known game;
* an accepted answer stands in its own datagram (`BringsAnswer`); the code reads the
  answer of a challenge without a body out of the datagrams before it.
-/

namespace GamespyEmulator

open Wire Run

/-- The text in the body of a challenge datagram. -/
def Datagram.answer? (d : Datagram) : Option Bytes :=
  match QRPacket.parse (Span.whole d.bytes) with
  | .ok ⟨.challenge, _, data⟩ => if data.size = 0 then none else some (cstr data.bytes)
  | _ => none

namespace Machine

/-! ### Proofs -/

/-- The master server sent `text` to `client` as its challenge. -/
def Issued (sqlite : Sqlite) (start : Machine) (past : List Event) (client : Endpoint)
    (text : Bytes) : Prop :=
  ∃ instanceKey, Reply.challenge client instanceKey text ∈ outputs (step sqlite) start past

/-- In the run, `client` answered a challenge issued to it before with the proof of the
secret key of `gamename`. -/
def Proved (sqlite : Sqlite) (start : Machine) (events : List Event) (client : Endpoint)
    (gamename : Bytes) : Prop :=
  ∃ past d sent rest key text, events = past ++ .datagram d sent :: rest ∧
    d.client = client ∧ start.server.db.secretKey? gamename = some key ∧
    Issued sqlite start past client text ∧ d.answer? = some (Utils.encode key text)

variable {sqlite : Sqlite} {start : Machine} {past : List Event} {event : Event}
  {client : Endpoint} {text gamename : Bytes}

theorem Issued.later (issued : Issued sqlite start past client text) :
    Issued sqlite start (past ++ [event]) client text := by
  obtain ⟨instanceKey, mem⟩ := issued
  refine ⟨instanceKey, ?_⟩
  rw [outputs_snoc]
  exact List.mem_append_left _ mem

theorem Proved.later (proved : Proved sqlite start past client gamename) :
    Proved sqlite start (past ++ [event]) client gamename := by
  obtain ⟨before, d, sent, rest, key, text, rfl, facts⟩ := proved
  exact ⟨before, d, sent, rest ++ [event], key, text, by simp, facts⟩

/-! ### The conditions -/

/-- A heartbeat of a validated endpoint names no other known game. -/
def KeepsGame (m : Machine) (d : Datagram) : Prop :=
  ∀ gamename ∈ m.heartbeatGame? d, ∀ entry ∈ m.server.validated[d.client]?,
    gamename ∈ m.server.db → gamename = entry.gamename

/-- A challenge that gives the pending proof has a body. -/
def BringsAnswer (m : Machine) (d : Datagram) : Prop :=
  m.acceptedAnswer? d ≠ none → ∀ packet ∈ m.packet? d, packet.data.size ≠ 0

instance (m : Machine) (d : Datagram) : Decidable (KeepsGame m d) := by
  unfold KeepsGame; infer_instance

instance (m : Machine) (d : Datagram) : Decidable (BringsAnswer m d) := by
  unfold BringsAnswer; infer_instance

/-- An accepted answer is the datagram's own. -/
theorem answer?_of_accepted {m : Machine} {d : Datagram} {packet : QRPacket}
    (framed : m.packet? d = some packet) (type : packet.type = .challenge)
    (body : packet.data.size ≠ 0) : d.answer? = some (cstr packet.data.memory) := by
  obtain ⟨-, framed⟩ := packet?_eq_some.mp framed
  have same : (Span.whole d.bytes).bytes = (m.view d).bytes := by simp
  have own := QRPacket.parse_congr same framed
  have bytes := QRPacket.data_bytes same framed
  have size : ((Span.whole d.bytes).subspan 5).size = packet.data.size := by
    rw [← Span.bytes_length, bytes, Span.bytes_length]
  rw [Datagram.answer?, own, type]
  dsimp only
  rw [size, if_neg body, bytes, Span.cstr_memory (QRPacket.nul_mem_data framed body)]

/-! ### The invariant -/

/-- What the maps and the tables say about the run so far. -/
structure Backed (sqlite : Sqlite) (start : Machine) (past : List Event) (s : MasterServer) :
    Prop where
  secretKeys : s.db.secretKey? = start.server.db.secretKey?
  awaiting : ∀ (client : Endpoint) (entry : ServerEntry),
    s.awaitingValidation[client]? = some entry →
    ∃ text key, Issued sqlite start past client text ∧
      start.server.db.secretKey? entry.gamename = some key ∧ entry.proof = Utils.encode key text
  validated : ∀ (client : Endpoint) (entry : ServerEntry),
    s.validated[client]? = some entry → Proved sqlite start past client entry.gamename
  rows : ∀ (client : Endpoint) (gamename : Bytes),
    s.db.Listed gamename client.rowKey → Proved sqlite start past client gamename

section Backed

variable {s s' : MasterServer}

theorem Backed.later (backed : Backed sqlite start past s) :
    Backed sqlite start (past ++ [event]) s where
  secretKeys := backed.secretKeys
  awaiting client entry held := by
    obtain ⟨text, key, issued, facts⟩ := backed.awaiting client entry held
    exact ⟨text, key, issued.later, facts⟩
  validated client entry held := (backed.validated client entry held).later
  rows client gamename listed := (backed.rows client gamename listed).later

/-- An operation keeps the invariant when its entries descend from older ones and its
new rows are of endpoints that proved the game. -/
theorem Backed.descends (backed : Backed sqlite start past s) (descends : s.Descends s')
    (rows : ∀ (client : Endpoint) (gamename : Bytes), s'.db.Listed gamename client.rowKey →
      s.db.Listed gamename client.rowKey ∨ Proved sqlite start past client gamename) :
    Backed sqlite start past s' where
  secretKeys := descends.secretKeys.trans backed.secretKeys
  awaiting client entry held := by
    obtain ⟨old, held, proof, gamename⟩ := descends.awaiting client entry held
    rw [proof, gamename]
    exact backed.awaiting client old held
  validated client entry held := by
    obtain ⟨old, held, -, gamename⟩ := descends.validated client entry held
    rw [gamename]
    exact backed.validated client old held
  rows client gamename listed := by
    rcases rows client gamename listed with old | proved
    · exact backed.rows client gamename old
    · exact proved

/-- The second half of an accepted answer. -/
theorem Backed.resume (backed : Backed sqlite start past s) {entry : ServerEntry}
    (held : s.awaitingValidation[client]? = some entry)
    (proved : Proved sqlite start past client entry.gamename) (reply : Reply) (sent : Bool) :
    Backed sqlite start past (s.resume sqlite (some (reply, .register client entry)) sent) := by
  rw [MasterServer.resume_register]
  split
  · refine backed.descends (s.completeChallenge_prunes sqlite client).descends ?_
    intro other gamename listed
    rcases MasterServer.listed_completeChallenge listed with old | ⟨entry', held', rfl, key⟩
    · exact .inl old
    · rw [held] at held'
      cases held'
      rw [Endpoint.rowKey_inj.mp key]
      exact .inr proved
  · exact backed

end Backed

theorem backed_datagram {m : Machine} {d : Datagram} {sent : Bool}
    (backed : Backed sqlite start past m.server) (here : m = final (step sqlite) start past)
    (keeps : KeepsGame m d) (brings : BringsAnswer m d) :
    Backed sqlite start (past ++ [.datagram d sent]) (m.step sqlite (.datagram d sent)).1.server := by
  have later := @Backed.later _ _ _ (.datagram d sent) _ backed
  rcases step_datagram sqlite m d sent with ⟨same, -⟩ | ⟨packet, out, framed, handled, server, emitted⟩
  · rw [same]
    exact later
  · rw [server]
    cases handled with
    | refreshed refreshes idle =>
        rw [MasterServer.resume_idle idle]
        exact later.descends refreshes.toDescends fun _ _ listed => .inl (refreshes.db ▸ listed)
    | @updated heartbeat gamename entry type parsed named known held =>
        have same : gamename = entry.gamename :=
          keeps gamename (heartbeatGame?_eq_some.mpr ⟨packet, heartbeat, framed, type, parsed, named⟩)
            entry held known
        have proved := later.validated d.client entry held
        refine later.descends (MasterServer.prunes_add sqlite _ _ _).descends ?_
        intro client name listed
        rcases GameDB.listed_of_add listed with old | ⟨rfl, key⟩
        · exact .inl old
        · rw [same, Endpoint.rowKey_inj.mp key]
          exact .inr proved
    | @challenged heartbeat gamename game known invalid unheld =>
        refine ⟨later.secretKeys, ?_, later.validated, later.rows⟩
        intro client entry held
        rw [MasterServer.resume_done] at held
        rcases OrdMap.insert_eq_some.mp held with ⟨rfl, rfl⟩ | ⟨-, old⟩
        · refine ⟨challengeText game d.client d.picks, game.data.secretKey, ?_, ?_, rfl⟩
          · refine ⟨heartbeat.instanceKey, ?_⟩
            rw [outputs_snoc, ← here, emitted]
            exact List.mem_append_right _ List.mem_cons_self
          · rw [← later.secretKeys]
            exact congrArg (Option.map _) known
        · exact later.awaiting client entry old
    | @accepted entry type held right =>
        have accepted := acceptedAnswer?_eq_some.mpr ⟨packet, framed, type, held, right⟩
        have body : packet.data.size ≠ 0 :=
          brings (accepted ▸ Option.some_ne_none entry) packet framed
        obtain ⟨text, key, issued, known, proves⟩ := backed.awaiting d.client entry held
        have proved : Proved sqlite start (past ++ [.datagram d sent]) d.client entry.gamename := by
          refine ⟨past, d, sent, [], key, text, rfl, rfl, known, issued, ?_⟩
          rw [answer?_of_accepted framed type body, ← right, proves]
        have emplaced : Backed sqlite start (past ++ [.datagram d sent])
            { m.server with validated := m.server.validated.insertIfNew d.client entry } := by
          refine ⟨later.secretKeys, later.awaiting, ?_, later.rows⟩
          intro client entry' held'
          rcases OrdMap.insertIfNew_eq_some.mp held' with ⟨rfl, -, rfl⟩ | old
          · exact proved
          · exact later.validated client entry' old
        exact emplaced.resume held proved _ sent

/-- **Every row is of an endpoint that proved the row's game**, in every state of a run
without admin writes whose heartbeats keep to the validated game and whose answers are
their datagrams' own. -/
theorem listed_proved (initial : start.Initial) {events : List Event}
    (quiet : ∀ event ∈ events, event.adminWrite = false)
    (meets : StepsMeet (step sqlite)
      (OnDatagrams fun m d _ => KeepsGame m d ∧ BringsAnswer m d) start events) :
    ∀ (client : Endpoint) (gamename : Bytes),
      (final (step sqlite) start events).server.db.Listed gamename client.rowKey →
      Proved sqlite start events client gamename := by
  have init : Backed sqlite start [] start.server := by
    refine ⟨rfl, ?_, ?_, ?_⟩
    · intro client entry held
      simp [initial.awaiting] at held
    · intro client entry held
      simp [initial.validated] at held
    · rintro client gamename ⟨game, known, mem⟩
      simp [initial.tables gamename game known] at mem
  have run := @history_invariant _ _ _ _ _ (fun past m =>
    m = final (step sqlite) start past ∧ Backed sqlite start past m.server) start ⟨rfl, init⟩ ?_
    events (stepsMeet_and meets quiet)
  · exact run.2.rows
  · rintro past event ⟨here, backed⟩ ⟨met, noWrite⟩
    refine ⟨(final_snoc start past event).symm, ?_⟩
    cases event with
    | datagram d sent => exact backed_datagram backed rfl met.1 met.2
    | background b =>
        exact backed.later.descends (MasterServer.background_prunes sqlite _ b).descends
          fun _ _ listed => .inl (MasterServer.listed_background noWrite listed)

end Machine

namespace MasterSample

open Machine

/-- The server of the handshake is listed, and has proved its game. -/
theorem listed_proved_handshake : Proved sqlite start handshakeRun client (ascii "gmtest") := by
  have meets : StepsMeet (step sqlite)
      (OnDatagrams fun m d _ => KeepsGame m d ∧ BringsAnswer m d) start handshakeRun := by
    refine ⟨by decide +kernel, ?_⟩
    rw [start_first]
    decide
  refine listed_proved start_initial (by decide) meets client (ascii "gmtest") ?_
  rw [handshakeRun, final_cons, start_first]
  decide

/-- The validated server's next heartbeat names the other game. -/
def straying : Datagram := datagram (heartbeat "battlefield2" "hostname") (by decide) 2

def strayingRun : List Event :=
  [.datagram first true, .datagram (answer 1) true, .datagram straying true]

/-- It is listed for a game whose key it has not proved. -/
theorem listed_proved_fails_straying :
    ¬ ∀ (sqlite : Sqlite) (start : Machine), start.Initial →
      ∀ events : List Event, (∀ event ∈ events, event.adminWrite = false) →
      ∀ (client : Endpoint) (gamename : Bytes),
        (final (step sqlite) start events).server.db.Listed gamename client.rowKey →
        Proved sqlite start events client gamename := by
  intro claimed
  have listed : (final (step sqlite) start strayingRun).server.db.Listed (ascii "battlefield2")
      client.rowKey := by
    rw [strayingRun, final_cons, start_first]
    decide +kernel
  have replies : outputs (step sqlite) start strayingRun =
      [.challenge client instanceKey challenge, .registered client instanceKey] := by
    rw [strayingRun, outputs, start_first]
    decide +kernel
  obtain ⟨past, d, sent, rest, key, text, split, -, known, ⟨k, mem⟩, answers⟩ :=
    claimed sqlite start start_initial strayingRun (by decide) client _ listed
  have secret : key = ascii "hW6m9a" :=
    Option.some.inj (known.symm.trans rfl)
  have issued : text = challenge := by
    have emitted := List.mem_append_left (outputs (step sqlite) (final (step sqlite) start past)
      (.datagram d sent :: rest)) mem
    rw [← outputs_append, ← split, replies] at emitted
    have same : k = instanceKey ∧ text = challenge := by simpa using emitted
    exact same.2
  have answered : d.answer? = none ∨ d.answer? = some proof := by
    have here : Event.datagram d sent ∈ strayingRun := split ▸ by simp
    simp only [strayingRun, List.mem_cons, Event.datagram.injEq, List.not_mem_nil, or_false] at here
    rcases here with ⟨rfl, -⟩ | ⟨rfl, -⟩ | ⟨rfl, -⟩ <;> decide
  have other : Utils.encode (ascii "hW6m9a") challenge ≠ proof := by decide +kernel
  rcases answered with silent | right
  · rw [silent] at answers
    cases answers
  · rw [right, secret, issued] at answers
    exact other (Option.some.inj answers).symm

end MasterSample

end GamespyEmulator
