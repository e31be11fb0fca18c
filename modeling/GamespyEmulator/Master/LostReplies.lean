import GamespyEmulator.Master.Authorisation

/-!
Servers whose replies get lost. A pending endpoint gets one challenge, with its pending
entry; later heartbeats renew the entry and keep its proof. `recovers` says of every run
what that leaves to an endpoint: the proof in its entry is always that of the latest
challenge sent to it, and answering that one validates it.
-/

namespace GamespyEmulator

open Wire Run

/-- The text of the latest challenge to an endpoint. -/
def latestChallenge? (client : Endpoint) (sent : List Reply) : Option Bytes :=
  sent.reverse.findSome? fun
    | .challenge other _ text => if other = client then some text else none
    | _ => none

section LatestChallenge

variable {client other : Endpoint} {sent : List Reply} {key text : Bytes}

theorem latestChallenge?_snoc (reply : Reply) :
    latestChallenge? client (sent ++ [reply]) =
      (latestChallenge? client [reply]).or (latestChallenge? client sent) := by
  rw [latestChallenge?, List.reverse_append, List.findSome?_append]
  rfl

theorem latestChallenge?_new :
    latestChallenge? client (sent ++ [.challenge client key text]) = some text := by
  rw [latestChallenge?_snoc, latestChallenge?]
  simp

theorem latestChallenge?_other (different : other ≠ client) :
    latestChallenge? client (sent ++ [.challenge other key text]) =
      latestChallenge? client sent := by
  rw [latestChallenge?_snoc, latestChallenge?]
  simp [different]

theorem latestChallenge?_append {replies : List Reply}
    (none' : ∀ other key text, .challenge other key text ∉ replies) :
    latestChallenge? client (sent ++ replies) = latestChallenge? client sent := by
  induction replies using List.reverseRecOn with
  | nil => rw [List.append_nil]
  | append_singleton front reply ih =>
      have front' : ∀ other key text, .challenge other key text ∉ front := fun other key text mem =>
        none' other key text (List.mem_append_left _ mem)
      have last : latestChallenge? client [reply] = none := by
        cases reply with
        | challenge other key text => exact absurd (by simp) (none' other key text)
        | available _ _ => rfl
        | registered _ _ => rfl
      rw [← List.append_assoc, latestChallenge?_snoc, last, Option.none_or, ih front']

end LatestChallenge

namespace MasterServer

variable {sqlite : Sqlite} {s : MasterServer} {d : Datagram} {packet : QRPacket}

/-- A challenge is sent by a first heartbeat, and to nobody else. -/
theorem handle_challenge {client : Endpoint} {key text : Bytes} {continuation : Continuation}
    (sends : (s.handle sqlite d packet).2 = some (.challenge client key text, continuation)) :
    ∃ heartbeat gamename game, s.db[gamename]? = some game ∧
      s.handle sqlite d packet = ({ s with awaitingValidation :=
          (s.awaitingValidation.insert d.client (pendingEntry game d heartbeat gamename)) },
        some (.challenge d.client heartbeat.instanceKey (challengeText game d.client d.picks),
          .done)) := by
  unfold handle at sends ⊢
  split at sends
  · unfold handleAvailable at sends
    split at sends
    · cases sends
    · split at sends <;> cases sends
  · unfold handleHeartbeat at sends ⊢
    split at sends
    · cases sends
    · rename_i heartbeat parsed
      split at sends
      · cases sends
      · rename_i gamename named
        split at sends
        · cases sends
        · rename_i game known
          split at sends
          · cases sends
          · rename_i invalid
            split at sends
            · rename_i unheld
              exact ⟨heartbeat, gamename, game, known, by simp [*]⟩
            · cases sends
  · unfold handleKeepAlive at sends
    split at sends
    · cases sends
    · split at sends <;> cases sends
  · unfold handleChallenge at sends
    split at sends
    · cases sends
    · split at sends <;> cases sends
  · cases sends

/-- Where no challenge is sent, the pending entries are older ones with their proofs. -/
theorem Handled.pending {out : Handling} (handled : Handled sqlite s d packet out)
    (quiet : ∀ client key text continuation,
      out.2 ≠ some (.challenge client key text, continuation)) (sent : Bool) :
    (out.1.resume sqlite out.2 sent).db.secretKey? = s.db.secretKey? ∧
      ∀ (client : Endpoint) (entry : ServerEntry),
        (out.1.resume sqlite out.2 sent).awaitingValidation[client]? = some entry →
        ∃ old, s.awaitingValidation[client]? = some old ∧ entry.proof = old.proof ∧
          entry.gamename = old.gamename := by
  cases handled with
  | refreshed refreshes idle =>
      rw [resume_idle idle]
      exact ⟨refreshes.secretKeys, refreshes.awaiting⟩
  | @updated heartbeat gamename entry type parsed named known held =>
      have descends := (prunes_add sqlite s gamename
        (incoming d.client heartbeat.serverData)).descends
      exact ⟨descends.secretKeys, descends.awaiting⟩
  | challenged known invalid unheld => exact absurd rfl (quiet _ _ _ _)
  | @accepted entry type held right =>
      rw [resume_register]
      split
      · have prunes := completeChallenge_prunes sqlite
          { s with validated := s.validated.insertIfNew d.client entry } d.client
        exact ⟨prunes.secretKeys, prunes.descends.awaiting⟩
      · exact ⟨rfl, fun _ entry held => ⟨entry, held, rfl, rfl⟩⟩

end MasterServer

namespace Machine

variable {sqlite : Sqlite} {start m : Machine} {d : Datagram} {sent : Bool}

/-- What a datagram does to the pending entries: it makes one and sends its challenge, or
it sends none and keeps their proofs. -/
theorem step_pending (sqlite : Sqlite) (m : Machine) (d : Datagram) (sent : Bool) :
    (∃ heartbeat gamename game, m.server.db[gamename]? = some game ∧
      (m.step sqlite (.datagram d sent)).1.server = { m.server with awaitingValidation :=
        (m.server.awaitingValidation.insert d.client (pendingEntry game d heartbeat gamename)) } ∧
      (m.step sqlite (.datagram d sent)).2 =
        [.challenge d.client heartbeat.instanceKey (challengeText game d.client d.picks)]) ∨
    ((∀ client key text, .challenge client key text ∉ (m.step sqlite (.datagram d sent)).2) ∧
      (m.step sqlite (.datagram d sent)).1.server.db.secretKey? = m.server.db.secretKey? ∧
      ∀ (client : Endpoint) (entry : ServerEntry),
        (m.step sqlite (.datagram d sent)).1.server.awaitingValidation[client]? = some entry →
        ∃ old, m.server.awaitingValidation[client]? = some old ∧ entry.proof = old.proof ∧
          entry.gamename = old.gamename) := by
  cases framed : m.packet? d with
  | none =>
      rcases step_datagram sqlite m d sent with ⟨same, silent⟩ | ⟨packet, _, framed', -⟩
      · rw [same, silent]
        exact .inr ⟨by simp, rfl, fun _ entry held => ⟨entry, held, rfl, rfl⟩⟩
      · rw [framed] at framed'
        cases framed'
  | some packet =>
      rw [step_packet framed]
      by_cases sends : ∃ client key text continuation,
          (m.server.handle sqlite d packet).2 = some (.challenge client key text, continuation)
      · obtain ⟨client, key, text, continuation, sends⟩ := sends
        obtain ⟨heartbeat, gamename, game, known, does⟩ := MasterServer.handle_challenge sends
        rw [does]
        exact .inl ⟨heartbeat, gamename, game, known, rfl, rfl⟩
      · push Not at sends
        have pending := (MasterServer.handle_handled sqlite m.server d packet).pending sends sent
        refine .inr ⟨?_, pending⟩
        intro client key text mem
        obtain ⟨⟨reply, continuation⟩, waiting, rfl⟩ := List.mem_map.mp mem
        exact sends client key text continuation (Option.mem_toList.mp waiting)

/-! ### The invariant -/

/-- The proof in a pending entry is that of the latest challenge sent to its endpoint. -/
structure Challenged (start : Machine) (replies : List Reply) (s : MasterServer) : Prop where
  secretKeys : s.db.secretKey? = start.server.db.secretKey?
  latest : ∀ (client : Endpoint) (entry : ServerEntry),
    s.awaitingValidation[client]? = some entry →
    ∃ text key, latestChallenge? client replies = some text ∧
      start.server.db.secretKey? entry.gamename = some key ∧ entry.proof = Utils.encode key text

theorem Challenged.descends {replies : List Reply} {s s' : MasterServer}
    (challenged : Challenged start replies s) (secretKeys : s'.db.secretKey? = s.db.secretKey?)
    (awaiting : ∀ (client : Endpoint) (entry : ServerEntry),
      s'.awaitingValidation[client]? = some entry → ∃ old, s.awaitingValidation[client]? = some old ∧
        entry.proof = old.proof ∧ entry.gamename = old.gamename) :
    Challenged start replies s' where
  secretKeys := secretKeys.trans challenged.secretKeys
  latest client entry held := by
    obtain ⟨old, held, proof, gamename⟩ := awaiting client entry held
    rw [proof, gamename]
    exact challenged.latest client old held

theorem Challenged.step {replies : List Reply} (challenged : Challenged start replies m.server)
    (event : Event) :
    Challenged start (replies ++ (m.step sqlite event).2) (m.step sqlite event).1.server := by
  cases event with
  | background b =>
      have descends := (MasterServer.background_prunes sqlite m.server b).descends
      rw [Machine.step, List.append_nil]
      exact challenged.descends descends.secretKeys descends.awaiting
  | datagram d sent =>
      rcases step_pending sqlite m d sent with ⟨heartbeat, gamename, game, known, server, sends⟩ |
        ⟨quiet, secretKeys, awaiting⟩
      · rw [server, sends]
        refine ⟨challenged.secretKeys, ?_⟩
        intro client entry held
        rcases OrdMap.insert_eq_some.mp held with ⟨rfl, rfl⟩ | ⟨different, old⟩
        · refine ⟨_, game.data.secretKey, latestChallenge?_new, ?_, rfl⟩
          rw [← challenged.secretKeys]
          exact congrArg (Option.map _) known
        · rw [latestChallenge?_other different]
          exact challenged.latest client entry old
      · have later := challenged.descends secretKeys awaiting
        refine ⟨later.secretKeys, ?_⟩
        intro client entry held
        rw [latestChallenge?_append quiet]
        exact later.latest client entry held

theorem challenged_run (initial : start.Initial) (events : List Event) :
    Challenged start (outputs (step sqlite) start events)
      (final (step sqlite) start events).server := by
  refine @history_stable _ _ _ (step sqlite) events
    (fun past m => Challenged start (outputs (Machine.step sqlite) start past) m.server) start
    ⟨rfl, ?_⟩ ?_
  · intro client entry held
    simp [initial.awaiting] at held
  · intro past event challenged
    rw [outputs_snoc]
    exact challenged.step event

/-! ### What an endpoint can do -/

/-- The receive loop hears a well-formed heartbeat for a known game. -/
structure Hears (m : Machine) (d : Datagram) (heartbeat : QRHeartbeatPacket) (gamename : Bytes)
    (game : Game) : Prop where
  framed : ∃ packet, m.packet? d = some packet ∧ packet.type = .heartbeat ∧
    QRHeartbeatPacket.parse packet = .ok heartbeat
  named : heartbeat.serverData[ascii "gamename"]? = some gamename
  known : m.server.db[gamename]? = some game

/-- What the server does for an endpoint that is not validated, in the state `m` behind the
replies `sent`. -/
structure Recovers (sqlite : Sqlite) (start m : Machine) (sent : List Reply) : Prop where
  /-- A heartbeat of an endpoint that has no pending entry makes one and sends its challenge. -/
  first : ∀ (d : Datagram) (heartbeat : QRHeartbeatPacket) (gamename : Bytes) (game : Game)
    (delivered : Bool), Hears m d heartbeat gamename game → d.client ∉ m.server.validated →
    m.server.awaitingValidation[d.client]? = none →
    ∃ text entry, (m.step sqlite (.datagram d delivered)).2 =
        [.challenge d.client heartbeat.instanceKey text] ∧
      (m.step sqlite (.datagram d delivered)).1.server.awaitingValidation[d.client]? = some entry ∧
      entry.proof = Utils.encode game.data.secretKey text
  /-- A heartbeat of a pending endpoint renews its entry, keeps the proof and sends nothing. -/
  again : ∀ (d : Datagram) (heartbeat : QRHeartbeatPacket) (gamename : Bytes) (game : Game)
    (entry : ServerEntry) (delivered : Bool), Hears m d heartbeat gamename game →
    d.client ∉ m.server.validated → m.server.awaitingValidation[d.client]? = some entry →
    (m.step sqlite (.datagram d delivered)).2 = [] ∧
      (m.step sqlite (.datagram d delivered)).1.server.awaitingValidation[d.client]? =
        some { entry with lastUpdate := d.now, values := heartbeat.serverData }
  /-- A pending endpoint was sent a challenge, and the latest one's proof is in its entry. -/
  latest : ∀ (client : Endpoint) (entry : ServerEntry),
    m.server.awaitingValidation[client]? = some entry →
    ∃ text key, latestChallenge? client sent = some text ∧
      start.server.db.secretKey? entry.gamename = some key ∧ entry.proof = Utils.encode key text
  /-- Answering the latest challenge validates a pending endpoint. -/
  answer : ∀ (d : Datagram) (entry : ServerEntry) (text key : Bytes) (delivered : Bool),
    m.receiving = true → m.server.awaitingValidation[d.client]? = some entry →
    latestChallenge? d.client sent = some text →
    start.server.db.secretKey? entry.gamename = some key →
    d.answer? = some (Utils.encode key text) →
    (m.step sqlite (.datagram d delivered)).2 = [.registered d.client entry.instanceKey] ∧
      d.client ∈ (m.step sqlite (.datagram d delivered)).1.server.validated

theorem step_first {heartbeat : QRHeartbeatPacket} {gamename : Bytes} {game : Game}
    (hears : Hears m d heartbeat gamename game) (invalid : d.client ∉ m.server.validated)
    (unheld : m.server.awaitingValidation[d.client]? = none) :
    (m.step sqlite (.datagram d sent)).2 =
        [.challenge d.client heartbeat.instanceKey (challengeText game d.client d.picks)] ∧
      (m.step sqlite (.datagram d sent)).1.server.awaitingValidation[d.client]? =
        some (pendingEntry game d heartbeat gamename) := by
  obtain ⟨packet, framed, type, parsed⟩ := hears.framed
  rw [step_packet framed, MasterServer.handle_firstHeartbeat type parsed hears.named hears.known
    invalid unheld]
  refine ⟨rfl, ?_⟩
  rw [MasterServer.resume_done]
  dsimp only
  rw [OrdMap.insert_getElem?, if_pos rfl]

theorem step_again {heartbeat : QRHeartbeatPacket} {gamename : Bytes} {game : Game}
    {entry : ServerEntry} (hears : Hears m d heartbeat gamename game)
    (invalid : d.client ∉ m.server.validated)
    (held : m.server.awaitingValidation[d.client]? = some entry) :
    (m.step sqlite (.datagram d sent)).2 = [] ∧
      (m.step sqlite (.datagram d sent)).1.server.awaitingValidation[d.client]? =
        some { entry with lastUpdate := d.now, values := heartbeat.serverData } := by
  obtain ⟨packet, framed, type, parsed⟩ := hears.framed
  rw [step_packet framed]
  simp only [MasterServer.handle, type, MasterServer.handleHeartbeat, parsed, hears.named,
    hears.known, invalid, held, if_false, MasterServer.resume_none]
  refine ⟨rfl, ?_⟩
  rw [OrdMap.insert_getElem?, if_pos rfl]

/-- The receive loop reads the answer that a datagram gives. -/
theorem packet?_of_answer {text : Bytes} (live : m.receiving = true)
    (answers : d.answer? = some text) :
    ∃ packet, m.packet? d = some packet ∧ packet.type = .challenge ∧
      cstr packet.data.memory = text := by
  unfold Datagram.answer? at answers
  split at answers
  · rename_i key data own
    split at answers
    · cases answers
    · rename_i body
      have same : (m.view d).bytes = (Span.whole d.bytes).bytes := by simp
      have framed := QRPacket.parse_congr same own
      have bytes : ((m.view d).subspan 5).bytes = data.bytes := QRPacket.data_bytes same own
      have ends : (0 : UInt8) ∈ ((m.view d).subspan 5).bytes :=
        bytes ▸ QRPacket.nul_mem_data own body
      refine ⟨_, packet?_eq_some.mpr ⟨live, framed⟩, rfl, ?_⟩
      rw [← Option.some.inj answers, ← bytes]
      exact Span.cstr_memory ends
  · cases answers

theorem step_answer {entry : ServerEntry} (live : m.receiving = true)
    (held : m.server.awaitingValidation[d.client]? = some entry)
    (answers : d.answer? = some entry.proof) :
    (m.step sqlite (.datagram d sent)).2 = [.registered d.client entry.instanceKey] ∧
      d.client ∈ (m.step sqlite (.datagram d sent)).1.server.validated := by
  obtain ⟨packet, framed, type, gives⟩ := packet?_of_answer live answers
  rw [step_packet framed, MasterServer.handle_rightAnswer type held gives.symm]
  refine ⟨rfl, ?_⟩
  rw [MasterServer.resume_register]
  have emplaced : d.client ∈ m.server.validated.insertIfNew d.client entry :=
    Std.ExtTreeMap.mem_insertIfNew_self
  split
  · rcases MasterServer.completeChallenge_cases sqlite
      { m.server with validated := m.server.validated.insertIfNew d.client entry } d.client with
      same | ⟨entry', game, held', known, same⟩
    · rw [same]
      exact emplaced
    · rw [same]
      exact emplaced
  · exact emplaced

/-- **What lost replies leave to an endpoint**, in every state of every run. -/
theorem recovers (initial : start.Initial) (events : List Event) :
    Recovers sqlite start (final (step sqlite) start events)
      (outputs (step sqlite) start events) := by
  have challenged := @challenged_run sqlite start initial events
  refine ⟨?_, ?_, challenged.latest, ?_⟩
  · intro d heartbeat gamename game delivered hears invalid unheld
    obtain ⟨sends, held⟩ := step_first hears invalid unheld
    exact ⟨_, _, sends, held, rfl⟩
  · intro d heartbeat gamename game entry delivered hears invalid held
    exact step_again hears invalid held
  · intro d entry text key delivered live held sent secret answers
    obtain ⟨text', key', sent', secret', proof⟩ := challenged.latest d.client entry held
    rw [sent] at sent'
    rw [secret] at secret'
    rw [Option.some.inj sent', Option.some.inj secret', ← proof] at answers
    exact step_answer live held answers

end Machine

namespace MasterSample

open Machine

/-- The machine that has sent its first challenge. -/
theorem recovers_first :
    Recovers sqlite start pending [.challenge client instanceKey challenge] := by
  have run := @recovers sqlite start start_initial [.datagram first true]
  rw [final_cons, outputs, outputs, start_first] at run
  exact run

/-- The heartbeat again, 30 seconds later. -/
def again : Datagram := datagram (heartbeat "gmtest" "hostname") heartbeat_fits 30

/-- A second heartbeat is not answered. -/
theorem recovers_fails_again :
    ¬ ∀ (sqlite : Sqlite) (start : Machine), start.Initial →
      ∀ (events : List Event) (d : Datagram) (gamename : Bytes) (sent : Bool),
        (final (step sqlite) start events).heartbeatGame? d = some gamename →
        gamename ∈ (final (step sqlite) start events).server.db →
        d.client ∉ (final (step sqlite) start events).server.validated →
        ∃ key text, .challenge d.client key text ∈
          ((final (step sqlite) start events).step sqlite (.datagram d sent)).2 := by
  intro claimed
  have once := claimed sqlite start start_initial [.datagram first true] again (ascii "gmtest") true
  rw [final_cons, start_first, final_nil] at once
  have silent : (pending.step sqlite (.datagram again true)).2 = [] := by decide +kernel
  rw [silent] at once
  obtain ⟨key, text, mem⟩ := once (by decide +kernel) (by decide +kernel) (by simp [pending])
  cases mem

end MasterSample

end GamespyEmulator
