import GamespyEmulator.Master.Handshake

/-!
Who stays listed. A sign of life that the code stamps (`Stamps`) keeps every entry of
its sender at least as young as the sign (`fresh_run`), so a cleanup pass within 60
seconds spares the sender and its rows (`cleanup_keeps`). Two signs are not stamped: a
heartbeat of a validated endpoint, and a keepalive of an endpoint in both maps, which
only reaches the pending entry.
-/

namespace GamespyEmulator

open Wire Run

namespace MasterServer

/-- Every entry of `client` was stamped at `t` or later. -/
def Fresh (t : Int) (client : Endpoint) (s : MasterServer) : Prop :=
  ∀ entry, s.awaitingValidation[client]? = some entry ∨ s.validated[client]? = some entry →
    t ≤ entry.lastUpdate

section Fresh

variable {t now : Int} {client : Endpoint} {s s' : MasterServer}

theorem Fresh.prunes (fresh : Fresh t client s) (prunes : s.Prunes s') : Fresh t client s' := by
  rintro entry (held | held)
  · exact fresh entry (.inl (prunes.awaiting client entry held))
  · exact fresh entry (.inr (prunes.validated client entry held))

theorem Fresh.refreshes (fresh : Fresh t client s) (refreshes : Refreshes now s s')
    (late : t ≤ now) : Fresh t client s' := by
  rintro entry (held | held)
  · rcases refreshes.awaitingStamp client entry held with old | stamped
    · exact fresh entry (.inl old)
    · exact stamped ▸ late
  · rcases refreshes.validatedStamp client entry held with old | stamped
    · exact fresh entry (.inr old)
    · exact stamped ▸ late

/-- An entry is spared for 60 seconds. -/
theorem not_expired {entry : ServerEntry} (young : now - entry.lastUpdate ≤ 60 * 1000000000) :
    expired now entry = false := by
  have : (now - entry.lastUpdate).tdiv 1000000000 ≤ (60 * 1000000000 : Int).tdiv 1000000000 :=
    Int.tdiv_le_tdiv (by norm_num) young
  simpa [expired] using this

end Fresh

end MasterServer

namespace Machine

open MasterServer

variable {sqlite : Sqlite} {start m : Machine} {d : Datagram} {sent : Bool}

/-! ### Time -/

/-- The clock an event's handler reads. -/
def Event.time? : Event → Option Int
  | .datagram d _ => some d.now
  | .background (.cleanup now) => some now
  | .background _ => none

/-- The clock does not go back. -/
def Chronological (events : List Event) : Prop :=
  (events.filterMap Event.time?).Pairwise (· ≤ ·)

/-! ### Signs of life -/

/-- A heartbeat for a known game, or a keepalive. -/
def SignOfLife (m : Machine) (d : Datagram) : Prop :=
  (∃ gamename ∈ m.heartbeatGame? d, gamename ∈ m.server.db) ∨
    ∃ packet ∈ m.packet? d, packet.type = .keepalive

/-- The signs that reach all entries of their sender. -/
def Stamps (m : Machine) (d : Datagram) : Prop :=
  (m.heartbeatGame? d ≠ none → d.client ∉ m.server.validated) ∧
    ∀ packet ∈ m.packet? d, packet.type = .keepalive →
      ¬ (d.client ∈ m.server.awaitingValidation ∧ d.client ∈ m.server.validated)

instance (events : List Event) : Decidable (Chronological events) := by
  unfold Chronological; infer_instance

instance (m : Machine) (d : Datagram) : Decidable (SignOfLife m d) := by
  unfold SignOfLife; infer_instance

instance (m : Machine) (d : Datagram) : Decidable (Stamps m d) := by
  unfold Stamps; infer_instance

section Sign

variable {s : MasterServer} {packet : QRPacket}

theorem fresh_pending {client : Endpoint} {entry : ServerEntry}
    (unlisted : s.validated[client]? = none) :
    Fresh entry.lastUpdate client
      { s with awaitingValidation := s.awaitingValidation.insert client entry } := by
  rintro other (pending | listed)
  · rcases OrdMap.insert_eq_some.mp pending with ⟨-, rfl⟩ | ⟨different, -⟩
    · exact Int.le_refl _
    · exact absurd rfl different
  · rw [unlisted] at listed
    cases listed

theorem fresh_heartbeat {heartbeat : QRHeartbeatPacket} {gamename : Bytes}
    (type : packet.type = .heartbeat) (parsed : QRHeartbeatPacket.parse packet = .ok heartbeat)
    (named : heartbeat.serverData[ascii "gamename"]? = some gamename) (known : gamename ∈ s.db)
    (invalid : d.client ∉ s.validated) :
    Fresh d.now d.client ((s.handle sqlite d packet).1.resume sqlite
      (s.handle sqlite d packet).2 sent) := by
  obtain ⟨game, known⟩ := OrdMap.mem_iff.mp known
  have unlisted := OrdMap.notMem_iff.mp invalid
  cases held : s.awaitingValidation[d.client]? with
  | none =>
      rw [handle_firstHeartbeat type parsed named known invalid held, resume_done]
      exact fresh_pending unlisted
  | some old =>
      simp only [handle, type, handleHeartbeat, parsed, named, known, invalid, held, if_false,
        resume_none]
      exact fresh_pending unlisted

theorem fresh_keepalive (type : packet.type = .keepalive)
    (single : ¬ (d.client ∈ s.awaitingValidation ∧ d.client ∈ s.validated)) :
    Fresh d.now d.client ((s.handle sqlite d packet).1.resume sqlite
      (s.handle sqlite d packet).2 sent) := by
  cases held : s.awaitingValidation[d.client]? with
  | some old =>
      have unlisted : s.validated[d.client]? = none := OrdMap.notMem_iff.mp fun listed =>
        single ⟨OrdMap.mem_iff.mpr ⟨old, held⟩, listed⟩
      simp only [handle, type, handleKeepAlive, held, resume_none]
      exact fresh_pending unlisted
  | none =>
      cases held' : s.validated[d.client]? with
      | some old =>
          simp only [handle, type, handleKeepAlive, held, held', resume_none]
          rintro entry (pending | listed)
          · rw [held] at pending
            cases pending
          · rw [OrdMap.insert_getElem?, if_pos rfl] at listed
            cases listed
            exact Int.le_refl _
      | none =>
          simp only [handle, type, handleKeepAlive, held, held', resume_none]
          rintro entry (pending | listed)
          · rw [held] at pending
            cases pending
          · rw [held'] at listed
            cases listed

end Sign

/-- Behind a stamped sign all entries of its sender are as young as the sign. -/
theorem fresh_sign (sign : SignOfLife m d) (stamps : Stamps m d) :
    Fresh d.now d.client (m.step sqlite (.datagram d sent)).1.server := by
  rcases sign with ⟨gamename, names, known⟩ | ⟨packet, framed, type⟩
  · obtain ⟨packet, heartbeat, framed, type, parsed, named⟩ := heartbeatGame?_eq_some.mp names
    rw [step_packet framed]
    exact fresh_heartbeat type parsed named known (stamps.1 (by rw [names]; simp))
  · rw [step_packet framed]
    exact fresh_keepalive type (stamps.2 packet framed type)

/-! ### Later events -/

theorem fresh_step {t : Int} {client : Endpoint} {event : Event}
    (fresh : Fresh t client m.server) (late : ∀ now ∈ event.time?, t ≤ now) :
    Fresh t client (m.step sqlite event).1.server := by
  cases event with
  | background b => exact fresh.prunes (background_prunes sqlite m.server b)
  | datagram d sent =>
      have late : t ≤ d.now := late d.now rfl
      rcases step_datagram sqlite m d sent with ⟨same, -⟩ | ⟨packet, out, -, handled, server, -⟩
      · rw [same]
        exact fresh
      · rw [server]
        cases handled with
        | refreshed refreshes idle =>
            rw [resume_idle idle]
            exact fresh.refreshes refreshes late
        | updated => exact fresh
        | challenged =>
            rw [resume_done]
            rintro entry (pending | listed)
            · rcases OrdMap.insert_eq_some.mp pending with ⟨-, rfl⟩ | ⟨-, old⟩
              · exact late
              · exact fresh entry (.inl old)
            · exact fresh entry (.inr listed)
        | @accepted old type held right =>
            have emplaced : Fresh t client
                { m.server with validated := m.server.validated.insertIfNew d.client old } := by
              rintro entry (pending | listed)
              · exact fresh entry (.inl pending)
              · rcases OrdMap.insertIfNew_eq_some.mp listed with ⟨rfl, -, rfl⟩ | valid
                · exact fresh old (.inl held)
                · exact fresh entry (.inr valid)
            rw [resume_register]
            split
            · exact emplaced.prunes (completeChallenge_prunes sqlite _ d.client)
            · exact emplaced

theorem fresh_run {t : Int} {client : Endpoint} {events : List Event}
    (fresh : Fresh t client m.server) (late : ∀ now ∈ events.filterMap Event.time?, t ≤ now) :
    Fresh t client (final (step sqlite) m events).server := by
  have meets : StepsMeet (step sqlite) (fun _ event => ∀ now ∈ event.time?, t ≤ now) m events :=
    stepsMeet_of_forall fun event mem _ now reads =>
      late now (List.mem_filterMap.mpr ⟨event, mem, reads⟩)
  exact @invariant _ _ _ _ _ (fun m : Machine => Fresh t client m.server) m fresh
    (fun _ _ holds late => fresh_step holds late) events meets

/-- **A stamped sign of life keeps its sender for 60 seconds**: a cleanup pass in that
time leaves its validated entry and its rows. -/
theorem cleanup_keeps {past rest : List Event} {now : Int}
    (chronological :
      Chronological (past ++ .datagram d sent :: (rest ++ [.background (.cleanup now)])))
    (sign : SignOfLife (final (step sqlite) start past) d)
    (stamps : Stamps (final (step sqlite) start past) d)
    (recent : now - d.now ≤ 60 * 1000000000) :
    let s := (final (step sqlite) start (past ++ .datagram d sent :: rest)).server
    (d.client ∈ s.validated → d.client ∈ (s.cleanup now).validated) ∧
      ∀ gamename : Bytes, s.db.Listed gamename d.client.rowKey →
        (s.cleanup now).db.Listed gamename d.client.rowKey := by
  intro s
  have late : ∀ t ∈ rest.filterMap Event.time?, d.now ≤ t := by
    have reads : Event.time? (.datagram d sent) = some d.now := rfl
    rw [Chronological, List.filterMap_append, List.filterMap_cons_some reads,
      List.filterMap_append] at chronological
    intro t mem
    have ordered := (List.pairwise_append.mp chronological).2.1
    exact (List.pairwise_cons.mp ordered).1 t (List.mem_append_left _ mem)
  have fresh : Fresh d.now d.client s := by
    have behind : Fresh d.now d.client (final (step sqlite)
        ((final (step sqlite) start past).step sqlite (.datagram d sent)).1 rest).server :=
      fresh_run (fresh_sign sign stamps) late
    rwa [← final_cons, ← final_append] at behind
  have young (entry : ServerEntry)
      (held : s.awaitingValidation[d.client]? = some entry ∨ s.validated[d.client]? = some entry) :
      expired now entry = false := by
    have := fresh entry held
    exact not_expired (by omega)
  refine ⟨fun valid => ?_, fun gamename listed => listed_cleanup.mpr ⟨listed, ?_⟩⟩
  · obtain ⟨entry, held⟩ := OrdMap.mem_iff.mp valid
    exact OrdMap.mem_iff.mpr ⟨entry, cleanup_validated.mpr ⟨held, young entry (.inr held)⟩⟩
  · intro client entry held dead _ same
    obtain rfl := Endpoint.rowKey_inj.mp same
    rw [young entry held] at dead
    cases dead

end Machine

namespace MasterSample

open Machine

def keepalive : Datagram := datagram (8 :: instanceKey) (by decide) 50

def lateHeartbeat : Datagram := datagram (heartbeat "gmtest" "hostname") heartbeat_fits 50

/-- A keepalive 60 seconds before the pass keeps the server. -/
theorem cleanup_keeps_keepalive :
    client ∈ ((final (step sqlite) start (handshakeRun ++ [.datagram keepalive true])).server.cleanup
      (110 * 1000000000)).validated := by
  have sign : SignOfLife (final (step sqlite) start handshakeRun) keepalive := by
    rw [← List.append_nil handshakeRun, handshake_final]
    decide
  have stamps : Stamps (final (step sqlite) start handshakeRun) keepalive := by
    rw [← List.append_nil handshakeRun, handshake_final]
    decide
  refine (@cleanup_keeps sqlite start keepalive true handshakeRun [] (110 * 1000000000)
    (by decide) sign stamps (by decide)).1 ?_
  rw [handshake_final]
  rfl

/-- The heartbeat of a validated server 20 seconds before the pass does not. -/
theorem cleanup_keeps_fails_heartbeat :
    ¬ ∀ (sqlite : Sqlite) (start : Machine), start.Initial →
      ∀ (past rest : List Event) (d : Datagram) (sent : Bool) (now : Int),
        Chronological (past ++ .datagram d sent :: (rest ++ [.background (.cleanup now)])) →
        SignOfLife (final (step sqlite) start past) d → now - d.now ≤ 60 * 1000000000 →
        let s := (final (step sqlite) start (past ++ .datagram d sent :: rest)).server
        d.client ∈ s.validated → d.client ∈ (s.cleanup now).validated ∧
          ∀ gamename : Bytes, s.db.Listed gamename d.client.rowKey →
            (s.cleanup now).db.Listed gamename d.client.rowKey := by
  intro claimed
  have sign : SignOfLife (final (step sqlite) start handshakeRun) lateHeartbeat := by
    rw [← List.append_nil handshakeRun, handshake_final]
    decide +kernel
  have kept := claimed sqlite start start_initial handshakeRun [] lateHeartbeat true
    (70 * 1000000000) (by decide) sign (by decide)
  rw [handshake_final] at kept
  have valid := (kept (by decide +kernel)).1
  revert valid
  decide +kernel

end MasterSample

end GamespyEmulator
