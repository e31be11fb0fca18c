import GamespyEmulator.Master.StoredGames

/-!
Failure atomicity. `HandleChallenge` puts the entry into the validated map, sends, writes
the row, and erases the pending entry last; a failed send or an exception of
`AddOrUpdateServer` leaves what was done. When every accepted answer completes
(`Completes`) and no call of `AddOrUpdateServer` reads keys or names that are lost, no
endpoint is in both maps and every validated endpoint has its row (`registration_atomic`),
whatever other handlers end with an exception.
-/

namespace GamespyEmulator

open Wire Run

/-- Deletes through the admin API. -/
def Background.adminDelete : Background → Bool
  | .removeServer _ _ => true
  | _ => false

def Machine.Event.adminDelete : Machine.Event → Bool
  | .datagram _ _ => false
  | .background b => b.adminDelete

namespace MasterServer

open GameDB

/-- No endpoint is in both maps, and pending entries are of known games. -/
structure Settled (s : MasterServer) : Prop where
  known : s.Known
  single : ∀ client : Endpoint, ¬ (client ∈ s.awaitingValidation ∧ client ∈ s.validated)

/-- Every validated endpoint has a row in the table of its game. -/
def Rowed (s : MasterServer) : Prop :=
  ∀ (client : Endpoint) (entry : ServerEntry), s.validated[client]? = some entry →
    s.db.Listed entry.gamename client.rowKey

section Settled

variable {sqlite : Sqlite} {s s' : MasterServer} {client : Endpoint} {entry : ServerEntry}

theorem Settled.descends (settled : s.Settled) (descends : s.Descends s') : s'.Settled where
  known := settled.known.descends descends
  single client both := by
    obtain ⟨pending, held⟩ := OrdMap.mem_iff.mp both.1
    obtain ⟨listed, held'⟩ := OrdMap.mem_iff.mp both.2
    obtain ⟨old, held, -⟩ := descends.awaiting client pending held
    obtain ⟨old', held', -⟩ := descends.validated client listed held'
    exact settled.single client ⟨OrdMap.mem_iff.mpr ⟨old, held⟩, OrdMap.mem_iff.mpr ⟨old', held'⟩⟩

theorem Rowed.descends (rowed : s.Rowed) (descends : s.Descends s')
    (rows : ∀ (gamename : Bytes) (key : RowKey), s.db.Listed gamename key →
      s'.db.Listed gamename key) : s'.Rowed := by
  intro client entry held
  obtain ⟨old, held, -, same⟩ := descends.validated client entry held
  rw [same]
  exact rows old.gamename client.rowKey (rowed client old held)

theorem Settled.challenged (settled : s.Settled) (invalid : client ∉ s.validated)
    (known : entry.gamename ∈ s.db) :
    Settled { s with awaitingValidation := (s.awaitingValidation.insert client entry) } where
  known := settled.known.challenged known
  single other both := by
    rcases Std.ExtTreeMap.mem_insert.mp both.1 with eq | old
    · exact invalid (Std.LawfulEqOrd.eq_of_compare eq ▸ both.2)
    · exact settled.single other ⟨old, both.2⟩

/-- An accepted answer that completes moves its endpoint from one map to the other … -/
theorem Settled.completed (settled : s.Settled) {game : Game}
    (held : s.awaitingValidation[client]? = some entry)
    (known : s.db[entry.gamename]? = some game)
    (accepts : game.Accepts sqlite (incoming client entry.values)) :
    (completeChallenge sqlite { s with validated := s.validated.insertIfNew client entry }
      client).Settled := by
  have eq := @completeChallenge_accepts sqlite
    { s with validated := s.validated.insertIfNew client entry } entry game client held known accepts
  rw [eq]
  constructor
  · intro other entry' held'
    rw [mem_iff_secretKey?, secretKey?_add, ← mem_iff_secretKey?]
    exact settled.known other entry' (OrdMap.erase_eq_some.mp held').2
  · rintro other ⟨pending, valid⟩
    obtain ⟨different, pending⟩ := Std.ExtTreeMap.mem_erase.mp pending
    rcases Std.ExtTreeMap.mem_insertIfNew.mp valid with same | old
    · exact different same
    · exact settled.single other ⟨pending, old⟩

/-- … and lists it. -/
theorem Rowed.completed (rowed : s.Rowed) {game : Game}
    (held : s.awaitingValidation[client]? = some entry)
    (known : s.db[entry.gamename]? = some game)
    (accepts : game.Accepts sqlite (incoming client entry.values)) :
    (completeChallenge sqlite { s with validated := s.validated.insertIfNew client entry }
      client).Rowed := by
  intro other entry' held'
  have emplaced := (completeChallenge_prunes sqlite _ client).validated other entry' held'
  rcases OrdMap.insertIfNew_eq_some.mp emplaced with ⟨rfl, -, rfl⟩ | old
  · exact @completeChallenge_row sqlite
      { s with validated := s.validated.insertIfNew client entry } entry game client held known
      accepts
  · exact completeChallenge_listed (rowed other entry' old)

/-- A cleanup pass expires an entry together with its row. -/
theorem Rowed.cleanup (rowed : s.Rowed) (settled : s.Settled) (now : Int) :
    (s.cleanup now).Rowed := by
  intro client entry held
  obtain ⟨held, alive⟩ := cleanup_validated.mp held
  refine listed_cleanup.mpr ⟨rowed client entry held, ?_⟩
  intro other entry' held' dead _ same
  obtain rfl := Endpoint.rowKey_inj.mp same
  rcases held' with pending | valid
  · exact settled.single other ⟨OrdMap.mem_iff.mpr ⟨entry', pending⟩, OrdMap.mem_iff.mpr ⟨entry, held⟩⟩
  · rw [Option.some.inj (valid.symm.trans held), alive] at dead
    cases dead

theorem Rowed.background (rowed : s.Rowed) (settled : s.Settled) {b : Background}
    (kept : b.adminDelete = false) : (s.background sqlite b).Rowed := by
  cases b with
  | cleanup now => exact rowed.cleanup settled now
  | subscribe gamename keyList =>
      exact rowed.descends (background_prunes sqlite s (.subscribe gamename keyList)).descends
        fun _ _ listed => (listed_subscribers (f := (· ++ [keyList]))).mpr listed
  | unsubscribe gamename slot =>
      exact rowed.descends (background_prunes sqlite s (.unsubscribe gamename slot)).descends
        fun _ _ listed => (listed_subscribers (f := (·.eraseIdx slot))).mpr listed
  | addServer gamename server =>
      exact rowed.descends (background_prunes sqlite s (.addServer gamename server)).descends
        fun _ _ listed => listed_add listed
  | removeServer gamename key => cases kept

end Settled

end MasterServer

namespace Machine

open MasterServer

variable {sqlite : Sqlite} {start m : Machine} {d : Datagram} {sent : Bool}

/-- An accepted answer is answered, and the game takes the server. -/
def Completes (sqlite : Sqlite) (m : Machine) (d : Datagram) (sent : Bool) : Prop :=
  ∀ entry ∈ m.acceptedAnswer? d, sent = true ∧
    ∀ game ∈ m.server.db[entry.gamename]?, game.Accepts sqlite (incoming d.client entry.values)

instance (sqlite : Sqlite) (m : Machine) (d : Datagram) (sent : Bool) :
    Decidable (Completes sqlite m d sent) := by
  unfold Completes; infer_instance

/-- A datagram whose answer completes keeps both invariants. -/
theorem settled_datagram (settled : m.server.Settled) (completes : Completes sqlite m d sent) :
    (m.step sqlite (.datagram d sent)).1.server.Settled ∧
      (m.server.Rowed → (m.step sqlite (.datagram d sent)).1.server.Rowed) := by
  rcases step_datagram sqlite m d sent with ⟨same, -⟩ | ⟨packet, out, framed, handled, server, -⟩
  · rw [same]
    exact ⟨settled, id⟩
  · rw [server]
    cases handled with
    | refreshed refreshes idle =>
        rw [resume_idle idle]
        refine ⟨settled.descends refreshes.toDescends, fun rowed => ?_⟩
        exact rowed.descends refreshes.toDescends fun _ _ listed => refreshes.db ▸ listed
    | @updated heartbeat gamename entry type parsed named known held =>
        have descends := (prunes_add sqlite m.server gamename
          (incoming d.client heartbeat.serverData)).descends
        refine ⟨settled.descends descends, fun rowed => ?_⟩
        exact rowed.descends descends fun _ _ listed => GameDB.listed_add listed
    | @challenged heartbeat gamename game known invalid unheld =>
        exact ⟨settled.challenged invalid (OrdMap.mem_iff.mpr ⟨game, known⟩), id⟩
    | @accepted entry type held right =>
        obtain ⟨rfl, accepts⟩ :=
          completes entry (acceptedAnswer?_eq_some.mpr ⟨packet, framed, type, held, right⟩)
        obtain ⟨game, known⟩ := OrdMap.mem_iff.mp (settled.known d.client entry held)
        have accepts := accepts game known
        exact ⟨settled.completed held known accepts,
          fun rowed => rowed.completed held known accepts⟩

theorem atomic_run (initial : start.Initial) {events : List Event}
    (meets : StepsMeet (step sqlite) (OnDatagrams (Completes sqlite)) start events) :
    let s := (final (step sqlite) start events).server
    (∀ client : Endpoint, ¬ (client ∈ s.awaitingValidation ∧ client ∈ s.validated)) ∧
      ((∀ event ∈ events, event.adminDelete = false) →
        ∀ (client : Endpoint) (entry : ServerEntry), s.validated[client]? = some entry →
          s.db.Listed entry.gamename client.rowKey) := by
  have init : start.server.Settled := by
    refine ⟨?_, ?_⟩
    · intro client entry held
      simp [initial.awaiting] at held
    · rintro client ⟨pending, -⟩
      simp [initial.awaiting] at pending
  have rowless : start.server.Rowed := by
    intro client entry held
    simp [initial.validated] at held
  have settled : (final (step sqlite) start events).server.Settled := by
    refine @invariant _ _ _ _ _ (fun m : Machine => m.server.Settled) start init ?_ events meets
    intro m event settled met
    cases event with
    | datagram d sent => exact (settled_datagram settled met).1
    | background b => exact settled.descends (background_prunes sqlite m.server b).descends
  refine ⟨settled.single, fun kept => ?_⟩
  have both := @invariant _ _ _ _ _
    (fun m : Machine => m.server.Settled ∧ m.server.Rowed) start ⟨init, rowless⟩ ?_ events
    (stepsMeet_and meets kept)
  · exact both.2
  · rintro m event ⟨settled, rowed⟩ ⟨met, noDelete⟩
    cases event with
    | datagram d sent =>
        obtain ⟨settled', rowed'⟩ := settled_datagram settled met
        exact ⟨settled', rowed' rowed⟩
    | background b =>
        exact ⟨settled.descends (background_prunes sqlite m.server b).descends,
          rowed.background settled noDelete⟩

/-- **Registration is atomic when every accepted answer completes and no call reads what is
lost**: no endpoint is in both maps, and without admin deletes every validated endpoint has its
row. -/
theorem registration_atomic {start : WithStorages Machine} (started : Started sqlite start)
    (layout : Layout) {events : List Event}
    (meets : StepsMeet ((system sqlite).storedStep layout)
      (OnSome fun s event => (system sqlite).Defined layout s event ∧
        OnDatagrams (Completes sqlite) s.state event) (some start) events) :
    ∃ m, final ((system sqlite).storedStep layout) (some start) events = some m ∧
      (∀ client : Endpoint, ¬ (client ∈ m.state.server.awaitingValidation ∧
        client ∈ m.state.server.validated)) ∧
      ((∀ event ∈ events, event.adminDelete = false) →
        ∀ (client : Endpoint) (entry : ServerEntry),
          m.state.server.validated[client]? = some entry →
          m.state.server.db.Listed entry.gamename client.rowKey) := by
  obtain ⟨completes, storages, reached, -⟩ := GameSystem.run_stored started.intact meets
  exact ⟨_, reached, atomic_run started.toInitial completes⟩

end Machine

namespace MasterSample

open Machine
open StoreSample (layout)

/-- The server of the handshake has its row. -/
theorem registration_atomic_handshake :
    ∃ m, final ((Machine.system sqlite).storedStep layout) (some roomy) handshakeRun = some m ∧
      m.state.server.db.Listed (ascii "gmtest") client.rowKey := by
  have meets : StepsMeet ((Machine.system sqlite).storedStep layout)
      (OnSome fun s event => (Machine.system sqlite).Defined layout s event ∧
        OnDatagrams (Completes sqlite) s.state event) (some roomy) handshakeRun := by
    refine ⟨by decide +kernel, ?_⟩
    rw [roomy_first]
    decide +kernel
  obtain ⟨m, reached, -, rows⟩ := registration_atomic roomy_started layout meets
  refine ⟨m, reached, rows (by decide) client { entry with lastUpdate := 0 } ?_⟩
  obtain ⟨-, storages, same, -⟩ := GameSystem.run_stored roomy_started.intact meets
  rw [same] at reached
  cases reached
  have moved := handshake_final []
  rw [List.append_nil] at moved
  change (final (step sqlite) start handshakeRun).server.validated[client]? = _
  rw [moved]
  rfl

/-- A second heartbeat gives a key that cannot be a column, and the answer follows. -/
def unnamable : Datagram := datagram (heartbeat "gmtest" "host name") (by decide) 1

def unnamableRun : List Event :=
  [.datagram first true, .datagram unnamable true, .datagram (answer 2) true]

/-- `AddOrUpdateServer` throws, and the endpoint is in both maps and has no row. -/
theorem registration_atomic_fails_unnamable :
    ¬ ∀ (layout : Layout) (sqlite : Sqlite) (start : WithStorages Machine),
      Started sqlite start → ∀ (events : List Event) (m : WithStorages Machine),
      final ((Machine.system sqlite).storedStep layout) (some start) events = some m →
      (∀ client : Endpoint, ¬ (client ∈ m.state.server.awaitingValidation ∧
          client ∈ m.state.server.validated)) ∧
        ((∀ event ∈ events, event.adminDelete = false) →
          ∀ (client : Endpoint) (entry : ServerEntry),
            m.state.server.validated[client]? = some entry →
            m.state.server.db.Listed entry.gamename client.rowKey) := by
  intro claimed
  have defined : StepsMeet ((Machine.system sqlite).storedStep layout)
      (OnSome fun s event => (Machine.system sqlite).Defined layout s event ∧ True) (some roomy)
      unnamableRun := by
    refine ⟨by decide +kernel, ?_⟩
    rw [roomy_first]
    decide +kernel
  obtain ⟨-, storages, reached, -⟩ := @GameSystem.run_stored _ _ _ _ (Machine.system sqlite) layout
    (fun _ _ => True) _ roomy_started.intact _ defined
  have both : client ∈ (final (step sqlite) start unnamableRun).server.awaitingValidation ∧
      client ∈ (final (step sqlite) start unnamableRun).server.validated := by
    rw [unnamableRun, final_cons, start_first]
    decide +kernel
  exact (claimed layout sqlite roomy roomy_started unnamableRun _ reached).1 client both

end MasterSample

end GamespyEmulator
