import GamespyEmulator.Master.Authorisation

/-!
What holds the rows. In runs without admin writes whose heartbeats keep to the validated
game, every row belongs to a validated endpoint and stands in the table of the game its
entry records (`rows_validated`), so the entry's expiry takes the row along.
-/

namespace GamespyEmulator

open Wire Run

namespace MasterServer

open GameDB

/-- A row has an entry: a validated endpoint's, for that game. -/
def HasEntry (s : MasterServer) (gamename : Bytes) (key : RowKey) : Prop :=
  ∃ (client : Endpoint) (entry : ServerEntry), client.rowKey = key ∧
    s.validated[client]? = some entry ∧ entry.gamename = gamename

/-- The two maps agree on the games, and every row has its validated entry. -/
structure Anchored (s : MasterServer) : Prop where
  agree : ∀ (client : Endpoint) (pending listed : ServerEntry),
    s.awaitingValidation[client]? = some pending → s.validated[client]? = some listed →
    pending.gamename = listed.gamename
  rows : ∀ (gamename : Bytes) (key : RowKey), s.db.Listed gamename key → s.HasEntry gamename key

namespace Anchored

variable {sqlite : Sqlite} {s s' : MasterServer} {client : Endpoint} {entry : ServerEntry}

/-- An operation keeps the invariant when its entries descend from older ones and each
row has its entry. -/
theorem descends (anchored : s.Anchored) (descends : s.Descends s')
    (rows : ∀ (gamename : Bytes) (key : RowKey), s'.db.Listed gamename key →
      s'.HasEntry gamename key) : s'.Anchored where
  agree client pending listed held held' := by
    obtain ⟨old, oldHeld, -, same⟩ := descends.awaiting client pending held
    obtain ⟨old', oldHeld', -, same'⟩ := descends.validated client listed held'
    rw [same, same']
    exact anchored.agree client old old' oldHeld oldHeld'
  rows := rows

/-- The row of a heartbeat in the game its sender is validated for. -/
theorem updated (anchored : s.Anchored) (held : s.validated[client]? = some entry)
    (values : OrdMap Bytes Bytes) :
    Anchored { s with db := (s.db.update entry.gamename fun game =>
      (game.addOrUpdateServer sqlite (incoming client values)).game) } := by
  refine anchored.descends (prunes_add sqlite s entry.gamename (incoming client values)).descends ?_
  intro gamename key listed
  rcases listed_of_add listed with old | ⟨rfl, rfl⟩
  · exact anchored.rows gamename key old
  · exact ⟨client, entry, rfl, held, rfl⟩

theorem challenged (anchored : s.Anchored) (invalid : client ∉ s.validated)
    (entry : ServerEntry) :
    Anchored { s with awaitingValidation := (s.awaitingValidation.insert client entry) } where
  agree other pending listed held held' := by
    rcases OrdMap.insert_eq_some.mp held with ⟨rfl, -⟩ | ⟨-, old⟩
    · exact absurd (OrdMap.mem_iff.mpr ⟨listed, held'⟩) invalid
    · exact anchored.agree other pending listed old held'
  rows := anchored.rows

theorem emplaced (anchored : s.Anchored) (held : s.awaitingValidation[client]? = some entry) :
    Anchored { s with validated := s.validated.insertIfNew client entry } where
  agree other pending listed held' held'' := by
    rcases OrdMap.insertIfNew_eq_some.mp held'' with ⟨rfl, -, rfl⟩ | old
    · rw [Option.some.inj (held'.symm.trans held)]
    · exact anchored.agree other pending listed held' old
  rows gamename key listed := by
    obtain ⟨other, entry', rfl, held', rfl⟩ := anchored.rows gamename key listed
    exact ⟨other, entry', rfl, OrdMap.insertIfNew_eq_some.mpr (.inr held'), rfl⟩

/-- The second half of an accepted answer. -/
theorem resume (anchored : s.Anchored) (valid : client ∈ s.validated) (reply : Reply)
    (entry : ServerEntry) (sent : Bool) :
    Anchored (s.resume sqlite (some (reply, .register client entry)) sent) := by
  rw [resume_register]
  split
  · rcases completeChallenge_cases sqlite s client with same | ⟨entry, game, held, known, eq⟩
    · rw [same]
      exact anchored
    · obtain ⟨listed, held'⟩ := OrdMap.mem_iff.mp valid
      have same := anchored.agree client entry listed held held'
      refine anchored.descends (s.completeChallenge_prunes sqlite client).descends ?_
      rw [eq, same]
      exact (@updated sqlite s client listed anchored held' entry.values).rows
  · exact anchored

theorem cleanup (anchored : s.Anchored) (now : Int) : (s.cleanup now).Anchored := by
  refine anchored.descends (s.cleanup_prunes now).descends ?_
  intro gamename key listed
  obtain ⟨listed, spared⟩ := listed_cleanup.mp listed
  obtain ⟨client, entry, rfl, held, rfl⟩ := anchored.rows gamename key listed
  refine ⟨client, entry, rfl, cleanup_validated.mpr ⟨held, ?_⟩, rfl⟩
  rw [← Bool.not_eq_true]
  intro dead
  exact spared client entry (.inr held) dead rfl rfl

theorem background (anchored : s.Anchored) {b : Background} (quiet : b.adminWrite = false) :
    (s.background sqlite b).Anchored := by
  rcases background_maps sqlite s b with ⟨now, rfl⟩ | ⟨-, validated⟩
  · exact anchored.cleanup now
  · refine anchored.descends (s.background_prunes sqlite b).descends ?_
    intro gamename key listed
    rw [HasEntry, validated]
    exact anchored.rows gamename key (listed_background quiet listed)

/-- Whom a pass expires, in either map, it leaves no row of, in any game. -/
theorem unlisted (anchored : s.Anchored) {now : Int}
    (held : s.awaitingValidation[client]? = some entry ∨ s.validated[client]? = some entry)
    (dead : expired now entry = true) (gamename : Bytes) :
    ¬ (s.cleanup now).db.Listed gamename client.rowKey := by
  intro listed
  obtain ⟨listed, spared⟩ := listed_cleanup.mp listed
  obtain ⟨other, entry', key, held', rfl⟩ := anchored.rows gamename client.rowKey listed
  obtain rfl := Endpoint.rowKey_inj.mp key
  have same : entry.gamename = entry'.gamename := by
    rcases held with pending | valid
    · exact anchored.agree other entry entry' pending held'
    · rw [Option.some.inj (valid.symm.trans held')]
  exact spared other entry held dead same rfl

end Anchored

end MasterServer

namespace Machine

variable {sqlite : Sqlite} {start : Machine}

theorem anchored_datagram {m : Machine} {d : Datagram} {sent : Bool}
    (anchored : m.server.Anchored) (keeps : KeepsGame m d) :
    (m.step sqlite (.datagram d sent)).1.server.Anchored := by
  rcases step_datagram sqlite m d sent with ⟨same, -⟩ | ⟨packet, out, framed, handled, server, -⟩
  · rw [same]
    exact anchored
  · rw [server]
    cases handled with
    | refreshed refreshes idle =>
        rw [MasterServer.resume_idle idle]
        refine anchored.descends refreshes.toDescends ?_
        intro gamename key listed
        obtain ⟨client, entry, rfl, held, rfl⟩ :=
          anchored.rows gamename key (refreshes.db ▸ listed)
        obtain ⟨entry', held', same⟩ := refreshes.stays client entry held
        exact ⟨client, entry', rfl, held', same⟩
    | @updated heartbeat gamename entry type parsed named known held =>
        have same : gamename = entry.gamename :=
          keeps gamename (heartbeatGame?_eq_some.mpr ⟨packet, heartbeat, framed, type, parsed, named⟩)
            entry held known
        subst same
        exact anchored.updated held heartbeat.serverData
    | challenged known invalid unheld => exact anchored.challenged invalid _
    | @accepted entry type held right =>
        refine (anchored.emplaced held).resume ?_ _ entry sent
        exact Std.ExtTreeMap.mem_insertIfNew_self

/-- **Every row has its validated entry**, and whom a cleanup pass expires it leaves no
row of. -/
theorem rows_validated (initial : start.Initial) {events : List Event}
    (quiet : ∀ event ∈ events, event.adminWrite = false)
    (meets : StepsMeet (step sqlite) (OnDatagrams fun m d _ => KeepsGame m d) start events) :
    let s := (final (step sqlite) start events).server
    (∀ (gamename : Bytes) (key : RowKey), s.db.Listed gamename key → s.HasEntry gamename key) ∧
    ∀ (now : Int) (client : Endpoint) (entry : ServerEntry),
      s.awaitingValidation[client]? = some entry ∨ s.validated[client]? = some entry →
      MasterServer.expired now entry = true →
      ∀ gamename : Bytes, ¬ (s.cleanup now).db.Listed gamename client.rowKey := by
  have init : start.server.Anchored := by
    refine ⟨?_, ?_⟩
    · intro client pending listed held
      simp [initial.awaiting] at held
    · rintro gamename key ⟨game, known, mem⟩
      simp [initial.tables gamename game known] at mem
  have anchored : (final (step sqlite) start events).server.Anchored := by
    refine @invariant _ _ _ _ _ (fun m : Machine => m.server.Anchored) start init ?_ events
      (stepsMeet_and meets quiet)
    rintro m event anchored ⟨met, noWrite⟩
    cases event with
    | datagram d sent => exact anchored_datagram anchored met
    | background b => exact anchored.background noWrite
  exact ⟨anchored.rows, fun _ _ _ held dead => anchored.unlisted held dead⟩

end Machine

namespace MasterSample

open Machine

/-- The row of the handshake has its entry. -/
theorem rows_validated_handshake :
    (final (step sqlite) start handshakeRun).server.HasEntry (ascii "gmtest") client.rowKey := by
  have meets : StepsMeet (step sqlite) (OnDatagrams fun m d _ => KeepsGame m d) start
      handshakeRun := by
    refine ⟨by decide +kernel, ?_⟩
    rw [start_first]
    decide
  refine (rows_validated start_initial (by decide) meets).1 (ascii "gmtest") client.rowKey ?_
  rw [handshakeRun, final_cons, start_first]
  decide

/-- Behind the straying heartbeat the other game has a row without an entry. -/
theorem rows_validated_fails_straying :
    ¬ ∀ (sqlite : Sqlite) (start : Machine), start.Initial →
      ∀ events : List Event, (∀ event ∈ events, event.adminWrite = false) →
      let s := (final (step sqlite) start events).server
      ∀ (gamename : Bytes) (key : RowKey), s.db.Listed gamename key → s.HasEntry gamename key := by
  intro claimed
  have listed : (final (step sqlite) start strayingRun).server.db.Listed (ascii "battlefield2")
      client.rowKey := by
    rw [strayingRun, final_cons, start_first]
    decide +kernel
  have entries : (final (step sqlite) start strayingRun).server.validated.toList =
      [(client, entry)] := by
    rw [strayingRun, final_cons, start_first]
    decide +kernel
  obtain ⟨other, entry', -, held, gamename⟩ :=
    claimed sqlite start start_initial strayingRun (by decide) _ _ listed
  have mem := OrdMap.mem_toList.mpr held
  rw [entries, List.mem_singleton] at mem
  cases mem
  revert gamename
  decide

end MasterSample

end GamespyEmulator
