import GamespyEmulator.Master.Machine

/-!
What one step of the master server can do, said once. `Handled` lists the effects of
the first half of a handler with the facts that lead to each, `completeChallenge_cases`
those of the second half, and `listed_cleanup` what a cleanup pass leaves in the
tables. The invariants of the following modules are case analyses over these.
-/

namespace GamespyEmulator

open Wire

/-! ### Games -/

namespace GameDB

theorem update_getElem? (db : GameDB) (name n : Bytes) (f : Game → Game) :
    (db.update name f)[n]? = if name = n then db[n]?.map f else db[n]? := by
  unfold update
  by_cases same : name = n
  · subst same
    rw [if_pos rfl]
    split
    · rename_i absent
      rw [absent]
      rfl
    · rename_i game found
      rw [OrdMap.insert_getElem?, if_pos rfl, found]
      rfl
  · rw [if_neg same]
    split
    · rfl
    · rw [OrdMap.insert_getElem?, if_neg same]

/-- The table of the game called `gamename` has a row under `key`. -/
def Listed (db : GameDB) (gamename : Bytes) (key : RowKey) : Prop :=
  ∃ game, db[gamename]? = some game ∧ key ∈ game.table.rows

theorem listed_update {db : GameDB} {name n : Bytes} {f : Game → Game} {key : RowKey} :
    (db.update name f).Listed n key ↔
      ∃ game, db[n]? = some game ∧
        key ∈ (if name = n then f game else game).table.rows := by
  unfold Listed
  rw [update_getElem?]
  by_cases same : name = n
  · simp [same]
  · simp [same]

/-- The secret key of the game called `name`. -/
def secretKey? (db : GameDB) (name : Bytes) : Option Bytes :=
  db[name]?.map fun game => game.data.secretKey

theorem secretKey?_update {db : GameDB} {name : Bytes} {f : Game → Game}
    (keeps : ∀ game, (f game).data.secretKey = game.data.secretKey) :
    (db.update name f).secretKey? = db.secretKey? := by
  funext n
  unfold secretKey?
  rw [update_getElem?]
  split
  · cases db[n]? with
    | none => rfl
    | some game => exact congrArg some (keeps game)
  · rfl

instance (db : GameDB) (gamename : Bytes) (key : RowKey) : Decidable (db.Listed gamename key) :=
  decidable_of_iff (db[gamename]?.any fun game => decide (key ∈ game.table.rows)) <| by
    rw [Option.any_eq_true]
    simp [Listed]

theorem mem_iff_secretKey? {db : GameDB} {name : Bytes} :
    name ∈ db ↔ ∃ key, db.secretKey? name = some key := by
  rw [OrdMap.mem_iff]
  unfold secretKey?
  cases db[name]? <;> simp

end GameDB

namespace Game

theorem removeServers_singleton (game : Game) (key : RowKey) :
    (game.removeServers [key]).game =
      { game with table := { game.table with rows := game.table.rows.erase key } } := by
  unfold removeServers
  dsimp only
  split
  · rfl
  · rfl

theorem mem_removeServers_singleton {game : Game} {key key' : RowKey} :
    key' ∈ (game.removeServers [key]).game.table.rows ↔ key ≠ key' ∧ key' ∈ game.table.rows := by
  rw [removeServers_singleton, Std.ExtTreeMap.mem_erase, ne_eq, ne_eq,
    Std.LawfulEqOrd.compare_eq_iff_eq]

theorem rows_of_rowsStep {key key' : RowKey} {game game' : Game} (step : RowsStep key game game')
    (mem : key' ∈ game'.table.rows) : key' ∈ game.table.rows ∨ key' = key := by
  rcases step with same | ⟨row, same⟩
  · exact .inl (same ▸ mem)
  · rw [same] at mem
    rcases Std.ExtTreeMap.mem_insert.mp mem with eq | old
    · exact .inr (Std.LawfulEqOrd.eq_of_compare eq).symm
    · exact .inl old

theorem rowsStep_rows {key key' : RowKey} {game game' : Game} (step : RowsStep key game game')
    (mem : key' ∈ game.table.rows) : key' ∈ game'.table.rows := by
  rcases step with same | ⟨row, same⟩
  · exact same ▸ mem
  · rw [same]
    exact Std.ExtTreeMap.mem_insert.mpr (.inr mem)

end Game

namespace GameDB

/-- `AddOrUpdateServer` in one game adds no row but that of its server, … -/
theorem listed_of_add {sqlite : Sqlite} {db : GameDB} {name gamename : Bytes} {server : ServerData}
    {key : RowKey} (listed : (db.update name fun game =>
      (game.addOrUpdateServer sqlite server).game).Listed gamename key) :
    db.Listed gamename key ∨ (gamename = name ∧ key = server.rowKey) := by
  obtain ⟨game, known, mem⟩ := listed_update.mp listed
  split at mem
  · rename_i same
    rcases Game.rows_of_rowsStep (game.addOrUpdateServer_rows sqlite server) mem with old | new
    · exact .inl ⟨game, known, old⟩
    · exact .inr ⟨same.symm, new⟩
  · exact .inl ⟨game, known, mem⟩

/-- … and removes none. -/
theorem listed_add {sqlite : Sqlite} {db : GameDB} {name gamename : Bytes} {server : ServerData}
    {key : RowKey} (listed : db.Listed gamename key) :
    (db.update name fun game => (game.addOrUpdateServer sqlite server).game).Listed gamename key := by
  obtain ⟨game, known, mem⟩ := listed
  refine listed_update.mpr ⟨game, known, ?_⟩
  split
  · exact Game.rowsStep_rows (game.addOrUpdateServer_rows sqlite server) mem
  · exact mem

theorem secretKey?_add {sqlite : Sqlite} {db : GameDB} {name : Bytes} {server : ServerData} :
    (db.update name fun game => (game.addOrUpdateServer sqlite server).game).secretKey? =
      db.secretKey? :=
  secretKey?_update fun game => (game.addOrUpdateServer_sameConfig sqlite server).secretKey

end GameDB

namespace MasterServer

open GameDB

/-! ### The first half of a handler -/

/-- Each entry of `s'` was in the same map of `s`, with the same proof and game, and
the games have the same keys. -/
structure Descends (s s' : MasterServer) : Prop where
  secretKeys : s'.db.secretKey? = s.db.secretKey?
  awaiting : ∀ (client : Endpoint) (entry : ServerEntry),
    s'.awaitingValidation[client]? = some entry → ∃ old, s.awaitingValidation[client]? = some old ∧
      entry.proof = old.proof ∧ entry.gamename = old.gamename
  validated : ∀ (client : Endpoint) (entry : ServerEntry), s'.validated[client]? = some entry →
    ∃ old, s.validated[client]? = some old ∧ entry.proof = old.proof ∧
      entry.gamename = old.gamename

theorem Descends.refl (s : MasterServer) : s.Descends s where
  secretKeys := rfl
  awaiting _ entry held := ⟨entry, held, rfl, rfl⟩
  validated _ entry held := ⟨entry, held, rfl, rfl⟩

/-- The entries of `s'` descend from those of `s` and are the same ones or stamped
`now`; no validated entry is lost, and no table changes. -/
structure Refreshes (now : Int) (s s' : MasterServer) : Prop extends Descends s s' where
  db : s'.db = s.db
  awaitingStamp : ∀ (client : Endpoint) (entry : ServerEntry),
    s'.awaitingValidation[client]? = some entry →
    s.awaitingValidation[client]? = some entry ∨ entry.lastUpdate = now
  validatedStamp : ∀ (client : Endpoint) (entry : ServerEntry),
    s'.validated[client]? = some entry →
    s.validated[client]? = some entry ∨ entry.lastUpdate = now
  stays : ∀ (client : Endpoint) (entry : ServerEntry), s.validated[client]? = some entry →
    ∃ now, s'.validated[client]? = some now ∧ now.gamename = entry.gamename

section Refreshes

variable {s : MasterServer} {client : Endpoint} {entry : ServerEntry} {now : Int}

theorem Refreshes.refl (now : Int) (s : MasterServer) : Refreshes now s s where
  toDescends := .refl s
  db := rfl
  awaitingStamp _ _ held := .inl held
  validatedStamp _ _ held := .inl held
  stays _ entry held := ⟨entry, held, rfl⟩

theorem refreshes_touched (values : OrdMap Bytes Bytes)
    (held : s.awaitingValidation[client]? = some entry) :
    Refreshes now s { s with awaitingValidation := (s.awaitingValidation.insert client
      { entry with lastUpdate := now, values := values }) } where
  secretKeys := rfl
  awaiting other entry' held' := by
    rcases OrdMap.insert_eq_some.mp held' with ⟨rfl, rfl⟩ | ⟨-, old⟩
    · exact ⟨entry, held, rfl, rfl⟩
    · exact ⟨entry', old, rfl, rfl⟩
  validated _ entry held := ⟨entry, held, rfl, rfl⟩
  db := rfl
  awaitingStamp other entry' held' := by
    rcases OrdMap.insert_eq_some.mp held' with ⟨-, rfl⟩ | ⟨-, old⟩
    · exact .inr rfl
    · exact .inl old
  validatedStamp _ _ held := .inl held
  stays _ entry held := ⟨entry, held, rfl⟩

theorem refreshes_kept (held : s.validated[client]? = some entry) :
    Refreshes now s { s with validated := (s.validated.insert client
      { entry with lastUpdate := now }) } where
  secretKeys := rfl
  awaiting _ entry held := ⟨entry, held, rfl, rfl⟩
  validated other entry' held' := by
    rcases OrdMap.insert_eq_some.mp held' with ⟨rfl, rfl⟩ | ⟨-, old⟩
    · exact ⟨entry, held, rfl, rfl⟩
    · exact ⟨entry', old, rfl, rfl⟩
  db := rfl
  awaitingStamp _ _ held := .inl held
  validatedStamp other entry' held' := by
    rcases OrdMap.insert_eq_some.mp held' with ⟨-, rfl⟩ | ⟨-, old⟩
    · exact .inr rfl
    · exact .inl old
  stays other entry' held' := by
    rw [OrdMap.insert_getElem?]
    split
    · rename_i same
      subst same
      rw [held] at held'
      cases held'
      exact ⟨_, rfl, rfl⟩
    · exact ⟨entry', held', rfl⟩

theorem refreshes_rejected :
    Refreshes now s { s with awaitingValidation := s.awaitingValidation.erase client } where
  secretKeys := rfl
  awaiting _ entry held := ⟨entry, (OrdMap.erase_eq_some.mp held).2, rfl, rfl⟩
  validated _ entry held := ⟨entry, held, rfl, rfl⟩
  db := rfl
  awaitingStamp _ _ held := .inl (OrdMap.erase_eq_some.mp held).2
  validatedStamp _ _ held := .inl held
  stays _ entry held := ⟨entry, held, rfl⟩

end Refreshes

/-- The effects of `handle`. -/
inductive Handled (sqlite : Sqlite) (s : MasterServer) (d : Datagram) (packet : QRPacket) :
    Handling → Prop where
  /-- Everything but the three effects below. -/
  | refreshed {s' : MasterServer} {waiting : Option (Reply × Continuation)}
      (refreshes : Refreshes d.now s s')
      (idle : ∀ reply continuation, waiting = some (reply, continuation) → continuation = .done) :
      Handled sqlite s d packet (s', waiting)
  /-- A heartbeat of a validated endpoint, for any known game. -/
  | updated {heartbeat : QRHeartbeatPacket} {gamename : Bytes} {entry : ServerEntry}
      (type : packet.type = .heartbeat) (parsed : QRHeartbeatPacket.parse packet = .ok heartbeat)
      (named : heartbeat.serverData[ascii "gamename"]? = some gamename) (known : gamename ∈ s.db)
      (held : s.validated[d.client]? = some entry) :
      Handled sqlite s d packet
        ({ s with db := s.db.update gamename fun game =>
            (game.addOrUpdateServer sqlite (incoming d.client heartbeat.serverData)).game }, none)
  /-- A first heartbeat. -/
  | challenged {heartbeat : QRHeartbeatPacket} {gamename : Bytes} {game : Game}
      (known : s.db[gamename]? = some game) (invalid : d.client ∉ s.validated)
      (unheld : s.awaitingValidation[d.client]? = none) :
      Handled sqlite s d packet
        ({ s with awaitingValidation :=
            s.awaitingValidation.insert d.client (pendingEntry game d heartbeat gamename) },
          some (.challenge d.client heartbeat.instanceKey (challengeText game d.client d.picks),
            .done))
  /-- A right answer. -/
  | accepted {entry : ServerEntry} (type : packet.type = .challenge)
      (held : s.awaitingValidation[d.client]? = some entry)
      (right : entry.proof = cstr packet.data.memory) :
      Handled sqlite s d packet
        ({ s with validated := s.validated.insertIfNew d.client entry },
          some (.registered d.client entry.instanceKey, .register d.client entry))

theorem Handled.unchanged {sqlite : Sqlite} {s : MasterServer} {d : Datagram}
    {packet : QRPacket} : Handled sqlite s d packet (s, none) :=
  .refreshed (.refl d.now s) (by simp)

theorem handleAvailable_handled (sqlite : Sqlite) (s : MasterServer) (d : Datagram)
    (packet : QRPacket) : Handled sqlite s d packet (s.handleAvailable d packet) := by
  unfold handleAvailable
  split
  · exact .unchanged
  · split
    · exact .unchanged
    · refine .refreshed (.refl d.now s) ?_
      rintro reply continuation eq
      cases eq
      rfl

theorem handleHeartbeat_handled {sqlite : Sqlite} {s : MasterServer} {d : Datagram}
    {packet : QRPacket} (type : packet.type = .heartbeat) :
    Handled sqlite s d packet (s.handleHeartbeat sqlite d packet) := by
  unfold handleHeartbeat
  split
  · exact .unchanged
  · rename_i heartbeat parsed
    split
    · exact .unchanged
    · rename_i gamename named
      split
      · exact .unchanged
      · rename_i game known
        split
        · rename_i valid
          obtain ⟨entry, held⟩ := OrdMap.mem_iff.mp valid
          exact .updated type parsed named (OrdMap.mem_iff.mpr ⟨game, known⟩) held
        · rename_i invalid
          split
          · rename_i unheld
            exact .challenged known invalid unheld
          · rename_i entry held
            exact .refreshed (refreshes_touched heartbeat.serverData held) (by simp)

theorem handleKeepAlive_handled (sqlite : Sqlite) (s : MasterServer) (d : Datagram)
    (packet : QRPacket) : Handled sqlite s d packet (s.handleKeepAlive d) := by
  unfold handleKeepAlive
  split
  · rename_i entry held
    exact .refreshed (refreshes_touched entry.values held) (by simp)
  · rename_i unheld
    split
    · rename_i entry held
      exact .refreshed (refreshes_kept held) (by simp)
    · exact .unchanged

theorem handleChallenge_handled {sqlite : Sqlite} {s : MasterServer} {d : Datagram}
    {packet : QRPacket} (type : packet.type = .challenge) :
    Handled sqlite s d packet (s.handleChallenge d packet) := by
  unfold handleChallenge
  split
  · exact .unchanged
  · rename_i entry held
    split
    · rename_i right
      exact .accepted type held right
    · rename_i wrong
      exact .refreshed refreshes_rejected (by simp)

theorem handle_handled (sqlite : Sqlite) (s : MasterServer) (d : Datagram) (packet : QRPacket) :
    Handled sqlite s d packet (s.handle sqlite d packet) := by
  unfold handle
  split
  · exact handleAvailable_handled sqlite s d packet
  · exact handleHeartbeat_handled (by assumption)
  · exact handleKeepAlive_handled sqlite s d packet
  · exact handleChallenge_handled (by assumption)
  · exact .unchanged

/-! ### The second half -/

/-- What `completeChallenge` did: nothing, or one `AddOrUpdateServer` in the game of the
pending entry, which is erased unless the call threw. -/
theorem completeChallenge_cases (sqlite : Sqlite) (s : MasterServer) (client : Endpoint) :
    s.completeChallenge sqlite client = s ∨
      ∃ entry game, s.awaitingValidation[client]? = some entry ∧
        s.db[entry.gamename]? = some game ∧
        s.completeChallenge sqlite client =
          ⟨if (game.addOrUpdateServer sqlite (incoming client entry.values)).exception = none
              then s.awaitingValidation.erase client else s.awaitingValidation,
            s.validated,
            s.db.update entry.gamename fun game =>
              (game.addOrUpdateServer sqlite (incoming client entry.values)).game⟩ := by
  unfold completeChallenge
  split
  · exact .inl rfl
  · rename_i entry held
    split
    · exact .inl rfl
    · rename_i game known
      refine .inr ⟨entry, game, held, known, ?_⟩
      dsimp only
      rw [GameDB.update, known]
      split
      · rename_i e thrown
        rw [thrown]
        rfl
      · rename_i returned
        rw [returned]
        rfl

@[simp] theorem resume_none (sqlite : Sqlite) (s : MasterServer) (sent : Bool) :
    s.resume sqlite none sent = s := rfl

@[simp] theorem resume_done (sqlite : Sqlite) (s : MasterServer) (reply : Reply) (sent : Bool) :
    s.resume sqlite (some (reply, .done)) sent = s := rfl

theorem resume_idle {sqlite : Sqlite} {s : MasterServer} {waiting : Option (Reply × Continuation)}
    {sent : Bool}
    (idle : ∀ reply continuation, waiting = some (reply, continuation) → continuation = .done) :
    s.resume sqlite waiting sent = s := by
  cases waiting with
  | none => rfl
  | some next =>
      obtain ⟨reply, continuation⟩ := next
      rw [idle reply continuation rfl, resume_done]

@[simp] theorem resume_register (sqlite : Sqlite) (s : MasterServer) (reply : Reply)
    (client : Endpoint) (entry : ServerEntry) (sent : Bool) :
    s.resume sqlite (some (reply, .register client entry)) sent =
      if sent then s.completeChallenge sqlite client else s := rfl

/-! ### Cleanup -/

section Expire

variable {now : Int} {servers : OrdMap Endpoint ServerEntry} {db : GameDB}

theorem expire_getElem? {client : Endpoint} {entry : ServerEntry} :
    (expire now servers db).1[client]? = some entry ↔
      servers[client]? = some entry ∧ expired now entry = false :=
  OrdMap.eraseAll_toList_getElem? (fun e => expired now e.2) servers client entry

/-- The rows a pass deletes from one game after the other. -/
theorem listed_expireAll {entries : List (Endpoint × ServerEntry)} {gamename : Bytes}
    {key : RowKey} :
    (entries.foldl (fun db e =>
        if expired now e.2 then db.update e.2.gamename fun game =>
          (game.removeServers [e.1.rowKey]).game
        else db) db).Listed gamename key ↔
      db.Listed gamename key ∧ ∀ e ∈ entries, expired now e.2 = true →
        e.2.gamename = gamename → e.1.rowKey ≠ key := by
  induction entries generalizing db with
  | nil => simp
  | cons e rest ih =>
      rw [List.foldl_cons, ih, List.forall_mem_cons]
      by_cases dead : expired now e.2 = true
      · rw [if_pos dead, listed_update]
        by_cases same : e.2.gamename = gamename
        · simp only [same, if_true, Game.mem_removeServers_singleton, dead, true_implies, Listed]
          constructor
          · rintro ⟨⟨game, known, other, mem⟩, spared⟩
            exact ⟨⟨game, known, mem⟩, other, spared⟩
          · rintro ⟨⟨game, known, mem⟩, other, spared⟩
            exact ⟨⟨game, known, other, mem⟩, spared⟩
        · simp only [same, if_false, false_implies, implies_true, true_and, Listed]
      · simp only [dead, false_implies, true_and, if_false, Bool.false_eq_true]

theorem listed_expire {gamename : Bytes} {key : RowKey} :
    (expire now servers db).2.Listed gamename key ↔
      db.Listed gamename key ∧ ∀ (client : Endpoint) (entry : ServerEntry),
        servers[client]? = some entry → expired now entry = true →
        entry.gamename = gamename → client.rowKey ≠ key := by
  unfold expire
  rw [listed_expireAll]
  refine and_congr_right fun _ => ⟨fun spared client entry held => ?_, fun spared e mem => ?_⟩
  · exact spared (client, entry) (OrdMap.mem_toList.mpr held)
  · exact spared e.1 e.2 (OrdMap.mem_toList.mp mem)

theorem secretKey?_expireAll {entries : List (Endpoint × ServerEntry)} :
    (entries.foldl (fun db e =>
        if expired now e.2 then db.update e.2.gamename fun game =>
          (game.removeServers [e.1.rowKey]).game
        else db) db).secretKey? = db.secretKey? := by
  induction entries generalizing db with
  | nil => rfl
  | cons e rest ih =>
      rw [List.foldl_cons, ih]
      split
      · exact secretKey?_update fun game => by rw [Game.removeServers_singleton]
      · rfl

end Expire

section Cleanup

variable {s : MasterServer} {now : Int} {client : Endpoint} {entry : ServerEntry}

theorem cleanup_awaiting :
    (s.cleanup now).awaitingValidation[client]? = some entry ↔
      s.awaitingValidation[client]? = some entry ∧ expired now entry = false :=
  @expire_getElem? now s.awaitingValidation s.db client entry

theorem cleanup_validated :
    (s.cleanup now).validated[client]? = some entry ↔
      s.validated[client]? = some entry ∧ expired now entry = false :=
  @expire_getElem? now s.validated (expire now s.awaitingValidation s.db).2 client entry

/-- A pass deletes the rows of the expired entries of both maps, each in the game the
entry records. -/
theorem listed_cleanup {gamename : Bytes} {key : RowKey} :
    (s.cleanup now).db.Listed gamename key ↔
      s.db.Listed gamename key ∧ ∀ (client : Endpoint) (entry : ServerEntry),
        s.awaitingValidation[client]? = some entry ∨ s.validated[client]? = some entry →
        expired now entry = true → entry.gamename = gamename → client.rowKey ≠ key := by
  unfold cleanup
  rw [listed_expire, listed_expire, and_assoc]
  refine and_congr_right fun _ => ⟨?_, fun spared => ⟨?_, ?_⟩⟩
  · rintro ⟨pending, listed⟩ client entry (held | held)
    · exact pending client entry held
    · exact listed client entry held
  · exact fun client entry held => spared client entry (.inl held)
  · exact fun client entry held => spared client entry (.inr held)

end Cleanup

/-! ### What the entries descend from -/

/-- The entries of `s'` are entries of `s`, and the games have the same keys. -/
structure Prunes (s s' : MasterServer) : Prop where
  secretKeys : s'.db.secretKey? = s.db.secretKey?
  awaiting : ∀ (client : Endpoint) (entry : ServerEntry),
    s'.awaitingValidation[client]? = some entry → s.awaitingValidation[client]? = some entry
  validated : ∀ (client : Endpoint) (entry : ServerEntry),
    s'.validated[client]? = some entry → s.validated[client]? = some entry

theorem Prunes.descends {s s' : MasterServer} (prunes : s.Prunes s') : s.Descends s' where
  secretKeys := prunes.secretKeys
  awaiting client entry held := ⟨entry, prunes.awaiting client entry held, rfl, rfl⟩
  validated client entry held := ⟨entry, prunes.validated client entry held, rfl, rfl⟩

theorem prunes_update {s : MasterServer} {name : Bytes} {f : Game → Game}
    (keeps : ∀ game, (f game).data.secretKey = game.data.secretKey) :
    s.Prunes { s with db := s.db.update name f } where
  secretKeys := secretKey?_update keeps
  awaiting _ _ held := held
  validated _ _ held := held

theorem prunes_add (sqlite : Sqlite) (s : MasterServer) (name : Bytes) (server : ServerData) :
    s.Prunes { s with db := s.db.update name fun game =>
      (game.addOrUpdateServer sqlite server).game } :=
  prunes_update fun game => (game.addOrUpdateServer_sameConfig sqlite server).secretKey

theorem completeChallenge_prunes (sqlite : Sqlite) (s : MasterServer) (client : Endpoint) :
    s.Prunes (s.completeChallenge sqlite client) := by
  rcases completeChallenge_cases sqlite s client with same | ⟨entry, game, held, known, eq⟩
  · rw [same]
    exact ⟨rfl, fun _ _ held => held, fun _ _ held => held⟩
  · rw [eq]
    refine ⟨secretKey?_add, ?_, fun _ _ held => held⟩
    intro other entry' held'
    dsimp only at held'
    split at held'
    · exact (OrdMap.erase_eq_some.mp held').2
    · exact held'

theorem cleanup_prunes (s : MasterServer) (now : Int) : s.Prunes (s.cleanup now) where
  secretKeys := secretKey?_expireAll.trans secretKey?_expireAll
  awaiting _ _ held := (cleanup_awaiting.mp held).1
  validated _ _ held := (cleanup_validated.mp held).1

theorem background_prunes (sqlite : Sqlite) (s : MasterServer) (b : Background) :
    s.Prunes (s.background sqlite b) := by
  cases b with
  | cleanup now => exact cleanup_prunes s now
  | subscribe gamename keyList => exact prunes_update fun _ => rfl
  | unsubscribe gamename slot => exact prunes_update fun _ => rfl
  | addServer gamename server => exact prunes_add sqlite s gamename server
  | removeServer gamename key =>
      exact prunes_update fun game => by rw [Game.removeServers_singleton]

/-- Pending entries are of known games. -/
def Known (s : MasterServer) : Prop :=
  ∀ (client : Endpoint) (entry : ServerEntry), s.awaitingValidation[client]? = some entry →
    entry.gamename ∈ s.db

theorem Descends.mem_db {s s' : MasterServer} (descends : s.Descends s') {gamename : Bytes} :
    gamename ∈ s'.db ↔ gamename ∈ s.db := by
  rw [mem_iff_secretKey?, mem_iff_secretKey?, descends.secretKeys]

theorem Known.descends {s s' : MasterServer} (known : s.Known) (descends : s.Descends s') :
    s'.Known := by
  intro client entry held
  obtain ⟨old, held, -, same⟩ := descends.awaiting client entry held
  rw [descends.mem_db, same]
  exact known client old held

theorem Known.challenged {s : MasterServer} {client : Endpoint} {entry : ServerEntry}
    (known : s.Known) (mem : entry.gamename ∈ s.db) :
    Known { s with awaitingValidation := (s.awaitingValidation.insert client entry) } := by
  intro other entry' held
  rcases OrdMap.insert_eq_some.mp held with ⟨-, rfl⟩ | ⟨-, old⟩
  · exact mem
  · exact known other entry' old

/-- Of what runs in the background only a cleanup pass touches the maps. -/
theorem background_maps (sqlite : Sqlite) (s : MasterServer) (b : Background) :
    (∃ now, b = .cleanup now) ∨
      ((s.background sqlite b).awaitingValidation = s.awaitingValidation ∧
        (s.background sqlite b).validated = s.validated) := by
  cases b with
  | cleanup now => exact .inl ⟨now, rfl⟩
  | subscribe gamename keyList => exact .inr ⟨rfl, rfl⟩
  | unsubscribe gamename slot => exact .inr ⟨rfl, rfl⟩
  | addServer gamename server => exact .inr ⟨rfl, rfl⟩
  | removeServer gamename key => exact .inr ⟨rfl, rfl⟩

/-! ### What the rows descend from -/

theorem listed_completeChallenge {sqlite : Sqlite} {s : MasterServer} {client : Endpoint}
    {gamename : Bytes} {key : RowKey}
    (listed : (s.completeChallenge sqlite client).db.Listed gamename key) :
    s.db.Listed gamename key ∨ ∃ entry, s.awaitingValidation[client]? = some entry ∧
      gamename = entry.gamename ∧ key = client.rowKey := by
  rcases completeChallenge_cases sqlite s client with same | ⟨entry, game, held, known, eq⟩
  · rw [same] at listed
    exact .inl listed
  · rw [eq] at listed
    rcases listed_of_add listed with old | ⟨name, new⟩
    · exact .inl old
    · exact .inr ⟨entry, held, name, new⟩

theorem completeChallenge_listed {sqlite : Sqlite} {s : MasterServer} {client : Endpoint}
    {gamename : Bytes} {key : RowKey} (listed : s.db.Listed gamename key) :
    (s.completeChallenge sqlite client).db.Listed gamename key := by
  rcases completeChallenge_cases sqlite s client with same | ⟨entry, game, held, known, eq⟩
  · rw [same]
    exact listed
  · rw [eq]
    exact listed_add listed

end MasterServer

/-- Writes through the admin API. -/
def Background.adminWrite : Background → Bool
  | .addServer _ _ | .removeServer _ _ => true
  | _ => false

namespace MasterServer

open GameDB

/-- Connecting and disconnecting browsers moves no row. -/
theorem listed_subscribers {s : MasterServer} {name gamename : Bytes} {key : RowKey}
    {f : List (List Bytes) → List (List Bytes)} :
    (s.db.update name fun game => { game with subscribers := f game.subscribers }).Listed
      gamename key ↔ s.db.Listed gamename key := by
  rw [listed_update]
  refine exists_congr fun game => and_congr_right fun _ => ?_
  split <;> rfl

/-- Without admin writes only datagrams bring rows. -/
theorem listed_background {sqlite : Sqlite} {s : MasterServer} {b : Background}
    {gamename : Bytes} {key : RowKey} (quiet : b.adminWrite = false)
    (listed : (s.background sqlite b).db.Listed gamename key) : s.db.Listed gamename key := by
  cases b with
  | cleanup now => exact (listed_cleanup.mp listed).1
  | subscribe name keyList => exact (listed_subscribers (f := (· ++ [keyList]))).mp listed
  | unsubscribe name slot => exact (listed_subscribers (f := (·.eraseIdx slot))).mp listed
  | addServer name server => cases quiet
  | removeServer name key => cases quiet

end MasterServer

/-! ### Datagrams -/

namespace Machine

@[simp] theorem view_bytes (m : Machine) (d : Datagram) : (m.view d).bytes = d.bytes := by
  simp [view, Span.bytes]

/-- The packet the receive loop hands to a handler. -/
def packet? (m : Machine) (d : Datagram) : Option QRPacket :=
  if m.receiving then (QRPacket.parse (m.view d)).toOption else none

theorem packet?_eq_some {m : Machine} {d : Datagram} {packet : QRPacket} :
    m.packet? d = some packet ↔ m.receiving = true ∧ QRPacket.parse (m.view d) = .ok packet := by
  unfold packet?
  cases m.receiving with
  | false => simp
  | true => cases QRPacket.parse (m.view d) <;> simp [Except.toOption]

theorem step_packet {m : Machine} {d : Datagram} {packet : QRPacket}
    (framed : m.packet? d = some packet) (sqlite : Sqlite) (sent : Bool) :
    m.step sqlite (.datagram d sent) =
      (⟨(m.server.handle sqlite d packet).1.resume sqlite (m.server.handle sqlite d packet).2 sent,
          (m.view d).memory, true⟩,
        (m.server.handle sqlite d packet).2.toList.map Prod.fst) := by
  obtain ⟨live, framed⟩ := packet?_eq_some.mp framed
  have some_bytes : d.bytes.isEmpty = false := by
    cases absent : d.bytes with
    | cons b rest => rfl
    | nil =>
        rw [QRPacket.parse, view_bytes, absent] at framed
        cases framed
  simp only [step, receive, live, some_bytes, framed, Bool.true_eq_false, Bool.false_eq_true,
    if_false]

/-- What a received datagram does: nothing to the server, or the first half of its
packet's handler. -/
theorem receive_cases (sqlite : Sqlite) (m : Machine) (d : Datagram) :
    ((m.receive sqlite d).1.server = m.server ∧ (m.receive sqlite d).2 = none) ∨
    ∃ packet out, m.packet? d = some packet ∧
      MasterServer.Handled sqlite m.server d packet out ∧
      (m.receive sqlite d).1.server = out.1 ∧ (m.receive sqlite d).2 = out.2 := by
  unfold receive
  dsimp only
  split
  · exact .inl ⟨rfl, rfl⟩
  · rename_i live
    split
    · exact .inl ⟨rfl, rfl⟩
    · split
      · exact .inl ⟨rfl, rfl⟩
      · rename_i packet framed
        exact .inr ⟨packet, m.server.handle sqlite d packet,
          packet?_eq_some.mpr ⟨by simpa using live, framed⟩,
          MasterServer.handle_handled sqlite m.server d packet, rfl, rfl⟩

/-- What a datagram does: nothing to the server, or both halves of its packet's
handler. -/
theorem step_datagram (sqlite : Sqlite) (m : Machine) (d : Datagram) (sent : Bool) :
    ((m.step sqlite (.datagram d sent)).1.server = m.server ∧
      (m.step sqlite (.datagram d sent)).2 = []) ∨
    ∃ packet out, m.packet? d = some packet ∧
      MasterServer.Handled sqlite m.server d packet out ∧
      (m.step sqlite (.datagram d sent)).1.server = out.1.resume sqlite out.2 sent ∧
      (m.step sqlite (.datagram d sent)).2 = out.2.toList.map Prod.fst := by
  unfold step
  dsimp only
  rcases receive_cases sqlite m d with ⟨server, none⟩ | ⟨packet, out, framed, handled, server, next⟩
  · rw [server, none]
    exact .inl ⟨rfl, rfl⟩
  · rw [server, next]
    exact .inr ⟨packet, out, framed, handled, rfl, rfl⟩

/-- The game a heartbeat names. -/
def heartbeatGame? (m : Machine) (d : Datagram) : Option Bytes := do
  let packet ← m.packet? d
  guard (packet.type = .heartbeat)
  let heartbeat ← (QRHeartbeatPacket.parse packet).toOption
  heartbeat.serverData[ascii "gamename"]?

theorem heartbeatGame?_eq_some {m : Machine} {d : Datagram} {gamename : Bytes} :
    m.heartbeatGame? d = some gamename ↔ ∃ packet heartbeat, m.packet? d = some packet ∧
      packet.type = .heartbeat ∧ QRHeartbeatPacket.parse packet = .ok heartbeat ∧
      heartbeat.serverData[ascii "gamename"]? = some gamename := by
  have parsed {packet : QRPacket} {heartbeat : QRHeartbeatPacket} :
      (QRHeartbeatPacket.parse packet).toOption = some heartbeat ↔
        QRHeartbeatPacket.parse packet = .ok heartbeat := by
    cases QRHeartbeatPacket.parse packet <;> simp [Except.toOption]
  simp [heartbeatGame?, Option.bind_eq_some_iff, parsed]

/-- The pending entry whose proof a challenge datagram gives. -/
def acceptedAnswer? (m : Machine) (d : Datagram) : Option ServerEntry := do
  let packet ← m.packet? d
  guard (packet.type = .challenge)
  let entry ← m.server.awaitingValidation[d.client]?
  guard (entry.proof = cstr packet.data.memory)
  return entry

theorem acceptedAnswer?_eq_some {m : Machine} {d : Datagram} {entry : ServerEntry} :
    m.acceptedAnswer? d = some entry ↔ ∃ packet, m.packet? d = some packet ∧
      packet.type = .challenge ∧ m.server.awaitingValidation[d.client]? = some entry ∧
      entry.proof = cstr packet.data.memory := by
  simp [acceptedAnswer?, Option.bind_eq_some_iff]

/-- A condition on datagrams, as one on events. -/
def OnDatagrams (P : Machine → Datagram → Bool → Prop) (m : Machine) : Event → Prop
  | .datagram d sent => P m d sent
  | .background _ => True

instance {P : Machine → Datagram → Bool → Prop} [∀ m d sent, Decidable (P m d sent)] (m : Machine)
    (event : Event) : Decidable (OnDatagrams P m event) :=
  match event with
  | .datagram d sent => inferInstanceAs (Decidable (P m d sent))
  | .background _ => isTrue trivial

def Event.adminWrite : Event → Bool
  | .datagram _ _ => false
  | .background b => b.adminWrite

end Machine

end GamespyEmulator
