import GamespyEmulator.Game.Registry
import GamespyEmulator.Master.Handshake

/-!
The master server over games whose keys are as they are stored. A step of it calls
`AddOrUpdateServer` at most once, and nothing else changes the keys of a game
(`GameSystem.registry`); a step whose call reads what is lost leaves no state.

`run_stored` shows that a run whose calls read nothing that is lost is the run of the
machine itself.
-/

namespace GamespyEmulator

open Wire Run

/-- The keys of a game, as the code keeps them in `m_Data.keys` and in `m_Params`. -/
def Game.registry (game : Game) : List GameKey × OrdMap Bytes GameKey :=
  (game.data.keys, game.params)

theorem StoredGame.Intact.congr {game game' : Game} {storage : KeyStorage}
    (intact : Intact ⟨game, storage⟩) (same : game'.registry = game.registry) :
    Intact ⟨game', storage⟩ := by
  obtain ⟨keys, params⟩ := Prod.mk.inj same
  exact ⟨⟨intact.stored.keys.trans keys.symm, intact.stored.agree.congr params keys,
    intact.stored.entries⟩, intact.tight⟩

/-! ### Calls -/

/-- A call of `AddOrUpdateServer`: the game's name, and the server. -/
structure Addition where
  gamename : Bytes
  server : ServerData

namespace GameDB

def keyStorage? (db : GameDB) (name : Bytes) : Option (List GameKey × OrdMap Bytes GameKey) :=
  db[name]?.map Game.registry

/-- The games behind a call, if there is one. -/
def add (sqlite : Sqlite) (db : GameDB) : Option Addition → GameDB
  | none => db
  | some addition => db.update addition.gamename fun game =>
      (game.addOrUpdateServer sqlite addition.server).game

/-- The game of a name, with its keys as they are stored. -/
def stored? (db : GameDB) (storages : OrdMap Bytes KeyStorage) (name : Bytes) : Option StoredGame :=
  match db[name]?, storages[name]? with
  | some game, some storage => some ⟨game, storage⟩
  | _, _ => none

theorem keyStorage?_update {db : GameDB} {name : Bytes} {f : Game → Game}
    (keeps : ∀ game, (f game).registry = game.registry) :
    (db.update name f).keyStorage? = db.keyStorage? := by
  funext n
  unfold keyStorage?
  rw [update_getElem?]
  split
  · cases db[n]? with
    | none => rfl
    | some game => exact congrArg some (keeps game)
  · rfl

theorem registry_removeServers (game : Game) (key : RowKey) :
    (game.removeServers [key]).game.registry = game.registry := by
  obtain ⟨params, -, data⟩ := Game.removeServers_keeps game [key]
  exact Prod.ext (congrArg GameData.keys data) params

end GameDB

namespace MasterServer

open GameDB

/-- The call in the first half of a handler: that of a heartbeat of a validated endpoint. -/
def handleAddition (s : MasterServer) (d : Datagram) (packet : QRPacket) : Option Addition :=
  if packet.type = .heartbeat then
    match QRHeartbeatPacket.parse packet with
    | .error _ => none
    | .ok heartbeat =>
        match heartbeat.serverData[ascii "gamename"]? with
        | none => none
        | some gamename =>
            if d.client ∈ s.validated then some ⟨gamename, incoming d.client heartbeat.serverData⟩
            else none
  else none

/-- The call in the second half: that of an accepted answer. -/
def resumeAddition (s : MasterServer) (waiting : Option (Reply × Continuation)) (sent : Bool) :
    Option Addition :=
  match waiting with
  | some (_, .register client _) =>
      if sent then
        s.awaitingValidation[client]?.map fun entry =>
          ⟨entry.gamename, incoming client entry.values⟩
      else none
  | _ => none

end MasterServer

/-- The admin API adds servers too. -/
def Background.addition : Background → Option Addition
  | .addServer gamename server => some ⟨gamename, server⟩
  | _ => none

namespace MasterServer

open GameDB

variable (sqlite : Sqlite) (s : MasterServer)

theorem handleHeartbeat_db (d : Datagram) {packet : QRPacket} (type : packet.type = .heartbeat) :
    (s.handleHeartbeat sqlite d packet).1.db = s.db.add sqlite (s.handleAddition d packet) ∧
      (∀ addition ∈ s.handleAddition d packet, (s.handleHeartbeat sqlite d packet).2 = none) := by
  unfold handleHeartbeat handleAddition
  rw [if_pos type]
  cases QRHeartbeatPacket.parse packet with
  | error e => exact ⟨rfl, fun _ _ => rfl⟩
  | ok heartbeat =>
      dsimp only
      cases heartbeat.serverData[ascii "gamename"]? with
      | none => exact ⟨rfl, fun _ _ => rfl⟩
      | some gamename =>
          dsimp only
          by_cases valid : d.client ∈ s.validated
          · simp only [if_pos valid, add, update]
            cases known : s.db[gamename]? with
            | none => exact ⟨rfl, fun _ _ => rfl⟩
            | some game => exact ⟨rfl, fun _ _ => rfl⟩
          · simp only [if_neg valid]
            refine ⟨?_, fun _ none => by cases none⟩
            cases s.db[gamename]? with
            | none => rfl
            | some game =>
                cases s.awaitingValidation[d.client]? with
                | none => rfl
                | some entry => rfl

/-- A first half changes the games by its call alone, and leaves no send then. -/
theorem handle_db (d : Datagram) (packet : QRPacket) :
    (s.handle sqlite d packet).1.db = s.db.add sqlite (s.handleAddition d packet) ∧
      (∀ addition ∈ s.handleAddition d packet, (s.handle sqlite d packet).2 = none) := by
  by_cases type : packet.type = .heartbeat
  · have same : s.handle sqlite d packet = s.handleHeartbeat sqlite d packet := by
      unfold handle
      rw [type]
    rw [same]
    exact handleHeartbeat_db sqlite s d type
  · have none : s.handleAddition d packet = none := if_neg type
    rw [none]
    refine ⟨?_, fun _ absent => by cases absent⟩
    have handled := handle_handled sqlite s d packet
    generalize s.handle sqlite d packet = out at handled
    cases handled with
    | refreshed refreshes idle => exact refreshes.db
    | updated heartbeat => exact absurd heartbeat type
    | challenged known invalid unheld => rfl
    | accepted challenge held right => rfl

/-- So does a second half. -/
theorem resume_db (waiting : Option (Reply × Continuation)) (sent : Bool) :
    (s.resume sqlite waiting sent).db = s.db.add sqlite (s.resumeAddition waiting sent) := by
  unfold resume resumeAddition
  cases waiting with
  | none => rfl
  | some next =>
      obtain ⟨reply, continuation⟩ := next
      cases continuation with
      | done => rfl
      | register client entry =>
          cases sent with
          | false => rfl
          | true =>
              simp only [finish, completeChallenge, if_true]
              cases held : s.awaitingValidation[client]? with
              | none => rfl
              | some entry =>
                  simp only [Option.map_some, add, update]
                  cases known : s.db[entry.gamename]? with
                  | none => rfl
                  | some game =>
                      dsimp only
                      split
                      · rfl
                      · rfl

theorem cleanup_registry (now : Int) : (s.cleanup now).db.keyStorage? = s.db.keyStorage? := by
  have pass : ∀ (entries : List (Endpoint × ServerEntry)) (db : GameDB),
      (entries.foldl (fun db e =>
        if expired now e.2 then db.update e.2.gamename fun game =>
          (game.removeServers [e.1.rowKey]).game
        else db) db).keyStorage? = db.keyStorage? := by
    intro entries
    induction entries with
    | nil => exact fun _ => rfl
    | cons e rest ih =>
        intro db
        rw [List.foldl_cons, ih]
        split
        · exact keyStorage?_update fun game => registry_removeServers game _
        · rfl
  exact (pass _ _).trans (pass _ _)

theorem background_registry (b : Background) :
    (s.background sqlite b).db.keyStorage? = (s.db.add sqlite b.addition).keyStorage? := by
  cases b with
  | cleanup now => exact cleanup_registry s now
  | subscribe gamename keyList => exact keyStorage?_update fun _ => rfl
  | unsubscribe gamename slot => exact keyStorage?_update fun _ => rfl
  | addServer gamename server => rfl
  | removeServer gamename key => exact keyStorage?_update fun game => registry_removeServers game key

end MasterServer

/-! ### Steps -/

namespace Machine

variable (sqlite : Sqlite) (m : Machine)

def receiveAddition (d : Datagram) : Option Addition :=
  (m.packet? d).bind fun packet => m.server.handleAddition d packet

def addition : Event → Option Addition
  | .datagram d sent =>
      let out := m.receive sqlite d
      (m.receiveAddition d).or (out.1.server.resumeAddition out.2 sent)
  | .background b => b.addition

theorem receive_packet (d : Datagram) :
    ((m.receive sqlite d).1.server = m.server ∧ (m.receive sqlite d).2 = none ∧
      m.packet? d = none) ∨
    ∃ packet, m.packet? d = some packet ∧
      (m.receive sqlite d).1.server = (m.server.handle sqlite d packet).1 ∧
      (m.receive sqlite d).2 = (m.server.handle sqlite d packet).2 := by
  unfold receive packet?
  cases m.receiving with
  | false => exact .inl ⟨rfl, rfl, rfl⟩
  | true =>
      cases parsed : QRPacket.parse (m.view d) with
      | error e =>
          refine .inl ?_
          dsimp only
          by_cases empty : d.bytes.isEmpty = true
          · simp [empty, Except.toOption]
          · simp [empty, Except.toOption]
      | ok packet =>
          have some_bytes : d.bytes.isEmpty = false := by
            cases absent : d.bytes with
            | cons b rest => rfl
            | nil =>
                rw [QRPacket.parse, view_bytes, absent] at parsed
                cases parsed
          exact .inr ⟨packet, by simp [some_bytes, Except.toOption]⟩

theorem receive_db (d : Datagram) :
    (m.receive sqlite d).1.server.db = m.server.db.add sqlite (m.receiveAddition d) ∧
      (∀ addition ∈ m.receiveAddition d, (m.receive sqlite d).2 = none) := by
  unfold receiveAddition
  rcases receive_packet sqlite m d with ⟨server, idle, none⟩ | ⟨packet, framed, server, waiting⟩
  · rw [server, none]
    exact ⟨rfl, fun _ _ => idle⟩
  · rw [server, waiting, framed]
    exact MasterServer.handle_db sqlite m.server d packet

theorem step_registry (event : Event) :
    (m.step sqlite event).1.server.db.keyStorage? =
      (m.server.db.add sqlite (m.addition sqlite event)).keyStorage? := by
  cases event with
  | background b => exact MasterServer.background_registry sqlite m.server b
  | datagram d sent =>
      obtain ⟨first, alone⟩ := receive_db sqlite m d
      have second := MasterServer.resume_db sqlite (m.receive sqlite d).1.server
        (m.receive sqlite d).2 sent
      have server : (m.step sqlite (.datagram d sent)).1.server =
        (m.receive sqlite d).1.server.resume sqlite (m.receive sqlite d).2 sent := rfl
      rw [server, second, first, addition]
      cases called : m.receiveAddition d with
      | none => rfl
      | some call =>
          rw [alone call called]
          rfl

end Machine

/-! ### Systems with games -/

/-- A system whose games change their keys by a call of `AddOrUpdateServer` alone, at most one in
a step. -/
structure GameSystem (sqlite : Sqlite) (State Event Output : Type) where
  step : State → Event → State × List Output
  db : State → GameDB
  addition : State → Event → Option Addition
  registry : ∀ s e, (db (step s e).1).keyStorage? = ((db s).add sqlite (addition s e)).keyStorage?

def Machine.system (sqlite : Sqlite) : GameSystem sqlite Machine Machine.Event Reply where
  step := Machine.step sqlite
  db m := m.server.db
  addition := Machine.addition sqlite
  registry := Machine.step_registry sqlite

/-- A state, and the keys of its games as they are stored. -/
structure WithStorages (State : Type) where
  state : State
  storages : OrdMap Bytes KeyStorage

namespace GameSystem

variable {sqlite : Sqlite} {State Event Output : Type}
  (system : GameSystem sqlite State Event Output) (layout : Layout)

/-- The keys behind a step; `none` when its call reads what is lost. -/
def storagesAfter (s : WithStorages State) (event : Event) : Option (OrdMap Bytes KeyStorage) :=
  match system.addition s.state event with
  | none => some s.storages
  | some addition =>
      match (system.db s.state).stored? s.storages addition.gamename with
      | none => some s.storages
      | some stored => (stored.addOrUpdateServer layout sqlite addition.server).map fun out =>
          s.storages.insert addition.gamename out.2

/-- A step. There is no state behind a call that reads what is lost. -/
def storedStep : Option (WithStorages State) → Event → Option (WithStorages State) × List Output
  | none, _ => (none, [])
  | some s, event =>
      match system.storagesAfter layout s event with
      | none => (none, [])
      | some storages =>
          (some ⟨(system.step s.state event).1, storages⟩, (system.step s.state event).2)

/-- The call of a step, if there is one, reads nothing that is lost. -/
def Defined (s : WithStorages State) (event : Event) : Prop :=
  ∀ addition ∈ system.addition s.state event,
    ∀ stored ∈ (system.db s.state).stored? s.storages addition.gamename,
      stored.Defined layout sqlite addition.server

instance (s : WithStorages State) (event : Event) : Decidable (system.Defined layout s event) :=
  inferInstanceAs (Decidable (∀ addition ∈ system.addition s.state event, _))

/-- The keys of every game are stored, and none is lost. -/
def Intact (s : WithStorages State) : Prop :=
  ∀ (name : Bytes) (game : Game), (system.db s.state)[name]? = some game →
    ∃ storage, s.storages[name]? = some storage ∧ StoredGame.Intact ⟨game, storage⟩

variable {system} {layout} {s : WithStorages State} {event : Event}

theorem storedStep_quiet (quiet : (system.addition s.state event).isNone) :
    system.storedStep layout (some s) event =
      (some ⟨(system.step s.state event).1, s.storages⟩, (system.step s.state event).2) := by
  rw [storedStep, storagesAfter, Option.isNone_iff_eq_none.mp quiet]

theorem Intact.stored (intact : system.Intact s) {name : Bytes} {game : Game}
    (known : (system.db s.state)[name]? = some game) :
    ∃ storage, (system.db s.state).stored? s.storages name = some ⟨game, storage⟩ ∧
      StoredGame.Intact ⟨game, storage⟩ := by
  obtain ⟨storage, held, here⟩ := intact name game known
  exact ⟨storage, by rw [GameDB.stored?, known, held], here⟩

/-- A game behind a step had the same keys, or those its call added. -/
theorem registry_source {name : Bytes} {game' : Game}
    (known : (system.db (system.step s.state event).1)[name]? = some game') :
    ∃ game, ((system.db s.state).add sqlite (system.addition s.state event))[name]? = some game ∧
      game'.registry = game.registry := by
  have same := congrFun (system.registry s.state event) name
  unfold GameDB.keyStorage? at same
  rw [known, Option.map_some] at same
  obtain ⟨game, held, eq⟩ := Option.map_eq_some_iff.mp same.symm
  exact ⟨game, held, eq.symm⟩

/-- A call that reads nothing that is lost loses no key. -/
theorem storagesAfter_intact (intact : system.Intact s) (defined : system.Defined layout s event) :
    ∃ storages, system.storagesAfter layout s event = some storages ∧
      system.Intact ⟨(system.step s.state event).1, storages⟩ := by
  unfold storagesAfter
  cases called : system.addition s.state event with
  | none =>
      refine ⟨s.storages, rfl, fun name game' known => ?_⟩
      obtain ⟨game, held, same⟩ := registry_source known
      rw [called] at held
      obtain ⟨storage, kept, here⟩ := intact name game held
      exact ⟨storage, kept, here.congr same⟩
  | some addition =>
      dsimp only
      cases known : (system.db s.state)[addition.gamename]? with
      | none =>
          have absent : (system.db s.state).stored? s.storages addition.gamename = none := by
            rw [GameDB.stored?, known]
          rw [absent]
          refine ⟨s.storages, rfl, fun name game' held' => ?_⟩
          obtain ⟨game, held, same⟩ := registry_source held'
          rw [called, GameDB.add, GameDB.update, known] at held
          obtain ⟨storage, kept, here⟩ := intact name game held
          exact ⟨storage, kept, here.congr same⟩
      | some game =>
          obtain ⟨storage, stored, here⟩ := intact.stored known
          have reads := defined addition called _ stored
          rw [stored]
          dsimp only
          rw [StoredGame.addOrUpdateServer_eq here.stored, if_pos reads]
          refine ⟨_, rfl, fun name game' held' => ?_⟩
          obtain ⟨after, held, same⟩ := registry_source held'
          rw [called, GameDB.add, GameDB.update_getElem?] at held
          rw [OrdMap.insert_getElem?]
          by_cases named : addition.gamename = name
          · subst named
            rw [if_pos rfl, known, Option.map_some] at held
            cases held
            rw [if_pos rfl]
            have next := @StoredGame.Intact.step _ _ _ here (.add addition.server) reads
            exact ⟨_, rfl, next.congr same⟩
          · rw [if_neg named] at held
            obtain ⟨storage, kept, here⟩ := intact name after held
            rw [if_neg named]
            exact ⟨storage, kept, here.congr same⟩

/-- **A step whose call reads nothing that is lost is that of the system.** -/
theorem step_intact (intact : system.Intact s) (defined : system.Defined layout s event) :
    ∃ storages, system.storedStep layout (some s) event =
        (some ⟨(system.step s.state event).1, storages⟩, (system.step s.state event).2) ∧
      system.Intact ⟨(system.step s.state event).1, storages⟩ := by
  obtain ⟨storages, after, here⟩ := storagesAfter_intact intact defined
  refine ⟨storages, ?_, here⟩
  rw [storedStep, after]

/-- **A run whose calls read nothing that is lost is the run of the system.** -/
theorem run_stored {P : State → Event → Prop} {start : WithStorages State}
    (intact : system.Intact start) {events : List Event}
    (meets : StepsMeet (system.storedStep layout)
      (OnSome fun s event => system.Defined layout s event ∧ P s.state event) (some start) events) :
    StepsMeet system.step P start.state events ∧
      ∃ storages, final (system.storedStep layout) (some start) events =
          some ⟨final system.step start.state events, storages⟩ ∧
        system.Intact ⟨final system.step start.state events, storages⟩ := by
  induction events generalizing start with
  | nil => exact ⟨trivial, start.storages, rfl, intact⟩
  | cons event rest ih =>
      obtain ⟨defined, met⟩ := meets.1 start rfl
      obtain ⟨storages, next, after⟩ := step_intact intact defined
      have later := meets.2
      rw [next] at later
      obtain ⟨others, reached⟩ := ih after later
      rw [final_cons, next]
      exact ⟨⟨met, others⟩, reached⟩

end GameSystem

/-- The machine at startup, its games as `Connect` leaves them, each in a block with some room
for its keys. -/
structure Machine.Started (sqlite : Sqlite) (start : WithStorages Machine) : Prop
    extends Machine.Initial start.state where
  games : ∀ (name : Bytes) (game : Game), start.state.server.db[name]? = some game →
    ∃ data capacity, ∃ fits : game.data.keys.length ≤ capacity,
      Game.connect sqlite data = .ok game ∧
        start.storages[name]? = some (StoredGame.connected game capacity fits).storage

theorem Machine.Started.intact {sqlite : Sqlite} {start : WithStorages Machine}
    (started : Machine.Started sqlite start) : (Machine.system sqlite).Intact start := by
  intro name game known
  obtain ⟨data, capacity, fits, connects, held⟩ := started.games name game known
  exact ⟨_, held, StoredGame.connected_intact connects capacity fits⟩

namespace MasterSample

open StoreSample (layout)

/-- The keys of a game without keys, in a block with room for eight. -/
def storage (game : Game) (none : game.data.keys = []) : KeyStorage :=
  (StoredGame.connected game 8 (by simp [none])).storage

/-- The machine at startup, with room for more keys. -/
def roomy : WithStorages Machine :=
  ⟨start, OrdMap.emplaceAll [(ascii "gmtest", storage gmtest rfl),
    (ascii "battlefield2", storage battlefield2 rfl)] ∅⟩

theorem roomy_started : Machine.Started sqlite roomy := by
  refine ⟨start_initial, fun name game known => ?_⟩
  rcases OrdMap.emplaceAll_getElem?_source known with mem | absent
  · simp only [List.mem_cons, Prod.mk.injEq, List.not_mem_nil, or_false] at mem
    rcases mem with ⟨rfl, rfl⟩ | ⟨rfl, rfl⟩
    · exact ⟨gmtest.data, 8, by decide, rfl, rfl⟩
    · exact ⟨battlefield2.data, 8, by decide, rfl, rfl⟩
  · simp at absent

theorem roomy_first (sent : Bool) :
    (Machine.system sqlite).storedStep layout (some roomy) (.datagram first sent) =
      (some ⟨pending, roomy.storages⟩, [.challenge client instanceKey challenge]) := by
  have quiet : ((Machine.system sqlite).addition start (.datagram first sent)).isNone = true := by
    cases sent <;> decide +kernel
  have step : (Machine.system sqlite).step start (.datagram first sent) =
      (pending, [.challenge client instanceKey challenge]) := start_first sent
  rw [roomy, GameSystem.storedStep_quiet quiet, step]

end MasterSample

end GamespyEmulator
