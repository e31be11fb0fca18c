import GamespyEmulator.Game.KeyStorage

/-!
`AddOrUpdateServer` over `m_Params` as it is stored. Every search in the map may compare
with an entry whose key is lost, and what that gives is not known; a call that comes to
such a search has no result here, nor has one whose slots read a lost name.

`addOrUpdateServer_eq` says which calls those are (`Defined`), and that any other does what
`Game.addOrUpdateServer` does with the keys themselves. `callStep_eq` carries this over to
the calls of a run.
-/

namespace GamespyEmulator

open Wire Storage Fallible

namespace KeyStorage

/-! ### Searches -/

/-- An entry whose view or pointer finds no key. -/
def Lost (storage : KeyStorage) : Prop :=
  ∃ param ∈ storage.params,
    storage.keys.deref param.view = none ∨ storage.keys.deref param.key = none

instance (storage : KeyStorage) : Decidable storage.Lost :=
  inferInstanceAs (Decidable (∃ param ∈ storage.params, _))

/-- `m_Params.contains`. -/
def contains (storage : KeyStorage) (name : Bytes) : Option Bool :=
  if storage.Lost then none else some (storage.find name).isSome

/-- `GetParamSendType`, where nothing is known of a search among lost entries. -/
def sendType (storage : KeyStorage) (keyName : Bytes) : Option Send :=
  if storage.Lost then none else storage.getParamSendType keyName

/-- The loop of `AddOrUpdateServer` over the server's data. -/
def plan (storage : KeyStorage) (policy : MissingKeyPolicy) :
    List (Bytes × Bytes) → Option (Except GameError (List Bytes × List (Bytes × Bytes)))
  | [] => some (.ok ([], []))
  | (key, value) :: rest =>
      match storage.contains key with
      | none => none
      | some true => (storage.plan policy rest).map fun planned =>
          planned.map fun (columns, values) => (columns, (key, value) :: values)
      | some false =>
          match policy with
          | .ignore => storage.plan policy rest
          | .addAsString =>
              if isValidParamName key then
                (storage.plan policy rest).map fun planned =>
                  planned.map fun (columns, values) => (key :: columns, values)
              else some (.error (.illegalColumnName key))

/-- The loop over the new columns. The key is appended, then `m_Params.emplace` searches. -/
def registerEach (growth : Growth) : KeyStorage → List Bytes → Option KeyStorage
  | storage, [] => some storage
  | storage, column :: rest =>
      if Lost { storage with keys := storage.keys.push growth (Game.addedKey column) } then none
      else registerEach growth (storage.register growth column) rest

/-- The loop of `PrepareServer` over the field list. -/
def prepareValues (storage : KeyStorage) (game : Game) (usePopularList : Bool)
    (server : ServerData) : List Bytes → Option (Except EncodeError Bytes)
  | [] => some (.ok [])
  | key :: rest =>
      match storage.sendType key with
      | none => none
      | some sendAs =>
          match prepareValue game usePopularList sendAs (server.value key) with
          | .error e => some (.error e)
          | .ok value => (storage.prepareValues game usePopularList server rest).map fun values =>
              values.map (value ++ ·)

/-- `PrepareServer`. No key is looked up behind an address that cannot be read. -/
def prepareServer (storage : KeyStorage) (game : Game) (server : ServerData)
    (fieldList : List Bytes) (usePopularList : Bool) : Option (Except EncodeError Bytes) :=
  match prepareAround game server (.ok []) with
  | .error e => some (.error e)
  | .ok _ =>
      (storage.prepareValues game usePopularList server fieldList).map (prepareAround game server)

/-- The entry an `OnServerAdded` slot builds, with the names in its key list. -/
def pushEntry (storage : KeyStorage) (layout : Layout) (game : Game) (server : ServerData)
    (keyList : List Bytes) : Option (Except EncodeError Bytes) :=
  match (KeyList.ofFields layout keyList).names layout with
  | none => none
  | some fields => storage.prepareServer game server fields false

/-- The message it queues. -/
def pushMessage (storage : KeyStorage) (layout : Layout) (game : Game) (server : ServerData)
    (keyList : List Bytes) : Option (Except EncodeError Bytes) :=
  (storage.pushEntry layout game server keyList).map fun built => built.map pushBytes

/-- No entry is lost where a send type is looked up. -/
def Sends (storage : KeyStorage) (game : Game) (server : ServerData) (fieldList : List Bytes) :
    Prop :=
  storage.Lost → Encodable game server [] → fieldList = []

/-- A slot that reads nothing that is lost. -/
def Reads (storage : KeyStorage) (layout : Layout) (game : Game) (server : ServerData)
    (keyList : List Bytes) : Prop :=
  layout.Keeps keyList ∧ storage.Sends game server keyList

instance (storage : KeyStorage) (game : Game) (server : ServerData) (fieldList : List Bytes) :
    Decidable (storage.Sends game server fieldList) :=
  inferInstanceAs (Decidable (_ → _ → _))

instance (storage : KeyStorage) (layout : Layout) (game : Game) (server : ServerData) :
    DecidablePred (storage.Reads layout game server) :=
  fun _ => inferInstanceAs (Decidable (_ ∧ _))

theorem Dangling.lost {storage : KeyStorage} (dangling : storage.Dangling) : storage.Lost := by
  obtain ⟨param, mem, older⟩ := dangling
  exact ⟨param, mem, .inr (Growable.deref_older older)⟩

theorem Valid.intact {storage : KeyStorage} (valid : storage.Valid) : ¬ storage.Lost := by
  rintro ⟨param, mem, lost⟩
  obtain ⟨key, view, refers⟩ := valid.entries param mem
  rcases lost with none | none
  · rw [view] at none
    cases none
  · rw [refers] at none
    cases none

/-! ### One search for each step -/

section Search

variable {storage : KeyStorage} {growth : Growth}

/-- The loop over the data, when the map holds the game's names. -/
theorem plan_eq {game : Game} (intact : ¬ storage.Lost)
    (finds : ∀ name, (storage.find name).isSome ↔ name ∈ game.params)
    (entries : List (Bytes × Bytes)) :
    storage.plan game.data.missingKeyPolicy entries = some (game.plan entries) := by
  induction entries with
  | nil => rfl
  | cons entry rest ih =>
      obtain ⟨key, value⟩ := entry
      have found := finds key
      rw [plan.eq_def, Game.plan]
      dsimp only
      rw [contains, if_neg intact]
      by_cases known : key ∈ game.params
      · rw [found.mpr known, if_pos known, ih]
        rfl
      · have absent : (storage.find key).isSome = false :=
          Bool.eq_false_iff.mpr fun present => known (found.mp present)
        rw [absent, if_neg known]
        dsimp only
        cases policy : game.data.missingKeyPolicy with
        | ignore =>
            rw [policy] at ih
            exact ih
        | addAsString =>
            rw [policy] at ih
            dsimp only
            split
            · rw [ih]
              rfl
            · rfl

theorem plan_lost (lost : storage.Lost) {entries : List (Bytes × Bytes)} (some' : entries ≠ [])
    (policy : MissingKeyPolicy) : storage.plan policy entries = none := by
  cases entries with
  | nil => exact absurd rfl some'
  | cons entry rest =>
      rw [plan.eq_def]
      dsimp only
      rw [contains, if_pos lost]

/-- A full block with keys leaves their entries behind before the new one is searched. -/
theorem Tight.push_lost_iff (tight : storage.Tight) (key : GameKey) :
    Lost { storage with keys := storage.keys.push growth key } ↔
      ¬ storage.keys.elements.length < storage.keys.room growth := by
  have grows := growth.grows 0
  have within := storage.keys.fits
  have pushed := Growable.push_elements growth storage.keys key
  by_cases fits : storage.keys.elements.length < storage.keys.capacity
  · -- The block stays, and so does what its references find.
    have block : (storage.keys.push growth key).block = storage.keys.block :=
      congrArg Ref.block (congrFun (Growable.push_room fits).1 0)
    have room : storage.keys.elements.length < storage.keys.room growth := by
      unfold Growable.room
      rwa [if_neg (by omega)]
    refine iff_of_false ?_ (not_not.mpr room)
    rintro ⟨param, mem, lost⟩
    obtain ⟨old, view, refers⟩ := tight.valid.entries param mem
    have kept : ∀ ref, storage.keys.deref ref = some old →
        (storage.keys.push growth key).deref ref = some old := by
      intro ref found
      unfold Growable.deref at found ⊢
      rw [block, pushed]
      split at found
      · rename_i here
        rw [if_pos here, List.getElem?_append_left (List.getElem?_eq_some_iff.mp found).1, found]
      · cases found
    rcases lost with none | none
    · rw [kept _ view] at none
      cases none
    · rw [kept _ refers] at none
      cases none
  · have moved := (@Growable.push_full _ growth storage.keys key fits).1
    have params := tight.params
    by_cases empty : storage.keys.elements.length = 0
    · rw [empty] at params
      refine iff_of_false ?_ (not_not.mpr ?_)
      · rintro ⟨param, mem, -⟩
        rw [params] at mem
        cases mem
      · unfold Growable.room
        rw [if_pos (by omega)]
        omega
    · have first : storage.param 0 ∈ storage.params := by
        rw [params]
        exact List.mem_map_of_mem (List.mem_range.mpr (Nat.pos_of_ne_zero empty))
      refine iff_of_true ⟨_, first, .inr (Growable.deref_older ?_)⟩ ?_
      · exact moved ▸ Nat.lt_succ_self _
      · unfold Growable.room
        rw [if_neg (by omega)]
        exact fits

/-- New keys are registered when they fit; otherwise the loop searches among lost entries. -/
theorem Tight.registerEach_eq (tight : storage.Tight) {columns : List Bytes}
    (distinct : columns.Nodup) (new : ∀ name ∈ columns, name ∉ storage.names) :
    storage.registerEach growth columns =
      if storage.keys.elements.length + columns.length ≤ storage.keys.room growth then
        some (storage.registerAll growth columns) else none := by
  induction columns generalizing storage with
  | nil =>
      have fits : storage.keys.elements.length + 0 ≤ storage.keys.room growth :=
        Growable.length_le_room
      rw [registerEach, List.length_nil, if_pos fits]
      rfl
  | cons name rest ih =>
      obtain ⟨apart, distinct⟩ := List.nodup_cons.mp distinct
      obtain ⟨unused, new⟩ := List.forall_mem_cons.mp new
      rw [registerEach]
      by_cases room : storage.keys.elements.length < storage.keys.room growth
      · rw [if_neg (mt (tight.push_lost_iff _).mp (not_not.mpr room))]
        have elements := register_elements growth storage name
        have same : (storage.register growth name).keys.room growth = storage.keys.room growth := by
          rw [register, emplace_keys]
          exact Growable.push_room_same room
        rw [ih (tight.register_room unused room) distinct, elements, List.length_append,
          List.length_singleton, same, List.length_cons, Nat.add_assoc, Nat.add_comm 1]
        · rfl
        · intro other mem taken
          rw [names, elements, List.map_append] at taken
          rcases List.mem_append.mp taken with old | added
          · exact new other mem old
          · have called : other = name := List.mem_singleton.mp added
            exact apart (called ▸ mem)
      · rw [if_pos ((tight.push_lost_iff _).mpr room), if_neg]
        rw [List.length_cons]
        omega

end Search

end KeyStorage

/-! ### Calls -/

namespace StoredGame

section Calls

variable (layout : Layout) (sqlite : Sqlite) (s : StoredGame)

/-- `Game::AddOrUpdateServer`: what it does to the game, and the keys it leaves. -/
def addOrUpdateServer (server : ServerData) : Option (Outcome × KeyStorage) :=
  if server.publicIp.isEmpty ∨ server.publicPort = 0 then
    some ({ game := s.game, exception := some .missingEndpoint }, s.storage)
  else match s.storage.plan s.game.data.missingKeyPolicy server.data.toList with
    | none => none
    | some (.error e) => some ({ game := s.game, exception := some e }, s.storage)
    | some (.ok (columnsToAdd, valuesToInsert)) =>
        match s.game.addColumns sqlite columnsToAdd with
        | (game, false) => some ({ game := game, exception := some .sqlite }, s.storage)
        | (game, true) =>
            match s.storage.registerEach layout.growth columnsToAdd with
            | none => none
            | some storage =>
                let game := game.insertRow server valuesToInsert
                (signalReading (storage.pushMessage layout game server) game.subscribers).map
                  fun (queued, exception) =>
                    ({ game := game, queued := queued, exception := exception.map .slot }, storage)

/-- The call reads nothing that is lost: the entries are in place if it searches for a key, new
keys have room behind the others, and the slots that run find their names. -/
structure Defined (server : ServerData) : Prop where
  searches : server.publicIp ≠ [] ∧ server.publicPort ≠ 0 → s.storage.Lost →
    server.data.toList = []
  room : s.HasRoom sqlite layout.growth (.add server)
  slots : s.game.Registers sqlite server →
    SlotsRead (s.storage.Reads layout s.game server) s.game server s.game.subscribers

instance (server : ServerData) : Decidable (s.Defined layout sqlite server) :=
  decidable_of_iff ((server.publicIp ≠ [] ∧ server.publicPort ≠ 0 → s.storage.Lost →
      server.data.toList = []) ∧ s.HasRoom sqlite layout.growth (.add server) ∧
    (s.game.Registers sqlite server →
      SlotsRead (s.storage.Reads layout s.game server) s.game server s.game.subscribers))
    ⟨fun all => ⟨all.1, all.2.1, all.2.2⟩, fun defined => ⟨defined.1, defined.2, defined.3⟩⟩

end Calls

variable {layout : Layout} {sqlite : Sqlite} {s : StoredGame}

/-- The entries are all in place, or one is lost. -/
theorem Stored.lost_iff (stored : Stored s) : ¬ s.storage.Lost ↔ s.storage.Tight := by
  rcases stored.entries with tight | dangling
  · exact iff_of_true tight.valid.intact tight
  · exact iff_of_false (not_not.mpr dangling.lost) fun tight => dangling.invalid tight.valid

/-- The loop over the field list looks up what the game has registered. -/
theorem prepareValues_eq (stored : Stored s) (intact : ¬ s.storage.Lost) {game : Game}
    {server : ServerData} (sends : ∀ key, game.getParamSendType key = s.game.getParamSendType key)
    (fieldList : List Bytes) (usePopularList : Bool) :
    s.storage.prepareValues game usePopularList server fieldList =
      some (GamespyEmulator.prepareValues game usePopularList server fieldList) := by
  have valid := (stored.lost_iff.mp intact).valid
  induction fieldList with
  | nil => rfl
  | cons key rest ih =>
      rw [KeyStorage.prepareValues, KeyStorage.sendType, if_neg intact,
        (lookup_game stored valid key).1, GamespyEmulator.prepareValues, sends]
      dsimp only
      cases prepareValue game usePopularList (s.game.getParamSendType key) (server.value key) with
      | error e => rfl
      | ok value =>
          dsimp only
          rw [ih]
          rfl

/-- What `PrepareServer` builds, for a game whose keys are sent as those of the stored one
are. -/
theorem prepareServer_eq (stored : Stored s) {game : Game} {server : ServerData}
    (sends : ∀ key, game.getParamSendType key = s.game.getParamSendType key)
    (fieldList : List Bytes) (usePopularList : Bool) :
    s.storage.prepareServer game server fieldList usePopularList =
      if s.storage.Sends game server fieldList then
        some (GamespyEmulator.prepareServer game server fieldList usePopularList) else none := by
  have addresses : Returns (prepareAround game server (.ok [])) ↔ Encodable game server [] :=
    @prepareServer_returns game server [] false
  rw [KeyStorage.prepareServer]
  cases around : prepareAround game server (.ok []) with
  | error e =>
      rw [around] at addresses
      have refused := mt addresses.mpr (not_returns_error e)
      have sent : s.storage.Sends game server fieldList := fun _ encodable =>
        absurd encodable refused
      rw [if_pos sent]
      exact congrArg some (prepareAround_error around _).symm
  | ok entry =>
      rw [around] at addresses
      have encodable := addresses.mp (returns_ok entry)
      dsimp only
      by_cases lost : s.storage.Lost
      · cases fieldList with
        | nil =>
            have sent : s.storage.Sends game server [] := fun _ _ => rfl
            rw [if_pos sent]
            rfl
        | cons key rest =>
            have unsent : ¬ s.storage.Sends game server (key :: rest) := fun sent =>
              List.cons_ne_nil key rest (sent lost encodable)
            rw [if_neg unsent, KeyStorage.prepareValues, KeyStorage.sendType, if_pos lost]
            rfl
      · have sent : s.storage.Sends game server fieldList := fun isLost => absurd isLost lost
        rw [if_pos sent, prepareValues_eq stored lost sends]
        rfl

theorem pushEntry_eq (stored : Stored s) {game : Game} {server : ServerData}
    (sends : ∀ key, game.getParamSendType key = s.game.getParamSendType key)
    (keyList : List Bytes) : s.storage.pushEntry layout game server keyList =
      if s.storage.Reads layout game server keyList then
        some (GamespyEmulator.prepareServer game server keyList false) else none := by
  rw [KeyStorage.pushEntry, KeyList.names_ofFields]
  by_cases keeps : layout.Keeps keyList
  · rw [if_pos keeps]
    dsimp only
    rw [prepareServer_eq stored sends]
    exact if_congr (and_iff_right keeps).symm rfl rfl
  · rw [if_neg keeps, if_neg fun reads => keeps reads.1]

/-- What a slot queues. -/
theorem pushMessage_eq (stored : Stored s) {game : Game} {server : ServerData}
    (sends : ∀ key, game.getParamSendType key = s.game.getParamSendType key)
    (keyList : List Bytes) : s.storage.pushMessage layout game server keyList =
      if s.storage.Reads layout game server keyList then
        some (GamespyEmulator.pushMessage game server keyList) else none := by
  rw [KeyStorage.pushMessage, pushEntry_eq stored sends]
  split
  · rfl
  · rfl

/-- The slots of a game that a call leaves, in terms of the game it was called on. -/
theorem signal_eq {game : Game} {storage : KeyStorage} (after : Stored ⟨game, storage⟩)
    (same : Game.SameConfig s.game game) (lost : storage.Lost ↔ s.storage.Lost)
    {server : ServerData} :
    signalReading (storage.pushMessage layout game server) game.subscribers =
      if SlotsRead (s.storage.Reads layout s.game server) s.game server s.game.subscribers then
        some (signal (GamespyEmulator.pushMessage game server) game.subscribers) else none := by
  have reads : ∀ keyList, storage.Reads layout game server keyList ↔
      s.storage.Reads layout s.game server keyList := fun keyList =>
    and_congr_right fun _ => imp_congr lost (imp_congr same.encodable_iff Iff.rfl)
  have each := @pushMessage_eq layout ⟨game, storage⟩ after game server fun _ => rfl
  rw [signalReading_eq each, ← same.subscribers]
  exact if_congr (slotsRead_congr same reads game.subscribers) rfl rfl

theorem columnsToAdd_nil {game : Game} {server : ServerData} (none : server.data.toList = []) :
    game.columnsToAdd server = [] := by
  unfold Game.columnsToAdd Game.unknownKeys
  rw [none]
  exact ite_self _

section Call

variable (stored : Stored s)
include stored

/-- The new columns are registered when they fit. -/
theorem registerEach_eq {server : ServerData}
    (searches : s.storage.Lost → server.data.toList = []) :
    s.storage.registerEach layout.growth (s.game.columnsToAdd server) =
      if s.storage.keys.elements.length + (s.game.columnsToAdd server).length ≤
          s.storage.keys.room layout.growth then
        some (s.storage.registerAll layout.growth (s.game.columnsToAdd server)) else none := by
  by_cases lost : s.storage.Lost
  · have none := @columnsToAdd_nil s.game server (searches lost)
    have fits : s.storage.keys.elements.length + 0 ≤ s.storage.keys.room layout.growth :=
      Growable.length_le_room
    rw [none, List.length_nil, if_pos fits]
    rfl
  · refine (stored.lost_iff.mp lost).registerEach_eq (Game.columnsToAdd_nodup s.game server) ?_
    intro name mem
    rw [KeyStorage.names, stored.keys]
    exact stored.agree.unnamed (Game.unknown_of_columnsToAdd mem)

/-- The loop over the data finds what the game has registered, unless it searches among lost
entries. -/
theorem plan_eq {entries : List (Bytes × Bytes)} (searches : s.storage.Lost → entries = []) :
    s.storage.plan s.game.data.missingKeyPolicy entries = some (s.game.plan entries) := by
  by_cases lost : s.storage.Lost
  · rw [searches lost]
    rfl
  · exact KeyStorage.plan_eq lost (find_isSome stored (stored.lost_iff.mp lost).valid) entries

/-- Registering keys that fit loses no entry. -/
theorem registerAll_lost_iff {server : ServerData}
    (fits : s.storage.keys.elements.length + (s.game.columnsToAdd server).length ≤
      s.storage.keys.room layout.growth)
    (searches : s.storage.Lost → server.data.toList = []) :
    (s.storage.registerAll layout.growth (s.game.columnsToAdd server)).Lost ↔ s.storage.Lost := by
  by_cases lost : s.storage.Lost
  · rw [columnsToAdd_nil (searches lost)]
    exact Iff.rfl
  · refine iff_of_false ?_ lost
    rcases register_cases stored (stored.lost_iff.mp lost) with ⟨-, tight⟩ | ⟨tooMany, -⟩
    · exact tight.valid.intact
    · exact absurd fits tooMany.not_ge

/-- A call that registers nothing does what it does with the keys themselves. -/
theorem addOrUpdateServer_refused {server : ServerData} (refused : ¬ s.game.Registers sqlite server)
    (searches : server.publicIp ≠ [] ∧ server.publicPort ≠ 0 → s.storage.Lost →
      server.data.toList = []) :
    s.addOrUpdateServer layout sqlite server =
      some (s.game.addOrUpdateServer sqlite server, s.storage) := by
  rw [addOrUpdateServer, Game.addOrUpdateServer]
  by_cases missing : server.publicIp.isEmpty = true ∨ server.publicPort = 0
  · rw [if_pos missing, if_pos missing]
  have endpoint : server.publicIp ≠ [] ∧ server.publicPort ≠ 0 := by simpa using missing
  rw [if_neg missing, if_neg missing, plan_eq stored (searches endpoint)]
  cases planned : s.game.plan server.data.toList with
  | error e => rfl
  | ok out =>
      obtain ⟨columns, values⟩ := out
      dsimp only
      cases fits : (s.game.addColumns sqlite columns).2 with
      | true =>
          have checked : s.game.Checked server :=
            ⟨endpoint, Game.planned_iff.mp (planned ▸ returns_ok _)⟩
          rw [Game.plan_columns planned] at fits
          exact absurd ⟨checked, Game.addColumns_ok.mp fits⟩ refused
      | false =>
          rw [show s.game.addColumns sqlite columns = ((s.game.addColumns sqlite columns).1, false)
            from Prod.ext rfl fits]

/-- A call that registers its server does so when its new keys fit and its slots find their
names. -/
theorem addOrUpdateServer_registers {server : ServerData}
    (registers : s.game.Registers sqlite server)
    (searches : s.storage.Lost → server.data.toList = []) :
    s.addOrUpdateServer layout sqlite server =
      if s.HasRoom sqlite layout.growth (.add server) ∧
          SlotsRead (s.storage.Reads layout s.game server) s.game server s.game.subscribers then
        some (s.game.addOrUpdateServer sqlite server,
          (step sqlite layout.growth s (.add server)).1.storage)
      else none := by
  have endpoint := registers.1.endpoint
  have fits := registers.2
  have present : ¬ (server.publicIp.isEmpty = true ∨ server.publicPort = 0) := by
    simpa using endpoint
  obtain ⟨⟨columns, values⟩, planned⟩ : Returns (s.game.plan server.data.toList) :=
    Game.planned_iff.mpr registers.1.names
  obtain rfl : columns = s.game.columnsToAdd server := Game.plan_columns planned
  have added : s.game.addColumns sqlite (s.game.columnsToAdd server) =
      ((s.game.addColumns sqlite (s.game.columnsToAdd server)).1, true) :=
    Prod.ext rfl (Game.addColumns_ok.mpr fits)
  rw [addOrUpdateServer, if_neg present, plan_eq stored searches, planned]
  dsimp only
  rw [added]
  dsimp only
  rw [registerEach_eq stored searches]
  by_cases room : s.storage.keys.elements.length + (s.game.columnsToAdd server).length ≤
      s.storage.keys.room layout.growth
  swap
  · rw [if_neg room, if_neg fun both => room (both.1 registers)]
  rw [if_pos room]
  dsimp only
  -- The slots run on the game and the keys behind the call.
  have whole := Game.addOrUpdateServer_inv endpoint planned fits
  have same := Game.addOrUpdateServer_sameConfig sqlite s.game server
  have storage : (step sqlite layout.growth s (.add server)).1.storage =
      s.storage.registerAll layout.growth (s.game.columnsToAdd server) := if_pos registers
  have after := @step_stored sqlite layout.growth s stored (.add server)
  have left : (step sqlite layout.growth s (.add server)).1 =
      ⟨(s.game.addColumns sqlite (s.game.columnsToAdd server)).1.insertRow server values,
        s.storage.registerAll layout.growth (s.game.columnsToAdd server)⟩ := by
    rw [← storage]
    exact congrArg (StoredGame.mk · _) (congrArg Outcome.game whole)
  rw [left] at after
  rw [whole] at same ⊢
  rw [signal_eq after same (registerAll_lost_iff stored room searches), left]
  by_cases read : SlotsRead (s.storage.Reads layout s.game server) s.game server s.game.subscribers
  · rw [if_pos read, if_pos ⟨fun _ => room, read⟩]
    rfl
  · rw [if_neg read, if_neg fun both => read both.2]
    rfl

/-- **A call does what it does with the keys themselves, unless it reads what is lost.** -/
theorem addOrUpdateServer_eq (server : ServerData) :
    s.addOrUpdateServer layout sqlite server =
      if s.Defined layout sqlite server then
        some (s.game.addOrUpdateServer sqlite server,
          (step sqlite layout.growth s (.add server)).1.storage)
      else none := by
  by_cases searches : server.publicIp ≠ [] ∧ server.publicPort ≠ 0 → s.storage.Lost →
      server.data.toList = []
  · by_cases registers : s.game.Registers sqlite server
    · rw [addOrUpdateServer_registers stored registers (searches registers.1.endpoint)]
      refine if_congr ⟨fun both => ?_, fun defined => ?_⟩ rfl rfl
      · exact ⟨searches, both.1, fun _ => both.2⟩
      · exact ⟨defined.room, defined.slots registers⟩
    · have defined : s.Defined layout sqlite server :=
        ⟨searches, fun registered => absurd registered registers,
          fun registered => absurd registered registers⟩
      have kept : (step sqlite layout.growth s (.add server)).1.storage = s.storage :=
        if_neg registers
      rw [addOrUpdateServer_refused stored registers searches, if_pos defined, kept]
  · obtain ⟨endpoint, searched⟩ := Classical.not_imp.mp searches
    obtain ⟨lost, some'⟩ := Classical.not_imp.mp searched
    have present : ¬ (server.publicIp.isEmpty = true ∨ server.publicPort = 0) := by
      simpa using endpoint
    rw [addOrUpdateServer, if_neg present, KeyStorage.plan_lost lost some',
      if_neg fun defined => searches defined.searches]

end Call

/-! ### Runs -/

section Runs

variable (layout : Layout) (sqlite : Sqlite)

/-- A call, over the keys as they are stored. -/
def call (s : StoredGame) : Call → Option (Outcome × KeyStorage)
  | .add server => s.addOrUpdateServer layout sqlite server
  | .remove servers => some (s.game.removeServers servers, s.storage)
  | .subscribers fieldLists =>
      some ({ game := { s.game with subscribers := fieldLists } }, s.storage)

/-- A call as a step; it emits the exception the call ends with. There is no state behind a
call that reads what is lost. -/
def callStep : Option StoredGame → Call → Option StoredGame × List GameError
  | none, _ => (none, [])
  | some s, call =>
      match s.call layout sqlite call with
      | none => (none, [])
      | some (out, storage) => (some ⟨out.game, storage⟩, out.exception.toList)

/-- A call that reads nothing that is lost. -/
def CallDefined (s : StoredGame) : Call → Prop
  | .add server => s.Defined layout sqlite server
  | .remove _ => True
  | .subscribers _ => True

instance (s : StoredGame) (call : Call) : Decidable (CallDefined layout sqlite s call) :=
  match call with
  | .add server => inferInstanceAs (Decidable (s.Defined layout sqlite server))
  | .remove _ => .isTrue trivial
  | .subscribers _ => .isTrue trivial

end Runs

/-- The keys and their entries belong to the game, and none is lost. -/
structure Intact (s : StoredGame) : Prop where
  stored : Stored s
  tight : s.storage.Tight

theorem connected_intact {data : GameData} {game : Game}
    (connects : Game.connect sqlite data = .ok game) (capacity : Nat)
    (fits : game.data.keys.length ≤ capacity) : Intact (connected game capacity fits) :=
  ⟨(connected_stored connects capacity fits).1, (connected_stored connects capacity fits).2⟩

/-- **A call that reads nothing that is lost is that of the game itself**, and any other has no
result. -/
theorem callStep_eq (stored : Stored s) (call : Call) :
    callStep layout sqlite (some s) call =
      if CallDefined layout sqlite s call then
        (some (step sqlite layout.growth s call).1, (s.game.call sqlite call).exception.toList)
      else (none, []) := by
  cases call with
  | remove servers => rfl
  | subscribers fieldLists => rfl
  | add server =>
      rw [callStep, StoredGame.call, addOrUpdateServer_eq stored]
      by_cases defined : s.Defined layout sqlite server
      · rw [if_pos defined, if_pos (show CallDefined layout sqlite s (.add server) from defined)]
        rfl
      · rw [if_neg defined, if_neg (show ¬ CallDefined layout sqlite s (.add server) from defined)]

/-- A call with a result loses no entry. -/
theorem Intact.step (intact : Intact s) {call : Call} (defined : CallDefined layout sqlite s call) :
    Intact (step sqlite layout.growth s call).1 := by
  refine ⟨step_stored intact.stored call, ?_⟩
  have room : HasRoom sqlite layout.growth s call := by
    cases call with
    | add server => exact defined.room
    | remove servers => trivial
    | subscribers fieldLists => trivial
  have valid := (step_valid_iff intact.stored intact.tight.valid call).mpr room
  exact (step_stored intact.stored call).tight valid

end StoredGame

end GamespyEmulator
