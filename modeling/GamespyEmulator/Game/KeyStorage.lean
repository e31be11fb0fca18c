import GamespyEmulator.Browser.KeyList
import GamespyEmulator.Game.BF2
import GamespyEmulator.Game.KeyLimit

/-!
`m_Params` as it is stored: each entry is a view into a key of `m_Data.keys` and a pointer
to it. `AddOrUpdateServer` appends keys to that vector, and a vector that is full moves.
`key_registry_iff` says in which runs every entry stays valid; as long as it does, a lookup
finds what the map of `Game` holds (`lookup_game`).
-/

namespace GamespyEmulator

open Wire Storage

/-- An entry of `m_Params`. -/
structure Param where
  view : Ref
  key : Ref
deriving DecidableEq

/-- `m_Data.keys` and `m_Params`, the entries in the order of their insertion. -/
structure KeyStorage where
  keys : Growable GameKey
  params : List Param

namespace KeyStorage

/-- The entry for the key at a place. -/
def param (storage : KeyStorage) (place : Nat) : Param :=
  ⟨storage.keys.ref place, storage.keys.ref place⟩

/-- The entry's view is that of a key called `name`. -/
def Named (storage : KeyStorage) (name : Bytes) (param : Param) : Bool :=
  (storage.keys.deref param.view).any (·.name == name)

/-- `m_Params.find`. A view into a block that was left behind equals no name here. -/
def find (storage : KeyStorage) (name : Bytes) : Option Param :=
  storage.params.find? (storage.Named name)

/-- `m_Params.emplace(key.name, &key)` for the key at a place. -/
def emplace (storage : KeyStorage) (place : Nat) : KeyStorage :=
  match storage.keys.elements[place]? with
  | none => storage
  | some key =>
      if (storage.find key.name).isSome then storage
      else { storage with params := storage.params ++ [storage.param place] }

/-- The loop of `Connect` over the configured keys. -/
def connect (keys : Growable GameKey) : KeyStorage :=
  (List.range keys.elements.length).foldl emplace ⟨keys, []⟩

/-- `m_Data.keys.emplace_back(std::string(column))` and its entry. -/
def register (growth : Growth) (storage : KeyStorage) (name : Bytes) : KeyStorage :=
  let keys := storage.keys.push growth (Game.addedKey name)
  emplace { storage with keys := keys } (keys.elements.length - 1)

/-- `GetParamSendType`; `none` when the entry's pointer finds no key. -/
def getParamSendType (storage : KeyStorage) (keyName : Bytes) : Option Send :=
  match storage.find keyName with
  | none => some .asString
  | some param => (storage.keys.deref param.key).map (·.send)

/-- `GetParamStoreType`. -/
def getParamStoreType (storage : KeyStorage) (keyName : Bytes) : Option Store :=
  match storage.find keyName with
  | none => some .asText
  | some param => (storage.keys.deref param.key).map (·.store)

/-- Every entry refers to a key, and every key is found under its name. -/
structure Valid (storage : KeyStorage) : Prop where
  entries : ∀ param ∈ storage.params, ∃ key, storage.keys.deref param.view = some key ∧
    storage.keys.deref param.key = some key
  lookups : ∀ key ∈ storage.keys.elements,
    storage.getParamSendType key.name = some key.send ∧
      storage.getParamStoreType key.name = some key.store

/-! ### Entries for the first keys -/

def names (storage : KeyStorage) : List Bytes := storage.keys.elements.map (·.name)

/-- The entries are those of the first `n` keys. -/
structure Listed (storage : KeyStorage) (n : Nat) : Prop where
  params : storage.params = (List.range n).map storage.param
  distinct : storage.names.Nodup
  inside : n ≤ storage.keys.elements.length

section Listed

variable {storage : KeyStorage} {n : Nat} {name : Bytes}

theorem names_getElem? (storage : KeyStorage) (place : Nat) :
    storage.names[place]? = storage.keys.elements[place]?.map (·.name) :=
  List.getElem?_map ..

theorem named_param (storage : KeyStorage) (name : Bytes) (place : Nat) :
    storage.Named name (storage.param place) ↔ storage.names[place]? = some name := by
  rw [Named, param, Growable.deref_ref, names_getElem?]
  cases storage.keys.elements[place]? with
  | none => simp
  | some key => simp

theorem Listed.find_some (listed : storage.Listed n) {param : Param}
    (found : storage.find name = some param) :
    ∃ place < n, param = storage.param place ∧ storage.names[place]? = some name := by
  have mem := List.mem_of_find?_eq_some found
  rw [listed.params] at mem
  obtain ⟨place, below, rfl⟩ := List.mem_map.mp mem
  exact ⟨place, List.mem_range.mp below, rfl,
    (named_param storage name place).mp (List.find?_some found)⟩

theorem Listed.find_none (listed : storage.Listed n) :
    storage.find name = none ↔ ∀ place < n, storage.names[place]? ≠ some name := by
  rw [find, List.find?_eq_none, listed.params]
  simp only [List.mem_map, List.mem_range, forall_exists_index, and_imp, forall_apply_eq_imp_iff₂,
    named_param, ne_eq]

/-- The key behind the listed ones gets its entry. -/
theorem Listed.emplace (listed : storage.Listed n) (more : n < storage.keys.elements.length) :
    (storage.emplace n).Listed (n + 1) := by
  have key := List.getElem?_eq_getElem more
  have unseen : storage.find (storage.keys.elements[n]).name = none := by
    rw [listed.find_none]
    intro place below same
    have here : storage.names[n]? = some (storage.keys.elements[n]).name := by
      rw [names_getElem?, key, Option.map_some]
    have inside : place < storage.names.length := by
      rw [KeyStorage.names, List.length_map]
      exact below.trans more
    exact below.ne ((List.getElem?_inj inside listed.distinct).mp (same.trans here.symm))
  unfold KeyStorage.emplace
  rw [key]
  dsimp only
  rw [unseen, if_neg (by simp)]
  refine ⟨?_, listed.distinct, more⟩
  rw [List.range_succ, List.map_append]
  exact congrArg (· ++ [storage.param n]) listed.params

end Listed

/-! ### All keys -/

/-- Every key has its entry. -/
def Tight (storage : KeyStorage) : Prop := storage.Listed storage.keys.elements.length

/-- An entry refers to a block that was left behind. -/
def Dangling (storage : KeyStorage) : Prop :=
  ∃ param ∈ storage.params, param.key.block < storage.keys.block

section Tight

variable {storage : KeyStorage}

theorem Tight.find (tight : storage.Tight) {key : GameKey} (mem : key ∈ storage.keys.elements) :
    ∃ param, storage.find key.name = some param ∧ storage.keys.deref param.key = some key := by
  obtain ⟨place, inside, rfl⟩ := List.mem_iff_getElem.mp mem
  have here : storage.names[place]? = some (storage.keys.elements[place]).name := by
    rw [names_getElem?, List.getElem?_eq_getElem inside, Option.map_some]
  cases found : storage.find (storage.keys.elements[place]).name with
  | none => exact absurd here (Listed.find_none tight |>.mp found place inside)
  | some param =>
      obtain ⟨other, below, rfl, there⟩ := Listed.find_some tight found
      have within : other < storage.names.length := by rwa [names, List.length_map]
      have same := (List.getElem?_inj within tight.distinct).mp (there.trans here.symm)
      refine ⟨_, rfl, ?_⟩
      rw [same, param, Growable.deref_ref, List.getElem?_eq_getElem inside]

theorem Tight.valid (tight : storage.Tight) : storage.Valid := by
  constructor
  · intro param mem
    rw [tight.params] at mem
    obtain ⟨place, below, rfl⟩ := List.mem_map.mp mem
    have key := List.getElem?_eq_getElem (List.mem_range.mp below)
    exact ⟨_, by rw [KeyStorage.param, Growable.deref_ref, key],
      by rw [KeyStorage.param, Growable.deref_ref, key]⟩
  · intro key mem
    obtain ⟨param, found, refers⟩ := tight.find mem
    rw [getParamSendType, getParamStoreType, found]
    dsimp only
    rw [refers]
    exact ⟨rfl, rfl⟩

theorem Dangling.invalid (dangling : storage.Dangling) : ¬ storage.Valid := by
  intro valid
  obtain ⟨param, mem, older⟩ := dangling
  obtain ⟨key, -, refers⟩ := valid.entries param mem
  rw [Growable.deref_older older] at refers
  cases refers

end Tight

/-! ### One more key -/

section Register

variable {growth : Growth} {storage : KeyStorage} {name : Bytes}

theorem emplace_keys (storage : KeyStorage) (place : Nat) :
    (storage.emplace place).keys = storage.keys := by
  unfold emplace
  split
  · rfl
  · split <;> rfl

theorem emplace_params (storage : KeyStorage) (place : Nat) :
    storage.params ⊆ (storage.emplace place).params := by
  unfold emplace
  split
  · exact List.Subset.refl _
  · split
    · exact List.Subset.refl _
    · exact List.subset_append_left _ _

theorem register_elements (growth : Growth) (storage : KeyStorage) (name : Bytes) :
    (storage.register growth name).keys.elements =
      storage.keys.elements ++ [Game.addedKey name] := by
  rw [register, emplace_keys, Growable.push_elements]

theorem Dangling.register (dangling : storage.Dangling) :
    (storage.register growth name).Dangling := by
  obtain ⟨param, mem, older⟩ := dangling
  refine ⟨param, emplace_params _ _ mem, ?_⟩
  rw [KeyStorage.register, emplace_keys]
  exact older.trans_le (Growable.push_block_le growth storage.keys _)

/-- A full block with keys leaves their entries behind. -/
theorem Tight.register_full (tight : storage.Tight) (some' : storage.keys.elements ≠ [])
    (full : ¬ storage.keys.elements.length < storage.keys.capacity) :
    (storage.register growth name).Dangling := by
  have first : storage.param 0 ∈ storage.params := by
    rw [tight.params]
    exact List.mem_map_of_mem (List.mem_range.mpr (List.length_pos_iff.mpr some'))
  refine ⟨storage.param 0, emplace_params _ _ first, ?_⟩
  rw [KeyStorage.register, emplace_keys, (Growable.push_full full).1]
  exact Nat.lt_succ_self _

/-- A key with a new name that fits gets its entry. -/
theorem Tight.register_room (tight : storage.Tight) (new : name ∉ storage.names)
    (room : storage.keys.elements.length < storage.keys.room growth) :
    (storage.register growth name).Tight := by
  have pushed := Growable.push_elements growth storage.keys (Game.addedKey name)
  have length : (storage.keys.push growth (Game.addedKey name)).elements.length =
      storage.keys.elements.length + 1 := by
    rw [pushed, List.length_append, List.length_singleton]
  have listed : Listed { storage with keys := storage.keys.push growth (Game.addedKey name) }
      storage.keys.elements.length := by
    refine ⟨?_, ?_, ?_⟩
    · rw [tight.params]
      by_cases fits : storage.keys.elements.length < storage.keys.capacity
      · apply List.map_congr_left
        intro place _
        rw [param, param, (Growable.push_room fits).1]
      · have empty : storage.keys.elements.length = 0 := by
          have within := storage.keys.fits
          unfold Growable.room at room
          split at room
          · omega
          · omega
        rw [empty]
        rfl
    · rw [names, pushed, List.map_append]
      refine List.nodup_append.mpr ⟨tight.distinct, List.nodup_singleton _, ?_⟩
      intro old mem other added same
      have called : other = name := List.mem_singleton.mp added
      exact new (called ▸ same ▸ mem)
    · rw [length]
      exact Nat.le_succ _
  have emplaced := listed.emplace (by rw [length]; exact Nat.lt_succ_self _)
  rw [Tight, register_elements, List.length_append, List.length_singleton]
  rw [KeyStorage.register, length, Nat.add_sub_cancel]
  exact emplaced

end Register

/-! ### The keys of a call, and of `Connect` -/

/-- The loop of `AddOrUpdateServer` over the new columns. -/
def registerAll (growth : Growth) (storage : KeyStorage) (columns : List Bytes) : KeyStorage :=
  columns.foldl (register growth) storage

section RegisterAll

variable {growth : Growth} {storage : KeyStorage} {columns : List Bytes}

theorem registerAll_elements : (storage.registerAll growth columns).keys.elements =
    storage.keys.elements ++ columns.map Game.addedKey := by
  induction columns generalizing storage with
  | nil => exact (List.append_nil _).symm
  | cons name rest ih =>
      have later := @ih (storage.register growth name)
      rw [registerAll] at later ⊢
      rw [List.foldl_cons, later, register_elements, List.append_assoc]
      rfl

theorem Dangling.registerAll (dangling : storage.Dangling) :
    (storage.registerAll growth columns).Dangling := by
  induction columns generalizing storage with
  | nil => exact dangling
  | cons name rest ih => exact ih dangling.register

/-- **Keys with new names keep all entries when they fit, and lose some when they do not.** -/
theorem Tight.registerAll (tight : storage.Tight) (distinct : columns.Nodup)
    (new : ∀ name ∈ columns, name ∉ storage.names) :
    (storage.keys.elements.length + columns.length ≤ storage.keys.room growth ∧
      (storage.registerAll growth columns).Tight) ∨
    (storage.keys.room growth < storage.keys.elements.length + columns.length ∧
      (storage.registerAll growth columns).Dangling) := by
  induction columns generalizing storage with
  | nil =>
      exact .inl ⟨Growable.length_le_room, tight⟩
  | cons name rest ih =>
      obtain ⟨apart, distinct⟩ := List.nodup_cons.mp distinct
      obtain ⟨unused, new⟩ := List.forall_mem_cons.mp new
      by_cases room : storage.keys.elements.length < storage.keys.room growth
      · have next := tight.register_room unused room
        have elements := register_elements growth storage name
        have later := ih next distinct fun other mem taken => by
          rw [names, elements, List.map_append] at taken
          rcases List.mem_append.mp taken with old | added
          · exact new other mem old
          · have called : other = name := List.mem_singleton.mp added
            exact apart (called ▸ mem)
        have same : (storage.register growth name).keys.room growth = storage.keys.room growth := by
          rw [register, emplace_keys]
          exact Growable.push_room_same room
        rw [elements, List.length_append, List.length_singleton, same] at later
        rw [List.length_cons, ← Nat.add_assoc, Nat.add_right_comm]
        exact later
      · have grows := growth.grows 0
        have within := storage.keys.fits
        have full : ¬ storage.keys.elements.length < storage.keys.capacity ∧
            storage.keys.elements ≠ [] := by
          rw [← List.length_pos_iff]
          unfold Growable.room at room
          split at room
          · omega
          · omega
        refine .inr ⟨?_, (tight.register_full full.2 full.1).registerAll⟩
        rw [List.length_cons]
        omega

end RegisterAll

theorem emplaces_keys (storage : KeyStorage) (places : List Nat) :
    (places.foldl emplace storage).keys = storage.keys := by
  induction places generalizing storage with
  | nil => rfl
  | cons place rest ih => rw [List.foldl_cons, ih, emplace_keys]

/-- `Connect` gives each key its entry, if their names are distinct. -/
theorem connect_tight {keys : Growable GameKey}
    (distinct : (keys.elements.map (·.name)).Nodup) : (connect keys).Tight := by
  have turns : ∀ n ≤ keys.elements.length,
      ((List.range n).foldl emplace ⟨keys, []⟩).Listed n := by
    intro n
    induction n with
    | zero => exact fun _ => ⟨rfl, distinct, Nat.zero_le _⟩
    | succ n ih =>
        intro below
        rw [List.range_succ, List.foldl_append, List.foldl_cons, List.foldl_nil]
        refine (ih (Nat.le_of_succ_le below)).emplace ?_
        rw [emplaces_keys]
        exact below
  have listed := turns keys.elements.length le_rfl
  rwa [Tight, connect, emplaces_keys]

end KeyStorage

/-! ### Keys and their map -/

namespace Game

/-- The map holds the registered keys under their names, which are distinct. -/
structure KeysAgree (game : Game) : Prop where
  known : ∀ (name : Bytes) (key : GameKey),
    game.params[name]? = some key ↔ key ∈ game.data.keys ∧ key.name = name
  distinct : (game.data.keys.map (·.name)).Nodup

theorem connectKeys_distinct {sqlite : Sqlite} {game game' : Game} {keys : List GameKey}
    (connected : connectKeys sqlite game keys = .ok game') :
    (keys.map (·.name)).Nodup ∧ ∀ key ∈ keys, key.name ∉ game.columnNames := by
  induction keys generalizing game with
  | nil => exact ⟨List.nodup_nil, fun _ mem => absurd mem List.not_mem_nil⟩
  | cons key rest ih =>
      unfold connectKeys at connected
      split at connected
      · split at connected
        · cases connected
        · rename_i next registered
          obtain ⟨distinct, apart⟩ := ih connected
          have added := (register_inv registered).1
          have columns : next.columnNames = game.columnNames ++ [key.name] := by
            rw [columnNames, Sqlite.addColumn_columns added, List.map_append]
            rfl
          have refused := (@addColumn_eq_none sqlite game.table key.column).not.mp (by simp [added])
          rw [columns] at apart
          refine ⟨List.nodup_cons.mpr ⟨fun mem => ?_, distinct⟩, List.forall_mem_cons.mpr ⟨?_, ?_⟩⟩
          · obtain ⟨other, held, same⟩ := List.mem_map.mp mem
            exact apart other held (List.mem_append_right _ (List.mem_singleton.mpr same))
          · intro there
            obtain ⟨column, inside, same⟩ := List.mem_map.mp there
            have differs := (not_not.mp refused).2 column inside
            rw [same] at differs
            simp [sameColumn, GameKey.column] at differs
          · exact fun other held there => apart other held (List.mem_append_left _ there)
      · cases connected

theorem connect_keysAgree {sqlite : Sqlite} {data : GameData} {game : Game}
    (connected : connect sqlite data = .ok game) : KeysAgree game := by
  have keys := connectKeys_of_connect connected
  have distinct := (connectKeys_distinct keys).1
  have params : game.params =
      OrdMap.emplaceAll (data.keys.map fun key => (key.name, key)) ∅ := by
    rw [BF2.connectKeys_params keys, OrdMap.emplaceAll, List.foldl_map]
    rfl
  constructor
  · intro name key
    rw [params, OrdMap.emplaceAll_getElem?, connect_data connected]
    · simp [and_comm]
    · rwa [List.map_map]
    · simp
  · rwa [connect_data connected]

theorem columnsToAdd_nodup (game : Game) (server : ServerData) :
    (game.columnsToAdd server).Nodup := by
  unfold columnsToAdd
  split
  · exact (OrdMap.toList_keys_nodup server.data).filter _
  · exact List.nodup_nil

/-- A name that the map does not hold is no key's. -/
theorem KeysAgree.unnamed {game : Game} (agree : KeysAgree game) {name : Bytes}
    (unknown : name ∉ game.params) : name ∉ game.data.keys.map (·.name) := by
  intro there
  obtain ⟨key, held, named⟩ := List.mem_map.mp there
  exact unknown (OrdMap.mem_iff.mpr ⟨key, (agree.known name key).mpr ⟨held, named⟩⟩)

theorem KeysAgree.congr {game game' : Game} (agree : KeysAgree game)
    (params : game'.params = game.params) (keys : game'.data.keys = game.data.keys) :
    KeysAgree game' where
  known := by rw [params, keys]; exact agree.known
  distinct := by rw [keys]; exact agree.distinct

/-- New names join the keys and the map. -/
theorem KeysAgree.added {game game' : Game} (agree : KeysAgree game) {names : List Bytes}
    (nodup : names.Nodup) (unknown : ∀ name ∈ names, name ∉ game.params)
    (params : game'.params =
      OrdMap.emplaceAll (names.map fun name => (name, addedKey name)) game.params)
    (keys : game'.data.keys = game.data.keys ++ names.map addedKey) : KeysAgree game' := by
  have pairs : ((names.map fun name => (name, addedKey name)).map Prod.fst).Nodup := by
    rw [List.map_map]
    exact (List.map_id _).symm ▸ nodup
  have fresh : ∀ entry ∈ names.map fun name => (name, addedKey name), entry.1 ∉ game.params := by
    intro entry mem
    obtain ⟨new, listed, rfl⟩ := List.mem_map.mp mem
    exact unknown new listed
  constructor
  · intro name key
    rw [params, OrdMap.emplaceAll_getElem? pairs fresh, agree.known, keys]
    simp only [List.mem_map, List.mem_append, Prod.mk.injEq]
    constructor
    · rintro (⟨new, mem, rfl, rfl⟩ | ⟨held, named⟩)
      · exact ⟨.inr ⟨new, mem, rfl⟩, rfl⟩
      · exact ⟨.inl held, named⟩
    · rintro ⟨held | ⟨new, mem, rfl⟩, named⟩
      · exact .inr ⟨held, named⟩
      · exact .inl ⟨new, mem, named, rfl⟩
  · rw [keys, List.map_append, List.map_map]
    refine List.nodup_append.mpr ⟨agree.distinct, (List.map_id _).symm ▸ nodup, ?_⟩
    intro old there _ listed eq
    obtain ⟨new, mem, rfl⟩ := List.mem_map.mp listed
    have called : new = old := eq.symm
    exact agree.unnamed (unknown new mem) (called ▸ there)

theorem addOrUpdateServer_keysAgree (sqlite : Sqlite) {game : Game} (agree : KeysAgree game)
    (server : ServerData) : KeysAgree (game.addOrUpdateServer sqlite server).game := by
  have keys := addOrUpdateServer_keys sqlite game server
  rcases addOrUpdateServer_cases sqlite game server with
    ⟨-, same, -⟩ | ⟨-, unfit, same, -⟩ | ⟨checked, fits, same, -⟩
  · rwa [same]
  · rw [if_neg fun registers => unfit registers.2] at keys
    refine agree.congr ?_ keys
    rw [same, addColumns_params_failed unfit]
  · rw [if_pos ⟨checked, fits⟩] at keys
    refine agree.added (columnsToAdd_nodup game server) ?_ ?_ keys
    · exact fun name mem => unknown_of_columnsToAdd mem
    · rw [same, ← addColumns_params fits]
      rfl

theorem call_keysAgree (sqlite : Sqlite) {game : Game} (agree : KeysAgree game) (call : Call) :
    KeysAgree (game.call sqlite call).game := by
  cases call with
  | add server => exact addOrUpdateServer_keysAgree sqlite agree server
  | remove servers =>
      obtain ⟨params, -, data⟩ := removeServers_keeps game servers
      exact agree.congr params (congrArg GameData.keys data)
  | subscribers fieldLists => exact agree.congr rfl rfl

end Game

/-! ### Runs -/

/-- A connected game with its keys as they are stored. -/
structure StoredGame where
  game : Game
  storage : KeyStorage

namespace StoredGame

/-- A game behind `Connect`, with its keys in a block that has room for `capacity` keys. -/
def connected (game : Game) (capacity : Nat) (fits : game.data.keys.length ≤ capacity) :
    StoredGame where
  game := game
  storage := .connect ⟨0, capacity, game.data.keys, fits⟩

/-- A call, with the messages it queues. What the code does with an entry that is not valid
any more is undefined; the game goes on here. -/
def step (sqlite : Sqlite) (growth : Growth) (s : StoredGame) (call : Call) :
    StoredGame × List Bytes :=
  let out := s.game.call sqlite call
  let storage := match call with
    | .add server =>
        if s.game.Registers sqlite server then
          s.storage.registerAll growth (s.game.columnsToAdd server)
        else s.storage
    | .remove _ => s.storage
    | .subscribers _ => s.storage
  (⟨out.game, storage⟩, out.queued)

/-- New keys that are registered have room behind the others. -/
def HasRoom (sqlite : Sqlite) (growth : Growth) (s : StoredGame) : Call → Prop
  | .add server => s.game.Registers sqlite server →
      s.storage.keys.elements.length + (s.game.columnsToAdd server).length ≤
        s.storage.keys.room growth
  | .remove _ => True
  | .subscribers _ => True

instance (sqlite : Sqlite) (growth : Growth) (s : StoredGame) (call : Call) :
    Decidable (HasRoom sqlite growth s call) :=
  match call with
  | .add server => inferInstanceAs (Decidable (s.game.Registers sqlite server → _))
  | .remove _ => inferInstanceAs (Decidable True)
  | .subscribers _ => inferInstanceAs (Decidable True)

/-- The stored keys are those of the game, and their entries are all there or some of them
are lost. -/
structure Stored (s : StoredGame) : Prop where
  keys : s.storage.keys.elements = s.game.data.keys
  agree : s.game.KeysAgree
  entries : s.storage.Tight ∨ s.storage.Dangling

theorem Stored.tight {s : StoredGame} (stored : Stored s) (valid : s.storage.Valid) :
    s.storage.Tight := by
  rcases stored.entries with tight | dangling
  · exact tight
  · exact absurd valid dangling.invalid

/-- **As long as the entries are valid, a search finds what the map of the game holds.** -/
theorem find_game {s : StoredGame} (stored : Stored s) (valid : s.storage.Valid) (name : Bytes) :
    (s.storage.find name).map (fun param => s.storage.keys.deref param.key) =
      s.game.params[name]?.map some := by
  have tight := stored.tight valid
  cases held : s.game.params[name]? with
  | some key =>
      obtain ⟨mem, rfl⟩ := (stored.agree.known name key).mp held
      obtain ⟨param, found, refers⟩ := tight.find (stored.keys ▸ mem)
      rw [found, Option.map_some, refers, Option.map_some]
  | none =>
      have unknown : s.storage.find name = none := by
        rw [tight.find_none]
        intro place below there
        rw [KeyStorage.names_getElem?, List.getElem?_eq_getElem below, Option.map_some] at there
        have key := (stored.agree.known name s.storage.keys.elements[place]).mpr
          ⟨by rw [← stored.keys]; exact List.getElem_mem below, Option.some.inj there⟩
        rw [held] at key
        cases key
      rw [unknown]
      rfl

theorem find_isSome {s : StoredGame} (stored : Stored s) (valid : s.storage.Valid) (name : Bytes) :
    (s.storage.find name).isSome ↔ name ∈ s.game.params := by
  have found := congrArg Option.isSome (find_game stored valid name)
  rw [Option.isSome_map, Option.isSome_map] at found
  rw [found, OrdMap.mem_iff, Option.isSome_iff_exists]

/-- So do the lookups of a key's types. -/
theorem lookup_game {s : StoredGame} (stored : Stored s) (valid : s.storage.Valid)
    (name : Bytes) : s.storage.getParamSendType name = some (s.game.getParamSendType name) ∧
      s.storage.getParamStoreType name =
        some ((s.game.params[name]?.map (·.store)).getD .asText) := by
  have same := find_game stored valid name
  rw [KeyStorage.getParamSendType, KeyStorage.getParamStoreType, Game.getParamSendType]
  cases found : s.storage.find name with
  | none =>
      rw [found] at same
      have absent := Option.map_eq_none_iff.mp same.symm
      rw [absent]
      exact ⟨rfl, rfl⟩
  | some param =>
      rw [found] at same
      obtain ⟨key, held, refers⟩ := Option.map_eq_some_iff.mp same.symm
      have refers : s.storage.keys.deref param.key = some key := refers.symm
      dsimp only
      rw [refers, held]
      exact ⟨rfl, rfl⟩

theorem connected_stored {sqlite : Sqlite} {data : GameData} {game : Game}
    (connects : Game.connect sqlite data = .ok game) (capacity : Nat)
    (fits : game.data.keys.length ≤ capacity) :
    Stored (connected game capacity fits) ∧ (connected game capacity fits).storage.Tight := by
  have agree := Game.connect_keysAgree connects
  have tight : (connected game capacity fits).storage.Tight :=
    KeyStorage.connect_tight agree.distinct
  have keys := KeyStorage.emplaces_keys ⟨⟨0, capacity, game.data.keys, fits⟩, []⟩
    (List.range game.data.keys.length)
  exact ⟨⟨congrArg (·.elements) keys, agree, .inl tight⟩, tight⟩

section Step

variable {sqlite : Sqlite} {growth : Growth} {s : StoredGame} (stored : Stored s)
include stored

theorem register_cases {server : ServerData} (tight : s.storage.Tight) :
    (s.storage.keys.elements.length + (s.game.columnsToAdd server).length ≤
        s.storage.keys.room growth ∧
      (s.storage.registerAll growth (s.game.columnsToAdd server)).Tight) ∨
    (s.storage.keys.room growth <
        s.storage.keys.elements.length + (s.game.columnsToAdd server).length ∧
      (s.storage.registerAll growth (s.game.columnsToAdd server)).Dangling) := by
  refine tight.registerAll (Game.columnsToAdd_nodup s.game server) fun name mem => ?_
  rw [KeyStorage.names, stored.keys]
  exact stored.agree.unnamed (Game.unknown_of_columnsToAdd mem)

theorem step_stored (call : Call) : Stored (step sqlite growth s call).1 := by
  have agree := Game.call_keysAgree sqlite stored.agree call
  cases call with
  | remove servers =>
      have data := (Game.removeServers_keeps s.game servers).2.2
      exact ⟨stored.keys.trans (congrArg GameData.keys data).symm, agree, stored.entries⟩
  | subscribers fieldLists => exact ⟨stored.keys, agree, stored.entries⟩
  | add server =>
      have keys := Game.addOrUpdateServer_keys sqlite s.game server
      by_cases registers : s.game.Registers sqlite server
      · have storage : (step sqlite growth s (.add server)).1.storage =
            s.storage.registerAll growth (s.game.columnsToAdd server) := if_pos registers
        rw [if_pos registers] at keys
        refine ⟨?_, agree, ?_⟩
        · rw [storage, KeyStorage.registerAll_elements, stored.keys]
          exact keys.symm
        · rw [storage]
          rcases stored.entries with tight | dangling
          · exact (register_cases stored tight).imp And.right And.right
          · exact .inr dangling.registerAll
      · have storage : (step sqlite growth s (.add server)).1.storage = s.storage :=
          if_neg registers
        rw [if_neg registers] at keys
        refine ⟨?_, agree, ?_⟩
        · rw [storage, stored.keys]
          exact keys.symm
        · rw [storage]
          exact stored.entries

theorem calls_stored (calls : List Call) : Stored (Run.final (step sqlite growth) s calls) :=
  @Run.stable _ _ _ (step sqlite growth) calls Stored s stored fun _ call stored =>
    step_stored stored call

theorem step_valid_iff (valid : s.storage.Valid) (call : Call) :
    (step sqlite growth s call).1.storage.Valid ↔ HasRoom sqlite growth s call := by
  have tight := stored.tight valid
  cases call with
  | remove servers => exact iff_of_true valid trivial
  | subscribers fieldLists => exact iff_of_true valid trivial
  | add server =>
      rw [step, HasRoom]
      dsimp only
      by_cases registers : s.game.Registers sqlite server
      · rw [if_pos registers]
        rcases register_cases stored tight with ⟨fits, after⟩ | ⟨tooMany, dangling⟩
        · exact iff_of_true after.valid fun _ => fits
        · exact iff_of_false dangling.invalid fun fits => tooMany.not_ge (fits registers)
      · rw [if_neg registers]
        exact iff_of_true valid fun registered => absurd registered registers

end Step

/-- **Every entry of `m_Params` stays valid all along a run exactly when every call that
registers keys finds room for them in the block of the vector.** -/
theorem key_registry_iff {sqlite : Sqlite} {data : GameData} {game : Game}
    (connects : Game.connect sqlite data = .ok game) (growth : Growth) (capacity : Nat)
    (fits : game.data.keys.length ≤ capacity) (calls : List Call) :
    (∀ front, front <+: calls →
        (Run.final (step sqlite growth) (connected game capacity fits) front).storage.Valid) ↔
      Run.StepsMeet (step sqlite growth) (HasRoom sqlite growth) (connected game capacity fits)
        calls := by
  obtain ⟨stored, tight⟩ := connected_stored connects capacity fits
  refine @Run.always_iff _ _ _ (step sqlite growth) (HasRoom sqlite growth) (fun _ _ => True)
    (fun _ s => Stored s) (fun _ s => s.storage.Valid) (connected game capacity fits) stored
    tight.valid ?_ ?_ calls (Run.stepsMeet_true calls)
  · exact fun _ call stored _ => step_stored stored call
  · exact fun _ call stored valid _ => step_valid_iff stored valid call

end StoredGame

namespace StoreSample

/-- Room for two keys, of which `hostname` takes one. -/
theorem key_registry_second :
    (Run.final (StoredGame.step sqlite doubling) (.connected game 2 (by decide))
      [.add (server ["alpha"])]).storage.Valid :=
  (StoredGame.key_registry_iff connected doubling 2 (by decide) [.add (server ["alpha"])]).mpr
    (by decide) _ (List.prefix_refl _)

/-- A vector of exactly one key, and one more key. -/
theorem key_registry_fails_full :
    ¬ ∀ (sqlite : Sqlite) (data : GameData) (game : Game), data.missingKeyPolicy = .addAsString →
      Game.connect sqlite data = .ok game → ∀ (growth : Growth) (capacity : Nat)
        (fits : game.data.keys.length ≤ capacity) (servers : List ServerData),
        (Run.final (StoredGame.step sqlite growth) (.connected game capacity fits)
          (servers.map .add)).storage.Valid := by
  intro claimed
  have valid := claimed sqlite data game rfl connected doubling 1 (by decide) [server ["alpha"]]
  have lost : ∃ param ∈ (Run.final (StoredGame.step sqlite doubling)
      (.connected game 1 (by decide)) ([server ["alpha"]].map .add)).storage.params,
      (Run.final (StoredGame.step sqlite doubling) (.connected game 1 (by decide))
        ([server ["alpha"]].map .add)).storage.keys.deref param.key = none := by decide
  obtain ⟨param, mem, gone⟩ := lost
  obtain ⟨key, -, refers⟩ := valid.entries param mem
  rw [gone] at refers
  cases refers

end StoreSample

end GamespyEmulator
