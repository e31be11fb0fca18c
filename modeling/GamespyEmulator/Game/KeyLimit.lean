import GamespyEmulator.Game.Schema

/-!
The limit on registered keys over the life of a game object. The constructor checks it,
`AddOrUpdateServer` registers further keys without a check. `key_limit_iff` says in which
runs the limit is kept; `keyRun_keys` that a run adds a key with every server, as long as the
table takes another column.
-/

namespace GamespyEmulator

open Wire Fallible

/-! ### Game objects -/

/-- A game object, in front of a successful `Connect` and behind it. -/
inductive GameObject where
  | constructed (data : GameData)
  | connected (game : Game)

inductive ObjectCall where
  | connect
  | getServers (query : Bytes) (fields : List Bytes) (limit skip : Nat)
  | call (call : Call)

namespace GameObject

def keys : GameObject → List GameKey
  | .constructed data => data.keys
  | .connected game => game.data.keys

/-- The constructor. -/
def construct (data : GameData) : Except GameError GameObject :=
  if data.keys.length > maxRegisteredKeys then .error .tooManyKeys
  else if data.secretKey.isEmpty then .error .emptySecretKey
  else .ok (.constructed data)

/-- One call, and the messages it queues for browsers. Without its table every statement
fails, and a second `Connect` fails because the table exists. -/
def step (sqlite : Sqlite) : GameObject → ObjectCall → GameObject × List Bytes
  | obj, .getServers _ _ _ _ => (obj, [])
  | .constructed data, .connect =>
      match Game.connect sqlite data with
      | .ok game => (.connected game, [])
      | .error _ => (.constructed data, [])
  | .connected game, .connect => (.connected game, [])
  | .constructed data, .call _ => (.constructed data, [])
  | .connected game, .call call =>
      (.connected (game.call sqlite call).game, (game.call sqlite call).queued)

end GameObject

/-! ### The keys behind a call -/

namespace Game

/-- The call gets to the registration of new keys: the server is taken, every new name is
valid, and SQLite accepts the columns. -/
def Registers (sqlite : Sqlite) (game : Game) (server : ServerData) : Prop :=
  game.Checked server ∧ NewColumns sqlite game.table.columns (game.columnsToAdd server)

instance (sqlite : Sqlite) (game : Game) (server : ServerData) :
    Decidable (game.Registers sqlite server) :=
  inferInstanceAs (Decidable (_ ∧ _))

theorem register_data {sqlite : Sqlite} {game game' : Game} {key : GameKey} {column : Column}
    {same : column.name = key.name} (registered : game.register sqlite key column same = some game') :
    game'.data = game.data := by
  unfold register at registered
  split at registered
  · cases registered
  · cases registered
    rfl

theorem connect_data {sqlite : Sqlite} {data : GameData} {game : Game}
    (connected : connect sqlite data = .ok game) : game.data = data := by
  refine @connect_invariant sqlite data game (fun game => game.data = data) ?_ rfl connected
  intro game game' key same _ registered
  rw [register_data registered, same]

theorem addColumns_keys (sqlite : Sqlite) (game : Game) (names : List Bytes) :
    (game.addColumns sqlite names).1.data.keys =
      if NewColumns sqlite game.table.columns names then game.data.keys ++ names.map addedKey
      else game.data.keys := by
  unfold addColumns
  dsimp only
  by_cases fits : NewColumns sqlite game.table.columns names
  · rw [dif_pos (execAddColumns_ok.mpr fits), if_pos fits]
  · rw [dif_neg (mt execAddColumns_ok.mp fits), if_neg fits]

/-- **The keys behind a call**: the new names are registered behind the others. -/
theorem addOrUpdateServer_keys (sqlite : Sqlite) (game : Game) (server : ServerData) :
    (game.addOrUpdateServer sqlite server).game.data.keys =
      if game.Registers sqlite server then
        game.data.keys ++ (game.columnsToAdd server).map addedKey
      else game.data.keys := by
  have keys := addColumns_keys sqlite game (game.columnsToAdd server)
  rcases addOrUpdateServer_cases sqlite game server with
    ⟨unchecked, same, -⟩ | ⟨-, unfit, same, -⟩ | ⟨checked, fits, same, -⟩
  · rw [same, if_neg fun registers => unchecked registers.1]
  · rw [same, keys, if_neg unfit, if_neg fun registers => unfit registers.2]
  · rw [if_pos ⟨checked, fits⟩, same]
    rw [if_pos fits] at keys
    exact keys

end Game

/-! ### The limit -/

namespace GameObject

/-- Keys that are registered leave the game within the limit. -/
def KeepsLimit (sqlite : Sqlite) : GameObject → ObjectCall → Prop
  | .connected game, .call (.add server) => game.Registers sqlite server →
      game.data.keys.length + (game.columnsToAdd server).length ≤ maxRegisteredKeys
  | _, _ => True

instance (sqlite : Sqlite) (obj : GameObject) (call : ObjectCall) :
    Decidable (KeepsLimit sqlite obj call) := by
  unfold KeepsLimit
  split <;> infer_instance

section Step

variable {sqlite : Sqlite}

theorem step_limit_iff {obj : GameObject} (limited : obj.keys.length ≤ maxRegisteredKeys)
    (call : ObjectCall) :
    (step sqlite obj call).1.keys.length ≤ maxRegisteredKeys ↔ KeepsLimit sqlite obj call := by
  cases call with
  | getServers query fields limit skip =>
      cases obj with
      | constructed data => exact iff_of_true limited trivial
      | connected game => exact iff_of_true limited trivial
  | connect =>
      cases obj with
      | constructed data =>
          refine iff_of_true ?_ trivial
          rw [step]
          cases connected : Game.connect sqlite data with
          | error e => exact limited
          | ok game =>
              have same : game.data.keys = data.keys := by rw [Game.connect_data connected]
              exact (congrArg List.length same).trans_le limited
      | connected game => exact iff_of_true limited trivial
  | call call =>
      cases obj with
      | constructed data => exact iff_of_true limited trivial
      | connected game =>
          cases call with
          | subscribers fieldLists => exact iff_of_true limited trivial
          | remove servers =>
              refine iff_of_true ?_ trivial
              rw [step, keys, Game.call, (Game.removeServers_keeps game servers).2.2]
              exact limited
          | add server =>
              rw [step, keys, Game.call, Game.addOrUpdateServer_keys, KeepsLimit]
              by_cases registers : game.Registers sqlite server
              · rw [if_pos registers, List.length_append, List.length_map]
                exact ⟨fun fits _ => fits, fun fits => fits registers⟩
              · rw [if_neg registers]
                exact iff_of_true limited fun registered => absurd registered registers

/-- **The limit is kept all along a run exactly when every call that registers new keys has
room for them.** -/
theorem key_limit_iff {data : GameData} {obj : GameObject} (constructed : construct data = .ok obj)
    (calls : List ObjectCall) :
    (∀ front, front <+: calls →
        (Run.final (step sqlite) obj front).keys.length ≤ maxRegisteredKeys) ↔
      Run.StepsMeet (step sqlite) (KeepsLimit sqlite) obj calls := by
  have limited : obj.keys.length ≤ maxRegisteredKeys := by
    unfold construct at constructed
    split at constructed
    · cases constructed
    · rename_i few
      split at constructed
      · cases constructed
      · cases constructed
        exact Nat.le_of_not_gt few
  refine @Run.always_iff _ _ _ (step sqlite) (KeepsLimit sqlite) (fun _ _ => True) (fun _ _ => True)
    (fun _ obj => obj.keys.length ≤ maxRegisteredKeys) obj trivial limited ?_ ?_ calls
    (Run.stepsMeet_true calls)
  · exact fun _ _ _ _ => trivial
  · exact fun _ call _ limited _ => step_limit_iff limited call

end Step

end GameObject

/-! ### A run beyond the limit -/

namespace KeySample

/-- The names `k0`, `k1`, and so on. -/
def name (i : Nat) : Bytes := 107 :: Numeral.decimal i

theorem digit_lower {c : UInt8} (digit : Numeral.isDigit c) : toLower c = c := by
  have bounds : 48 ≤ c ∧ c ≤ 57 := by simpa [Numeral.isDigit] using digit
  have below : ¬ (65 ≤ c ∧ c ≤ 90) := by
    rintro ⟨upper, -⟩
    have ordered := UInt8.le_trans upper bounds.2
    revert ordered
    decide
  exact if_neg below

theorem name_lower (i : Nat) : (name i).map toLower = name i := by
  have digits : (Numeral.decimal i).map toLower = (Numeral.decimal i).map id :=
    List.map_congr_left fun c mem => digit_lower (Numeral.decimal_all_digits i c mem)
  rw [name, List.map_cons, digits, List.map_id]
  rfl

theorem name_valid (i : Nat) : isValidParamName (name i) = true := by
  have digits : ((Numeral.decimal i).all fun c => isAlnum c || c == underscore) = true := by
    rw [List.all_eq_true]
    intro c mem
    simp [isAlnum, Numeral.decimal_all_digits i c mem]
  have front : (ascii "__").isPrefixOf (name i) = false := rfl
  simp only [name] at front ⊢
  simp only [isValidParamName, front, List.all_cons, digits]
  rfl

theorem name_apart {i j : Nat} (apart : i ≠ j) : sameColumn (name i) (name j) = false := by
  rw [sameColumn, name_lower, name_lower, beq_eq_false_iff_ne]
  intro same
  have digits : Numeral.decimal i = Numeral.decimal j := (List.cons.inj same).2
  apply apart
  rw [← Numeral.value_decimal i, digits, Numeral.value_decimal]

theorem name_free (i : Nat) : StoreSample.sqlite.reserved (name i) = false := by
  have heads : ∀ word ∈ StoreSample.keywords, word.head? ≠ some 107 := by decide
  rw [← Bool.not_eq_true]
  intro reserved
  have mem : (name i).map toLower ∈ StoreSample.keywords := by
    simpa [StoreSample.sqlite] using reserved
  rw [name_lower] at mem
  exact heads _ mem rfl

/-- A game without keys. -/
def data : GameData where
  name := ascii "gmtest"
  secretKey := ascii "HA6zkS"
  keys := []
  missingKeyPolicy := .addAsString

/-- A server whose only value is that of `k<i>`. -/
def server (i : Nat) : ServerData where
  publicIp := ascii "192.168.0.7"
  publicPort := 6500
  data := OrdMap.emplaceAll [(name i, ascii "x")] ∅

theorem server_toList (i : Nat) : (server i).data.toList = [(name i, ascii "x")] := by
  have nodup : (server i).data.toList.Nodup := .of_map Prod.fst (OrdMap.toList_keys_nodup _)
  have distinct : ([(name i, ascii "x")].map Prod.fst).Nodup := List.nodup_singleton _
  apply List.perm_singleton.mp
  rw [List.perm_ext_iff_of_nodup nodup (List.nodup_singleton _)]
  rintro ⟨key, value⟩
  rw [OrdMap.mem_toList, server, OrdMap.emplaceAll_getElem? distinct (by simp)]
  simp

theorem columnsToAdd_server {game : Game} (policy : game.data.missingKeyPolicy = .addAsString)
    {i : Nat} (unknown : name i ∉ game.params) : game.columnsToAdd (server i) = [name i] := by
  rw [Game.columnsToAdd, if_pos policy, Game.unknownKeys, server_toList]
  simpa using unknown

/-- `Connect`, and the servers `0` to `n - 1`. -/
def keyRun (n : Nat) : List ObjectCall :=
  .connect :: (List.range n).map fun i => .call (.add (server i))

/-- What the run has come to once `n` servers were added. -/
structure Filled (n : Nat) (game : Game) : Prop where
  policy : game.data.missingKeyPolicy = .addAsString
  keys : game.data.keys = (List.range n).map fun i => Game.addedKey (name i)
  columns : game.columnNames = (List.range n).map name

theorem filled_step {n : Nat} {game : Game} (filled : Filled n game) :
    Filled (n + 1) (game.addOrUpdateServer StoreSample.sqlite (server n)).game := by
  have unused : ∀ column ∈ game.columnNames, sameColumn (name n) column = false := by
    intro column mem
    rw [filled.columns] at mem
    obtain ⟨i, below, rfl⟩ := List.mem_map.mp mem
    exact name_apart (List.mem_range.mp below).ne'
  have unknown : name n ∉ game.params := by
    intro known
    have same := unused (name n) (game.params_columns _ known)
    simp [sameColumn] at same
  have added := columnsToAdd_server filled.policy unknown
  have checked : game.Checked (server n) := by
    have endpoint : ascii "192.168.0.7" ≠ [] ∧ (6500 : UInt16) ≠ 0 := by decide
    refine ⟨endpoint, fun column mem => ?_⟩
    rw [added, List.mem_singleton] at mem
    rw [mem]
    exact name_valid n
  have fits : Game.NewColumns StoreSample.sqlite game.table.columns (game.columnsToAdd (server n)) := by
    rw [added]
    refine ⟨fun column mem => ?_, List.pairwise_singleton _ _⟩
    rw [List.mem_singleton.mp mem]
    exact ⟨name_free n, fun other held => unused other.name (List.mem_map_of_mem held)⟩
  constructor
  · rw [(Game.addOrUpdateServer_sameConfig StoreSample.sqlite game (server n)).policy]
    exact filled.policy
  · rw [Game.addOrUpdateServer_keys, if_pos ⟨checked, fits⟩, added, filled.keys, List.range_succ,
      List.map_append]
    rfl
  · rcases Game.addOrUpdateServer_cases StoreSample.sqlite game (server n) with
      ⟨unchecked, -⟩ | ⟨-, unfit, -⟩ | ⟨-, -, same, -⟩
    · exact absurd checked unchecked
    · exact absurd fits unfit
    · have columns := Game.addColumns_columns fits
      rw [Game.columnNames, same, List.range_succ, List.map_append, ← filled.columns]
      rw [added] at columns
      rw [Game.stored, added]
      exact (congrArg (List.map (·.name)) columns).trans List.map_append

/-- **The number of keys is the number of servers that were added.** The sample's SQLite
takes any number of columns; the real one takes 2000, three of which are the table's own,
and so has this run for `n ≤ 1997`. -/
theorem keyRun_keys (n : Nat) :
    (Run.final (GameObject.step StoreSample.sqlite) (.constructed data) (keyRun n)).keys.length = n := by
  have reached : ∃ game, Run.final (GameObject.step StoreSample.sqlite) (.constructed data)
      (keyRun n) = .connected game ∧ Filled n game := by
    induction n with
    | zero => exact ⟨Game.empty data, rfl, rfl, rfl, rfl⟩
    | succ n ih =>
        obtain ⟨game, same, filled⟩ := ih
        have run : keyRun (n + 1) = keyRun n ++ [.call (.add (server n))] := by
          simp [keyRun, List.range_succ]
        rw [run, Run.final_snoc, same]
        exact ⟨_, rfl, filled_step filled⟩
  obtain ⟨game, same, filled⟩ := reached
  rw [same, GameObject.keys, filled.keys, List.length_map, List.length_range]

/-- The first key is in time. -/
theorem key_limit_first :
    (Run.final (GameObject.step StoreSample.sqlite) (.constructed data)
      (keyRun 1)).keys.length ≤ maxRegisteredKeys :=
  (@GameObject.key_limit_iff StoreSample.sqlite data _ rfl (keyRun 1)).mpr (by decide) _
    (List.prefix_refl _)

/-- 255 servers, each with a key of its own. -/
theorem key_limit_fails :
    ¬ ∀ (sqlite : Sqlite) (data : GameData) (obj : GameObject),
      GameObject.construct data = .ok obj → ∀ calls : List ObjectCall,
        (Run.final (GameObject.step sqlite) obj calls).keys.length ≤ maxRegisteredKeys := by
  intro always
  have kept := always StoreSample.sqlite data (.constructed data) rfl (keyRun 255)
  rw [keyRun_keys] at kept
  revert kept
  decide

end KeySample

end GamespyEmulator
