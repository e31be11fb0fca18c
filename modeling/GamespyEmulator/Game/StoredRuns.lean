import GamespyEmulator.Game.ReadBack
import GamespyEmulator.Game.Registry

/-!
What holds all along a run of calls over the stored keys. `always_iff` is the rule: a
property that each call keeps exactly when it meets a condition holds all along exactly when
every call meets it and reads nothing that is lost. `schema_matches_iff` and
`reads_back_registered` are instances of it, for the columns of the table and for what
`GetServers` reads.
-/

namespace GamespyEmulator

open Wire Run

namespace StoredGame

section Rule

variable {layout : Layout} {sqlite : Sqlite} {start : StoredGame}
  {Inv Holds : List Call → StoredGame → Prop} {Good Cond : StoredGame → Call → Prop}

theorem history_step (keeps : ∀ past s call, Intact s → Inv past s → Good s call →
      Inv (past ++ [call]) (step sqlite layout.growth s call).1)
    {past : List Call} {state : Option StoredGame} {call : Call}
    (before : ∀ s ∈ state, Intact s ∧ Inv past s) (good : OnSome Good state call) :
    ∀ s ∈ (callStep layout sqlite state call).1, Intact s ∧ Inv (past ++ [call]) s := by
  intro next reached
  cases state with
  | none => cases reached
  | some s =>
      obtain ⟨here, inv⟩ := before s rfl
      rw [callStep_eq here.stored] at reached
      split at reached
      · rename_i defined
        cases reached
        exact ⟨here.step defined, keeps past s call here inv (good s rfl)⟩
      · cases reached

/-- What calls that are `Good` keep holds in every state that is reached. -/
theorem history_invariant (intact : Intact start) (init : Inv [] start)
    (keeps : ∀ past s call, Intact s → Inv past s → Good s call →
      Inv (past ++ [call]) (step sqlite layout.growth s call).1)
    (calls : List Call)
    (good : StepsMeet (callStep layout sqlite) (OnSome Good) (some start) calls) :
    ∀ s ∈ final (callStep layout sqlite) (some start) calls, Intact s ∧ Inv calls s := by
  refine @Run.history_invariant _ _ _ _ _ (fun past state => ∀ s ∈ state, Intact s ∧ Inv past s)
    (some start) ?_ ?_ calls good
  · rintro s ⟨⟩
    exact ⟨intact, init⟩
  · exact fun past call before met => history_step keeps before met

/-- **What each call keeps exactly when it meets a condition holds all along exactly when every
call meets it and reads nothing that is lost.** -/
theorem always_iff (intact : Intact start) (init : Inv [] start) (holds : Holds [] start)
    (keeps : ∀ past s call, Intact s → Inv past s → Good s call →
      Inv (past ++ [call]) (step sqlite layout.growth s call).1)
    (exact : ∀ past s call, Intact s → Inv past s → Holds past s → Good s call →
      CallDefined layout sqlite s call →
      (Holds (past ++ [call]) (step sqlite layout.growth s call).1 ↔ Cond s call))
    (calls : List Call)
    (good : StepsMeet (callStep layout sqlite) (OnSome Good) (some start) calls) :
    (∀ front, front <+: calls →
        ∃ s, final (callStep layout sqlite) (some start) front = some s ∧ Holds front s) ↔
      StepsMeet (callStep layout sqlite)
        (OnSome fun s call => CallDefined layout sqlite s call ∧ Cond s call) (some start)
        calls := by
  refine @Run.always_iff _ _ _ (callStep layout sqlite) _ (fun state call => OnSome Good state call)
    (fun past state => ∀ s ∈ state, Intact s ∧ Inv past s)
    (fun past state => ∃ s, state = some s ∧ Holds past s) (some start) ?_ ⟨start, rfl, holds⟩ ?_ ?_
    calls good
  · rintro s ⟨⟩
    exact ⟨intact, init⟩
  · exact fun past call before met => history_step keeps before met
  · rintro past call before ⟨s, state, held⟩ met
    rw [state] at before met ⊢
    obtain ⟨here, inv⟩ := before s rfl
    rw [callStep_eq here.stored]
    by_cases defined : CallDefined layout sqlite s call
    · have kept := exact past s call here inv held (met s rfl) defined
      rw [if_pos defined]
      constructor
      · rintro ⟨next, ⟨⟩, after⟩ other ⟨⟩
        exact ⟨defined, kept.mp after⟩
      · exact fun met => ⟨_, rfl, kept.mpr (met s rfl).2⟩
    · rw [if_neg defined]
      refine iff_of_false ?_ fun met => defined (met s rfl).1
      rintro ⟨next, ⟨⟩, -⟩

theorem final_single (intact : Intact start) {call : Call}
    (defined : CallDefined layout sqlite start call) :
    final (callStep layout sqlite) (some start) [call] =
      some (step sqlite layout.growth start call).1 := by
  rw [final_cons, final_nil, callStep_eq intact.stored, if_pos defined]

end Rule

end StoredGame

/-! ### Columns and keys -/

/-- The names in `m_Params`. -/
def KeyStorage.registered (storage : KeyStorage) : List Bytes :=
  storage.params.filterMap fun param => (storage.keys.deref param.view).map (·.name)

theorem KeyStorage.mem_registered {storage : KeyStorage} {name : Bytes} :
    name ∈ storage.registered ↔ (storage.find name).isSome := by
  rw [registered, find, List.find?_isSome, List.mem_filterMap]
  simp [Named, Option.any_eq_true]

namespace StoredGame

/-- The columns are the names in `m_Params`, of which none is lost, so no column that exists is
added again. -/
structure SchemaMatches (s : StoredGame) : Prop where
  intact : ¬ s.storage.Lost
  columns : ∀ name, name ∈ s.game.columnNames ↔ name ∈ s.storage.registered
  fresh : ∀ (server : ServerData) (columns : List Bytes) (values : List (Bytes × Bytes)),
    s.storage.plan s.game.data.missingKeyPolicy server.data.toList = some (.ok (columns, values)) →
    ∀ name ∈ columns, name ∉ s.game.columnNames

theorem Intact.schemaMatches_iff {s : StoredGame} (intact : Intact s) :
    s.SchemaMatches ↔ s.game.SchemaMatches := by
  have valid := intact.tight.valid
  have names : ∀ name, name ∈ s.storage.registered ↔ name ∈ s.game.params := fun name =>
    KeyStorage.mem_registered.trans (find_isSome intact.stored valid name)
  constructor
  · intro agree
    exact Game.schemaMatches_iff.mpr fun name => (agree.columns name).trans (names name)
  · intro agree
    refine ⟨valid.intact, fun name => (agree.columns name).trans (names name).symm, ?_⟩
    intro server columns values planned name mem
    rw [plan_eq intact.stored fun lost => absurd lost valid.intact] at planned
    rw [Game.plan_columns (Option.some.inj planned)] at mem
    exact agree.fresh server name mem

/-- **Columns and registered names agree after every call, whether it succeeds or throws,
exactly when no batch of columns fails behind its first statement** and no call reads what is
lost. -/
theorem schema_matches_iff {sqlite : Sqlite} {data : GameData} {game : Game}
    (connects : Game.connect sqlite data = .ok game) (layout : Layout) (capacity : Nat)
    (fits : game.data.keys.length ≤ capacity) (calls : List Call) :
    (∀ front, front <+: calls → ∃ s, final (callStep layout sqlite)
        (some (connected game capacity fits)) front = some s ∧ s.SchemaMatches) ↔
      StepsMeet (callStep layout sqlite) (OnSome fun s call =>
        CallDefined layout sqlite s call ∧ Game.BatchWhole sqlite s.game call)
        (some (connected game capacity fits)) calls := by
  have intact := connected_intact connects capacity fits
  refine @always_iff layout sqlite (connected game capacity fits) (fun _ _ => True)
    (fun _ s => s.SchemaMatches) (fun _ _ => True) (fun s call => Game.BatchWhole sqlite s.game call)
    intact trivial ?_ ?_ ?_ calls ?_
  · exact intact.schemaMatches_iff.mpr (Game.connect_schemaMatches connects)
  · exact fun _ _ _ _ _ _ => trivial
  · intro past s call here _ agree _ defined
    rw [(here.step defined).schemaMatches_iff]
    exact Game.call_schemaMatches (here.schemaMatches_iff.mp agree) call
  · exact stepsMeet_of_forall fun _ _ _ _ _ => trivial

/-! ### What a browser reads -/

/-- **After successful calls, `GetServers` reads back the servers last added, as long as no call
introduced a key with a nonempty value** or read what is lost; and only then, while a `LIMIT`
can make room for every server. -/
theorem reads_back_registered {sqlite : Sqlite} (selects : SelectsAll sqlite) {data : GameData}
    {game : Game} (connects : Game.connect sqlite data = .ok game) (layout : Layout)
    (capacity : Nat) (fits : game.data.keys.length ≤ capacity) (calls : List Call)
    (succeed : StepsMeet (callStep layout sqlite)
      (OnSome fun s call => Game.Succeeds sqlite s.game call)
      (some (connected game capacity fits)) calls)
    (free : ∀ call ∈ calls, call.NulFree) :
    let start := some (connected game capacity fits)
    let readsBack := ∀ front, front <+: calls → ∃ s,
      final (callStep layout sqlite) start front = some s ∧
        Game.ReadsBack sqlite s.game (lastAdded front)
    let meets := StepsMeet (callStep layout sqlite) (OnSome fun s call =>
      CallDefined layout sqlite s call ∧ Game.ValuesRegistered sqlite s.game call) start calls
    (meets → readsBack) ∧ (calls.length ≤ maxLimit → readsBack → meets) := by
  have intact := connected_intact connects capacity fits
  have good : StepsMeet (callStep layout sqlite)
      (OnSome fun s call => Game.Succeeds sqlite s.game call ∧ call.NulFree)
      (some (connected game capacity fits)) calls :=
    stepsMeet_imp (fun _ _ both s reached => ⟨both.1 s reached, both.2⟩)
      (stepsMeet_and succeed free)
  have init := Game.connect_stores connects
  have keeps : ∀ (past : List Call) (s : StoredGame) (call : Call), Intact s →
      Game.Stores s.game (lastAdded past) → Game.Succeeds sqlite s.game call ∧ call.NulFree →
      Game.Stores (step sqlite layout.growth s call).1.game (lastAdded (past ++ [call])) := by
    intro past s call _ stores met
    rw [lastAdded_snoc]
    exact Game.stores_call stores met.1 met.2
  have faithful := @always_iff layout sqlite (connected game capacity fits)
    (fun past s => Game.Stores s.game (lastAdded past))
    (fun past s => Game.Faithful sqlite s.game (lastAdded past))
    (fun s call => Game.Succeeds sqlite s.game call ∧ call.NulFree)
    (fun s call => Game.ValuesRegistered sqlite s.game call) intact init
    (by simp [Game.Faithful, lastAdded]) keeps
    (by
      intro past s call _ stores faithful met _
      rw [lastAdded_snoc]
      exact Game.faithful_call stores faithful met.1)
    calls good
  have stores : ∀ front, front <+: calls → ∀ s ∈ final (callStep layout sqlite)
      (some (connected game capacity fits)) front, Game.Stores s.game (lastAdded front) := by
    rintro front ⟨rest, rfl⟩ s reached
    exact (history_invariant intact init keeps front (stepsMeet_append.mp good).1 s reached).2
  constructor
  · intro met front pre
    obtain ⟨s, reached, faithful⟩ := faithful.mpr met front pre
    exact ⟨s, reached, Game.readsBack_of_faithful selects (stores front pre s reached) faithful⟩
  · intro few reads
    refine faithful.mp fun front pre => ?_
    obtain ⟨s, reached, reads⟩ := reads front pre
    have small := (Game.lastAdded_size front).trans (pre.length_le.trans few)
    exact ⟨s, reached, Game.faithful_of_readsBack selects (stores front pre s reached) small reads⟩

end StoredGame

namespace StoreSample

open StoredGame

/-- The sample game with room for `capacity` keys. -/
def roomy (capacity : Nat) (fits : game.data.keys.length ≤ capacity) : Option StoredGame :=
  some (.connected game capacity fits)

/-- A batch of two new columns, and one that fails at once. -/
theorem schema_matches_whole : ∃ s, final (callStep layout sqlite) (roomy 3 (by decide))
      [.add (server ["alpha", "beta"]), .add (server ["order", "zeta"])] = some s ∧
    s.SchemaMatches :=
  (schema_matches_iff connected layout 3 (by decide) _).mpr (by decide) _ (List.prefix_refl _)

/-- The new column `alpha` in front of the keyword `select`. -/
theorem schema_matches_fails :
    ¬ ∀ (layout : Layout) (sqlite : Sqlite) (data : GameData) (game : Game),
      data.missingKeyPolicy = .addAsString → Game.connect sqlite data = .ok game →
      ∀ (capacity : Nat) (fits : game.data.keys.length ≤ capacity) (calls : List Call) (s : StoredGame),
        final (callStep layout sqlite) (some (.connected game capacity fits)) calls = some s →
        s.SchemaMatches := by
  intro always
  have reached := final_single (connected_intact connected 3 (by decide))
    (show CallDefined layout sqlite _ (.add (server ["alpha", "select"])) by decide)
  have agree := always layout sqlite data game rfl connected 3 (by decide) _ _ reached
  have stays := (agree.columns (ascii "alpha")).mp (by decide)
  revert stays
  decide

theorem server_nulFree (names : List String) : (Call.add (server names)).NulFree := by
  have endpoint : NulFree (server names).publicIp := by
    change NulFree (ascii "192.168.0.7")
    decide
  refine ⟨endpoint, fun key value held => ?_⟩
  rcases OrdMap.emplaceAll_getElem?_source held with listed | absent
  · obtain ⟨name, -, eq⟩ := List.mem_map.mp listed
    cases eq
    decide
  · simp at absent

/-- A server with the registered key, and its removal. -/
theorem reads_back_hostname : ∃ s, final (callStep layout sqlite) (roomy 1 (by decide))
      [.add (server ["hostname"]), .remove [(server []).rowKey]] = some s ∧
    Game.ReadsBack sqlite s.game
      (lastAdded [.add (server ["hostname"]), .remove [(server []).rowKey]]) :=
  (reads_back_registered selectsAll connected layout 1 (by decide) _ (by decide)
    (List.forall_mem_cons.mpr ⟨server_nulFree _, fun call mem => by
      rw [List.mem_singleton.mp mem]
      trivial⟩)).1
    (by decide) _ (List.prefix_refl _)

/-- The call that introduces `mapname` loses its value. -/
theorem reads_back_fails_new_key :
    ¬ ∀ (layout : Layout) (sqlite : Sqlite) (data : GameData) (game : Game), SelectsAll sqlite →
      Game.connect sqlite data = .ok game →
      ∀ (capacity : Nat) (fits : game.data.keys.length ≤ capacity) (calls : List Call),
      StepsMeet (callStep layout sqlite) (OnSome fun s call => Game.Succeeds sqlite s.game call)
        (some (.connected game capacity fits)) calls →
      (∀ call ∈ calls, call.NulFree) → ∀ s : StoredGame,
      final (callStep layout sqlite) (some (.connected game capacity fits)) calls = some s →
      Game.ReadsBack sqlite s.game (lastAdded calls) := by
  intro always
  have reached := final_single (connected_intact connected 2 (by decide))
    (show CallDefined layout sqlite _ (.add (server ["mapname"])) by decide)
  have reads := always layout sqlite data game selectsAll connected 2 (by decide)
    [.add (server ["mapname"])] (by decide)
    (List.forall_mem_singleton.mpr (server_nulFree _)) _ reached [ascii "mapname"] 1
    (by
      intro field mem
      rw [List.mem_singleton.mp mem]
      exact ⟨Game.addedKey (ascii "mapname"), by rfl, rfl⟩)
    (by decide) (by decide) (by decide)
  -- The only server of the answer has an empty `mapname`.
  have values := reads.values
  revert values
  decide

end StoreSample

end GamespyEmulator
