import GamespyEmulator.Game.Servers
import GamespyEmulator.Lib.Storage

/-!
The names a browser subscribed with, as they are stored: `m_KeyListStorage` holds the
strings, and `m_KeyList` a view into each. A vector that is full moves its strings. The
characters of a long string stand in a block of their own and stay there; those of a short
one stand in the string itself, and a view into them is left behind.

`names_ofFields` says for which field lists every view still finds its name, and
`signalReading_eq` what slots that read something lost mean for a signal.
-/

namespace GamespyEmulator

open Wire Storage Fallible

/-- How vectors grow, and how many characters a string holds in itself. -/
structure Layout where
  growth : Growth
  inline : Nat

/-- A view of a name that reads no character in its string: it has none, or they stand in a
block of their own. -/
def Layout.Apart (layout : Layout) (field : Bytes) : Prop :=
  field = [] ∨ layout.inline < field.length

instance (layout : Layout) : DecidablePred layout.Apart :=
  fun field => inferInstanceAs (Decidable (field = [] ∨ layout.inline < field.length))

/-- A field that finds the vector full has only such names in front of it. -/
def Layout.Keeps (layout : Layout) (fields : List Bytes) : Prop :=
  ∀ place < fields.length, Growable.capacityAfter layout.growth place = place →
    ∀ field ∈ fields.take place, layout.Apart field

instance (layout : Layout) (fields : List Bytes) : Decidable (layout.Keeps fields) :=
  inferInstanceAs (Decidable (∀ place < fields.length, _ → _))

/-- `m_KeyListStorage` and `m_KeyList`. -/
structure KeyList where
  storage : Growable Bytes
  views : List Ref

namespace KeyList

variable (layout : Layout)

def empty : KeyList := ⟨⟨0, 0, [], le_rfl⟩, []⟩

/-- `m_KeyListStorage.emplace_back(field)`, and the view into it. -/
def emplace (list : KeyList) (field : Bytes) : KeyList :=
  let storage := list.storage.push layout.growth field
  ⟨storage, list.views ++ [storage.ref (storage.elements.length - 1)]⟩

/-- The loop of `HandleServerListRequest` over the field list. -/
def ofFields (fields : List Bytes) : KeyList := fields.foldl (emplace layout) empty

/-- What a view finds. -/
def name (list : KeyList) (view : Ref) : Option Bytes :=
  (list.storage.elements[view.place]?).filter fun field =>
    view.block = list.storage.block || layout.Apart field

/-- The names that are read; `none` when one of them is lost. -/
def names (list : KeyList) : Option (List Bytes) :=
  if ∀ view ∈ list.views, (list.name layout view).isSome then
    some (list.views.filterMap (list.name layout))
  else none

/-! ### Views -/

/-- The views of a field list: one for each place, and into the current block unless a later
field found the vector full. -/
structure Holds (list : KeyList) (fields : List Bytes) : Prop where
  elements : list.storage.elements = fields
  capacity : list.storage.capacity = Growable.capacityAfter layout.growth fields.length
  places : list.views.map (·.place) = List.range fields.length
  older : ∀ view ∈ list.views, view.block ≤ list.storage.block
  current : ∀ view ∈ list.views, view.block = list.storage.block ↔
    ∀ later, view.place < later → later < fields.length →
      Growable.capacityAfter layout.growth later ≠ later

section Holds

variable {layout} {list : KeyList} {fields : List Bytes}

theorem Holds.place_lt (holds : list.Holds layout fields) {view : Ref} (mem : view ∈ list.views) :
    view.place < fields.length := by
  have place := List.mem_map_of_mem (f := (·.place)) mem
  rw [holds.places] at place
  exact List.mem_range.mp place

theorem Holds.emplace (holds : list.Holds layout fields) (field : Bytes) :
    (list.emplace layout field).Holds layout (fields ++ [field]) := by
  have length : list.storage.elements.length = fields.length := congrArg List.length holds.elements
  have capacity := holds.capacity
  have pushed := Growable.push_elements layout.growth list.storage field
  have added : (list.emplace layout field).views = list.views ++
      [(list.storage.push layout.growth field).ref fields.length] := by
    rw [KeyList.emplace, pushed, holds.elements, List.length_append, List.length_singleton,
      Nat.add_sub_cancel]
  have newest : ∀ {P : Ref → Prop}, (∀ view ∈ list.views, P view) →
      P ((list.storage.push layout.growth field).ref fields.length) →
      ∀ view ∈ (list.emplace layout field).views, P view := by
    intro P old new
    rw [added]
    exact List.forall_mem_append.mpr ⟨old, List.forall_mem_singleton.mpr new⟩
  constructor
  · exact pushed.trans (congrArg (· ++ [field]) holds.elements)
  · rw [List.length_append, List.length_singleton, ← length]
    exact Growable.push_capacityAfter (length.symm ▸ capacity)
  · rw [added, List.map_append, holds.places, List.length_append, List.length_singleton,
      List.range_succ]
    rfl
  · refine newest (fun view mem => ?_) le_rfl
    exact (holds.older view mem).trans (Growable.push_block_le layout.growth list.storage field)
  · rw [List.length_append, List.length_singleton]
    refine newest (fun view mem => ?_) ?_
    · have before := holds.current view mem
      have older := holds.older view mem
      by_cases room : list.storage.elements.length < list.storage.capacity
      · have block : (list.emplace layout field).storage.block = list.storage.block :=
          congrArg Ref.block (congrFun (Growable.push_room room).1 0)
        have unfilled : Growable.capacityAfter layout.growth fields.length ≠ fields.length := by
          omega
        rw [block, before]
        constructor
        · intro stays later behind inside
          rcases Nat.lt_succ_iff_lt_or_eq.mp inside with earlier | rfl
          · exact stays later behind earlier
          · exact unfilled
        · exact fun stays later behind inside => stays later behind (Nat.lt_succ_of_lt inside)
      · -- The vector is full, and every older view is left behind.
        have block : (list.emplace layout field).storage.block = list.storage.block + 1 :=
          (Growable.push_full room).1
        have full : Growable.capacityAfter layout.growth fields.length = fields.length := by
          have fits := list.storage.fits
          omega
        rw [block]
        refine iff_of_false (by omega) fun stays => ?_
        exact stays fields.length (holds.place_lt mem) (Nat.lt_succ_self _) full
    · refine iff_of_true rfl fun later behind inside => ?_
      have place : fields.length < later := behind
      omega

theorem holds_ofFields (layout : Layout) (fields : List Bytes) :
    (ofFields layout fields).Holds layout fields := by
  induction fields using List.reverseRecOn with
  | nil =>
      refine ⟨rfl, rfl, rfl, ?_, ?_⟩
      · exact fun view mem => absurd mem List.not_mem_nil
      · exact fun view mem => absurd mem List.not_mem_nil
  | append_singleton fields field ih =>
      rw [ofFields, List.foldl_append]
      exact ih.emplace field

theorem Holds.name_eq (holds : list.Holds layout fields) {view : Ref}
    (inside : view.place < fields.length) :
    list.name layout view =
      if view.block = list.storage.block ∨ layout.Apart fields[view.place] then
        some fields[view.place] else none := by
  have here : list.storage.elements[view.place]? = some fields[view.place] := by
    rw [holds.elements, List.getElem?_eq_getElem]
  rw [name, here, Option.filter_some]
  simp only [Bool.or_eq_true, decide_eq_true_eq]

/-- All names are there exactly when the layout keeps them. -/
theorem Holds.readable_iff (holds : list.Holds layout fields) :
    (∀ view ∈ list.views, (list.name layout view).isSome) ↔ layout.Keeps fields := by
  constructor
  · intro readable later inside full field mem
    obtain ⟨place, below, rfl⟩ := List.mem_iff_getElem.mp mem
    have bounds : place < later ∧ place < fields.length := by
      rw [List.length_take] at below
      omega
    have listed : place ∈ list.views.map (·.place) := by
      rw [holds.places]
      exact List.mem_range.mpr bounds.2
    obtain ⟨view, held, rfl⟩ := List.mem_map.mp listed
    have found := readable view held
    rw [holds.name_eq (holds.place_lt held)] at found
    rw [List.getElem_take]
    split at found
    · rename_i reads
      refine reads.resolve_left fun block => ?_
      exact (holds.current view held).mp block later bounds.1 inside full
    · cases found
  · intro keeps view mem
    have inside := holds.place_lt mem
    rw [holds.name_eq inside, if_pos]
    · rfl
    · by_cases moved : ∃ later, view.place < later ∧ later < fields.length ∧
          Growable.capacityAfter layout.growth later = later
      · obtain ⟨later, behind, below, full⟩ := moved
        refine .inr (keeps later below full _ ?_)
        exact List.mem_take_iff_getElem.mpr ⟨view.place, by omega, rfl⟩
      · refine .inl ((holds.current view mem).mpr fun later behind below full => ?_)
        exact moved ⟨later, behind, below, full⟩

end Holds

theorem filterMap_places (fields : List Bytes) :
    (List.range fields.length).filterMap (fields[·]?) = fields := by
  induction fields using List.reverseRecOn with
  | nil => rfl
  | append_singleton fields field ih =>
      have front : (List.range fields.length).filterMap ((fields ++ [field])[·]?) =
          (List.range fields.length).filterMap (fields[·]?) := by
        refine List.filterMap_congr fun place mem => ?_
        rw [List.getElem?_append_left (List.mem_range.mp mem)]
      rw [List.length_append, List.length_singleton, List.range_succ, List.filterMap_append, front,
        ih]
      simp

/-- **The names are read as they were requested exactly when the layout keeps them.** -/
theorem names_ofFields (fields : List Bytes) :
    (ofFields layout fields).names layout =
      if layout.Keeps fields then some fields else none := by
  have holds := holds_ofFields layout fields
  rw [names]
  by_cases keeps : layout.Keeps fields
  · have readable := holds.readable_iff.mpr keeps
    rw [if_pos readable, if_pos keeps]
    congr 1
    -- Each view reads the field at its place.
    have reads : (ofFields layout fields).views.filterMap ((ofFields layout fields).name layout) =
        (ofFields layout fields).views.filterMap fun view => fields[view.place]? := by
      refine List.filterMap_congr fun view mem => ?_
      have found := readable view mem
      rw [holds.name_eq (holds.place_lt mem)] at found ⊢
      split at found
      · rename_i here
        rw [if_pos here, List.getElem?_eq_getElem]
      · cases found
    have placed : (ofFields layout fields).views.filterMap (fun view => fields[view.place]?) =
        (List.range fields.length).filterMap (fields[·]?) := by
      rw [← holds.places, List.filterMap_map]
      rfl
    rw [reads, placed]
    exact filterMap_places fields
  · rw [if_neg (mt holds.readable_iff.mp keeps), if_neg keeps]

/-- What the `OnServerAdded` slot of a browser builds; `none` when it reads a lost name. -/
def pushMessage (list : KeyList) (game : Game) (server : ServerData) :
    Option (Except EncodeError Bytes) :=
  (list.names layout).map (GamespyEmulator.pushMessage game server)

theorem pushMessage_ofFields (game : Game) (server : ServerData) (fields : List Bytes) :
    (ofFields layout fields).pushMessage layout game server =
      if layout.Keeps fields then some (GamespyEmulator.pushMessage game server fields) else none := by
  rw [pushMessage, names_ofFields]
  split <;> rfl

end KeyList

/-! ### Slots -/

section Slots

variable (message : List Bytes → Option (Except EncodeError Bytes)) (Reads : List Bytes → Prop)
  (game : Game) (server : ServerData)

/-- The signal, where a slot may read what is lost; `none` when one does. -/
def signalReading : List (List Bytes) → Option (List Bytes × Option EncodeError)
  | [] => some ([], none)
  | keyList :: rest =>
      match message keyList with
      | none => none
      | some (.error e) => some ([], some e)
      | some (.ok bytes) =>
          (signalReading rest).map fun (queued, exception) => (bytes :: queued, exception)

/-- The slots that run read nothing that is lost: up to the first that throws. -/
def SlotsRead : List (List Bytes) → Prop
  | [] => True
  | keyList :: rest => Reads keyList ∧ (Encodable game server keyList → SlotsRead rest)

instance (fieldList : List Bytes) : Decidable (Encodable game server fieldList) :=
  decidable_of_iff (Returns (prepareServer game server fieldList false)) prepareServer_returns

instance decidableSlotsRead [DecidablePred Reads] : (keyLists : List (List Bytes)) →
    Decidable (SlotsRead Reads game server keyLists)
  | [] => .isTrue trivial
  | keyList :: rest =>
      have := decidableSlotsRead rest
      inferInstanceAs (Decidable (Reads keyList ∧ (Encodable game server keyList → _)))

theorem pushMessage_returns {game : Game} {server : ServerData} {keyList : List Bytes} :
    Returns (pushMessage game server keyList) ↔ Encodable game server keyList := by
  rw [pushMessage, returns_map, prepareServer_returns]

variable {message Reads game server}

/-- **The slots do what they do with names and keys in place, unless one reads what is
lost.** -/
theorem signalReading_eq [DecidablePred Reads] (reads : ∀ keyList, message keyList =
      if Reads keyList then some (pushMessage game server keyList) else none)
    (keyLists : List (List Bytes)) :
    signalReading message keyLists = if SlotsRead Reads game server keyLists then
      some (signal (pushMessage game server) keyLists) else none := by
  induction keyLists with
  | nil => rfl
  | cons keyList rest ih =>
      have whole : SlotsRead Reads game server (keyList :: rest) ↔ Reads keyList ∧
          (Encodable game server keyList → SlotsRead Reads game server rest) := Iff.rfl
      rw [signalReading, reads, signal]
      by_cases read : Reads keyList
      · rw [if_pos read]
        have encodes := @pushMessage_returns game server keyList
        cases built : pushMessage game server keyList with
        | error e =>
            rw [built] at encodes
            have refused := mt encodes.mpr (not_returns_error e)
            rw [if_pos (whole.mpr ⟨read, fun encodable => absurd encodable refused⟩)]
        | ok bytes =>
            rw [built] at encodes
            have encodable := encodes.mp (returns_ok bytes)
            dsimp only
            rw [ih]
            by_cases later : SlotsRead Reads game server rest
            · rw [if_pos later, if_pos (whole.mpr ⟨read, fun _ => later⟩)]
              rfl
            · rw [if_neg later, if_neg fun both => later ((whole.mp both).2 encodable)]
              rfl
      · rw [if_neg read, if_neg fun both => read (whole.mp both).1]

theorem slotsRead_congr {game' : Game} {Reads' : List Bytes → Prop}
    (same : Game.SameConfig game game')
    (reads : ∀ keyList, Reads' keyList ↔ Reads keyList) (keyLists : List (List Bytes)) :
    SlotsRead Reads' game' server keyLists ↔ SlotsRead Reads game server keyLists := by
  induction keyLists with
  | nil => exact Iff.rfl
  | cons keyList rest ih => exact and_congr (reads keyList) (imp_congr same.encodable_iff ih)

end Slots

namespace StoreSample

/-- A vector that doubles its room. -/
def doubling : Growth where
  next n := n + max n 1
  grows n := by omega

/-- Strings that hold 15 characters in themselves. -/
def layout : Layout := ⟨doubling, 15⟩

/-- The second short name leaves the first one behind. -/
example : (KeyList.ofFields layout [ascii "hostname", ascii "mapname"]).names layout = none := by
  decide

end StoreSample

end GamespyEmulator
