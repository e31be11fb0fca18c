import Mathlib

/-!
`std::map`: the extensional search tree of the standard library, so that two
maps with the same entries are equal. The lookup lemmas are restated with `=` on
keys; the others are about maps built or pruned by a loop over a list.
-/

/-- `std::map<K, V>`, ordered by `compare`. -/
abbrev OrdMap (K V : Type*) [Ord K] := Std.ExtTreeMap K V compare

namespace OrdMap

variable {K V : Type*} [Ord K] [Std.TransOrd K]

/-- The map a loop of `emplace` calls builds: the first value of a key stays. -/
def emplaceAll (entries : List (K × V)) (m : OrdMap K V) : OrdMap K V :=
  entries.foldl (fun m e => m.insertIfNew e.1 e.2) m

/-- The map a loop leaves that erases the entries `dead` selects. -/
def eraseAll (dead : K × V → Bool) (entries : List (K × V)) (m : OrdMap K V) : OrdMap K V :=
  entries.foldl (fun m e => if dead e then m.erase e.1 else m) m

theorem mem_iff {m : OrdMap K V} {k : K} : k ∈ m ↔ ∃ v, m[k]? = some v := by
  rw [Std.ExtTreeMap.mem_iff_isSome_getElem?, Option.isSome_iff_exists]

theorem notMem_iff {m : OrdMap K V} {k : K} : k ∉ m ↔ m[k]? = none := by
  rw [Std.ExtTreeMap.mem_iff_isSome_getElem?, Option.not_isSome_iff_eq_none]

theorem toList_keys_nodup (m : OrdMap K V) : (m.toList.map Prod.fst).Nodup := by
  have keys : m.toList.map Prod.fst = m.keys := Std.ExtTreeMap.map_fst_toList_eq_keys
  rw [keys]
  exact Std.ExtTreeMap.nodup_keys

section Entries

variable [Std.LawfulEqOrd K]

theorem ext_some {m m' : OrdMap K V} (h : ∀ (k : K) (v : V), m[k]? = some v ↔ m'[k]? = some v) :
    m = m' :=
  Std.ExtTreeMap.ext_getElem? fun k => Option.ext fun v => h k v

theorem mem_toList {m : OrdMap K V} {k : K} {v : V} : (k, v) ∈ m.toList ↔ m[k]? = some v :=
  Std.ExtTreeMap.mem_toList_iff_getElem?_eq_some

end Entries

section Lookup

variable [Std.LawfulEqOrd K] [DecidableEq K]

theorem insert_getElem? (m : OrdMap K V) (k a : K) (v : V) :
    (m.insert k v)[a]? = if k = a then some v else m[a]? := by
  simp [Std.ExtTreeMap.getElem?_insert]

theorem insertIfNew_getElem? (m : OrdMap K V) (k a : K) (v : V) :
    (m.insertIfNew k v)[a]? = if k = a ∧ k ∉ m then some v else m[a]? := by
  simp [Std.ExtTreeMap.getElem?_insertIfNew]

theorem erase_getElem? (m : OrdMap K V) (k a : K) :
    (m.erase k)[a]? = if k = a then none else m[a]? := by
  simp [Std.ExtTreeMap.getElem?_erase]

/-! What holds an entry afterwards held it before, or is the new one. -/

variable {m : OrdMap K V} {k a : K} {v w : V}

theorem insert_eq_some :
    (m.insert k v)[a]? = some w ↔ (k = a ∧ v = w) ∨ (k ≠ a ∧ m[a]? = some w) := by
  rw [insert_getElem?]
  by_cases same : k = a
  · simp [same]
  · simp [same]

theorem insertIfNew_eq_some :
    (m.insertIfNew k v)[a]? = some w ↔ (k = a ∧ k ∉ m ∧ v = w) ∨ m[a]? = some w := by
  rw [insertIfNew_getElem?]
  by_cases new : k = a ∧ k ∉ m
  · obtain ⟨rfl, absent⟩ := new
    simp [absent]
  · rw [if_neg new, ← and_assoc]
    simp [new]

theorem erase_eq_some : (m.erase k)[a]? = some w ↔ k ≠ a ∧ m[a]? = some w := by
  rw [erase_getElem?]
  by_cases same : k = a
  · simp [same]
  · simp [same]

end Lookup

/-! ### Loops over a map -/

variable [Std.LawfulEqOrd K]

theorem mem_emplaceAll {entries : List (K × V)} {m : OrdMap K V} {k : K} :
    k ∈ emplaceAll entries m ↔ k ∈ m ∨ k ∈ entries.map Prod.fst := by
  induction entries generalizing m with
  | nil => simp [emplaceAll]
  | cons e rest ih =>
      have step := @ih (m.insertIfNew e.1 e.2)
      simp only [emplaceAll, List.foldl_cons] at step ⊢
      rw [step, Std.ExtTreeMap.mem_insertIfNew, Std.LawfulEqOrd.compare_eq_iff_eq, List.map_cons,
        List.mem_cons, eq_comm, or_assoc, or_left_comm]

/-- An entry of the built map stood in the list or was there before. -/
theorem emplaceAll_getElem?_source [DecidableEq K] {entries : List (K × V)} {m : OrdMap K V}
    {k : K} {v : V} (h : (emplaceAll entries m)[k]? = some v) :
    (k, v) ∈ entries ∨ m[k]? = some v := by
  induction entries generalizing m with
  | nil => exact .inr h
  | cons e rest ih =>
      rcases ih h with mem | held
      · exact .inl (List.mem_cons_of_mem _ mem)
      · rw [insertIfNew_getElem?] at held
        split at held
        · rename_i new
          cases held
          exact .inl (new.1 ▸ List.mem_cons_self)
        · exact .inr held

/-- Entries that were there stay. -/
theorem emplaceAll_getElem?_held [DecidableEq K] {entries : List (K × V)} {m : OrdMap K V}
    {k : K} {v : V} (held : m[k]? = some v) : (emplaceAll entries m)[k]? = some v := by
  induction entries generalizing m with
  | nil => exact held
  | cons e rest ih =>
      have old : k ∈ m := mem_iff.mpr ⟨v, held⟩
      refine ih ?_
      rw [insertIfNew_getElem?, if_neg]
      · exact held
      · rintro ⟨rfl, new⟩
        exact new old

/-- With distinct new keys `emplace` shadows nothing. -/
theorem emplaceAll_getElem? [DecidableEq K] {entries : List (K × V)} {m : OrdMap K V}
    (distinct : (entries.map Prod.fst).Nodup) (fresh : ∀ e ∈ entries, e.1 ∉ m) (k : K) (v : V) :
    (emplaceAll entries m)[k]? = some v ↔ (k, v) ∈ entries ∨ m[k]? = some v := by
  induction entries generalizing m with
  | nil => simp [emplaceAll]
  | cons e rest ih =>
      obtain ⟨hnotin, hrest⟩ := List.nodup_cons.mp distinct
      have hnew := fresh e List.mem_cons_self
      have freshRest : ∀ f ∈ rest, f.1 ∉ m.insertIfNew e.1 e.2 := by
        intro f hf
        have hne : f.1 ≠ e.1 := fun same => hnotin (same ▸ List.mem_map_of_mem hf)
        simp [Std.ExtTreeMap.mem_insertIfNew, fresh f (List.mem_cons_of_mem _ hf), Ne.symm hne]
      have step := ih hrest freshRest
      simp only [emplaceAll, List.foldl_cons] at step ⊢
      rw [step, insertIfNew_getElem?, List.mem_cons]
      by_cases same : e.1 = k
      · subst same
        have hmem : ∀ w, (e.1, w) ∉ rest := fun w mem =>
          hnotin (List.mem_map.mpr ⟨(e.1, w), mem, rfl⟩)
        simp [hnew, hmem, Prod.ext_iff, eq_comm]
      · have : (k, v) ≠ e := fun h => same (h ▸ rfl)
        simp [same, this]

/-- Emplacing a listing of a map into the empty map rebuilds it. -/
theorem emplaceAll_toList [DecidableEq K] {m : OrdMap K V} {entries : List (K × V)}
    (listing : entries.Perm m.toList) : emplaceAll entries ∅ = m := by
  have distinct : (entries.map Prod.fst).Nodup :=
    (listing.map Prod.fst).nodup_iff.mpr (toList_keys_nodup m)
  apply ext_some
  intro k v
  rw [emplaceAll_getElem? distinct (by simp), listing.mem_iff, mem_toList]
  simp

/-- A pruning loop keeps the entries it does not select. -/
theorem eraseAll_getElem? [DecidableEq K] (dead : K × V → Bool) (entries : List (K × V))
    (m : OrdMap K V) (k : K) (v : V) :
    (eraseAll dead entries m)[k]? = some v ↔
      m[k]? = some v ∧ ∀ e ∈ entries, e.1 = k → dead e = false := by
  induction entries generalizing m with
  | nil => simp [eraseAll]
  | cons e rest ih =>
      have step := ih (if dead e then m.erase e.1 else m)
      simp only [eraseAll, List.foldl_cons] at step ⊢
      rw [step, List.forall_mem_cons]
      cases isDead : dead e with
      | false => simp
      | true =>
          by_cases same : e.1 = k
          · simp [same]
          · simp [erase_getElem?, same]

/-- Over its own entries, the loop leaves exactly the entries it did not select. -/
theorem eraseAll_toList_getElem? [DecidableEq K] (dead : K × V → Bool) (m : OrdMap K V) (k : K)
    (v : V) :
    (eraseAll dead m.toList m)[k]? = some v ↔ m[k]? = some v ∧ dead (k, v) = false := by
  rw [eraseAll_getElem?]
  refine and_congr_right fun held => ⟨fun spared => ?_, fun alive e mem same => ?_⟩
  · exact spared (k, v) (mem_toList.mpr held) rfl
  · obtain ⟨k', w⟩ := e
    subst same
    have : w = v := Option.some.inj ((mem_toList.mp mem).symm.trans held)
    exact this ▸ alive

/-- Erasing a list of keys. -/
theorem mem_erase_foldl {m : OrdMap K V} {keys : List K} {k : K} :
    k ∈ keys.foldl (·.erase ·) m ↔ k ∈ m ∧ k ∉ keys := by
  induction keys generalizing m with
  | nil => simp
  | cons first rest ih =>
      rw [List.foldl_cons, ih, Std.ExtTreeMap.mem_erase, ne_eq, Std.LawfulEqOrd.compare_eq_iff_eq,
        List.mem_cons, not_or, eq_comm]
      tauto

theorem erase_foldl_getElem? [DecidableEq K] {m : OrdMap K V} {keys : List K} {k : K} {v : V}
    (held : (keys.foldl (·.erase ·) m)[k]? = some v) : m[k]? = some v := by
  induction keys generalizing m with
  | nil => exact held
  | cons first rest ih =>
      have earlier := ih held
      rw [erase_getElem?] at earlier
      split at earlier
      · cases earlier
      · exact earlier

/-- Maps with the same keys list them alike, up to order. -/
theorem keys_perm {W : Type*} {m : OrdMap K V} {m' : OrdMap K W} (same : ∀ k, k ∈ m ↔ k ∈ m') :
    m.keys.Perm m'.keys := by
  refine (List.perm_ext_iff_of_nodup Std.ExtTreeMap.nodup_keys Std.ExtTreeMap.nodup_keys).mpr ?_
  intro k
  simpa using same k

end OrdMap
