import Mathlib

/-!
The first of the least entries of a list, as a loop finds it that keeps an entry until it
meets a strictly smaller one. Entries without a key do not count.

The rules extend a list at its end, which is what a turn of such a loop does.
-/

namespace FirstLeast

variable {K : Type*} [LinearOrder K]

/-- The entry at `i` is least, and it is the first one that is. -/
def IsFirst (keys : List (Option K)) (i : Nat) : Prop :=
  ∃ k, keys[i]? = some (some k) ∧
    ∀ (j : Nat) (l : K), keys[j]? = some (some l) → k ≤ l ∧ (j < i → k < l)

variable {keys : List (Option K)} {i j : Nat} {k l : K}

theorem IsFirst.unique (first : IsFirst keys i) (other : IsFirst keys j) : i = j := by
  obtain ⟨k, atI, least⟩ := first
  obtain ⟨l, atJ, least'⟩ := other
  obtain ⟨le, lt⟩ := least j l atJ
  obtain ⟨le', lt'⟩ := least' i k atI
  rcases lt_trichotomy i j with before | same | behind
  · exact absurd (lt' before) le.not_gt
  · exact same
  · exact absurd (lt behind) le'.not_gt

omit [LinearOrder K] in
/-- An entry at the end of a longer list. -/
theorem snoc_eq_some {key : Option K} :
    (keys ++ [key])[j]? = some (some l) ↔
      keys[j]? = some (some l) ∨ (j = keys.length ∧ key = some l) := by
  rcases lt_trichotomy j keys.length with inside | last | outside
  · rw [List.getElem?_append_left inside]
    exact ⟨.inl, fun either => either.resolve_right fun last => inside.ne last.1⟩
  · subst last
    simp
  · have long : (keys ++ [key]).length ≤ j := by simpa using outside
    rw [List.getElem?_eq_none long, List.getElem?_eq_none outside.le]
    simp [outside.ne']

theorem IsFirst.snoc_none (first : IsFirst keys i) : IsFirst (keys ++ [none]) i := by
  obtain ⟨k, atI, least⟩ := first
  refine ⟨k, snoc_eq_some.mpr (.inl atI), fun j l atJ => ?_⟩
  rcases snoc_eq_some.mp atJ with old | ⟨-, absent⟩
  · exact least j l old
  · cases absent

/-- An entry that is not smaller changes nothing. -/
theorem IsFirst.snoc_ge (first : IsFirst keys i) (atI : keys[i]? = some (some k)) (ge : k ≤ l) :
    IsFirst (keys ++ [some l]) i := by
  obtain ⟨k', atI', least⟩ := first
  have same : k' = k := by simpa [atI] using atI'.symm
  subst same
  have inside : i < keys.length := List.getElem?_eq_some_iff.mp atI |>.1
  refine ⟨k', snoc_eq_some.mpr (.inl atI), fun j l' atJ => ?_⟩
  rcases snoc_eq_some.mp atJ with old | ⟨rfl, eq⟩
  · exact least j l' old
  · cases eq
    exact ⟨ge, fun before => absurd before (by omega)⟩

/-- A smaller entry is the first least one from then on. -/
theorem snoc_lt (lower : ∀ (j : Nat) (l' : K), keys[j]? = some (some l') → l < l') :
    IsFirst (keys ++ [some l]) keys.length := by
  refine ⟨l, snoc_eq_some.mpr (.inr ⟨rfl, rfl⟩), fun j l' atJ => ?_⟩
  rcases snoc_eq_some.mp atJ with old | ⟨rfl, eq⟩
  · exact ⟨(lower j l' old).le, fun _ => lower j l' old⟩
  · cases eq
    exact ⟨le_rfl, fun before => absurd before (lt_irrefl _)⟩

/-- There is a first least entry as soon as there is a key. -/
theorem exists_isFirst (some' : ∃ (j : Nat) (l : K), keys[j]? = some (some l)) :
    ∃ i, IsFirst keys i := by
  induction keys using List.reverseRecOn with
  | nil =>
      obtain ⟨j, l, absent⟩ := some'
      cases absent
  | append_singleton front key ih =>
      by_cases earlier : ∃ (j : Nat) (l : K), front[j]? = some (some l)
      · obtain ⟨i, first⟩ := ih earlier
        obtain ⟨k, atI, least⟩ := first
        cases key with
        | none => exact ⟨i, IsFirst.snoc_none ⟨k, atI, least⟩⟩
        | some l =>
            by_cases ge : k ≤ l
            · exact ⟨i, IsFirst.snoc_ge ⟨k, atI, least⟩ atI ge⟩
            · exact ⟨_, snoc_lt fun j l' atJ => (not_le.mp ge).trans_le (least j l' atJ).1⟩
      · obtain ⟨j, l, atJ⟩ := some'
        rcases snoc_eq_some.mp atJ with old | ⟨-, rfl⟩
        · exact absurd ⟨j, l, old⟩ earlier
        · exact ⟨_, snoc_lt fun j l' atJ => absurd ⟨j, l', atJ⟩ earlier⟩

end FirstLeast
