import Mathlib

/-!
All greatest entries of a list, in their order, as a loop finds them that starts over when
it meets a greater one. Entries without a key do not count.

`scan_eq` says what the loop is left with: the greatest key, and the entries that have it.
-/

namespace Greatest

variable {A K : Type*} [LinearOrder K]

section Loop

variable (key : A → Option K)

/-- One turn: the greatest key so far, and the entries that have it. -/
def turn (found : K × List A) (a : A) : K × List A :=
  match key a with
  | none => found
  | some k =>
      if k < found.1 then found
      else if k = found.1 then (found.1, found.2 ++ [a])
      else (k, [a])

def scan (bottom : K) (entries : List A) : K × List A := entries.foldl (turn key) (bottom, [])

end Loop

variable {key : A → Option K} {bottom : K} {seen : List A} {found : K × List A} {a : A}

/-- What the loop keeps: nothing seen is greater, the entries are those of the key, and the
key is that of an entry or the one the loop began with. -/
structure Keeps (key : A → Option K) (bottom : K) (seen : List A) (found : K × List A) : Prop where
  above : ∀ a ∈ seen, ∀ k, key a = some k → k ≤ found.1
  entries : found.2 = seen.filter fun a => key a = some found.1
  reached : found.1 = bottom ∨ ∃ a ∈ seen, key a = some found.1

theorem keeps_nil : Keeps key bottom [] (bottom, []) where
  above _ mem := absurd mem List.not_mem_nil
  entries := rfl
  reached := .inl rfl

theorem Keeps.reached_snoc (keeps : Keeps key bottom seen found) :
    found.1 = bottom ∨ ∃ b ∈ seen ++ [a], key b = some found.1 := by
  rcases keeps.reached with start | ⟨b, mem, has⟩
  · exact .inl start
  · exact .inr ⟨b, List.mem_append_left _ mem, has⟩

/-- An entry without the greatest key changes nothing. -/
theorem Keeps.skip (keeps : Keeps key bottom seen found) (less : ∀ k, key a = some k → k < found.1) :
    Keeps key bottom (seen ++ [a]) found where
  above b mem k has := by
    rcases List.mem_append.mp mem with old | new
    · exact keeps.above b old k has
    · rw [List.mem_singleton.mp new] at has
      exact (less k has).le
  entries := by
    have other : ¬key a = some found.1 := fun same => lt_irrefl _ (less _ same)
    rw [List.filter_append, ← keeps.entries]
    simp [other]
  reached := keeps.reached_snoc

/-- One more entry with the greatest key. -/
theorem Keeps.join (keeps : Keeps key bottom seen found) (same : key a = some found.1) :
    Keeps key bottom (seen ++ [a]) (found.1, found.2 ++ [a]) where
  above b mem k has := by
    rcases List.mem_append.mp mem with old | new
    · exact keeps.above b old k has
    · rw [List.mem_singleton.mp new, same] at has
      exact (Option.some.inj has).ge
  entries := by
    rw [List.filter_append, ← keeps.entries]
    simp [same]
  reached := keeps.reached_snoc

/-- A greater key than before. -/
theorem Keeps.raise (keeps : Keeps key bottom seen found) {k : K} (has : key a = some k)
    (greater : found.1 < k) : Keeps key bottom (seen ++ [a]) (k, [a]) where
  above b mem l has' := by
    rcases List.mem_append.mp mem with old | new
    · exact ((keeps.above b old l has').trans_lt greater).le
    · rw [List.mem_singleton.mp new, has] at has'
      exact (Option.some.inj has').ge
  entries := by
    have none : seen.filter (fun b => key b = some k) = [] := by
      apply List.filter_eq_nil_iff.mpr
      intro b mem same
      exact (keeps.above b mem k (of_decide_eq_true same)).not_gt greater
    rw [List.filter_append, none]
    simp [has]
  reached := .inr ⟨a, by simp, has⟩

theorem Keeps.turn (keeps : Keeps key bottom seen found) :
    Keeps key bottom (seen ++ [a]) (turn key found a) := by
  unfold Greatest.turn
  cases has : key a with
  | none => exact keeps.skip fun k absent => by rw [has] at absent; cases absent
  | some k =>
      dsimp only
      split_ifs with less same
      · exact keeps.skip fun l eq => by
          rw [has] at eq
          exact Option.some.inj eq ▸ less
      · exact keeps.join (has.trans (congrArg some same))
      · exact keeps.raise has (lt_of_le_of_ne (not_lt.mp less) (Ne.symm same))

theorem scan_keeps (key : A → Option K) (bottom : K) (entries : List A) :
    Keeps key bottom entries (scan key bottom entries) := by
  unfold scan
  induction entries using List.reverseRecOn with
  | nil => exact keeps_nil
  | append_singleton entries a ih =>
      rw [List.foldl_append]
      exact ih.turn

/-- The entries a loop is left with are those whose key is the greatest one, if no key is
below the one it begins with. -/
theorem mem_scan_iff {entries : List A} (least : ∀ a ∈ entries, ∀ k, key a = some k → bottom ≤ k) :
    a ∈ (scan key bottom entries).2 ↔
      a ∈ entries ∧ ∃ k, key a = some k ∧ ∀ b ∈ entries, ∀ l, key b = some l → l ≤ k := by
  have keeps := scan_keeps key bottom entries
  rw [keeps.entries, List.mem_filter, decide_eq_true_iff]
  constructor
  · rintro ⟨mem, has⟩
    exact ⟨mem, _, has, keeps.above⟩
  · rintro ⟨mem, k, has, greatest⟩
    refine ⟨mem, ?_⟩
    have le := keeps.above a mem k has
    rcases keeps.reached with start | ⟨b, inside, top⟩
    · have ge := least a mem k has
      rw [has, le_antisymm le (start.le.trans ge)]
    · rw [has, le_antisymm le (greatest b inside _ top)]

theorem scan_sublist (key : A → Option K) (bottom : K) (entries : List A) :
    (scan key bottom entries).2.Sublist entries := by
  rw [(scan_keeps key bottom entries).entries]
  exact List.filter_sublist

end Greatest
