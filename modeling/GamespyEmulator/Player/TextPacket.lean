import GamespyEmulator.Player.Session

/-!
Text packets as they are written: parts, each behind a backslash, and a backslash behind
the last. `valueForKey_textPacket` says what `value_for_key` reads in one: the part behind
the first part that is called like the key.
-/

namespace GamespyEmulator

open Wire

namespace Utils

/-- Parts, each behind a backslash, and a backslash behind the last. -/
def textPacket : List Bytes → Bytes
  | [] => [backslash]
  | part :: rest => backslash :: (part ++ textPacket rest)

/-- A key as it is looked up. -/
def lookupKey (key : Bytes) : Bytes := backslash :: (key ++ [backslash])

/-- A text without a backslash. -/
def Plain (text : Bytes) : Prop := backslash ∉ text

instance : DecidablePred Plain := fun text => inferInstanceAs (Decidable (backslash ∉ text))

theorem textPacket_head (parts : List Bytes) : ∃ rest, textPacket parts = backslash :: rest := by
  cases parts with
  | nil => exact ⟨[], rfl⟩
  | cons part rest => exact ⟨part ++ textPacket rest, rfl⟩

/-- A packet begins with its first part, which a backslash follows. -/
theorem lookupKey_prefix (part : Bytes) (rest : List Bytes) :
    lookupKey part <+: textPacket (part :: rest) := by
  obtain ⟨tail, eq⟩ := textPacket_head rest
  rw [textPacket, lookupKey, eq]
  exact ⟨tail, by simp⟩

theorem textPacket_append (front back : List Bytes) :
    textPacket (front ++ back) = (front.flatMap fun part => backslash :: part) ++ textPacket back := by
  induction front with
  | nil => rfl
  | cons part front ih => simp [textPacket, ih]

/-- Nothing begins with a backslash in a plain text. -/
theorem afterFirst_plain {key text : Bytes} (plain : Plain text) (rest : Bytes) :
    afterFirst (backslash :: key) (text ++ rest) = afterFirst (backslash :: key) rest := by
  induction text with
  | nil => rfl
  | cons c text ih =>
      have apart : c ≠ backslash := fun same => plain (same ▸ List.mem_cons_self)
      have plain' : Plain text := fun mem => plain (List.mem_cons_of_mem c mem)
      have elsewhere : (backslash :: key).isPrefixOf (c :: (text ++ rest)) = false := by
        simp [List.isPrefixOf, apart.symm]
      rw [List.cons_append, afterFirst, elsewhere, ih plain']
      rfl

/-- Two plain texts in front of backslashes are equal when one begins the other. -/
theorem plain_prefix_iff {key part rest : Bytes} (plain : Plain key) (plain' : Plain part) :
    key ++ [backslash] <+: part ++ backslash :: rest ↔ key = part := by
  constructor
  · intro begins
    induction key generalizing part with
    | nil =>
        cases part with
        | nil => rfl
        | cons c part =>
            have same := (List.cons_prefix_cons.mp begins).1
            exact absurd (same ▸ List.mem_cons_self) plain'
    | cons k key ih =>
        cases part with
        | nil =>
            have same := (List.cons_prefix_cons.mp begins).1
            exact absurd (same ▸ List.mem_cons_self) plain
        | cons c part =>
            obtain ⟨rfl, later⟩ := List.cons_prefix_cons.mp begins
            rw [ih (fun mem => plain (List.mem_cons_of_mem _ mem))
              (fun mem => plain' (List.mem_cons_of_mem _ mem)) later]
  · rintro rfl
    exact ⟨rest, by simp⟩

/-- What follows the first part called like the key. -/
theorem afterFirst_textPacket {front back : List Bytes} {key : Bytes} (plain : Plain key)
    (parts : ∀ part ∈ front, Plain part) (absent : key ∉ front) :
    afterFirst (lookupKey key) (textPacket (front ++ key :: back)) =
      some (textPacket back).tail := by
  induction front with
  | nil =>
      obtain ⟨rest, eq⟩ := textPacket_head back
      have here : (lookupKey key).isPrefixOf (textPacket (key :: back)) = true := by
        rw [List.isPrefixOf_iff_prefix, textPacket, lookupKey, eq, List.cons_prefix_cons]
        exact ⟨rfl, (plain_prefix_iff plain plain).mpr rfl⟩
      rw [List.nil_append]
      rw [textPacket] at here ⊢
      rw [afterFirst, here, if_pos rfl, eq]
      simp [lookupKey]
  | cons part front ih =>
      obtain ⟨plain', others⟩ := List.forall_mem_cons.mp parts
      obtain ⟨different, absent'⟩ := not_or.mp (List.mem_cons.not.mp absent)
      obtain ⟨rest, eq⟩ := textPacket_head (front ++ key :: back)
      have elsewhere : ¬ (lookupKey key).isPrefixOf (textPacket (part :: (front ++ key :: back))) := by
        rw [List.isPrefixOf_iff_prefix, textPacket, lookupKey, eq, List.cons_prefix_cons]
        rintro ⟨-, begins⟩
        exact different ((plain_prefix_iff plain plain').mp begins)
      rw [List.cons_append]
      rw [textPacket] at elsewhere ⊢
      rw [afterFirst, if_neg elsewhere, lookupKey, afterFirst_plain plain']
      exact ih others absent'

/-- **The value of a key is the part behind the first part of that name.** -/
theorem valueForKey_textPacket {front back : List Bytes} {key value : Bytes} (plain : Plain key)
    (parts : ∀ part ∈ front, Plain part) (absent : key ∉ front) (plain' : Plain value)
    (free : NulFree value) :
    valueForKey (textPacket (front ++ key :: value :: back)) (lookupKey key) = some value := by
  obtain ⟨rest, eq⟩ := textPacket_head back
  have found := @afterFirst_textPacket front (value :: back) key plain parts absent
  have taken : (value ++ textPacket back).takeWhile
      (fun c => decide (c ≠ (lookupKey key).headD 0 ∧ c ≠ 0)) = value := by
    rw [eq]
    refine List.takeWhile_append_of_pos ?_ |>.trans ?_
    · intro c mem
      have apart : c ≠ backslash := fun same => plain' (same ▸ mem)
      have nonzero : c ≠ 0 := fun same => free (same ▸ mem)
      simp [lookupKey, apart, nonzero]
    · simp [lookupKey]
  rw [valueForKey, found, textPacket, List.tail_cons, Option.bind_some]
  dsimp only
  rw [taken, if_neg]
  rw [eq, List.length_append, List.length_cons]
  omega

end Utils

end GamespyEmulator
