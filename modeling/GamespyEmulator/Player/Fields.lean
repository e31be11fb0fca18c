import GamespyEmulator.Player.TextPacket

/-!
The fields of a command: its key/value pairs, and what `value_for_key` reads for a key.
The lookup does not tell keys from values, so a value that is called like a key is taken
for it. `lookup_iff` says for which keys of which commands that changes what is read.
-/

namespace GamespyEmulator

open Wire

namespace Utils

/-- The part behind the first one that is called like the key. -/
def behind (key : Bytes) : List Bytes → Option Bytes
  | [] => none
  | part :: rest => if part = key then rest.head? else behind key rest

theorem behind_append {front : List Bytes} {key : Bytes} (absent : key ∉ front)
    (rest : List Bytes) : behind key (front ++ rest) = behind key rest := by
  induction front with
  | nil => rfl
  | cons part front ih =>
      obtain ⟨different, absent'⟩ := not_or.mp (List.mem_cons.not.mp absent)
      rw [List.cons_append, behind, if_neg (Ne.symm different), ih absent']

theorem behind_absent {parts : List Bytes} {key : Bytes} (absent : key ∉ parts) :
    behind key parts = none := by
  have all := behind_append absent []
  rwa [List.append_nil] at all

theorem afterFirst_absent {parts : List Bytes} {key : Bytes} (plain : Plain key)
    (plains : ∀ part ∈ parts, Plain part) (absent : key ∉ parts) :
    afterFirst (lookupKey key) (textPacket parts) = none := by
  induction parts with
  | nil =>
      have short : (lookupKey key).isPrefixOf [backslash] = false := by
        cases key <;> simp [lookupKey, List.isPrefixOf]
      rw [textPacket, afterFirst, short]
      rfl
  | cons part rest ih =>
      obtain ⟨plain', others⟩ := List.forall_mem_cons.mp plains
      obtain ⟨different, absent'⟩ := not_or.mp (List.mem_cons.not.mp absent)
      obtain ⟨tail, eq⟩ := textPacket_head rest
      have elsewhere : ¬ (lookupKey key).isPrefixOf (textPacket (part :: rest)) := by
        rw [List.isPrefixOf_iff_prefix, textPacket, lookupKey, eq, List.cons_prefix_cons]
        rintro ⟨-, begins⟩
        exact different ((plain_prefix_iff plain plain').mp begins)
      rw [textPacket] at elsewhere ⊢
      rw [afterFirst, if_neg elsewhere, lookupKey, afterFirst_plain plain']
      exact ih others absent'

/-- **`value_for_key` reads the part behind the first part called like the key**, or nothing
when there is none. -/
theorem valueForKey_behind {parts : List Bytes} {key : Bytes} (plain : Plain key)
    (plains : ∀ part ∈ parts, Plain part) (free : ∀ part ∈ parts, NulFree part) :
    valueForKey (textPacket parts) (lookupKey key) = behind key parts := by
  by_cases mem : key ∈ parts
  · obtain ⟨front, back, rfl, absent⟩ := List.eq_append_cons_of_mem mem
    have before : ∀ part ∈ front, Plain part := fun part inside =>
      plains part (List.mem_append_left _ inside)
    rw [behind_append absent, behind, if_pos rfl]
    cases back with
    | nil =>
        rw [valueForKey, afterFirst_textPacket plain before absent]
        rfl
    | cons value back =>
        have inside : value ∈ front ++ key :: value :: back := by simp
        exact valueForKey_textPacket plain before absent (plains value inside) (free value inside)
  · rw [valueForKey, afterFirst_absent plain plains mem, behind_absent mem]
    rfl

end Utils

/-! ### Commands -/

def finalKey : Bytes := ascii "final"

/-- A command with its key/value pairs. -/
structure TextCommand where
  command : Bytes
  pairs : List (Bytes × Bytes)
  plain : ∀ text ∈ command :: pairs.flatMap fun pair => [pair.1, pair.2],
    Utils.Plain text ∧ NulFree text
  distinct : (pairs.map Prod.fst).Nodup
  keys : ∀ key ∈ pairs.map Prod.fst, key ≠ [] ∧ key ≠ command ∧ key ≠ finalKey

namespace TextCommand

open Utils

/-- The parts of the pairs and of what closes them. -/
def pairParts (pairs : List (Bytes × Bytes)) : List Bytes :=
  (pairs.flatMap fun pair => [pair.1, pair.2]) ++ [finalKey]

/-- The parts between the backslashes: the command has no value. -/
def parts (c : TextCommand) : List Bytes := c.command :: [] :: pairParts c.pairs

/-- The packet as it is sent. -/
def bytes (c : TextCommand) : Bytes := textPacket c.parts

theorem bytes_eq (c : TextCommand) :
    c.bytes = [Utils.backslash] ++ c.command ++ [Utils.backslash] ++
      (c.pairs.flatMap fun pair => [Utils.backslash] ++ pair.1 ++ [Utils.backslash] ++ pair.2) ++
      [Utils.backslash] ++ finalKey ++ [Utils.backslash] := by
  have pairs (rest : List Bytes) : ∀ list : List (Bytes × Bytes),
      textPacket ((list.flatMap fun pair => [pair.1, pair.2]) ++ rest) =
        (list.flatMap fun pair => [Utils.backslash] ++ pair.1 ++ [Utils.backslash] ++ pair.2) ++
          textPacket rest := by
    intro list
    induction list with
    | nil => rfl
    | cons pair list ih => simp [textPacket, ih]
  simp [bytes, parts, pairParts, textPacket, pairs]

/-! ### What a key is read as -/

/-- The value paired with a key. -/
def paired (pairs : List (Bytes × Bytes)) (key : Bytes) : Option Bytes :=
  (pairs.find? (·.1 = key)).map Prod.snd

/-- The name behind a pair's value: of the next key, or the terminator's. -/
def nextName (pairs : List (Bytes × Bytes)) : Bytes := (pairs.head?.map Prod.fst).getD finalKey

/-- The first value in front of the key's own pair that is called like the key, if there is
one, is followed by a name that equals the value looked up. -/
def Undisturbed (pairs : List (Bytes × Bytes)) (key : Bytes) : Prop :=
  ∀ front name back, pairs = front ++ (name, key) :: back →
    key ∉ (front ++ [(name, key)]).map Prod.fst → key ∉ front.map Prod.snd →
    paired pairs key = some (nextName back)

section Pairs

variable {key name value : Bytes} {rest : List (Bytes × Bytes)}

theorem undisturbed_own : Undisturbed ((key, value) :: rest) key := by
  intro front name back split unnamed _
  cases front with
  | nil =>
      cases split
      exact absurd (by simp) unnamed
  | cons pair front =>
      cases split
      exact absurd (by simp) unnamed

theorem undisturbed_taken (other : name ≠ key) :
    Undisturbed ((name, key) :: rest) key ↔ paired rest key = some (nextName rest) := by
  have same : paired ((name, key) :: rest) key = paired rest key := by simp [paired, other]
  constructor
  · intro undisturbed
    rw [← same]
    exact undisturbed [] name rest rfl (by simpa using Ne.symm other) (by simp)
  · intro matching front name' back split _ unvalued
    cases front with
    | nil =>
        cases split
        rw [same, matching]
    | cons pair front =>
        cases split
        exact absurd (by simp) unvalued

theorem undisturbed_other (other : name ≠ key) (other' : value ≠ key) :
    Undisturbed ((name, value) :: rest) key ↔ Undisturbed rest key := by
  have same : paired ((name, value) :: rest) key = paired rest key := by simp [paired, other]
  constructor
  · intro undisturbed front name' back split unnamed unvalued
    rw [← same]
    refine undisturbed ((name, value) :: front) name' back (by rw [split]; rfl) ?_ ?_
    · rw [List.cons_append, List.map_cons, List.mem_cons, not_or]
      exact ⟨Ne.symm other, unnamed⟩
    · rw [List.map_cons, List.mem_cons, not_or]
      exact ⟨Ne.symm other', unvalued⟩
  · intro undisturbed front name' back split unnamed unvalued
    cases front with
    | nil =>
        cases split
        exact absurd rfl other'
    | cons pair front =>
        cases split
        rw [same]
        refine undisturbed front name' back rfl ?_ ?_
        · exact fun mem => unnamed (List.mem_cons_of_mem _ mem)
        · exact fun mem => unvalued (List.mem_cons_of_mem _ mem)

end Pairs

theorem pairParts_head (pairs : List (Bytes × Bytes)) : (pairParts pairs).head? = some (nextName pairs) := by
  cases pairs <;> rfl

theorem behind_pairParts_iff {key : Bytes} (pairs : List (Bytes × Bytes)) :
    behind key (pairParts pairs) = paired pairs key ↔ Undisturbed pairs key := by
  induction pairs with
  | nil =>
      refine iff_of_true ?_ ?_
      · simp [pairParts, behind, paired]
      · intro front name back split
        cases front <;> cases split
  | cons pair rest ih =>
      obtain ⟨name, value⟩ := pair
      have parts : pairParts ((name, value) :: rest) = name :: value :: pairParts rest := rfl
      rw [parts, behind]
      by_cases own : name = key
      · subst own
        refine iff_of_true ?_ undisturbed_own
        simp [paired]
      have same : paired ((name, value) :: rest) key = paired rest key := by simp [paired, own]
      rw [if_neg own, behind, same]
      by_cases taken : value = key
      · subst taken
        rw [if_pos rfl, pairParts_head, undisturbed_taken own, eq_comm]
      · rw [if_neg taken, ih, undisturbed_other own taken]

instance (pairs : List (Bytes × Bytes)) (key : Bytes) : Decidable (Undisturbed pairs key) :=
  decidable_of_iff _ (behind_pairParts_iff pairs)

/-- A value called like the key, in front of the key's own pair, hides that pair. -/
theorem behind_taken {front back : List (Bytes × Bytes)} {key name : Bytes}
    (unnamed : key ∉ (front ++ [(name, key)]).map Prod.fst) (unvalued : key ∉ front.map Prod.snd) :
    behind key (pairParts (front ++ (name, key) :: back)) = some (nextName back) := by
  have split : pairParts (front ++ (name, key) :: back) =
      ((front.flatMap fun pair => [pair.1, pair.2]) ++ [name]) ++ key :: pairParts back := by
    simp [pairParts]
  have absent : key ∉ (front.flatMap fun pair => [pair.1, pair.2]) ++ [name] := by
    intro mem
    rcases List.mem_append.mp mem with listed | last
    · obtain ⟨pair, inside, text⟩ := List.mem_flatMap.mp listed
      rcases List.mem_pair.mp text with rfl | rfl
      · exact unnamed (List.mem_map_of_mem (List.mem_append_left _ inside))
      · exact unvalued (List.mem_map_of_mem inside)
    · exact unnamed (by simp [List.mem_singleton.mp last])
  rw [split, behind_append absent, behind, if_pos rfl, pairParts_head]

theorem parts_plain (c : TextCommand) : ∀ part ∈ c.parts, Plain part ∧ NulFree part := by
  intro part mem
  have closing : Plain finalKey ∧ NulFree finalKey := by decide
  have empty : Plain [] ∧ NulFree [] := by decide
  simp only [parts, pairParts, List.mem_cons, List.mem_append, List.not_mem_nil, or_false] at mem
  rcases mem with rfl | rfl | pair | rfl
  · exact c.plain _ List.mem_cons_self
  · exact empty
  · exact c.plain part (List.mem_cons_of_mem _ pair)
  · exact closing

/-- A lookup of another key than the command goes through the pairs. -/
theorem lookup_eq (c : TextCommand) {key : Bytes} (some' : key ≠ []) (plain : Plain key)
    (other : key ≠ c.command) :
    valueForKey c.bytes (lookupKey key) = behind key (pairParts c.pairs) := by
  rw [bytes, valueForKey_behind plain (fun part mem => (c.parts_plain part mem).1)
    fun part mem => (c.parts_plain part mem).2]
  rw [parts, behind, if_neg (Ne.symm other), behind, if_neg (Ne.symm some')]

/-- **The lookup of a key gives the value paired with it, and nothing for a key without a
pair, exactly when no value in front of its pair is called like the key**, or what follows
that value happens to be called like the value looked up. -/
theorem lookup_iff (c : TextCommand) {key : Bytes} (some' : key ≠ []) (plain : Plain key)
    (other : key ≠ c.command) :
    valueForKey c.bytes (lookupKey key) = paired c.pairs key ↔ Undisturbed c.pairs key := by
  rw [c.lookup_eq some' plain other, behind_pairParts_iff]

end TextCommand

namespace FieldSample

/-- A login packet with the client's challenge, the player's name and the response. -/
def login (challenge response : String)
    (plain : ∀ text ∈ [ascii challenge, ascii response], Utils.Plain text ∧ NulFree text) :
    TextCommand where
  command := ascii "login"
  pairs := [(ascii "challenge", ascii challenge), (ascii "user", ascii "gamer"),
    (ascii "response", ascii response)]
  plain := by
    have rest : ∀ text ∈ [ascii "login", ascii "challenge", ascii "user", ascii "gamer",
        ascii "response"], Utils.Plain text ∧ NulFree text := by decide
    simp only [List.forall_mem_cons, List.flatMap_cons, List.cons_append, List.nil_append] at *
    tauto
  distinct := by
    simp only [List.map_cons, List.map_nil]
    decide
  keys := by
    simp only [List.map_cons, List.map_nil]
    decide

/-- A response is read as it was sent. -/
theorem lookup_response :
    Utils.valueForKey (login "abc" "xyz" (by decide)).bytes
        (Utils.lookupKey (ascii "response")) = some (ascii "xyz") := by
  have undisturbed : TextCommand.Undisturbed (login "abc" "xyz" (by decide)).pairs
      (ascii "response") := by
    decide
  refine (TextCommand.lookup_iff _ ?_ ?_ ?_).mpr undisturbed
  · decide
  · decide
  · decide

/-- A challenge that is called `response`: the response is read as `user`. -/
theorem lookup_fails_challenge :
    ¬ ∀ (c : TextCommand) (key : Bytes), key ≠ [] → Utils.Plain key → NulFree key →
      key ≠ c.command →
      Utils.valueForKey c.bytes (Utils.lookupKey key) = TextCommand.paired c.pairs key := by
  intro claimed
  have read := claimed (login "response" "xyz" (by decide)) (ascii "response")
    (by decide) (by decide) (by decide) (by decide)
  revert read
  decide

end FieldSample

end GamespyEmulator
