import Mathlib

/-!
Byte strings on the wire: NUL-terminated strings and big-endian integers over
`List UInt8`. Each reader comes with the writer it inverts: `splitNul` reads
what `terminated` writes, `readBe16` and `readBe32` read what `be16` and `be32`
write. Inversion lemmas say what a successful read proves about its input.
-/

namespace Wire

/-- A byte string: the contents of a buffer, of a C++ string or of a view. -/
abbrev Bytes := List UInt8

instance bytesLawfulBEq : @LawfulBEq Bytes (@List.instBEq UInt8 instBEqOfDecidableEq) :=
  inferInstance

/-- The bytes of an ASCII literal. -/
def ascii (text : String) : Bytes := text.toByteArray.data.toList

/-- A text that begins with a word begins with no other one, unless one of the two begins
the other. -/
theorem not_isPrefixOf {text word other : Bytes} (begins : word.isPrefixOf text)
    (apart : ¬ word <+: other ∧ ¬ other <+: word) : ¬ other.isPrefixOf text := by
  intro begins'
  rw [List.isPrefixOf_iff_prefix] at begins begins'
  rcases List.prefix_or_prefix_of_prefix begins begins' with first | second
  · exact apart.1 first
  · exact apart.2 second

/-! ### NUL-terminated strings -/

/-- No byte of `s` is NUL, so `s` survives NUL termination. -/
def NulFree (s : Bytes) : Prop := (0 : UInt8) ∉ s

instance : DecidablePred NulFree := fun s => inferInstanceAs (Decidable (0 ∉ s))

@[simp] theorem nulFree_nil : NulFree [] := by simp [NulFree]

@[simp] theorem nulFree_cons {b : UInt8} {s : Bytes} :
    NulFree (b :: s) ↔ b ≠ 0 ∧ NulFree s := by
  simp [NulFree, eq_comm]

@[simp] theorem nulFree_append {s t : Bytes} : NulFree (s ++ t) ↔ NulFree s ∧ NulFree t := by
  simp [NulFree]

/-- The C string that starts at a pointer: the bytes of `memory` before its
first NUL. -/
def cstr (memory : Bytes) : Bytes := memory.takeWhile (· ≠ 0)

theorem cstr_nulFree (memory : Bytes) : NulFree (cstr memory) := by
  intro mem
  have := List.mem_takeWhile_imp mem
  simp at this

theorem cstr_eq_self {s : Bytes} (free : NulFree s) : cstr s = s := by
  refine List.takeWhile_eq_self_iff.mpr fun b mem => ?_
  simpa using fun h : b = 0 => free (h ▸ mem)

theorem cstr_append_of_mem {s : Bytes} (h : 0 ∈ s) (rest : Bytes) : cstr (s ++ rest) = cstr s := by
  induction s with
  | nil => simp at h
  | cons b s ih =>
      by_cases hb : b = 0
      · simp [cstr, hb]
      · have := ih ((List.mem_cons.mp h).resolve_left (Ne.symm hb))
        simpa [cstr, hb] using this

/-- The string before the first NUL and the bytes after it; `none` when there
is no NUL. -/
def splitNul : Bytes → Option (Bytes × Bytes)
  | [] => none
  | b :: bs => if b = 0 then some ([], bs) else (splitNul bs).map fun out => (b :: out.1, out.2)

/-- A string as the wire carries it. -/
def terminated (s : Bytes) : Bytes := s ++ [0]

/-- A sequence of strings, each terminated. -/
def strings (ss : List Bytes) : Bytes := ss.flatMap terminated

@[simp] theorem strings_nil : strings [] = [] := rfl

@[simp] theorem strings_cons (s : Bytes) (ss : List Bytes) :
    strings (s :: ss) = terminated s ++ strings ss := rfl

@[simp] theorem strings_append (ss ts : List Bytes) : strings (ss ++ ts) = strings ss ++ strings ts :=
  List.flatMap_append

theorem splitNul_append_zero {s : Bytes} (free : NulFree s) (rest : Bytes) :
    splitNul (s ++ 0 :: rest) = some (s, rest) := by
  induction s with
  | nil => simp [splitNul]
  | cons b s ih =>
      obtain ⟨hb, hs⟩ := nulFree_cons.mp free
      simp [splitNul, hb, ih hs]

@[simp] theorem splitNul_terminated {s : Bytes} (free : NulFree s) (rest : Bytes) :
    splitNul (terminated s ++ rest) = some (s, rest) := by
  simpa [terminated] using splitNul_append_zero free rest

/-- A successful read found a terminated, NUL-free string at the front. -/
theorem splitNul_eq_some {bs s rest : Bytes} (h : splitNul bs = some (s, rest)) :
    bs = terminated s ++ rest ∧ NulFree s := by
  induction bs generalizing s with
  | nil => simp [splitNul] at h
  | cons b bs ih =>
      unfold splitNul at h
      split at h
      · cases h
        simp_all [terminated]
      · obtain ⟨⟨t, rest'⟩, ht, eq⟩ := Option.map_eq_some_iff.mp h
        cases eq
        obtain ⟨hbs, free⟩ := ih ht
        refine ⟨by simp [hbs, terminated], nulFree_cons.mpr ⟨by assumption, free⟩⟩

theorem splitNul_length_lt {bs s rest : Bytes} (h : splitNul bs = some (s, rest)) :
    rest.length < bs.length := by
  rw [(splitNul_eq_some h).1]
  simp [terminated]
  omega

theorem splitNul_eq_none {bs : Bytes} : splitNul bs = none ↔ NulFree bs := by
  induction bs with
  | nil => simp [splitNul]
  | cons b bs ih => by_cases hb : b = 0 <;> simp [splitNul, hb, ih]

/-- A nonempty buffer whose last byte is NUL holds a terminated string, and what
follows that string is empty or ends in NUL again. -/
theorem splitNul_of_getLast {bs : Bytes} (ends : bs.getLast? = some 0) :
    ∃ s rest, splitNul bs = some (s, rest) ∧ (rest = [] ∨ rest.getLast? = some 0) := by
  cases h : splitNul bs with
  | none => exact absurd (List.mem_of_getLast? ends) (splitNul_eq_none.mp h)
  | some out =>
      obtain ⟨s, rest⟩ := out
      refine ⟨s, rest, rfl, ?_⟩
      have split := (splitNul_eq_some h).1
      cases rest with
      | nil => exact .inl rfl
      | cons b tail =>
          rw [split, List.getLast?_append] at ends
          exact .inr (by simpa [List.getLast?_cons] using ends)

/-- Bytes that can be cut into terminated strings. -/
def EndsNul (bs : Bytes) : Prop := bs = [] ∨ bs.getLast? = some 0

theorem strings_endsNul (ss : List Bytes) : EndsNul (strings ss) := by
  rcases List.eq_nil_or_concat ss with rfl | ⟨front, s, rfl⟩
  · exact .inl rfl
  · exact .inr (by simp [terminated])

theorem endsNul_append {bs rest : Bytes} (ends : EndsNul (bs ++ rest)) : EndsNul rest := by
  cases rest with
  | nil => exact .inl rfl
  | cons b tail =>
      rcases ends with none | last
      · simp at none
      · exact .inr (by simpa [List.getLast?_append, List.getLast?_cons] using last)

theorem endsNul_iff_strings {bs : Bytes} :
    EndsNul bs ↔ ∃ ss, (∀ s ∈ ss, NulFree s) ∧ bs = strings ss := by
  constructor
  · intro ends
    induction len : bs.length using Nat.strong_induction_on generalizing bs with
    | _ n ih =>
        rcases ends with rfl | last
        · exact ⟨[], by simp, rfl⟩
        · obtain ⟨s, rest, found, endsRest⟩ := splitNul_of_getLast last
          obtain ⟨ss, free, rfl⟩ := ih rest.length (len ▸ splitNul_length_lt found) endsRest rfl
          obtain ⟨split, sFree⟩ := splitNul_eq_some found
          exact ⟨s :: ss, by simpa using ⟨sFree, free⟩, by simpa using split⟩
  · rintro ⟨ss, -, rfl⟩
    exact strings_endsNul ss

/-! ### Big-endian integers -/

theorem shiftLeft_or_eq {a b : Nat} {w : Nat} (hb : b < 2 ^ w) : a <<< w ||| b = a * 2 ^ w + b := by
  rw [Nat.shiftLeft_eq, Nat.mul_comm]
  exact (Nat.two_pow_add_eq_or_of_lt hb a).symm

def be16 (n : UInt16) : Bytes := [(n >>> 8).toUInt8, n.toUInt8]

def readBe16 (hi lo : UInt8) : UInt16 := (hi.toUInt16 <<< 8) ||| lo.toUInt16

theorem readBe16_toNat (hi lo : UInt8) : (readBe16 hi lo).toNat = hi.toNat * 256 + lo.toNat := by
  have h1 := hi.toNat_lt
  have h2 := lo.toNat_lt
  have small : hi.toNat <<< 8 < 65536 := by rw [Nat.shiftLeft_eq]; omega
  simp only [readBe16, UInt16.toNat_or, UInt16.toNat_shiftLeft, UInt8.toNat_toUInt16]
  simp only [show (8 : UInt16).toNat % 16 = 8 from rfl, Nat.mod_eq_of_lt small]
  exact shiftLeft_or_eq h2

@[simp] theorem readBe16_be16 (n : UInt16) : readBe16 (n >>> 8).toUInt8 n.toUInt8 = n := by
  apply UInt16.toNat_inj.mp
  have hn := n.toNat_lt
  rw [readBe16_toNat]
  simp only [UInt16.toNat_toUInt8, UInt16.toNat_shiftRight, Nat.shiftRight_eq_div_pow,
    show (8 : UInt16).toNat % 16 = 8 from rfl]
  omega

def be32 (n : UInt32) : Bytes :=
  [(n >>> 24).toUInt8, (n >>> 16).toUInt8, (n >>> 8).toUInt8, n.toUInt8]

def readBe32 (b₀ b₁ b₂ b₃ : UInt8) : UInt32 :=
  (b₀.toUInt32 <<< 24) ||| (b₁.toUInt32 <<< 16) ||| (b₂.toUInt32 <<< 8) ||| b₃.toUInt32

theorem readBe32_toNat (b₀ b₁ b₂ b₃ : UInt8) :
    (readBe32 b₀ b₁ b₂ b₃).toNat =
      b₀.toNat * 16777216 + b₁.toNat * 65536 + b₂.toNat * 256 + b₃.toNat := by
  have h0 := b₀.toNat_lt
  have h1 := b₁.toNat_lt
  have h2 := b₂.toNat_lt
  have h3 := b₃.toNat_lt
  have s0 : b₀.toNat <<< 24 < 4294967296 := by rw [Nat.shiftLeft_eq]; omega
  have s1 : b₁.toNat <<< 16 < 4294967296 := by rw [Nat.shiftLeft_eq]; omega
  have s2 : b₂.toNat <<< 8 < 4294967296 := by rw [Nat.shiftLeft_eq]; omega
  simp only [readBe32, UInt32.toNat_or, UInt32.toNat_shiftLeft, UInt8.toNat_toUInt32,
    show (24 : UInt32).toNat % 32 = 24 from rfl, show (16 : UInt32).toNat % 32 = 16 from rfl,
    show (8 : UInt32).toNat % 32 = 8 from rfl, Nat.mod_eq_of_lt s0, Nat.mod_eq_of_lt s1,
    Nat.mod_eq_of_lt s2]
  -- Reassociate so that each `|||` joins a high part with a strictly smaller low part.
  rw [Nat.or_assoc, Nat.or_assoc, shiftLeft_or_eq (w := 8) (by omega),
    shiftLeft_or_eq (w := 16) (by omega), shiftLeft_or_eq (w := 24) (by omega)]
  omega

@[simp] theorem readBe32_be32 (n : UInt32) :
    readBe32 (n >>> 24).toUInt8 (n >>> 16).toUInt8 (n >>> 8).toUInt8 n.toUInt8 = n := by
  apply UInt32.toNat_inj.mp
  have hn := n.toNat_lt
  rw [readBe32_toNat]
  simp only [UInt32.toNat_toUInt8, UInt32.toNat_shiftRight, Nat.shiftRight_eq_div_pow,
    show (24 : UInt32).toNat % 32 = 24 from rfl, show (16 : UInt32).toNat % 32 = 16 from rfl,
    show (8 : UInt32).toNat % 32 = 8 from rfl]
  omega

/-- Every four bytes are those of the integer read from them. -/
theorem be32_readBe32 (b₀ b₁ b₂ b₃ : UInt8) : be32 (readBe32 b₀ b₁ b₂ b₃) = [b₀, b₁, b₂, b₃] := by
  have h0 := b₀.toNat_lt
  have h1 := b₁.toNat_lt
  have h2 := b₂.toNat_lt
  have h3 := b₃.toNat_lt
  have number := readBe32_toNat b₀ b₁ b₂ b₃
  have byte (b : UInt8) (n : UInt32) (same : n.toNat % 256 = b.toNat) : n.toUInt8 = b := by
    apply UInt8.toNat_inj.mp
    rw [UInt32.toNat_toUInt8, same]
  rw [be32, byte b₀, byte b₁, byte b₂, byte b₃]
  · rw [number]
    omega
  · rw [UInt32.toNat_shiftRight, number, Nat.shiftRight_eq_div_pow,
      show (8 : UInt32).toNat % 32 = 8 from rfl]
    omega
  · rw [UInt32.toNat_shiftRight, number, Nat.shiftRight_eq_div_pow,
      show (16 : UInt32).toNat % 32 = 16 from rfl]
    omega
  · rw [UInt32.toNat_shiftRight, number, Nat.shiftRight_eq_div_pow,
      show (24 : UInt32).toNat % 32 = 24 from rfl]
    omega

end Wire
