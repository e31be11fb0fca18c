import GamespyEmulator.Lib.Wire

/-!
Numerals as text: rendering a number in decimal or in upper-case hexadecimal, reading
decimal digits back the way `std::from_chars` does for an unsigned type, and the round
trip between the two.
-/

namespace Numeral

open Wire

/-- The digit character of `d`, upper case beyond nine. -/
def digitChar (d : Nat) : UInt8 := UInt8.ofNat (if d < 10 then 48 + d else 55 + d)

/-- The numeral of `n` in base `b`, most significant digit first. -/
def render (b n : Nat) : Bytes :=
  if n = 0 then [48] else (Nat.digits b n).reverse.map digitChar

def decimal (n : Nat) : Bytes := render 10 n

def hexUpper (n : Nat) : Bytes := render 16 n

/-- `std::format`'s minimum field width for a number: blanks on the left. -/
def padLeft (width : Nat) (s : Bytes) : Bytes := List.replicate (width - s.length) 32 ++ s

def isDigit (b : UInt8) : Bool := 48 ≤ b && b ≤ 57

/-- The numeral of an integer. -/
def integer (n : Int) : Bytes := if n < 0 then 45 :: decimal n.natAbs else decimal n.natAbs

/-- The value of a string of decimal digits. -/
def value (digits : Bytes) : Nat := digits.foldl (fun acc b => acc * 10 + (b.toNat - 48)) 0

/-- What `std::from_chars` reports: the value and the unread rest, or the error
code. -/
inductive FromChars where
  | ok (value : Nat) (rest : Bytes)
  | invalidArgument
  | resultOutOfRange
deriving DecidableEq, Repr

/-- `std::from_chars` in base ten for an unsigned type with maximum `limit`: the
longest run of digits is the numeral. -/
def fromChars (limit : Nat) (s : Bytes) : FromChars :=
  let digits := s.takeWhile isDigit
  if digits.isEmpty then .invalidArgument
  else if value digits ≤ limit then .ok (value digits) (s.dropWhile isDigit)
  else .resultOutOfRange

theorem digitChar_isDigit {d : Nat} (h : d < 10) : isDigit (digitChar d) := by
  interval_cases d <;> rfl

theorem digitChar_value {d : Nat} (h : d < 10) : (digitChar d).toNat - 48 = d := by
  interval_cases d <;> rfl

theorem decimal_all_digits (n : Nat) : ∀ b ∈ decimal n, isDigit b := by
  intro b mem
  unfold decimal render at mem
  split at mem
  · simp only [List.mem_singleton] at mem
    subst mem
    rfl
  · obtain ⟨d, hd, rfl⟩ := List.mem_map.mp mem
    exact digitChar_isDigit (Nat.digits_lt_base (by decide) (List.mem_reverse.mp hd))

theorem decimal_ne_nil (n : Nat) : decimal n ≠ [] := by
  unfold decimal render
  split
  · simp
  · simp [Nat.digits_ne_nil_iff_ne_zero, *]

/-- The characters of an integer's numeral. -/
theorem integer_chars (n : Int) : ∀ b ∈ integer n, isDigit b ∨ b = 45 := by
  intro b mem
  unfold integer at mem
  split at mem
  · rcases List.mem_cons.mp mem with sign | digit
    · exact .inr sign
    · exact .inl (decimal_all_digits _ b digit)
  · exact .inl (decimal_all_digits _ b mem)

/-- Digits read most significant first, each by `digit`. -/
def readDigits (base : Nat) (digit : UInt8 → Nat) (s : Bytes) : Nat :=
  s.foldl (fun acc c => acc * base + digit c) 0

/-- Reading most significant digits first is `Nat.ofDigits` of the reversed list. -/
theorem readDigits_map {base : Nat} {digit : UInt8 → Nat} {char : Nat → UInt8} (ds : List Nat)
    (reads : ∀ d ∈ ds, digit (char d) = d) :
    readDigits base digit (ds.reverse.map char) = Nat.ofDigits base ds := by
  induction ds with
  | nil => rfl
  | cons d ds ih =>
      have hd := reads d List.mem_cons_self
      have ih := ih fun e he => reads e (List.mem_cons_of_mem _ he)
      unfold readDigits at ih ⊢
      rw [List.reverse_cons, List.map_append, List.foldl_append, ih, Nat.ofDigits_cons]
      simp only [List.map_cons, List.map_nil, List.foldl_cons, List.foldl_nil, hd]
      ring

/-- Leading zeros do not count. -/
theorem readDigits_zeros {base : Nat} {digit : UInt8 → Nat} {zero : UInt8} (none : digit zero = 0)
    (count : Nat) (s : Bytes) :
    readDigits base digit (List.replicate count zero ++ s) = readDigits base digit s := by
  unfold readDigits
  rw [List.foldl_append]
  congr 1
  induction count with
  | zero => rfl
  | succ count ih => rw [List.replicate_succ, List.foldl_cons, none, Nat.zero_mul, Nat.add_zero, ih]

theorem value_map_digitChar (ds : List Nat) (small : ∀ d ∈ ds, d < 10) :
    value (ds.reverse.map digitChar) = Nat.ofDigits 10 ds :=
  readDigits_map ds fun d mem => digitChar_value (small d mem)

@[simp] theorem value_decimal (n : Nat) : value (decimal n) = n := by
  unfold decimal render
  split
  · simp [value, *]
  · rw [value_map_digitChar _ fun d hd => Nat.digits_lt_base (by decide) hd, Nat.ofDigits_digits]

/-- Only the numeral of zero begins with a zero. -/
theorem decimal_head {n : Nat} (zero : (decimal n).head? = some 48) : decimal n = [48] := by
  unfold decimal render at zero ⊢
  split
  · rfl
  · rename_i nonzero
    have digits : Nat.digits 10 n ≠ [] := Nat.digits_ne_nil_iff_ne_zero.mpr nonzero
    rw [if_neg nonzero, List.head?_map, List.head?_reverse, List.getLast?_eq_some_getLast digits,
      Option.map_some] at zero
    have small := Nat.digits_lt_base (by decide) (List.getLast_mem digits)
    have value := digitChar_value small
    rw [Option.some.inj zero] at value
    exact absurd value.symm (Nat.getLast_digit_ne_zero 10 nonzero)

/-! ### Width -/

theorem hexUpper_length {n k : Nat} (some' : 0 < k) (small : n < 16 ^ k) :
    (hexUpper n).length ≤ k := by
  unfold hexUpper render
  split
  · exact some'
  · rw [List.length_map, List.length_reverse]
    exact (Nat.digits_length_le_iff (by decide) n).mpr small

theorem padLeft_length {width : Nat} {s : Bytes} (fits : s.length ≤ width) :
    (padLeft width s).length = width := by
  rw [padLeft, List.length_append, List.length_replicate]
  omega

theorem hexUpper_nulFree (n : Nat) : NulFree (hexUpper n) := by
  unfold hexUpper render
  split
  · decide
  · intro mem
    obtain ⟨d, digit, zero⟩ := List.mem_map.mp mem
    have small : d < 16 := Nat.digits_lt_base (by decide) (List.mem_reverse.mp digit)
    interval_cases d <;> cases zero

theorem padLeft_nulFree {s : Bytes} (free : NulFree s) (width : Nat) :
    NulFree (padLeft width s) := by
  refine nulFree_append.mpr ⟨fun mem => ?_, free⟩
  have blank := List.eq_of_mem_replicate mem
  cases blank

/-! ### Reading back -/

/-- A numeral in range, read back whole. -/
theorem fromChars_decimal {n limit : Nat} (h : n ≤ limit) :
    fromChars limit (decimal n) = .ok n [] := by
  have all := decimal_all_digits n
  have take : (decimal n).takeWhile isDigit = decimal n := List.takeWhile_eq_self_iff.mpr all
  have drop : (decimal n).dropWhile isDigit = [] := List.dropWhile_eq_nil_iff.mpr all
  simp [fromChars, take, drop, h, decimal_ne_nil]

/-- The whole of `s` is a numeral exactly when it is a nonempty string of digits
whose value is in range. -/
theorem fromChars_whole {limit n : Nat} {s : Bytes} :
    fromChars limit s = .ok n [] ↔ s ≠ [] ∧ (∀ b ∈ s, isDigit b) ∧ value s = n ∧ n ≤ limit := by
  unfold fromChars
  constructor
  · intro h
    dsimp only at h
    split at h
    · cases h
    · rename_i nonempty
      split at h
      · rename_i small
        simp only [FromChars.ok.injEq, List.dropWhile_eq_nil_iff] at h
        have take : s.takeWhile isDigit = s := List.takeWhile_eq_self_iff.mpr h.2
        rw [take] at h nonempty small
        exact ⟨by simpa using nonempty, h.2, h.1, h.1 ▸ small⟩
      · cases h
  · rintro ⟨nonempty, digits, rfl, small⟩
    have take : s.takeWhile isDigit = s := List.takeWhile_eq_self_iff.mpr digits
    have drop : s.dropWhile isDigit = [] := List.dropWhile_eq_nil_iff.mpr digits
    simp [take, drop, nonempty, small]

end Numeral
