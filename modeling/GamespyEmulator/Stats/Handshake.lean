import GamespyEmulator.Lib.Checked
import GamespyEmulator.Stats.Client

/-!
The session key of the stats handshake and the challenge made of it. The key is the clock
truncated to 32 bits, negated if that is negative. `handshake_iff` says for which clock
values that is arithmetic without overflow; the challenge of a key then has eight
characters, and no other key has the same.
-/

namespace GamespyEmulator

open Wire

/-! ### The session key -/

/-- `m_SessionKey` from the clock, unless the negation overflows. -/
def sessionKey? (time : Int) : Option Int32 :=
  let key := Int32.ofInt time
  if key < 0 then Checked.neg key else some key

/-- Without overflow, it is the key of `Authenticate`. -/
theorem sessionKey_of_checked {time : Int} {key : Int32} (checked : sessionKey? time = some key) :
    sessionKey time = key := by
  unfold sessionKey? at checked
  unfold sessionKey
  dsimp only at checked ⊢
  split at checked
  · rename_i negative
    have value := Checked.neg_eq_some.mp checked
    rw [if_pos negative]
    refine Int32.toInt.inj ?_
    rw [Int32.toInt_neg, ← value, Int32.toInt_bmod]
  · rename_i nonnegative
    rw [if_neg nonnegative]
    exact Option.some.inj checked

theorem nonneg_iff {a : Int32} : 0 ≤ a ↔ 0 ≤ a.toInt := Int32.le_iff_toInt_le

theorem negative_iff {a : Int32} : a < 0 ↔ a.toInt < 0 := Int32.lt_iff_toInt_lt

/-- Only at one clock value in 2^32 there is no key. -/
theorem sessionKey?_eq_none {time : Int} : sessionKey? time = none ↔ time % 2 ^ 32 = 2 ^ 31 := by
  have truncated : (Int32.ofInt time).toInt = time.bmod (2 ^ 32) := Int32.toInt_ofInt
  rw [Int.bmod] at truncated
  unfold sessionKey?
  dsimp only
  split
  · rename_i negative
    rw [Checked.neg_eq_none]
    rw [negative_iff] at negative
    omega
  · rename_i nonnegative
    rw [negative_iff] at nonnegative
    refine iff_of_false (fun absent => nomatch absent) ?_
    omega

theorem sessionKey?_nonneg {time : Int} {key : Int32} (checked : sessionKey? time = some key) :
    0 ≤ key := by
  unfold sessionKey? at checked
  dsimp only at checked
  split at checked
  · rename_i negative
    have value := Checked.neg_eq_some.mp checked
    rw [negative_iff] at negative
    rw [nonneg_iff]
    omega
  · rename_i nonnegative
    rw [negative_iff, not_lt] at nonnegative
    rw [nonneg_iff, ← Option.some.inj checked]
    exact nonnegative

/-! ### The challenge -/

/-- A hexadecimal digit's value, lower case. -/
def hexDigit (c : UInt8) : Nat := if c ≤ 57 then c.toNat - 48 else c.toNat - 87

theorem readDigits_hexLower (n : Nat) : Numeral.readDigits 16 hexDigit (hexLower n) = n := by
  unfold hexLower Numeral.hexUpper Numeral.render
  split
  · simp [*, Numeral.readDigits, hexDigit]
  · rw [List.map_map, Numeral.readDigits_map, Nat.ofDigits_digits]
    intro d mem
    have small : d < 16 := Nat.digits_lt_base (by decide) mem
    interval_cases d <;> rfl

theorem hexLower_length {n k : Nat} (some' : 0 < k) (small : n < 16 ^ k) :
    (hexLower n).length ≤ k := by
  rw [hexLower, List.length_map]
  exact Numeral.hexUpper_length some' small

section Challenge

variable {a b : Int32}

theorem xor_nonneg (left : 0 ≤ a) (right : 0 ≤ b) : 0 ≤ a ^^^ b := by
  have sign (c : Int32) : 0 ≤ c ↔ c.toBitVec.msb = false := by
    rw [nonneg_iff, BitVec.msb_eq_toInt, decide_eq_false_iff_not, not_lt]
    rfl
  rw [sign] at left right ⊢
  rw [Int32.toBitVec_xor, BitVec.msb_xor, left, right]
  rfl

/-- A number that is not negative has its digits behind zeros. -/
theorem hex8_nonneg (nonneg : 0 ≤ a) : hex8 a =
    List.replicate (8 - (hexLower a.toInt.natAbs).length) 48 ++ hexLower a.toInt.natAbs := by
  have sign : ¬ a < 0 := by
    rw [nonneg_iff] at nonneg
    rw [negative_iff]
    omega
  exact if_neg sign

theorem hex8_length (nonneg : 0 ≤ a) : (hex8 a).length = 8 := by
  have range := Checked.fits_toInt a
  have small : a.toInt.natAbs < 16 ^ 8 := by
    unfold Checked.FitsInt32 at range
    omega
  have short := hexLower_length (by decide) small
  rw [hex8_nonneg nonneg, List.length_append, List.length_replicate]
  omega

theorem readDigits_hex8 (nonneg : 0 ≤ a) :
    Numeral.readDigits 16 hexDigit (hex8 a) = a.toInt.natAbs := by
  have zero : hexDigit 48 = 0 := rfl
  rw [hex8_nonneg nonneg, Numeral.readDigits_zeros zero, readDigits_hexLower]

theorem createChallenge_length (challenge : Int32) :
    (createChallenge challenge).length = (hex8 challenge).length := by
  simp [createChallenge]

/-- The shifts depend on the position only. -/
theorem hex8_of_createChallenge (same : createChallenge a = createChallenge b) :
    hex8 a = hex8 b := by
  have lengths : (hex8 a).length = (hex8 b).length := by
    rw [← createChallenge_length, same, createChallenge_length]
  refine List.ext_getElem lengths fun i left right => ?_
  have shifted : (createChallenge a)[i]? = (createChallenge b)[i]? := by rw [same]
  simpa [createChallenge, left, right] using shifted

theorem createChallenge_inj (left : 0 ≤ a) (right : 0 ≤ b)
    (same : createChallenge a = createChallenge b) : a = b := by
  have read := congrArg (Numeral.readDigits 16 hexDigit) (hex8_of_createChallenge same)
  rw [readDigits_hex8 left, readDigits_hex8 right] at read
  rw [nonneg_iff] at left right
  refine Int32.toInt.inj ?_
  omega

end Challenge

/-! ### The handshake -/

/-- The session key of a clock value is computed without overflow and not negative, and its
challenge has eight characters and is no other key's. -/
def HandshakeSound (time : Int) : Prop :=
  ∃ key, sessionKey? time = some key ∧ sessionKey time = key ∧ 0 ≤ key ∧
    (createChallenge (key ^^^ challengeXor)).length = 8 ∧
    ∀ other : Int32, 0 ≤ other → other ≠ key →
      createChallenge (other ^^^ challengeXor) ≠ createChallenge (key ^^^ challengeXor)

/-- **The handshake is sound at every clock value that is not 2^31 modulo 2^32.** -/
theorem handshake_iff (time : Int) : HandshakeSound time ↔ time % 2 ^ 32 ≠ 2 ^ 31 := by
  rw [ne_eq, ← sessionKey?_eq_none]
  constructor
  · rintro ⟨key, checked, -⟩ overflows
    rw [overflows] at checked
    cases checked
  · intro computed
    obtain ⟨key, checked⟩ := Option.ne_none_iff_exists'.mp computed
    have mask : 0 ≤ challengeXor := by decide
    have nonneg := sessionKey?_nonneg checked
    have masked := xor_nonneg nonneg mask
    refine ⟨key, checked, sessionKey_of_checked checked, nonneg, ?_,
      fun other proper differ same => ?_⟩
    · rw [createChallenge_length, hex8_length masked]
    · have equal := createChallenge_inj (xor_nonneg proper mask) masked same
      exact differ ((Int32.xor_left_inj challengeXor).mp equal)

/-- The second at which 32 bits no longer hold the clock. -/
theorem handshake_fails_boundary :
    ¬ ∀ time : Int, -2 ^ 63 ≤ time → time < 2 ^ 63 → HandshakeSound time := by
  intro sound
  obtain ⟨key, checked, -⟩ := sound (2 ^ 31) (by decide) (by decide)
  have overflows : sessionKey? (2 ^ 31) = none := sessionKey?_eq_none.mpr rfl
  rw [overflows] at checked
  cases checked

example : createChallenge (sessionKey 1700000000 ^^^ challengeXor) = ascii "FvtDMF|N" := rfl

end GamespyEmulator
