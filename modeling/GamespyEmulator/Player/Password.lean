import GamespyEmulator.Utils

/-!
The password codec of `utils.cpp`: `passencode` masks a password with a fixed key
stream and writes it in base64, `passdecode` reads it back. Decoding trims the NULs
that padding leaves, and with them the NULs of the masked password itself.

`passdecode_passencode` says what comes back: the password without the bytes at its
end that equal the key stream.
-/

namespace GamespyEmulator.Utils

open Wire

/-! ### Masking -/

/-- `std::minstd_rand0`. -/
def minstd (state : Nat) : Nat := 16807 * state % 2147483647

/-- The seed "gspy". -/
def seed : Nat := 0x79707367

def mask (state : Nat) : Bytes → Bytes
  | [] => []
  | c :: rest => (c ^^^ UInt8.ofNat (minstd state % 0xFF)) :: mask (minstd state) rest

/-- `gspassenc`. -/
def gspassenc (password : Bytes) : Bytes := mask seed password

@[simp] theorem mask_mask (state : Nat) (s : Bytes) : mask state (mask state s) = s := by
  induction s generalizing state with
  | nil => rfl
  | cons c rest ih => simp [mask, ih]

@[simp] theorem mask_length (state : Nat) (s : Bytes) : (mask state s).length = s.length := by
  induction s generalizing state with
  | nil => rfl
  | cons c rest ih => simp [mask, ih]

@[simp] theorem gspassenc_gspassenc (s : Bytes) : gspassenc (gspassenc s) = s := mask_mask seed s

/-! ### Base64 -/

/-- One character; padding reads as zero bits, and another character throws. -/
def sextetOf (c : UInt8) : Option UInt8 :=
  if c = 61 then some 0 else (base64Table.idxOf? c).map UInt8.ofNat

/-- The bytes of a row of 6-bit groups. A group too few for a byte is read past the
end, which throws. -/
def octets : List UInt8 → Option Bytes
  | [] => some []
  | [_] => none
  | [a, b] => some [a <<< 2 ||| b >>> 4]
  | [a, b, c] => some [a <<< 2 ||| b >>> 4, b <<< 4 ||| c >>> 2]
  | a :: b :: c :: d :: rest =>
      (octets rest).map ([a <<< 2 ||| b >>> 4, b <<< 4 ||| c >>> 2, c <<< 6 ||| d] ++ ·)

/-- `trim_right_copy_if` of NULs. -/
def trimRight (s : Bytes) : Bytes := s.rdropWhile (· == 0)

/-- `base64_decode`; `none` where it throws. -/
def base64Decode (data : Bytes) : Option Bytes :=
  ((data.mapM sextetOf).bind octets).map trimRight

/-! ### Passwords -/

def replace (old new : UInt8) (s : Bytes) : Bytes := s.map fun c => if c = old then new else c

/-- `utils::passencode`. -/
def passencode (password : Bytes) : Bytes :=
  replace 47 93 (replace 43 91 (replace 61 95 (base64Encode (gspassenc password))))

/-- `utils::passdecode`; `none` where it throws. -/
def passdecode (password : Bytes) : Option Bytes :=
  (base64Decode (replace 93 47 (replace 91 43 (replace 95 61 password)))).map gspassenc

/-! ### Reading back -/

theorem sextetOf_base64Char {sextet : UInt8} (small : sextet.toNat < 64) :
    sextetOf (base64Char sextet) = some sextet := by
  have all : ∀ n < 64, sextetOf (base64Char (UInt8.ofNat n)) = some (UInt8.ofNat n) := by
    decide
  simpa using all sextet.toNat small

/-- The characters of a base64 text. -/
def isBase64 (c : UInt8) : Bool := base64Table.contains c || c == 61

theorem base64Char_isBase64 {sextet : UInt8} (small : sextet.toNat < 64) :
    isBase64 (base64Char sextet) := by
  have all : ∀ n < 64, isBase64 (base64Char (UInt8.ofNat n)) := by
    decide
  simpa using all sextet.toNat small

/-- The replacements of `passdecode` undo those of `passencode`. -/
theorem unreplace {c : UInt8} (base64 : isBase64 c) :
    replace 93 47 (replace 91 43 (replace 95 61 (replace 47 93 (replace 43 91
      (replace 61 95 [c]))))) = [c] := by
  have other {b : UInt8} (outside : isBase64 b = false) : c ≠ b := by
    rintro rfl
    rw [outside] at base64
    cases base64
  have underscore : c ≠ 95 := other rfl
  have left : c ≠ 91 := other rfl
  have right : c ≠ 93 := other rfl
  by_cases pad : c = 61
  · subst pad
    rfl
  by_cases plus : c = 43
  · subst plus
    rfl
  by_cases slash : c = 47
  · subst slash
    rfl
  simp [replace, pad, plus, slash, underscore, left, right]

theorem unreplace_all {s : Bytes} (base64 : ∀ c ∈ s, isBase64 c) :
    replace 93 47 (replace 91 43 (replace 95 61 (replace 47 93 (replace 43 91
      (replace 61 95 s))))) = s := by
  induction s with
  | nil => rfl
  | cons c rest ih =>
      obtain ⟨first, others⟩ := List.forall_mem_cons.mp base64
      have head := unreplace first
      have tail := ih others
      simp only [replace, List.map_cons, List.map_nil, List.cons.injEq, and_true] at head tail ⊢
      exact ⟨head, tail⟩

/-! ### Base64 round trip -/

theorem or_small {x y : UInt8} (hx : x.toNat < 64) (hy : y.toNat < 64) : (x ||| y).toNat < 64 := by
  rw [UInt8.toNat_or]
  exact @Nat.or_lt_two_pow _ _ 6 hx hy

theorem shiftRight_small (x : UInt8) {n : UInt8} (two : 2 ≤ n.toNat % 8) :
    (x >>> n).toNat < 64 := by
  have small : x.toNat / 2 ^ (n.toNat % 8) ≤ x.toNat / 2 ^ 2 :=
    Nat.div_le_div_left (Nat.pow_le_pow_right (by decide) two) (by decide)
  have := x.toNat_lt
  rw [UInt8.toNat_shiftRight, Nat.shiftRight_eq_div_pow]
  omega

theorem and_le (x m : UInt8) : (x &&& m).toNat ≤ m.toNat := by
  rw [UInt8.toNat_and]
  exact Nat.and_le_right

theorem masked_small (x : UInt8) {m n : UInt8} (fits : m.toNat * 2 ^ (n.toNat % 8) < 64) :
    ((x &&& m) <<< n).toNat < 64 := by
  have bound := Nat.mul_le_mul_right (2 ^ (n.toNat % 8)) (and_le x m)
  rw [UInt8.toNat_shiftLeft, Nat.shiftLeft_eq]
  exact lt_of_le_of_lt (Nat.mod_le _ _) (lt_of_le_of_lt bound fits)

theorem sextets_small (data : Bytes) : ∀ sextet ∈ sextets data, sextet.toNat < 64 := by
  induction data using sextets.induct with
  | case1 => simp [sextets]
  | case2 a =>
      simp only [sextets, List.forall_mem_cons]
      exact ⟨shiftRight_small a (by decide), masked_small a (by decide), by simp⟩
  | case3 a b =>
      have middle : ((a &&& 3) <<< 4 ||| b >>> 4).toNat < 64 :=
        or_small (masked_small a (by decide)) (shiftRight_small b (by decide))
      simp only [sextets, List.forall_mem_cons]
      exact ⟨shiftRight_small a (by decide), middle, masked_small b (by decide), by simp⟩
  | case4 a b c rest ih =>
      have second : ((a &&& 3) <<< 4 ||| b >>> 4).toNat < 64 :=
        or_small (masked_small a (by decide)) (shiftRight_small b (by decide))
      have third : ((b &&& 15) <<< 2 ||| c >>> 6).toNat < 64 :=
        or_small (masked_small b (by decide)) (shiftRight_small c (by decide))
      have fourth : (c &&& 63).toNat < 64 := Nat.lt_succ_of_le (and_le c 63)
      simp only [sextets, List.forall_mem_cons]
      exact ⟨shiftRight_small a (by decide), second, third, fourth, ih⟩

/-- The bytes that three bytes' groups are put together from. -/
theorem octet_first (a b : UInt8) :
    (a >>> 2) <<< 2 ||| ((a &&& 3) <<< 4 ||| b >>> 4) >>> 4 = a := by
  apply UInt8.toBitVec_inj.mp
  simp only [UInt8.toBitVec_or, UInt8.toBitVec_shiftLeft, UInt8.toBitVec_shiftRight,
    UInt8.toBitVec_and, UInt8.toBitVec_ofNat]
  ext i hi
  interval_cases i <;> simp

theorem octet_second (a b c : UInt8) : ((a &&& 3) <<< 4 ||| b >>> 4) <<< 4 |||
    ((b &&& 15) <<< 2 ||| c >>> 6) >>> 2 = b := by
  apply UInt8.toBitVec_inj.mp
  simp only [UInt8.toBitVec_or, UInt8.toBitVec_shiftLeft, UInt8.toBitVec_shiftRight,
    UInt8.toBitVec_and, UInt8.toBitVec_ofNat]
  ext i hi
  interval_cases i <;> simp

theorem octet_third (b c : UInt8) :
    ((b &&& 15) <<< 2 ||| c >>> 6) <<< 6 ||| (c &&& 63) = c := by
  apply UInt8.toBitVec_inj.mp
  simp only [UInt8.toBitVec_or, UInt8.toBitVec_shiftLeft, UInt8.toBitVec_shiftRight,
    UInt8.toBitVec_and, UInt8.toBitVec_ofNat]
  ext i hi
  interval_cases i <;> simp

/-- What the last group of a padded text leaves over. -/
theorem octet_padding (x : UInt8) :
    (x &&& 3) <<< 4 <<< 4 = 0 ∧ (x &&& 15) <<< 2 <<< 6 = 0 := by
  constructor
  · apply UInt8.toBitVec_inj.mp
    simp only [UInt8.toBitVec_shiftLeft, UInt8.toBitVec_and, UInt8.toBitVec_ofNat]
    ext i hi
    interval_cases i <;> simp
  · apply UInt8.toBitVec_inj.mp
    simp only [UInt8.toBitVec_shiftLeft, UInt8.toBitVec_and, UInt8.toBitVec_ofNat]
    ext i hi
    interval_cases i <;> simp

/-- The padding of a text of this length. -/
def padding (data : Bytes) : Nat := (3 - data.length % 3) % 3

/-- The bytes come back, followed by a NUL for each padding character. -/
theorem octets_sextets (data : Bytes) :
    octets (sextets data ++ List.replicate (padding data) 0) =
      some (data ++ List.replicate (padding data) 0) := by
  induction data using sextets.induct with
  | case1 => rfl
  | case2 a =>
      have first := octet_first a 0
      simpa [sextets, padding, octets, List.replicate_succ, (octet_padding a).1] using first
  | case3 a b =>
      have second := octet_second a b 0
      simpa [sextets, padding, octets, List.replicate_succ, octet_first,
        (octet_padding b).2] using second
  | case4 a b c rest ih =>
      have same : padding (a :: b :: c :: rest) = padding rest := by
        simp only [padding, List.length_cons]
        omega
      simp [sextets, octets, same, ih, octet_first, octet_second, octet_third]

theorem mapM_base64Char {sextets : List UInt8} (small : ∀ sextet ∈ sextets, sextet.toNat < 64) :
    (sextets.map base64Char).mapM sextetOf = some sextets := by
  induction sextets with
  | nil => rfl
  | cons sextet rest ih =>
      obtain ⟨first, others⟩ := List.forall_mem_cons.mp small
      simp [sextetOf_base64Char first, ih others]

theorem mapM_padding (n : Nat) :
    (List.replicate n (61 : UInt8)).mapM sextetOf = some (List.replicate n 0) := by
  induction n with
  | zero => rfl
  | succ n ih => simp [List.replicate_succ, sextetOf, ih]

theorem trimRight_zeros (s : Bytes) (n : Nat) :
    trimRight (s ++ List.replicate n 0) = trimRight s := by
  induction n with
  | zero => simp
  | succ n ih =>
      rw [List.replicate_succ', ← List.append_assoc, trimRight, List.rdropWhile_concat_pos _ _ _ rfl]
      exact ih

/-- **Base64 gives back the data without the NULs at its end.** -/
theorem base64Decode_base64Encode (data : Bytes) :
    base64Decode (base64Encode data) = some (trimRight data) := by
  have read : (base64Encode data).mapM sextetOf =
      some (sextets data ++ List.replicate (padding data) 0) := by
    rw [base64Encode, List.mapM_append, mapM_base64Char (sextets_small data)]
    have pad := mapM_padding (padding data)
    rw [padding] at pad
    simp [pad, padding]
  rw [base64Decode, read, Option.bind_some, octets_sextets, Option.map_some, trimRight_zeros]

theorem base64Encode_isBase64 (data : Bytes) : ∀ c ∈ base64Encode data, isBase64 c := by
  intro c mem
  rcases List.mem_append.mp mem with char | pad
  · obtain ⟨sextet, inside, rfl⟩ := List.mem_map.mp char
    exact base64Char_isBase64 (sextets_small data sextet inside)
  · rw [(List.mem_replicate.mp pad).2]
    rfl

/-! ### Password round trip -/

/-- What is left of a password: the bytes at its end that equal the key stream are
gone. -/
def shortened (password : Bytes) : Bytes := gspassenc (trimRight (gspassenc password))

/-- **A decoded password is the encoded one without the bytes at its end that the key
stream masks to NUL.** -/
theorem passdecode_passencode (password : Bytes) :
    passdecode (passencode password) = some (shortened password) := by
  rw [passdecode, passencode, unreplace_all (base64Encode_isBase64 _), base64Decode_base64Encode,
    Option.map_some, shortened]

/-- A password comes back whole exactly when its masked form does not end in a NUL. -/
theorem shortened_eq_iff {password : Bytes} :
    shortened password = password ↔ (gspassenc password).getLast? ≠ some 0 := by
  have masked : shortened password = password ↔
      trimRight (gspassenc password) = gspassenc password := by
    constructor
    · intro same
      rw [← gspassenc_gspassenc (trimRight (gspassenc password))]
      exact congrArg gspassenc same
    · intro same
      rw [shortened, same, gspassenc_gspassenc]
  rw [masked, trimRight, List.rdropWhile_eq_self_iff]
  cases gspassenc password with
  | nil => simp
  | cons c rest => simp [List.getLast?_eq_some_getLast]

/-! ### When a password comes back -/

/-- The byte of the key stream at a position. -/
def keyByte (position : Nat) : UInt8 := UInt8.ofNat (minstd^[position + 1] seed % 0xFF)

theorem mask_concat (state : Nat) (s : Bytes) (c : UInt8) :
    mask state (s ++ [c]) =
      mask state s ++ [c ^^^ UInt8.ofNat (minstd^[s.length + 1] state % 0xFF)] := by
  induction s generalizing state with
  | nil => rfl
  | cons b s ih =>
      rw [List.cons_append, mask, ih (minstd state), mask, List.length_cons,
        Function.iterate_succ_apply]
      rfl

/-- The last byte is masked to NUL exactly when it is the key stream's. -/
theorem gspassenc_getLast? {password : Bytes} :
    (gspassenc password).getLast? = some 0 ↔
      ∃ front, password = front ++ [keyByte front.length] := by
  rcases List.eq_nil_or_concat password with rfl | ⟨front, c, rfl⟩
  · simp [gspassenc, mask]
  · rw [List.concat_eq_append, gspassenc, mask_concat, List.getLast?_concat, Option.some.injEq,
      UInt8.xor_eq_zero_iff]
    constructor
    · intro same
      exact ⟨front, by rw [same, keyByte]⟩
    · rintro ⟨front', same⟩
      obtain ⟨rfl, last⟩ := List.append_inj' same rfl
      exact (List.cons.inj last).1

/-- **A password survives the codec exactly when it does not end in the key stream's byte of
its last position.** -/
theorem passdecode_passencode_iff (password : Bytes) :
    passdecode (passencode password) = some password ↔
      ¬ ∃ front, password = front ++ [keyByte front.length] := by
  rw [passdecode_passencode, Option.some.injEq, shortened_eq_iff, ne_eq, gspassenc_getLast?]

/-- The fifth byte of the key stream is a plus sign. -/
theorem passdecode_passencode_fails_plus :
    ¬ ∀ password : Bytes, passdecode (passencode password) = some password := by
  intro claimed
  have whole := claimed (ascii "pass+")
  revert whole
  decide

end GamespyEmulator.Utils
