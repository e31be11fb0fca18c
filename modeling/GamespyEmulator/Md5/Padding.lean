import GamespyEmulator.Lib.IteratedHash
import GamespyEmulator.Md5

/-!
`update` of `md5.h` as hashing in blocks. The code fills the words of one chunk after the
other and writes the one bit, the zeros and the length straight into them; `update_eq` says
that this is the padding of the whole text to a multiple of 64 bytes, cut into chunks.

`md5_eq_iff` says which texts have one digest: equal ones, and texts whose chunks
`hash_chunk` takes to one state on the way.
-/

namespace GamespyEmulator.Md5

open Wire IteratedHash

/-! ### Bytes and words -/

/-- A word from its bytes, low byte first. -/
def leWord (a b c d : UInt8) : UInt32 :=
  a.toUInt32 ||| (b.toUInt32 <<< 8) ||| (c.toUInt32 <<< 16) ||| (d.toUInt32 <<< 24)

def leWords : Bytes → List UInt32
  | a :: b :: c :: d :: rest => leWord a b c d :: leWords rest
  | _ => []

/-- The bytes of a word, low byte first. -/
def le32 (n : UInt32) : Bytes := (be32 n).reverse

theorem leWord_eq (a b c d : UInt8) : leWord a b c d = readBe32 d c b a := by
  unfold leWord readBe32
  generalize d.toUInt32 <<< 24 = high
  generalize c.toUInt32 <<< 16 = upper
  generalize b.toUInt32 <<< 8 = lower
  rw [UInt32.or_comm _ high, UInt32.or_comm _ upper, UInt32.or_comm _ lower, ← UInt32.or_assoc,
    ← UInt32.or_assoc]

theorem leWords_le32 (n : UInt32) (rest : Bytes) : leWords (le32 n ++ rest) = n :: leWords rest := by
  simp only [le32, be32, List.reverse_cons, List.reverse_nil, List.nil_append, List.cons_append,
    leWords, leWord_eq, readBe32_be32]

theorem leWords_append {front : Bytes} {count : Nat} (whole : front.length = 4 * count)
    (back : Bytes) : leWords (front ++ back) = leWords front ++ leWords back := by
  induction count generalizing front with
  | zero =>
      cases List.eq_nil_of_length_eq_zero (whole.trans (Nat.mul_zero 4))
      rfl
  | succ count ih =>
      match front, whole with
      | a :: b :: c :: d :: rest, whole =>
          have rest : rest.length = 4 * count := by
            simp only [List.length_cons] at whole
            omega
          simp only [List.cons_append, leWords, ih rest]

theorem length_leWords {bytes : Bytes} {count : Nat} (whole : bytes.length = 4 * count) :
    (leWords bytes).length = count := by
  induction count generalizing bytes with
  | zero =>
      cases List.eq_nil_of_length_eq_zero (whole.trans (Nat.mul_zero 4))
      rfl
  | succ count ih =>
      match bytes, whole with
      | a :: b :: c :: d :: rest, whole =>
          have rest : rest.length = 4 * count := by
            simp only [List.length_cons] at whole
            omega
          simp only [leWords, List.length_cons, ih rest]

/-- The words tell the bytes. -/
theorem leWords_inj {bytes bytes' : Bytes} {count : Nat} (whole : bytes.length = 4 * count)
    (whole' : bytes'.length = 4 * count) (same : leWords bytes = leWords bytes') :
    bytes = bytes' := by
  induction count generalizing bytes bytes' with
  | zero =>
      cases List.eq_nil_of_length_eq_zero (whole.trans (Nat.mul_zero 4))
      cases List.eq_nil_of_length_eq_zero (whole'.trans (Nat.mul_zero 4))
      rfl
  | succ count ih =>
      match bytes, bytes', whole, whole' with
      | a :: b :: c :: d :: rest, a' :: b' :: c' :: d' :: rest', whole, whole' =>
          simp only [List.length_cons] at whole whole'
          simp only [leWords, List.cons.injEq, leWord_eq] at same
          obtain ⟨first, others⟩ := same
          have four := be32_readBe32 d c b a
          rw [first, be32_readBe32] at four
          obtain ⟨rfl, rfl, rfl, rfl⟩ : d' = d ∧ c' = c ∧ b' = b ∧ a' = a := by simpa using four
          have tails := @ih rest rest' (by omega) (by omega) others
          rw [tails]

theorem leWords_zeros (count : Nat) :
    leWords (List.replicate (4 * count) 0) = List.replicate count 0 := by
  induction count with
  | zero => rfl
  | succ count ih =>
      have four : List.replicate (4 * (count + 1)) (0 : UInt8) =
          0 :: 0 :: 0 :: 0 :: List.replicate (4 * count) 0 := rfl
      have zero : leWord 0 0 0 0 = 0 := rfl
      rw [four, leWords, ih, zero]
      rfl

/-! ### Padding -/

/-- The zeros between the one bit and the length. -/
def zeros (length : Nat) : Nat := (119 - length % 64) % 64

/-- The length in bits, low word first. -/
def lengthBytes (length : Nat) : Bytes :=
  let bits := UInt64.ofNat length * 8
  le32 bits.toUInt32 ++ le32 (bits >>> 32).toUInt32

/-- A text as it is hashed: a one bit, zeros, and the length behind it. -/
def pad (text : Bytes) : Bytes :=
  text ++ (0x80 :: (List.replicate (zeros text.length) 0 ++ lengthBytes text.length))

/-- The chunks of a padded text. -/
def textChunks (text : Bytes) : List (List UInt32) :=
  (chunks 64 ((pad text).length / 64) (pad text)).map leWords

theorem length_lengthBytes (length : Nat) : (lengthBytes length).length = 8 := rfl

theorem leWords_lengthBytes (text : Bytes) : leWords (lengthBytes text.length) = lengthWords text := by
  have last := leWords_le32 ((UInt64.ofNat text.length * 8) >>> 32).toUInt32 []
  rw [List.append_nil] at last
  rw [lengthBytes, leWords_le32, last]
  rfl

theorem length_pad (text : Bytes) : (pad text).length = text.length + zeros text.length + 9 := by
  simp only [pad, List.length_append, List.length_cons, List.length_replicate, length_lengthBytes]
  omega

theorem pad_whole (text : Bytes) : (pad text).length = 64 * ((pad text).length / 64) := by
  rw [length_pad, zeros]
  omega

/-! ### What the code hashes -/

/-- The last word of a text is that of the text with its one bit. -/
theorem words_eq (bytes : Bytes) :
    words bytes = leWords (bytes ++ 0x80 :: List.replicate (3 - bytes.length % 4) 0) := by
  induction size : bytes.length using Nat.strong_induction_on generalizing bytes with
  | h n ih =>
      rcases bytes with _ | ⟨a, _ | ⟨b, _ | ⟨c, _ | ⟨d, rest⟩⟩⟩⟩
      · cases size
        rfl
      · have bit : (128 : UInt32) <<< 8 = 32768 := rfl
        cases size
        simp [words, trueBit, leWords, leWord, bit]
      · have bit : (128 : UInt32) <<< 16 = 8388608 := rfl
        cases size
        simp [words, trueBit, leWords, leWord, bit]
      · have bit : (128 : UInt32) <<< 24 = 2147483648 := rfl
        cases size
        simp [words, trueBit, leWords, leWord, bit]
      · have longer : (a :: b :: c :: d :: rest).length = rest.length + 4 := rfl
        have same : n % 4 = rest.length % 4 := by omega
        rw [words, ih rest.length (by omega) rest rfl, same]
        rfl

theorem length_words (bytes : Bytes) : (words bytes).length = bytes.length / 4 + 1 := by
  rw [words_eq]
  apply length_leWords
  simp only [List.length_append, List.length_cons, List.length_replicate]
  omega

/-- The words in front of the last one. -/
theorem words_take {bytes : Bytes} {count : Nat} (long : 4 * count ≤ bytes.length) :
    (words bytes).take count = leWords (bytes.take (4 * count)) := by
  induction count generalizing bytes with
  | zero => rfl
  | succ count ih =>
      match bytes, long with
      | a :: b :: c :: d :: rest, long =>
          have rest : 4 * count ≤ rest.length := by
            simp only [List.length_cons] at long
            omega
          simp only [words, List.take_succ_cons, ih rest, Nat.mul_succ, leWords, leWord]

theorem fullChunks_eq {bytes : Bytes} {count : Nat} (long : 64 * count ≤ bytes.length) (st : State) :
    fullChunks count st bytes = ((chunks 64 count bytes).map leWords).foldl hashChunk st := by
  induction count generalizing bytes st with
  | zero => rfl
  | succ count ih =>
      have rest : 64 * count ≤ (bytes.drop 64).length := by
        rw [List.length_drop]
        omega
      have first : (words bytes).take 16 = leWords (bytes.take 64) := words_take (by omega)
      rw [fullChunks, ih rest, first]
      rfl

/-- A text that is filled up with zeros, in words. -/
theorem padded_words {bytes : Bytes} {count : Nat} (short : bytes.length < 4 * count) :
    padded count (words bytes) =
      leWords (bytes ++ 0x80 :: List.replicate (4 * count - bytes.length - 1) 0) := by
  have filled : bytes ++ 0x80 :: List.replicate (4 * count - bytes.length - 1) 0 =
      (bytes ++ 0x80 :: List.replicate (3 - bytes.length % 4) 0) ++
        List.replicate (4 * (count - (bytes.length / 4 + 1))) 0 := by
    rw [List.append_assoc, List.cons_append, List.replicate_append_replicate]
    congr 3
    omega
  have whole : (bytes ++ 0x80 :: List.replicate (3 - bytes.length % 4) 0).length =
      4 * (bytes.length / 4 + 1) := by
    simp only [List.length_append, List.length_cons, List.length_replicate]
    omega
  rw [padded, length_words, filled, leWords_append whole, leWords_zeros, words_eq]

/-- The chunk, or the two chunks, of what is left of a text. -/
def lastChunks (text rest : Bytes) : List (List UInt32) :=
  if 56 ≤ rest.length then [padded 16 (words rest), padded 14 [] ++ lengthWords text]
  else [padded 14 (words rest) ++ lengthWords text]

theorem lastChunks_eq (text rest : Bytes) (short : rest.length < 64)
    (same : text.length % 64 = rest.length) :
    lastChunks text rest = (chunks 64 (if 56 ≤ rest.length then 2 else 1) (rest ++
      (0x80 :: (List.replicate (zeros text.length) 0 ++ lengthBytes text.length)))).map leWords := by
  have lengthChunk : leWords (List.replicate 56 0 ++ lengthBytes text.length) =
      padded 14 [] ++ lengthWords text := by
    have zeros : (List.replicate 56 (0 : UInt8)).length = 4 * 14 := rfl
    rw [leWords_append zeros, leWords_zeros 14, leWords_lengthBytes]
    rfl
  unfold lastChunks
  split
  · rename_i long
    let filled := rest ++ 0x80 :: List.replicate (4 * 16 - rest.length - 1) 0
    have cut : rest ++ (0x80 :: (List.replicate (zeros text.length) 0 ++ lengthBytes text.length)) =
        filled ++ (List.replicate 56 0 ++ lengthBytes text.length) := by
      have count : zeros text.length = 4 * 16 - rest.length - 1 + 56 := by
        rw [zeros, same]
        omega
      rw [count, ← List.replicate_append_replicate]
      simp only [filled, List.append_assoc, List.cons_append]
    have one : filled.length = 64 := by
      simp only [filled, List.length_append, List.length_cons, List.length_replicate]
      omega
    have two : (List.replicate 56 (0 : UInt8) ++ lengthBytes text.length).length = 64 := rfl
    have words := @padded_words rest 16 (by omega)
    rw [cut, @chunks_append _ 64 1 filled one 1, chunks_single one, chunks_single two, words,
      ← lengthChunk]
    rfl
  · rename_i long
    let filled := rest ++ 0x80 :: List.replicate (4 * 14 - rest.length - 1) 0
    have cut : rest ++ (0x80 :: (List.replicate (zeros text.length) 0 ++ lengthBytes text.length)) =
        filled ++ lengthBytes text.length := by
      have count : zeros text.length = 4 * 14 - rest.length - 1 := by
        rw [zeros, same]
        omega
      rw [count]
      simp only [filled, List.append_assoc, List.cons_append]
    have front : filled.length = 4 * 14 := by
      simp only [filled, List.length_append, List.length_cons, List.length_replicate]
      omega
    have one : (filled ++ lengthBytes text.length).length = 64 := by
      rw [List.length_append, front, length_lengthBytes]
    have words := @padded_words rest 14 (by omega)
    rw [cut, chunks_single one, List.map_singleton, leWords_append front, leWords_lengthBytes, words]

/-- **The code hashes the padded text, chunk by chunk.** -/
theorem update_eq (text : Bytes) : update text = (textChunks text).foldl hashChunk State.initial := by
  let full := text.length / 64
  let rest := text.drop (64 * full)
  have left : rest.length = text.length % 64 := by
    simp only [rest, full, List.length_drop]
    omega
  have short : rest.length < 64 := left ▸ Nat.mod_lt _ (by decide)
  have front : (text.take (64 * full)).length = 64 * full := by
    simp only [full, List.length_take]
    omega
  have begun : chunks 64 full text = chunks 64 full (text.take (64 * full)) := by
    have whole := chunks_append front 0 rest
    rwa [List.take_append_drop, Nat.add_zero, chunks, List.append_nil] at whole
  have count : (pad text).length / 64 = full + (if 56 ≤ rest.length then 2 else 1) := by
    rw [length_pad, zeros, left]
    simp only [full]
    split <;> omega
  have split : pad text = text.take (64 * full) ++ (rest ++
      (0x80 :: (List.replicate (zeros text.length) 0 ++ lengthBytes text.length))) := by
    rw [← List.append_assoc, List.take_append_drop]
    rfl
  have hashed : update text =
      (lastChunks text rest).foldl hashChunk (fullChunks full State.initial text) := by
    unfold update lastChunks
    dsimp only
    split <;> rfl
  rw [hashed, fullChunks_eq (by simp only [full]; omega), begun, lastChunks_eq text rest short left.symm,
    ← List.foldl_append, ← List.map_append, ← chunks_append front, ← split, ← count]
  rfl

/-! ### Texts and their chunks -/

/-- A text whose length in bits fits into 64 bits. -/
def Counted (text : Bytes) : Prop := text.length < 2 ^ 61

theorem length_textChunks (text : Bytes) : (textChunks text).length = (pad text).length / 64 := by
  rw [textChunks, List.length_map, length_chunks]

/-- The chunks, one behind the other, are the words of the padded text. -/
theorem flatten_textChunks (text : Bytes) : (textChunks text).flatten = leWords (pad text) := by
  have pieces (count : Nat) (bytes : Bytes) (whole : bytes.length = 64 * count) :
      ((chunks 64 count bytes).map leWords).flatten = leWords bytes := by
    induction count generalizing bytes with
    | zero =>
        cases List.eq_nil_of_length_eq_zero whole
        rfl
    | succ count ih =>
        have first : (bytes.take 64).length = 4 * 16 := by
          rw [List.length_take]
          omega
        have rest : (bytes.drop 64).length = 64 * count := by
          rw [List.length_drop]
          omega
        rw [chunks, List.map_cons, List.flatten_cons, ih _ rest, ← leWords_append first,
          List.take_append_drop]
  exact pieces _ _ (pad_whole text)

/-- The last two words are the length. -/
theorem leWords_pad (text : Bytes) : ∃ front, leWords (pad text) = front ++ lengthWords text := by
  have split : pad text = (text ++ (0x80 :: List.replicate (zeros text.length) 0)) ++
      lengthBytes text.length := by
    rw [pad, List.append_assoc, List.cons_append]
  have whole : (text ++ (0x80 :: List.replicate (zeros text.length) 0)).length =
      4 * ((text.length + zeros text.length + 1) / 4) := by
    simp only [List.length_append, List.length_cons, List.length_replicate, zeros]
    omega
  rw [split, leWords_append whole, leWords_lengthBytes]
  exact ⟨_, rfl⟩

/-- The length of a counted text, from its two words. -/
theorem length_of_lengthWords {text text' : Bytes} (counted : Counted text)
    (counted' : Counted text') (same : lengthWords text = lengthWords text') :
    text.length = text'.length := by
  have bits {text : Bytes} (counted : Counted text) :
      (UInt64.ofNat text.length * 8).toNat = text.length * 8 := by
    have short : text.length < 2 ^ 61 := counted
    have eight : (8 : UInt64).toNat = 8 := rfl
    have number : text.length % 2 ^ 64 = text.length := Nat.mod_eq_of_lt (by omega)
    rw [UInt64.toNat_mul, UInt64.toNat_ofNat', number, eight]
    exact Nat.mod_eq_of_lt (by omega)
  simp only [lengthWords, List.cons.injEq, and_true] at same
  obtain ⟨low, high⟩ := same
  have low := congrArg UInt32.toNat low
  have high := congrArg UInt32.toNat high
  have shift : (32 : UInt64).toNat % 64 = 32 := rfl
  simp only [UInt64.toNat_toUInt32, UInt64.toNat_shiftRight, Nat.shiftRight_eq_div_pow, shift,
    bits counted, bits counted'] at low high
  have short : text.length < 2 ^ 61 := counted
  have short' : text'.length < 2 ^ 61 := counted'
  omega

theorem eq_of_pad {text text' : Bytes} (length : text.length = text'.length)
    (same : pad text = pad text') : text = text' :=
  (List.append_inj same length).1

/-- No counted text's chunks are the last chunks of another one. -/
theorem eq_of_suffix {text text' : Bytes} (counted : Counted text) (counted' : Counted text')
    (tail : textChunks text <:+ textChunks text') : text = text' := by
  obtain ⟨front, whole⟩ := tail
  have words := congrArg List.flatten whole
  rw [List.flatten_append, flatten_textChunks, flatten_textChunks] at words
  obtain ⟨before, ends⟩ := leWords_pad text
  obtain ⟨before', ends'⟩ := leWords_pad text'
  rw [ends, ends', ← List.append_assoc] at words
  have length := length_of_lengthWords counted counted' (List.append_inj' words rfl).2
  have padded : (pad text).length = (pad text').length := by
    rw [length_pad, length_pad, length]
  have none : front = [] := by
    have lengths := congrArg List.length whole
    rw [List.length_append, length_textChunks, length_textChunks, padded] at lengths
    exact List.eq_nil_of_length_eq_zero (by omega)
  rw [none, List.nil_append] at whole
  have equal := congrArg List.flatten whole
  rw [flatten_textChunks, flatten_textChunks] at equal
  have count := pad_whole text
  have count' := pad_whole text'
  have bytes := @leWords_inj (pad text) (pad text') (16 * ((pad text).length / 64)) (by omega)
    (by omega) equal
  exact eq_of_pad length bytes

/-! ### Digests -/

/-- The digits of a word tell its half bytes. -/
theorem nibble_of_hexChar {n n' : UInt32} (shift : UInt32)
    (same : hexChar ((n >>> shift) &&& 0xf) = hexChar ((n' >>> shift) &&& 0xf)) :
    n.toNat / 2 ^ (shift.toNat % 32) % 16 = n'.toNat / 2 ^ (shift.toNat % 32) % 16 := by
  have digit : ∀ i < 16, ∀ j < 16, (ascii "0123456789abcdef").getD i 0 =
      (ascii "0123456789abcdef").getD j 0 → i = j := by decide
  have nibble (n : UInt32) : ((n >>> shift) &&& 0xf).toNat =
      n.toNat / 2 ^ (shift.toNat % 32) % 16 := by
    rw [UInt32.toNat_and, UInt32.toNat_shiftRight, Nat.shiftRight_eq_div_pow]
    exact Nat.and_two_pow_sub_one_eq_mod _ 4
  have values := digit ((n >>> shift) &&& 0xf).toNat (by rw [nibble]; exact Nat.mod_lt _ (by decide))
    ((n' >>> shift) &&& 0xf).toNat (by rw [nibble]; exact Nat.mod_lt _ (by decide)) same
  rwa [nibble, nibble] at values

/-- A number from its half bytes, low ones first. -/
theorem eq_of_nibbles {x y : Nat} (count : Nat)
    (nibbles : ∀ i < count, x / 16 ^ i % 16 = y / 16 ^ i % 16)
    (rest : x / 16 ^ count = y / 16 ^ count) : x = y := by
  induction count with
  | zero => simpa using rest
  | succ count ih =>
      apply ih fun i small => nibbles i (Nat.lt_succ_of_lt small)
      have digit := nibbles count (Nat.lt_succ_self count)
      rw [pow_succ, ← Nat.div_div_eq_div_mul, ← Nat.div_div_eq_div_mul] at rest
      rw [← Nat.div_add_mod (x / 16 ^ count) 16, rest, digit, Nat.div_add_mod]

theorem hex_inj {n n' : UInt32} (same : hex n = hex n') : n = n' := by
  simp only [hex, List.map_cons, List.map_nil, List.cons.injEq, and_true] at same
  obtain ⟨h₁, h₀, h₃, h₂, h₅, h₄, h₇, h₆⟩ := same
  have top (n : UInt32) : n.toNat / 16 ^ 8 = 0 := Nat.div_eq_of_lt n.toNat_lt
  apply UInt32.toNat_inj.mp
  apply eq_of_nibbles 8 _ ((top n).trans (top n').symm)
  intro i small
  interval_cases i
  · exact nibble_of_hexChar 0 h₀
  · exact nibble_of_hexChar 4 h₁
  · exact nibble_of_hexChar 8 h₂
  · exact nibble_of_hexChar 12 h₃
  · exact nibble_of_hexChar 16 h₄
  · exact nibble_of_hexChar 20 h₅
  · exact nibble_of_hexChar 24 h₆
  · exact nibble_of_hexChar 28 h₇

/-- A digest tells the state it was written from. -/
theorem md5_inj {text text' : Bytes} : md5 text = md5 text' ↔ update text = update text' := by
  constructor
  · intro same
    unfold md5 at same
    generalize update text = st at same ⊢
    generalize update text' = st' at same ⊢
    dsimp only at same
    have length (n n' : UInt32) : (hex n).length = (hex n').length := by
      rw [hex, hex, List.length_map, List.length_map]
    obtain ⟨front, d⟩ := List.append_inj' same (length _ _)
    obtain ⟨front, c⟩ := List.append_inj' front (length _ _)
    obtain ⟨a, b⟩ := List.append_inj' front (length _ _)
    cases st
    cases st'
    cases hex_inj a
    cases hex_inj b
    cases hex_inj c
    cases hex_inj d
    rfl
  · intro same
    rw [md5, md5, same]

/-- **Two texts have one digest exactly when they are equal, or when on the way through
their chunks `hash_chunk` takes different inputs to one state.** -/
theorem md5_eq_iff {text text' : Bytes} (counted : Counted text) (counted' : Counted text') :
    md5 text = md5 text' ↔ text = text' ∨
      Meet hashChunk State.initial (textChunks text) (textChunks text') := by
  rw [md5_inj, update_eq, update_eq]
  by_cases equal : text = text'
  · simp [equal]
  · have apart (tail : textChunks text <:+ textChunks text') : False :=
      equal (eq_of_suffix counted counted' tail)
    have apart' (tail : textChunks text' <:+ textChunks text) : False :=
      equal (eq_of_suffix counted' counted tail).symm
    rw [foldl_eq_iff apart apart']
    simp [equal]

theorem md5_eq_abc : md5 (ascii "abc") = md5 (ascii "abd") ↔ ascii "abc" = ascii "abd" ∨
    Meet hashChunk State.initial (textChunks (ascii "abc")) (textChunks (ascii "abd")) :=
  md5_eq_iff (by unfold Counted; decide) (by unfold Counted; decide)

end GamespyEmulator.Md5
