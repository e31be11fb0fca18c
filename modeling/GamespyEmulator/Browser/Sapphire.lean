import GamespyEmulator.Lib.Table
import GamespyEmulator.Lib.Wire

/-!
`sapphire.cpp`: the stream cipher of the server browser, with the output function of
GameSpy. Each step rotates four cards and shows one byte, by which the next byte of the
text is masked.

`sapphire_roundTrip` is about two ciphers of one key: key setup ends, the cards stay a
permutation, and the second cipher reads, byte by byte, what the first one wrote in
several calls of `Send`.
-/

namespace GamespyEmulator

open Wire

/-! ### Cards -/

/-- `unsigned char cards[256]`. -/
abbrev Cards := Vector UInt8 256

namespace Cards

/-- An index is an `unsigned char`. -/
def place (index : UInt8) : Fin 256 := ⟨index.toNat, index.toNat_lt⟩

def read (cards : Cards) (index : UInt8) : UInt8 := cards[place index]

def write (cards : Cards) (index card : UInt8) : Cards := cards.set (place index) card

/-- Two cards change places. -/
def swapPlaces (cards : Cards) : Fin 256 → Fin 256 → Cards
  | ⟨i, iLt⟩, ⟨j, jLt⟩ => cards.swap i j iLt jLt

/-- `cards[i] = i`. -/
def inOrder : Cards := Vector.ofFn fun i => UInt8.ofNat i

/-- The cards are 0 to 255 in some order. -/
def Permutation (cards : Cards) : Prop := cards.Perm inOrder

end Cards

/-! ### Key setup -/

/-- The keys the constructor of `sapphire` takes. -/
structure CryptKey where
  size : Nat
  bytes : Vector UInt8 size
  pos : 0 < size
  le : size ≤ 255

/-- `rsum` and `keypos`. -/
structure KeySum (key : CryptKey) where
  rsum : UInt8
  keypos : Fin key.size

/-- The next byte of the user key goes into the sum, and at its end the size does. -/
def KeySum.advance {key : CryptKey} (cards : Cards) (st : KeySum key) : KeySum key :=
  let rsum := cards.read st.rsum + key.bytes[st.keypos]
  if more : st.keypos + 1 < key.size then ⟨rsum, ⟨st.keypos + 1, more⟩⟩
  else ⟨rsum + UInt8.ofNat key.size, ⟨0, key.pos⟩⟩

namespace Sapphire

/-- `while (mask < limit) mask = (mask << 1) + 1`, in so many turns. -/
def fillMask (limit : Nat) : Nat → Nat → Option Nat
  | 0, mask => if mask < limit then none else some mask
  | fuel + 1, mask => if mask < limit then fillMask limit fuel (2 * mask + 1) else some mask

/-- The `do` loop of `keyrand`, in so many turns. -/
def keyrandLoop {key : CryptKey} (cards : Cards) (limit mask : Nat) :
    Nat → Nat → KeySum key → Option (Nat × KeySum key)
  | 0, _, _ => none
  | fuel + 1, retryLimiter, st =>
      let st := st.advance cards
      let u := mask &&& st.rsum.toNat
      let retryLimiter := retryLimiter + 1
      let u := if retryLimiter > 11 then u % limit else u
      if u > limit then keyrandLoop cards limit mask fuel retryLimiter st else some (u, st)

/-- `keyrand`. -/
def keyrand {key : CryptKey} (fuel : Nat) (cards : Cards) (limit : Nat) (st : KeySum key) :
    Option (UInt8 × KeySum key) :=
  if limit = 0 then some (0, st)
  else do
    let mask ← fillMask limit fuel 1
    let (u, st) ← keyrandLoop cards limit mask fuel 0 st
    return (UInt8.ofNat u, st)

/-- One turn of the loop of `initialize`: swap a card with some other card. -/
def deal {key : CryptKey} (fuel : Nat) (deck : Cards × KeySum key) (i : Fin 256) :
    Option (Cards × KeySum key) := do
  let (toswap, st) ← keyrand fuel deck.1 i deck.2
  return (deck.1.swapPlaces i (Cards.place toswap), st)

end Sapphire

/-! ### The cipher -/

/-- `sapphire`. -/
structure Sapphire where
  cards : Cards
  rotor : UInt8
  ratchet : UInt8
  avalanche : UInt8
  lastPlain : UInt8
  lastCipher : UInt8
deriving DecidableEq

namespace Sapphire

/-- The indices at the end of key setup. -/
def ofCards (cards : Cards) (rsum : UInt8) : Sapphire where
  cards := cards
  rotor := cards.read 1
  ratchet := cards.read 3
  avalanche := cards.read 5
  lastPlain := cards.read 7
  lastCipher := cards.read rsum

/-- `initialize`, which the constructor calls. -/
def initializeKey (fuel : Nat) (key : CryptKey) : Option Sapphire := do
  let (cards, st) ← (List.finRange 256).reverse.foldlM (deal fuel)
    (Cards.inOrder, (⟨0, ⟨0, key.pos⟩⟩ : KeySum key))
  return ofCards cards st.rsum

/-- `encrypt` of one byte. -/
def encrypt (s : Sapphire) (b : UInt8) : Sapphire × UInt8 :=
  let ratchet := s.ratchet + s.cards.read s.rotor
  let rotor := s.rotor + 1
  let swaptemp := s.cards.read s.lastCipher
  let cards := s.cards.write s.lastCipher (s.cards.read ratchet)
  let cards := cards.write ratchet (cards.read s.lastPlain)
  let cards := cards.write s.lastPlain (cards.read rotor)
  let cards := cards.write rotor swaptemp
  let avalanche := s.avalanche + cards.read swaptemp
  let lastCipher := b ^^^ cards.read (cards.read avalanche + cards.read rotor) ^^^
    cards.read (cards.read (cards.read s.lastPlain + cards.read s.lastCipher + cards.read ratchet))
  let lastPlain := b
  (⟨cards, rotor, ratchet, avalanche, lastPlain, lastCipher⟩, lastCipher)

/-- `decrypt` of one byte. -/
def decrypt (s : Sapphire) (b : UInt8) : Sapphire × UInt8 :=
  let ratchet := s.ratchet + s.cards.read s.rotor
  let rotor := s.rotor + 1
  let swaptemp := s.cards.read s.lastCipher
  let cards := s.cards.write s.lastCipher (s.cards.read ratchet)
  let cards := cards.write ratchet (cards.read s.lastPlain)
  let cards := cards.write s.lastPlain (cards.read rotor)
  let cards := cards.write rotor swaptemp
  let avalanche := s.avalanche + cards.read swaptemp
  let lastPlain := b ^^^ cards.read (cards.read avalanche + cards.read rotor) ^^^
    cards.read (cards.read (cards.read s.lastPlain + cards.read s.lastCipher + cards.read ratchet))
  let lastCipher := b
  (⟨cards, rotor, ratchet, avalanche, lastPlain, lastCipher⟩, lastPlain)

/-- `encrypt` of a range, in place. -/
def encryptRange (s : Sapphire) : Bytes → Sapphire × Bytes
  | [] => (s, [])
  | c :: rest =>
      let (s, c) := s.encrypt c
      let (s, rest) := s.encryptRange rest
      (s, c :: rest)

/-- `decrypt` of each byte. -/
def decryptRange (s : Sapphire) : Bytes → Sapphire × Bytes
  | [] => (s, [])
  | c :: rest =>
      let (s, c) := s.decrypt c
      let (s, rest) := s.decryptRange rest
      (s, c :: rest)

/-- What `BrowserClient::Send` sends in several calls. -/
def send (s : Sapphire) : List Bytes → Sapphire × List Bytes
  | [] => (s, [])
  | bytes :: rest =>
      let (s, bytes) := s.encryptRange bytes
      let (s, rest) := s.send rest
      (s, bytes :: rest)

/-! ### Key setup ends -/

theorem fillMask_ends {limit mask : Nat} (left : Nat) (small : limit < (mask + 1) * 2 ^ left) :
    ∃ filled, ∀ fuel, left ≤ fuel → fillMask limit fuel mask = some filled := by
  induction left generalizing mask with
  | zero =>
      have filled : ¬ mask < limit := by omega
      refine ⟨mask, fun fuel _ => ?_⟩
      cases fuel <;> exact if_neg filled
  | succ left ih =>
      by_cases filled : mask < limit
      swap
      · refine ⟨mask, fun fuel _ => ?_⟩
        cases fuel <;> exact if_neg filled
      have wider : limit < (2 * mask + 1 + 1) * 2 ^ left := by
        rw [pow_succ] at small
        linarith
      obtain ⟨result, ends⟩ := ih wider
      refine ⟨result, fun fuel enough => ?_⟩
      cases fuel with
      | zero => omega
      | succ fuel =>
          rw [fillMask, if_pos filled]
          exact ends fuel (by omega)

section Setup

variable {key : CryptKey}

/-- Behind the eleventh turn the remainder ends the loop. -/
theorem keyrandLoop_ends (cards : Cards) {limit : Nat} (pos : 0 < limit) (mask : Nat) :
    ∀ (left retryLimiter : Nat) (st : KeySum key), retryLimiter + left = 11 →
      ∃ u st', u ≤ limit ∧
        ∀ fuel, left < fuel →
          keyrandLoop cards limit mask fuel retryLimiter st = some (u, st') := by
  intro left
  induction left with
  | zero =>
      intro retryLimiter st last
      have late : retryLimiter + 1 > 11 := by omega
      have small := Nat.mod_lt (mask &&& (st.advance cards).rsum.toNat) pos
      refine ⟨_, st.advance cards, small.le, fun fuel enough => ?_⟩
      cases fuel with
      | zero => omega
      | succ fuel =>
          rw [keyrandLoop, if_pos late, if_neg small.le.not_gt]
  | succ left ih =>
      intro retryLimiter st count
      have early : ¬ retryLimiter + 1 > 11 := by omega
      by_cases again : mask &&& (st.advance cards).rsum.toNat > limit
      · obtain ⟨u, st', le, ends⟩ := ih (retryLimiter + 1) (st.advance cards) (by omega)
        refine ⟨u, st', le, fun fuel enough => ?_⟩
        cases fuel with
        | zero => omega
        | succ fuel =>
            rw [keyrandLoop, if_neg early, if_pos again]
            exact ends fuel (by omega)
      · refine ⟨_, st.advance cards, not_lt.mp again, fun fuel enough => ?_⟩
        cases fuel with
        | zero => omega
        | succ fuel =>
            rw [keyrandLoop, if_neg early, if_neg again]

/-- The turns that are enough for each loop of `keyrand`. -/
def enoughTurns : Nat := 12

/-- `keyrand` returns a value from 0 to `limit`. -/
theorem keyrand_ends (cards : Cards) (limit : Fin 256) (st : KeySum key) :
    ∃ toswap st', toswap.toNat ≤ limit.val ∧
      ∀ fuel, enoughTurns ≤ fuel → keyrand fuel cards limit st = some (toswap, st') := by
  by_cases zero : limit.val = 0
  · exact ⟨0, st, Nat.zero_le _, fun fuel _ => if_pos zero⟩
  have range := limit.isLt
  obtain ⟨mask, filled⟩ := @fillMask_ends limit 1 7 (by omega)
  obtain ⟨u, st', le, ends⟩ :=
    keyrandLoop_ends cards (Nat.pos_of_ne_zero zero) mask 11 0 st rfl
  have byte : (UInt8.ofNat u).toNat = u := UInt8.toNat_ofNat_of_lt' (le.trans_lt range)
  refine ⟨UInt8.ofNat u, st', byte.trans_le le, fun fuel enough => ?_⟩
  have turns : 12 ≤ fuel := enough
  rw [keyrand, if_neg zero, filled fuel (by omega), Option.bind_eq_bind, Option.bind_some,
    ends fuel (by omega)]
  rfl

/-- Dealing ends, with the same cards in another order. -/
theorem deal_ends (places : List (Fin 256)) (deck : Cards × KeySum key)
    (permutation : deck.1.Permutation) :
    ∃ dealt : Cards × KeySum key, dealt.1.Permutation ∧
      ∀ fuel, enoughTurns ≤ fuel → places.foldlM (deal fuel) deck = some dealt := by
  induction places generalizing deck with
  | nil => exact ⟨deck, permutation, fun fuel _ => rfl⟩
  | cons i rest ih =>
      obtain ⟨toswap, st, -, chosen⟩ := keyrand_ends deck.1 i deck.2
      have swapped : Cards.Permutation (deck.1.swapPlaces i (Cards.place toswap)) :=
        (Vector.swap_perm i.isLt (Cards.place toswap).isLt).trans permutation
      obtain ⟨dealt, kept, ends⟩ := ih (deck.1.swapPlaces i (Cards.place toswap), st) swapped
      refine ⟨dealt, kept, fun fuel enough => ?_⟩
      have first : deal fuel deck i = some (deck.1.swapPlaces i (Cards.place toswap), st) := by
        rw [deal, chosen fuel enough]
        rfl
      rw [List.foldlM_cons, first]
      exact ends fuel enough

/-- Key setup ends, and the cards are a permutation. -/
theorem initializeKey_ends (key : CryptKey) :
    ∃ s : Sapphire, s.cards.Permutation ∧
      ∀ fuel, enoughTurns ≤ fuel → initializeKey fuel key = some s := by
  obtain ⟨⟨cards, st⟩, kept, ends⟩ := deal_ends (List.finRange 256).reverse
    (Cards.inOrder, (⟨0, ⟨0, key.pos⟩⟩ : KeySum key)) (Vector.Perm.refl _)
  refine ⟨ofCards cards st.rsum, kept, fun fuel enough => ?_⟩
  rw [initializeKey, ends fuel enough]
  rfl

end Setup

/-! ### One byte -/

/-- The four cards that are rotated. -/
theorem encrypt_rotates (s : Sapphire) (b : UInt8) : (s.encrypt b).1.cards =
    Table.rotate s.cards (Cards.place s.lastCipher)
      [Cards.place (s.ratchet + s.cards.read s.rotor), Cards.place s.lastPlain,
        Cards.place (s.rotor + 1)] :=
  rfl

theorem encrypt_permutation {s : Sapphire} (permutation : s.cards.Permutation) (b : UInt8) :
    (s.encrypt b).1.cards.Permutation := by
  rw [encrypt_rotates]
  exact (Table.rotate_perm _ _ _).trans permutation

/-- Both formulas shuffle the same cards. -/
theorem decrypt_permutation {s : Sapphire} (permutation : s.cards.Permutation) (b : UInt8) :
    (s.decrypt b).1.cards.Permutation :=
  encrypt_permutation permutation b

/-- The byte a state masks the next one by. -/
def mask (s : Sapphire) : UInt8 := (s.encrypt 0).2

/-- The state behind a byte, but for the byte itself. -/
theorem encrypt_eq (s : Sapphire) (b : UInt8) : s.encrypt b =
    ({ (s.encrypt 0).1 with lastPlain := b, lastCipher := b ^^^ s.mask }, b ^^^ s.mask) := by
  rw [mask]
  unfold encrypt
  dsimp only
  rw [UInt8.zero_xor, ← UInt8.xor_assoc]

theorem decrypt_eq (s : Sapphire) (b : UInt8) : s.decrypt b =
    ({ (s.encrypt 0).1 with lastPlain := b ^^^ s.mask, lastCipher := b }, b ^^^ s.mask) := by
  rw [mask]
  unfold decrypt encrypt
  dsimp only
  rw [UInt8.zero_xor, ← UInt8.xor_assoc]

/-- One byte is read back, and both ciphers are in the same state. -/
theorem decrypt_encrypt (s : Sapphire) (b : UInt8) :
    s.decrypt (s.encrypt b).2 = ((s.encrypt b).1, b) := by
  have back : b ^^^ s.mask ^^^ s.mask = b := by
    rw [UInt8.xor_assoc, UInt8.xor_self, UInt8.xor_zero]
  rw [encrypt_eq, decrypt_eq, back]

/-! ### Several bytes -/

theorem encryptRange_append (s : Sapphire) (front back : Bytes) :
    s.encryptRange (front ++ back) =
      (((s.encryptRange front).1.encryptRange back).1,
        (s.encryptRange front).2 ++ ((s.encryptRange front).1.encryptRange back).2) := by
  induction front generalizing s with
  | nil => rfl
  | cons c rest ih => simp [encryptRange, ih]

/-- The first bytes are encrypted alike, whatever follows. -/
theorem encryptRange_take (s : Sapphire) (bytes : Bytes) (count : Nat) :
    (s.encryptRange bytes).2.take count = (s.encryptRange (bytes.take count)).2 := by
  induction bytes generalizing s count with
  | nil => simp [encryptRange]
  | cons c rest ih =>
      cases count with
      | zero => rfl
      | succ count => simp [encryptRange, ih]

/-- Calls of `Send` encrypt one text. -/
theorem send_eq (s : Sapphire) (messages : List Bytes) :
    (s.send messages).1 = (s.encryptRange messages.flatten).1 ∧
      (s.send messages).2.flatten = (s.encryptRange messages.flatten).2 := by
  induction messages generalizing s with
  | nil => exact ⟨rfl, rfl⟩
  | cons bytes rest ih =>
      obtain ⟨state, text⟩ := ih (s.encryptRange bytes).1
      rw [List.flatten_cons, encryptRange_append]
      exact ⟨state, congrArg ((s.encryptRange bytes).2 ++ ·) text⟩

theorem decryptRange_encryptRange (s : Sapphire) (bytes : Bytes) :
    s.decryptRange (s.encryptRange bytes).2 = ((s.encryptRange bytes).1, bytes) := by
  induction bytes generalizing s with
  | nil => rfl
  | cons c rest ih => simp [encryptRange, decryptRange, decrypt_encrypt, ih]

end Sapphire

/-! ### Two ciphers of one key -/

/-- **A cipher of the same key reads what the first one sent, and after every byte both are
in the same state.** -/
theorem sapphire_roundTrip (key : CryptKey) :
    ∃ start : Sapphire,
      (∀ fuel, Sapphire.enoughTurns ≤ fuel → Sapphire.initializeKey fuel key = some start) ∧
      start.cards.Permutation ∧
      (∀ s : Sapphire, s.cards.Permutation → ∀ b,
        (s.encrypt b).1.cards.Permutation ∧ (s.decrypt b).1.cards.Permutation) ∧
      ∀ messages : List Bytes,
        (start.send messages).1 = (start.encryptRange messages.flatten).1 ∧ ∀ count,
        start.decryptRange ((start.send messages).2.flatten.take count) =
          ((start.encryptRange (messages.flatten.take count)).1, messages.flatten.take count) := by
  obtain ⟨start, permutation, ends⟩ := Sapphire.initializeKey_ends key
  refine ⟨start, ends, permutation, fun s kept b => ?_, fun messages => ?_⟩
  · exact ⟨Sapphire.encrypt_permutation kept b, Sapphire.decrypt_permutation kept b⟩
  · obtain ⟨state, text⟩ := start.send_eq messages
    refine ⟨state, fun count => ?_⟩
    rw [text, Sapphire.encryptRange_take, Sapphire.decryptRange_encryptRange]

end GamespyEmulator
