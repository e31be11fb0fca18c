import GamespyEmulator.Lib.Numeral

/-!
The text utilities of `utils.cpp` that the master server uses: `random_string`,
`base64_encode` and the challenge cipher `encode`.

The cipher indexes its box with `int` sums reduced modulo `sbox.size()`, a
`std::size_t`: the sum is first converted to 64 bits unsigned, so a character
that is negative as `signed char` wraps before the reduction. `index` is that
conversion.
-/

namespace GamespyEmulator.Utils

open Wire

/-- `random_string`: `picks` are the values the distribution draws, each an index
into the table. -/
def randomString (table : Bytes) (picks : List (Fin table.length)) : Bytes :=
  picks.map table.get

/-! ### Base64 -/

def base64Table : Bytes :=
  ascii "ABCDEFGHIJKLMNOPQRSTUVWXYZabcdefghijklmnopqrstuvwxyz0123456789+/"

/-- The 6-bit groups of a byte string, the last one filled up with zero bits
(`transform_width<_, 6, 8>`). -/
def sextets : Bytes → List UInt8
  | [] => []
  | [a] => [a >>> 2, (a &&& 3) <<< 4]
  | [a, b] => [a >>> 2, (a &&& 3) <<< 4 ||| b >>> 4, (b &&& 15) <<< 2]
  | a :: b :: c :: rest =>
      (a >>> 2) :: ((a &&& 3) <<< 4 ||| b >>> 4) :: ((b &&& 15) <<< 2 ||| c >>> 6) ::
        (c &&& 63) :: sextets rest

def base64Char (sextet : UInt8) : UInt8 := base64Table.getD sextet.toNat 0

def base64Encode (data : Bytes) : Bytes :=
  (sextets data).map base64Char ++ List.replicate ((3 - data.length % 3) % 3) 61

/-! ### The challenge cipher -/

/-- A `char` as the `int` it promotes to. -/
def signedChar (b : UInt8) : Int := if b.toNat < 128 then b.toNat else b.toNat - 256

/-- `x % sbox.size()` for an `int`: converted to `std::size_t`, then reduced. -/
def index (x : Int) : Fin 256 :=
  ⟨(x % 2 ^ 64 % 256).toNat, by omega⟩

abbrev SBox := Vector UInt8 256

def SBox.initial : SBox := Vector.ofFn fun i => UInt8.ofNat i

/-- One round of the key schedule: the box and the running index `j`. -/
def scheduleRound (key : Bytes) (st : SBox × Fin 256) (i : Fin 256) : SBox × Fin 256 :=
  let j := index (st.2 + st.1[i].toNat + signedChar (key.getD (i % key.length) 0))
  (st.1.swap i j, j)

def keySchedule (key : Bytes) : SBox :=
  ((List.finRange 256).foldl (scheduleRound key) (SBox.initial, 0)).1

/-- The generator state while the message is enciphered. -/
structure Generator where
  sbox : SBox
  i : Fin 256
  j : Fin 256

/-- One character: advance the generator and mask the character. The next `i`
depends on the plain character, which is the deviation from RC4. -/
def Generator.cipherChar (gen : Generator) (c : UInt8) : Generator × UInt8 :=
  let i := index (gen.i + signedChar c + 1)
  let j := index (gen.j + gen.sbox[i].toNat)
  let sbox := gen.sbox.swap i j
  (⟨sbox, i, j⟩, c ^^^ sbox[index (sbox[i].toNat + sbox[j].toNat)])

def Generator.cipher (gen : Generator) : Bytes → Bytes
  | [] => []
  | c :: rest => (gen.cipherChar c).2 :: (gen.cipherChar c).1.cipher rest

/-- `utils::encode`: the proof of a challenge under a game's secret key. -/
def encode (key message : Bytes) : Bytes :=
  base64Encode (Generator.cipher ⟨keySchedule key, 0, 0⟩ message)


end GamespyEmulator.Utils
