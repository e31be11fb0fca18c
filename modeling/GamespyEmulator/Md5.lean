import GamespyEmulator.Lib.Wire

/-!
`md5.cpp`: the digest the login and search servers compare passwords and challenges
by. A chunk is its sixteen little-endian words; the last ones hold the rest of the
text, a one bit, zeros, and the length in bits.
-/

namespace GamespyEmulator.Md5

open Wire

/-- `k_array_`. -/
def kArray : List UInt32 := [
  0xd76aa478, 0xe8c7b756, 0x242070db, 0xc1bdceee,
  0xf57c0faf, 0x4787c62a, 0xa8304613, 0xfd469501,
  0x698098d8, 0x8b44f7af, 0xffff5bb1, 0x895cd7be,
  0x6b901122, 0xfd987193, 0xa679438e, 0x49b40821,
  0xf61e2562, 0xc040b340, 0x265e5a51, 0xe9b6c7aa,
  0xd62f105d, 0x02441453, 0xd8a1e681, 0xe7d3fbc8,
  0x21e1cde6, 0xc33707d6, 0xf4d50d87, 0x455a14ed,
  0xa9e3e905, 0xfcefa3f8, 0x676f02d9, 0x8d2a4c8a,
  0xfffa3942, 0x8771f681, 0x6d9d6122, 0xfde5380c,
  0xa4beea44, 0x4bdecfa9, 0xf6bb4b60, 0xbebfbc70,
  0x289b7ec6, 0xeaa127fa, 0xd4ef3085, 0x04881d05,
  0xd9d4d039, 0xe6db99e5, 0x1fa27cf8, 0xc4ac5665,
  0xf4292244, 0x432aff97, 0xab9423a7, 0xfc93a039,
  0x655b59c3, 0x8f0ccc92, 0xffeff47d, 0x85845dd1,
  0x6fa87e4f, 0xfe2ce6e0, 0xa3014314, 0x4e0811a1,
  0xf7537e82, 0xbd3af235, 0x2ad7d2bb, 0xeb86d391]

/-- `s_array_`. -/
def sArray : List UInt32 := [
  7, 12, 17, 22, 7, 12, 17, 22, 7, 12, 17, 22, 7, 12, 17, 22,
  5, 9, 14, 20, 5, 9, 14, 20, 5, 9, 14, 20, 5, 9, 14, 20,
  4, 11, 16, 23, 4, 11, 16, 23, 4, 11, 16, 23, 4, 11, 16, 23,
  6, 10, 15, 21, 6, 10, 15, 21, 6, 10, 15, 21, 6, 10, 15, 21]

def leftRotate (x c : UInt32) : UInt32 := (x <<< c) ||| (x >>> (32 - c))

/-- The state between chunks, and the working state inside one. -/
structure State where
  a : UInt32
  b : UInt32
  c : UInt32
  d : UInt32

def State.initial : State := ⟨0x67452301, 0xefcdab89, 0x98badcfe, 0x10325476⟩

/-- The function and the word of round `i`. -/
def mix (st : State) (i : Nat) : UInt32 × Nat :=
  if i < 16 then ((st.b &&& st.c) ||| (~~~st.b &&& st.d), i)
  else if i < 32 then ((st.d &&& st.b) ||| (~~~st.d &&& st.c), (5 * i + 1) % 16)
  else if i < 48 then (st.b ^^^ st.c ^^^ st.d, (3 * i + 5) % 16)
  else (st.c ^^^ (st.b ||| ~~~st.d), (7 * i) % 16)

def round (words : List UInt32) (st : State) (i : Nat) : State :=
  let (f, g) := mix st i
  { a := st.d
    b := st.b + leftRotate (st.a + f + kArray.getD i 0 + words.getD g 0) (sArray.getD i 0)
    c := st.b
    d := st.c }

/-- `hash_chunk`. -/
def hashChunk (st : State) (words : List UInt32) : State :=
  let out := (List.range 64).foldl (round words) st
  ⟨st.a + out.a, st.b + out.b, st.c + out.c, st.d + out.d⟩

/-- The last word of a text, which ends it with a one bit (`true_bit_to_m_array`). -/
def trueBit : Bytes → UInt32
  | [] => 0x00000080
  | [a] => a.toUInt32 ||| 0x00008000
  | [a, b] => a.toUInt32 ||| (b.toUInt32 <<< 8) ||| 0x00800000
  | a :: b :: c :: _ => a.toUInt32 ||| (b.toUInt32 <<< 8) ||| (c.toUInt32 <<< 16) ||| 0x80000000

/-- The words of a text, with its one bit behind a last, partial word. -/
def words : Bytes → List UInt32
  | a :: b :: c :: d :: rest =>
      (a.toUInt32 ||| (b.toUInt32 <<< 8) ||| (c.toUInt32 <<< 16) ||| (d.toUInt32 <<< 24)) ::
        words rest
  | rest => [trueBit rest]

def padded (length : Nat) (words : List UInt32) : List UInt32 :=
  words ++ List.replicate (length - words.length) 0

def lengthWords (bytes : Bytes) : List UInt32 :=
  let bits := UInt64.ofNat bytes.length * 8
  [bits.toUInt32, (bits >>> 32).toUInt32]

/-- The chunks of a text that are full. -/
def fullChunks : Nat → State → Bytes → State
  | 0, st, _ => st
  | n + 1, st, bytes => fullChunks n (hashChunk st ((words bytes).take 16)) (bytes.drop 64)

/-- `update`. -/
def update (bytes : Bytes) : State :=
  let full := bytes.length / 64
  let st := fullChunks full State.initial bytes
  let rest := bytes.drop (64 * full)
  if 56 ≤ rest.length then
    hashChunk (hashChunk st (padded 16 (words rest))) (padded 14 [] ++ lengthWords bytes)
  else hashChunk st (padded 14 (words rest) ++ lengthWords bytes)

def hexChar (nibble : UInt32) : UInt8 :=
  (ascii "0123456789abcdef").getD nibble.toNat 0

/-- `uint32_to_hex`: low byte first, high nibble first. -/
def hex (n : UInt32) : Bytes :=
  ([4, 0, 12, 8, 20, 16, 28, 24] : List UInt32).map fun shift => hexChar ((n >>> shift) &&& 0xf)

/-- `utils::md5`, the digest in hexadecimal. -/
def md5 (text : Bytes) : Bytes :=
  let st := update text
  hex st.a ++ hex st.b ++ hex st.c ++ hex st.d

example : md5 (ascii "abc") = ascii "900150983cd24fb0d6963f7d28e17f72" := by decide +kernel

end GamespyEmulator.Md5
