import Transcoding.Text.Quoted
import Transcoding.Text.Utf8

/-!
The MD5 message digest. A message is padded to whole blocks of 64 bytes, each block is mixed into a
state of four words in 64 steps, and the digest is the final state, low bytes first.
-/

namespace Transcoding.Digest

structure State where
  a : UInt32
  b : UInt32
  c : UInt32
  d : UInt32

def State.initial : State := ⟨0x67452301, 0xEFCDAB89, 0x98BADCFE, 0x10325476⟩

def stepConstants : List UInt32 := [
  0xD76AA478, 0xE8C7B756, 0x242070DB, 0xC1BDCEEE, 0xF57C0FAF, 0x4787C62A, 0xA8304613, 0xFD469501,
  0x698098D8, 0x8B44F7AF, 0xFFFF5BB1, 0x895CD7BE, 0x6B901122, 0xFD987193, 0xA679438E, 0x49B40821,
  0xF61E2562, 0xC040B340, 0x265E5A51, 0xE9B6C7AA, 0xD62F105D, 0x02441453, 0xD8A1E681, 0xE7D3FBC8,
  0x21E1CDE6, 0xC33707D6, 0xF4D50D87, 0x455A14ED, 0xA9E3E905, 0xFCEFA3F8, 0x676F02D9, 0x8D2A4C8A,
  0xFFFA3942, 0x8771F681, 0x6D9D6122, 0xFDE5380C, 0xA4BEEA44, 0x4BDECFA9, 0xF6BB4B60, 0xBEBFBC70,
  0x289B7EC6, 0xEAA127FA, 0xD4EF3085, 0x04881D05, 0xD9D4D039, 0xE6DB99E5, 0x1FA27CF8, 0xC4AC5665,
  0xF4292244, 0x432AFF97, 0xAB9423A7, 0xFC93A039, 0x655B59C3, 0x8F0CCC92, 0xFFEFF47D, 0x85845DD1,
  0x6FA87E4F, 0xFE2CE6E0, 0xA3014314, 0x4E0811A1, 0xF7537E82, 0xBD3AF235, 0x2AD7D2BB, 0xEB86D391]

/-- How far each round of sixteen steps rotates, four steps at a time. -/
def rotations : Nat → List UInt32
  | 0 => [7, 12, 17, 22]
  | 1 => [5, 9, 14, 20]
  | 2 => [4, 11, 16, 23]
  | _ => [6, 10, 15, 21]

def rotateLeft (x n : UInt32) : UInt32 :=
  (x <<< n) ||| (x >>> (32 - n))

/-- The mixture of three words, and the word of the block that goes in, at one step of a round. -/
def mixture (s : State) (i : Nat) : UInt32 × Nat :=
  match i / 16 with
  | 0 => ((s.b &&& s.c) ||| (~~~s.b &&& s.d), i)
  | 1 => ((s.d &&& s.b) ||| (~~~s.d &&& s.c), (5 * i + 1) % 16)
  | 2 => (s.b ^^^ s.c ^^^ s.d, (3 * i + 5) % 16)
  | _ => (s.c ^^^ (s.b ||| ~~~s.d), 7 * i % 16)

def State.step (block : List UInt32) (s : State) (i : Nat) (constant : UInt32) : State :=
  let (mixed, word) := mixture s i
  let turned := rotateLeft (s.a + mixed + constant + block.getD word 0)
    ((rotations (i / 16)).getD (i % 4) 0)
  ⟨s.d, s.b + turned, s.b, s.c⟩

def State.steps (block : List UInt32) : State → Nat → List UInt32 → State
  | s, _, [] => s
  | s, i, constant :: rest => (s.step block i constant).steps block (i + 1) rest

def State.add (s t : State) : State :=
  ⟨s.a + t.a, s.b + t.b, s.c + t.c, s.d + t.d⟩

def State.absorb (s : State) (block : List UInt32) : State :=
  s.add (s.steps block 0 stepConstants)

/-- The lowest `width` bytes of a number, low bytes first. -/
def littleEndian (n : Nat) : Nat → List UInt8
  | 0 => []
  | width + 1 => n.toUInt8 :: littleEndian (n / 256) width

/-- Four bytes as a word, low bytes first. -/
def words : List UInt8 → List UInt32
  | a :: b :: c :: d :: rest =>
    (a.toUInt32 ||| (b.toUInt32 <<< 8) ||| (c.toUInt32 <<< 16) ||| (d.toUInt32 <<< 24)) ::
      words rest
  | _ => []

/-- The message, the bit 1, zeros up to a multiple of 64 bytes, and in the last eight of them the
length in bits. -/
def pad (message : List UInt8) : List UInt8 :=
  let filler := (119 - message.length % 64) % 64
  message ++ 0x80 :: (List.replicate filler 0 ++ littleEndian (8 * message.length) 8)

/-- The state after `count` blocks of sixteen words. -/
def State.absorbAll (s : State) (ws : List UInt32) : Nat → State
  | 0 => s
  | count + 1 => (s.absorb (ws.take 16)).absorbAll (ws.drop 16) count

def State.bytes (s : State) : List UInt8 :=
  [s.a, s.b, s.c, s.d].flatMap fun w => littleEndian w.toNat 4

def md5 (message : List UInt8) : List UInt8 :=
  let ws := words (pad message)
  (State.initial.absorbAll ws (ws.length / 16)).bytes

def hex (bytes : List UInt8) : List Char :=
  bytes.flatMap fun b => Text.hexDigits b.toNat 2

/-- The digest of a text as UTF-8, in 32 hexadecimal digits. -/
def md5Hex (text : List Char) : List Char :=
  hex (md5 (Text.toUtf8 text))

end Transcoding.Digest
