import Transcoding.Json
import Transcoding.Text.Utf8

/-!
From the bytes of a JSON text to its symbols. The first bytes tell which of the encodings of Unicode
it has; UTF-8 is meant if they tell nothing else. Half of a surrogate pair passes in all of them,
and no two halves that are encoded apart make up a character; all else that is no code point makes
the bytes unreadable.
-/

namespace Transcoding.Json

inductive Encoding
  | utf8
  | utf16 (bigEndian : Bool)
  | utf32 (bigEndian : Bool)
  deriving DecidableEq, Repr

/-- The encoding of bytes without a byte order mark, by where the first of them are zero. -/
def Encoding.unmarked : List UInt8 → Encoding
  | [a, b] => if a == 0 then .utf16 true else if b == 0 then .utf16 false else .utf8
  | a :: b :: c :: d :: _ =>
    if a == 0 then if b == 0 then .utf32 true else .utf16 true
    else if b == 0 then if c == 0 && d == 0 then .utf32 false else .utf16 false
    else .utf8
  | _ => .utf8

/-- The encoding of bytes, and what follows the byte order mark if they begin with one. -/
def Encoding.detect : List UInt8 → Encoding × List UInt8
  | 0x00 :: 0x00 :: 0xFE :: 0xFF :: rest => (.utf32 true, rest)
  | 0xFF :: 0xFE :: 0x00 :: 0x00 :: rest => (.utf32 false, rest)
  | 0xFE :: 0xFF :: rest => (.utf16 true, rest)
  | 0xFF :: 0xFE :: rest => (.utf16 false, rest)
  | 0xEF :: 0xBB :: 0xBF :: rest => (.utf8, rest)
  | bytes => (unmarked bytes, bytes)

/-- The symbols read so far, backwards, and the one at their end if that is not complete. -/
abbrev Utf8Progress := List Symbol × Option Text.Utf8Pending

/-- What a byte begins, halves of surrogate pairs included. -/
def leadByte? (b : UInt8) : Option Text.Utf8Pending :=
  (Text.utf8Lead? b).map fun p => if b == 0xED then { p with high := 0xBF } else p

/-- A pending symbol joins the others once no byte is missing. -/
def settle (done : List Symbol) (p : Text.Utf8Pending) : Utf8Progress :=
  if p.missing == 0 then (Symbol.ofCode p.bits :: done, none) else (done, some p)

/-- One more byte, if it can stand there. -/
def utf8Step? : Utf8Progress → UInt8 → Option Utf8Progress
  | (done, none), b => (leadByte? b).map (settle done)
  | (done, some p), b =>
    if p.low ≤ b && b ≤ p.high then
      some (settle done ⟨p.bits * 0x40 + (b.toNat - 0x80), p.missing - 1, 0x80, 0xBF⟩)
    else none

def ofUtf8? (bytes : List UInt8) : Option (List Symbol) :=
  match bytes.foldlM utf8Step? ([], none) with
  | some (done, none) => some done.reverse
  | _ => none

/-- The number that bytes write, the highest first or last. -/
def number (bigEndian : Bool) (bytes : List UInt8) : Nat :=
  (if bigEndian then bytes else bytes.reverse).foldl (fun n b => n * 0x100 + b.toNat) 0

def units16? (bigEndian : Bool) : List UInt8 → Option (List Nat)
  | [] => some []
  | a :: b :: rest => do return number bigEndian [a, b] :: (← units16? bigEndian rest)
  | _ => none

def units32? (bigEndian : Bool) : List UInt8 → Option (List Nat)
  | [] => some []
  | a :: b :: c :: d :: rest => do
    return number bigEndian [a, b, c, d] :: (← units32? bigEndian rest)
  | _ => none

/-- The symbols of units of 16 bits, of which two may make up a character. -/
def joinUnits : List Nat → List Symbol
  | [] => []
  | [u] => [Symbol.ofCode u]
  | u :: v :: rest =>
    if isHigh u && isLow v then Symbol.pair u v :: joinUnits rest
    else Symbol.ofCode u :: joinUnits (v :: rest)

/-- The symbols that bytes write in an encoding. -/
def Encoding.decode? (bytes : List UInt8) : Encoding → Option (List Symbol)
  | .utf8 => ofUtf8? bytes
  | .utf16 bigEndian => (units16? bigEndian bytes).map joinUnits
  | .utf32 bigEndian => do
    let codes ← units32? bigEndian bytes
    if codes.all (· < 0x110000) then some (codes.map Symbol.ofCode) else none

/-- The symbols of a JSON text from its bytes. -/
def symbols? (bytes : List UInt8) : Option (List Symbol) :=
  (Encoding.detect bytes).1.decode? (Encoding.detect bytes).2

end Transcoding.Json
