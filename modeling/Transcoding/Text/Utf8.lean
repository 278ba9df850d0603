/-!
Text as UTF-8 bytes. Reading is total: a byte sequence that is no UTF-8 counts as one replacement
character for each longest part that could still have begun a character.
-/

namespace Transcoding.Text

def utf8Bytes (c : Char) : List UInt8 :=
  let n := c.toNat
  if n < 0x80 then [n.toUInt8]
  else if n < 0x800 then [(0xC0 + n / 0x40).toUInt8, (0x80 + n % 0x40).toUInt8]
  else if n < 0x10000 then
    [(0xE0 + n / 0x1000).toUInt8, (0x80 + n / 0x40 % 0x40).toUInt8, (0x80 + n % 0x40).toUInt8]
  else
    [(0xF0 + n / 0x40000).toUInt8, (0x80 + n / 0x1000 % 0x40).toUInt8,
      (0x80 + n / 0x40 % 0x40).toUInt8, (0x80 + n % 0x40).toUInt8]

def toUtf8 (cs : List Char) : List UInt8 :=
  cs.flatMap utf8Bytes

/-- A character that is not complete yet: its bits so far, how many bytes are missing, and the range
of the next one. -/
structure Utf8Pending where
  bits : Nat
  missing : Nat
  low : UInt8
  high : UInt8

def utf8Lead? (b : UInt8) : Option Utf8Pending :=
  if b < 0x80 then some ⟨b.toNat, 0, 0x80, 0xBF⟩
  else if b < 0xC2 then none
  else if b < 0xE0 then some ⟨b.toNat - 0xC0, 1, 0x80, 0xBF⟩
  else if b < 0xF0 then
    some ⟨b.toNat - 0xE0, 2, if b == 0xE0 then 0xA0 else 0x80, if b == 0xED then 0x9F else 0xBF⟩
  else if b < 0xF5 then
    some ⟨b.toNat - 0xF0, 3, if b == 0xF0 then 0x90 else 0x80, if b == 0xF4 then 0x8F else 0xBF⟩
  else none

def replacement : Char := '\ufffd'

/-- The text read so far, backwards, and the character at its end if that is not complete. -/
abbrev Utf8State := List Char × Option Utf8Pending

/-- A pending character joins the text once no byte is missing. -/
def Utf8Pending.settle (done : List Char) (p : Utf8Pending) : Utf8State :=
  if p.missing == 0 then (Char.ofNat p.bits :: done, none) else (done, some p)

def utf8Begin (done : List Char) (b : UInt8) : Utf8State :=
  match utf8Lead? b with
  | none => (replacement :: done, none)
  | some p => p.settle done

def utf8Step : Utf8State → UInt8 → Utf8State
  | (done, none), b => utf8Begin done b
  | (done, some p), b =>
    if p.low ≤ b && b ≤ p.high then
      Utf8Pending.settle done ⟨p.bits * 0x40 + (b.toNat - 0x80), p.missing - 1, 0x80, 0xBF⟩
    else utf8Begin (replacement :: done) b

def ofUtf8 (bytes : List UInt8) : List Char :=
  match bytes.foldl utf8Step ([], none) with
  | (done, none) => done.reverse
  | (done, some _) => (replacement :: done).reverse

/-- Whether bytes are some text in UTF-8: then nothing is replaced when they are read. -/
def isUtf8 (bytes : List UInt8) : Bool :=
  toUtf8 (ofUtf8 bytes) == bytes

end Transcoding.Text
