import Transcoding.Text.Part
import Transcoding.Text.Quoted

/-!
Integers in decimal. A numeral is read with blanks around it, a sign, digits of any script and
single underscores between them; it is written with a minus sign or none and ASCII digits. Neither
way may it have more than 4300 digits.
-/

namespace Transcoding.Numeral

open Text

def maxDigits : Nat := 4300

inductive Fault
  /-- A text to be read starts with too many digits. -/
  | tooLong (digits : Nat)
  /-- A number to be written needs too many digits. -/
  | tooLarge
  | malformed (text : List Char)
  deriving DecidableEq, Repr

def Fault.message : Fault → String
  | .tooLong digits =>
    s!"Exceeds the limit ({maxDigits} digits) for integer string conversion: value has {digits} " ++
      "digits; use sys.set_int_max_str_digits() to increase the limit"
  | .tooLarge =>
    s!"Exceeds the limit ({maxDigits} digits) for integer string conversion; " ++
      "use sys.set_int_max_str_digits() to increase the limit"
  | .malformed text =>
    "invalid literal for int() with base 10: " ++ String.ofList ((quote text).take 200)

/-- A run of digits with single underscores between them, after a prefix worth `value` of `count`
digits: the worth and number of digits of the whole, and what follows. There is none if an
underscore stands anywhere else. -/
def readDigits (value count : Nat) : List Char → Option (Nat × Nat × List Char)
  | [] => some (value, count, [])
  | ['_'] => none
  | '_' :: c :: rest =>
    match digit? c with
    | some d => readDigits (value * 10 + d) (count + 1) rest
    | none => none
  | c :: rest =>
    match digit? c with
    | some d => readDigits (value * 10 + d) (count + 1) rest
    | none => some (value, count, c :: rest)

/-- A run of ASCII digits after a prefix worth `value` of `count` digits: the worth and number of
all digits, and what follows. -/
def asciiRun (value count : Nat) : List Char → Nat × Nat × List Char
  | c :: rest =>
    if c.isDigit then asciiRun (value * 10 + (c.toNat - '0'.toNat)) (count + 1) rest
    else (value, count, c :: rest)
  | [] => (value, count, [])

/-- The sign and the rest of a numeral; no sign counts as plus. -/
def splitSign : List Char → Bool × List Char
  | '-' :: rest => (true, rest)
  | '+' :: rest => (false, rest)
  | cs => (false, cs)

def signed (negative : Bool) (n : Nat) : Int :=
  if negative then -(n : Int) else n

def read (text : List Char) : Except Fault Int :=
  let (negative, body) := splitSign (trim text)
  if !(body.head?.any isDigit) then .error (.malformed text)
  else match readDigits 0 0 body with
    | none => .error (.malformed text)
    | some (value, count, rest) =>
      if maxDigits < count then .error (.tooLong count)
      else if rest.isEmpty then .ok (signed negative value)
      else .error (.malformed text)

/-- The decimal digits of a number in front of a text. -/
def digitsBefore (n : Nat) (tail : List Char) : List Char :=
  if n < 10 then digitChar n :: tail
  else digitsBefore (n / 10) (digitChar (n % 10) :: tail)

def ofNat (n : Nat) : List Char :=
  digitsBefore n []

def ofInt : Int → List Char
  | .ofNat n => ofNat n
  | .negSucc n => '-' :: ofNat (n + 1)

/-- The numeral of an integer, if it is not too long to be written. -/
def write (i : Int) : Except Fault (List Char) :=
  if i.natAbs < Nat.pow 10 maxDigits then .ok (ofInt i) else .error .tooLarge

theorem write_eq (i : Int) :
    write i = if i.natAbs < Nat.pow 10 maxDigits then .ok (ofInt i) else .error .tooLarge :=
  rfl

-- No unfolding may reach the bound, a power with thousands of digits.
attribute [irreducible] write

def twoDigits (n : Nat) : List Char :=
  [digitChar (n / 10 % 10), digitChar (n % 10)]

/-- The lowest `width` digits of a number, most significant first. -/
def padded (n : Nat) : Nat → List Char
  | 0 => []
  | width + 1 => digitChar (n / Nat.pow 10 width % 10) :: padded n width

end Transcoding.Numeral
