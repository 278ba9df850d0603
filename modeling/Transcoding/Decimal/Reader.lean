import Transcoding.Decimal.Binary64
import Transcoding.Text.Letter

/-!
Reading a binary number from decimal text: an optional sign, digits with or without a point among
them, an optional exponent, and single underscores between digits; or a word for infinity or
not-a-number in any case.
-/

namespace Transcoding.Binary64

open Text

/-- The text without its underscores, if each of them stands between two digits. -/
def dropUnderscores? (before : Bool) : List Char → Option (List Char)
  | [] => some []
  | '_' :: c :: rest =>
    if before && c.isDigit then (dropUnderscores? true rest).map (c :: ·) else none
  | c :: rest =>
    if c == '_' then none else (dropUnderscores? c.isDigit rest).map (c :: ·)

/-- What follows the digits of a number: nothing, or an exponent. -/
def exponent? : List Char → Option Int
  | [] => some 0
  | e :: rest =>
    if e == 'e' || e == 'E' then
      let (negative, digits) := Numeral.splitSign rest
      match Numeral.asciiRun 0 0 digits with
      | (n, count, []) => if count == 0 then none else some (Numeral.signed negative n)
      | _ => none
    else none

def unsigned? (negative : Bool) (cs : List Char) : Option Binary64 :=
  let (whole, count, rest) := Numeral.asciiRun 0 0 cs
  let (value, digits, rest) := match rest with
    | '.' :: rest => Numeral.asciiRun whole count rest
    | _ => (whole, count, rest)
  if digits == 0 then none
  else (exponent? rest).map fun e => ofDecimal negative value digits (e - (digits - count : Nat))

def read? (text : List Char) : Option Binary64 := do
  let cs ← dropUnderscores? false (trimWhile isAsciiBlank text)
  let (negative, body) := Numeral.splitSign cs
  let word := toLower body
  if word == "inf".toList || word == "infinity".toList then return .infinite negative
  else if word == "nan".toList then return .nan
  else unsigned? negative body

end Transcoding.Binary64
