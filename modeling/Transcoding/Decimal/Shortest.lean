import Transcoding.Decimal.Binary64

/-!
The shortest decimal text of a binary number: the fewest digits that read back as the same number,
of those the nearest to it. Numbers from 0.0001 up to below 10^16 are written positionally with at
least one digit after the point, all others with an exponent of at least two digits.
-/

namespace Transcoding.Binary64

open Numeral

/-- The exponent of the leading decimal digit of the fraction `num / den`, which is not zero. -/
def leadingExponent (num den : Nat) : Int :=
  if den ≤ num then ((ofNat (num / den)).length : Int) - 1
  else
    let length := (ofNat (den / num)).length
    if num * Nat.pow 10 (length - 1) == den then -((length : Int) - 1) else -(length : Int)

structure Decimal where
  digits : Nat
  exponent : Int
  deriving DecidableEq, Repr

/-- The decimals that a number stands for: all between the ends, which belong to it if `closed`. The
ends and the number itself are over one denominator. -/
structure Neighbourhood where
  low : Nat
  value : Nat
  high : Nat
  den : Nat
  closed : Bool

/-- The neighbourhood of `significand * 2 ^ exponent`: it ends half way to the numbers
next to it. -/
def neighbourhood (significand : Nat) (exponent : Int) : Neighbourhood :=
  let nearBelow := significand == significandLimit / 2 && minExponent < exponent
  let (value, den) := scaleBy (4 * significand) 1 (2 - exponent)
  let unit := value / (4 * significand)
  ⟨value - (if nearBelow then unit else 2 * unit), value, value + 2 * unit, den,
    significand % 2 == 0⟩

def Neighbourhood.contains (b : Neighbourhood) (num den : Nat) : Bool :=
  let point := num * b.den
  if b.closed then b.low * den ≤ point && point ≤ b.high * den
  else b.low * den < point && point < b.high * den

/-- The decimal of the grid `10 ^ exponent` that lies in the neighbourhood nearest to its value. -/
def Neighbourhood.onGrid? (b : Neighbourhood) (exponent : Int) : Option Decimal :=
  let up := Nat.pow 10 exponent.toNat
  let down := Nat.pow 10 (-exponent).toNat
  let below := b.value * down / (b.den * up)
  let rest := b.value * down % (b.den * up)
  let above := below + 1
  match b.contains (below * up) down, b.contains (above * up) down with
  | false, false => none
  | true, false => some ⟨below, exponent⟩
  | false, true => some ⟨above, exponent⟩
  | true, true =>
    if 2 * rest < b.den * up || (2 * rest == b.den * up && below % 2 == 0) then
      some ⟨below, exponent⟩
    else some ⟨above, exponent⟩

/-- The first grid from the coarsest on, of `count` grids, that has a decimal
in the neighbourhood. -/
def Neighbourhood.search (b : Neighbourhood) (exponent : Int) : Nat → Decimal
  | 0 => ⟨0, 0⟩
  | count + 1 =>
    match b.onGrid? exponent with
    | some d => d
    | none => b.search (exponent - 1) count

/-- The shortest decimal that reads back as `significand * 2 ^ exponent`. -/
def shortest (significand : Nat) (exponent : Int) : Decimal :=
  if significand == 0 then ⟨0, 0⟩
  else
    let b := neighbourhood significand exponent
    b.search (leadingExponent b.value b.den) 18

/-- How an exponent is written: a sign and at least two digits. -/
def exponentText (e : Int) : List Char :=
  (if e < 0 then '-' else '+') :: (if e.natAbs < 10 then '0' :: ofNat e.natAbs else ofNat e.natAbs)

/-- Digits with the point after the one worth `10 ^ 0`, where `e` is the exponent of the first. -/
def positional (digits : List Char) (e : Int) : List Char :=
  if e < 0 then '0' :: '.' :: (List.replicate (-e - 1).toNat '0' ++ digits)
  else
    let whole := e.toNat + 1
    let fraction := digits.drop whole
    digits.take whole ++ List.replicate (whole - digits.length) '0' ++
      '.' :: (if fraction.isEmpty then ['0'] else fraction)

def Decimal.text (d : Decimal) : List Char :=
  let all := ofNat d.digits
  let digits := match Text.dropEndWhile (· == '0') all with
    | [] => ['0']
    | ds => ds
  let e := d.exponent + all.length - 1
  if d.digits == 0 then ['0', '.', '0']
  else if -4 ≤ e && e < 16 then positional digits e
  else match digits with
    | [c] => c :: 'e' :: exponentText e
    | c :: cs => c :: '.' :: (cs ++ 'e' :: exponentText e)
    | [] => []

def text : Binary64 → List Char
  | .finite negative significand exponent =>
    let body := (shortest significand exponent).text
    if negative then '-' :: body else body
  | .infinite negative => if negative then ['-', 'i', 'n', 'f'] else ['i', 'n', 'f']
  | .nan => ['n', 'a', 'n']

end Transcoding.Binary64
