import Transcoding.Text.Numeral

/-!
Binary floating-point numbers of 64 bits as exact values, and reading one from decimal text. A
decimal is rounded to the nearest such number, a tie to the even significand; what is too large
becomes infinite.
-/

namespace Transcoding

/-- A finite number is `significand * 2 ^ exponent` with its sign. Its exponent is the least one for
which the significand is below `2 ^ 53`, but not less than -1074. -/
inductive Binary64
  | finite (negative : Bool) (significand : Nat) (exponent : Int)
  | infinite (negative : Bool)
  | nan
  deriving DecidableEq, Repr

namespace Binary64

/-- The first number that is too large for a significand: two to the 53rd. -/
def significandLimit : Nat := 0x20000000000000

def minExponent : Int := -1074
def maxExponent : Int := 971

/-- The quotient rounded to the nearest integer, a half to the even one. -/
def divideToEven (num den : Nat) : Nat :=
  let whole := num / den
  let twice := 2 * (num % den)
  if twice < den then whole
  else if den < twice then whole + 1
  else whole + whole % 2

/-- The fraction `num / den / 2 ^ exponent` as numerator and denominator. -/
def scaleBy (num den : Nat) (exponent : Int) : Nat × Nat :=
  if 0 ≤ exponent then (num, den * Nat.pow 2 exponent.toNat)
  else (num * Nat.pow 2 (-exponent).toNat, den)

/-- The number nearest to the fraction `num / den`. -/
def ofFraction (negative : Bool) (num den : Nat) : Binary64 :=
  if num == 0 then .finite negative 0 minExponent
  else
    let high : Int := (num.log2 : Int) - den.log2
    let (n, d) := scaleBy num den (high - 53)
    let exponent := max minExponent (if n / d < significandLimit then high - 53 else high - 52)
    let (n, d) := scaleBy num den exponent
    let significand := divideToEven n d
    let (significand, exponent) :=
      if significand == significandLimit then (significandLimit / 2, exponent + 1)
      else (significand, exponent)
    if maxExponent < exponent then .infinite negative else .finite negative significand exponent

/-- The number nearest to `digits * 10 ^ exponent`, where `digits` has at most `count` digits. -/
def ofDecimal (negative : Bool) (digits count : Nat) (exponent : Int) : Binary64 :=
  if 400 < exponent + count && digits != 0 then .infinite negative
  else if exponent + count < -400 then .finite negative 0 minExponent
  else if 0 ≤ exponent then
    ofFraction negative (if digits == 0 then 0 else digits * Nat.pow 10 exponent.toNat) 1
  else ofFraction negative digits (Nat.pow 10 (-exponent).toNat)

/-- The integer part, rounded toward zero; infinities and not-a-number have none. -/
def truncate? : Binary64 → Option Int
  | .finite negative significand exponent =>
    let (n, d) := scaleBy significand 1 (-exponent)
    some (Numeral.signed negative (n / d))
  | _ => none

/-- Whether the number is finite and has no fraction. -/
def isWhole : Binary64 → Bool
  | .finite _ significand exponent =>
    let (n, d) := scaleBy significand 1 (-exponent)
    n % d == 0
  | _ => false

end Binary64
end Transcoding
