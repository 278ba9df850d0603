import Transcoding.Text.Digit

/-!
Punycode: a text as its ASCII characters and, after a hyphen, where the others stand among them. The
others are told in the order of their code points by differences, which are numbers of varying
length; how long their digits last is adapted after each of them.
-/

namespace Transcoding.Idna.Punycode

/-- The digit worth `n`, for `n` below 36. -/
def digitChar (n : Nat) : Char :=
  if n < 26 then Char.ofNat ('a'.toNat + n) else Text.digitChar (n - 26)

def digit? (c : Char) : Option Nat :=
  if 'a' ≤ c && c ≤ 'z' then some (c.toNat - 'a'.toNat)
  else if '0' ≤ c && c ≤ '9' then some (c.toNat - '0'.toNat + 26)
  else none

/-- Below this a digit is the last of its number. -/
def threshold (place bias : Nat) : Nat :=
  max 1 (min 26 (place - bias))

/-- A difference scaled down, and by how much. -/
def scale (delta steps : Nat) : Nat × Nat :=
  if 455 < delta then scale (delta / 35) (steps + 36) else (delta, steps)
termination_by delta

/-- The bias after a difference, when `count` characters are placed. -/
def adapt (delta count : Nat) (isFirst : Bool) : Nat :=
  let damped := if isFirst then delta / 700 else delta / 2
  let (rest, scaled) := scale (damped + damped / count) 0
  scaled + 36 * rest / (rest + 38)

/-- The digits of a difference from a place on, the lowest first. -/
def writeDelta (bias place n : Nat) : List Char :=
  let t := threshold place bias
  if n < t then [digitChar n]
  else digitChar (t + (n - t) % (36 - t)) :: writeDelta bias (place + 36) ((n - t) / (36 - t))
termination_by n
decreasing_by
  have low : 1 ≤ threshold place bias := Nat.le_max_left 1 _
  exact Nat.lt_of_le_of_lt (Nat.div_le_self _ _) (by omega)

/-- What is written so far, the difference since then, the bias, and how many characters are placed.
-/
structure Progress where
  written : List Char := []
  delta : Nat
  bias : Nat := 72
  placed : Nat

/-- One character of a text passed, where those of a code point are placed among those of lower
ones; `basic` of all are ASCII. -/
def Progress.pass (basic code : Nat) (p : Progress) (c : Char) : Progress :=
  if c.toNat < code then { p with delta := p.delta + 1 }
  else if c.toNat == code then {
    written := p.written ++ writeDelta p.bias 36 p.delta
    delta := 0
    bias := adapt p.delta (p.placed + 1) (p.placed == basic)
    placed := p.placed + 1 }
  else p

/-- All code points placed, in order, `next` being the lowest that is left. -/
def placeCodes (text : List Char) (basic next : Nat) (p : Progress) : List Nat → Progress
  | [] => p
  | code :: codes =>
    let reached := { p with delta := p.delta + (code - next) * (p.placed + 1) }
    let passed := text.foldl (Progress.pass basic code) reached
    placeCodes text basic (code + 1) { passed with delta := passed.delta + 1 } codes

def encode (text : List Char) : List Char :=
  let basic := text.filter (·.toNat < 0x80)
  let codes := ((text.map Char.toNat).filter (0x80 ≤ ·)).mergeSort.eraseDups
  let start : Progress := { delta := 0, placed := basic.length }
  basic ++ (if basic.isEmpty then [] else ['-']) ++
    (placeCodes text basic.length 0x80 start codes).written

/-- A difference at the front of a text, from a place of some weight on, added to a number. -/
def readDelta (bias place weight n : Nat) : List Char → Option (Nat × List Char)
  | [] => none
  | c :: rest => do
    let d ← digit? c
    let t := threshold place bias
    if d < t then return (n + d * weight, rest)
    else readDelta bias (place + 36) (weight * (36 - t)) (n + d * weight) rest

/-- The text with the characters of at most so many differences added, from a code point on and at
an index. -/
def insertCodes : Nat → Nat → Nat → Nat → List Char → List Char → Option (List Char)
  | _, _, _, _, done, [] => some done
  | 0, _, _, _, _, _ => none
  | steps + 1, code, index, bias, done, cs => do
    let (sum, rest) ← readDelta bias 36 1 index cs
    let count := done.length + 1
    let code := code + sum / count
    let place := sum % count
    if code.isValidChar then
      insertCodes steps code (place + 1) (adapt (sum - index) count (index == 0))
        (done.insertIdx place (Char.ofNat code)) rest
    else none

def decode? (cs : List Char) : Option (List Char) :=
  let digits := (cs.reverse.takeWhile (· != '-')).reverse
  let basic := cs.take (cs.length - digits.length - 1)
  insertCodes cs.length 0x80 0 72 basic digits

end Transcoding.Idna.Punycode
