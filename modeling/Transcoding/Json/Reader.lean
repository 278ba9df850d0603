import Transcoding.Json
import Transcoding.Text.Numeral

/-!
Reading JSON text. Besides the standard it knows the numbers `NaN`, `Infinity` and `-Infinity` and
lets a name repeat in an object; a control character in a string is refused. What is refused too is
an integer of more digits than a numeral may have, and a value in which arrays and objects lie in
each other more deeply than the stack has room for. The first of these that is met decides.
-/

namespace Transcoding.Json

inductive Fault
  | malformed
  /-- An integer has too many digits. -/
  | tooLong
  /-- Arrays and objects lie in each other too deeply. -/
  | tooDeep
  deriving DecidableEq, Repr

def isSpace (s : Symbol) : Bool :=
  s.char?.any fun c => c == ' ' || c == '\t' || c == '\n' || c == '\r'

def skipSpace (cs : List Symbol) : List Symbol :=
  cs.dropWhile isSpace

/-- The number that hexadecimal digits write. -/
def hex? (digits : List Symbol) : Option Nat :=
  digits.foldlM (fun n s => (s.char?.bind Text.hexWorth?).map (n * 16 + ·)) 0

/-- The character that an escape of one letter stands for. -/
def plainEscape? : Symbol → Option Char
  | .char '"' => some '"'
  | .char '\\' => some '\\'
  | .char '/' => some '/'
  | .char 'b' => some '\x08'
  | .char 'f' => some '\x0c'
  | .char 'n' => some '\n'
  | .char 'r' => some '\r'
  | .char 't' => some '\t'
  | _ => none

/-- The symbols of a string with that of one more escaped number. A second half joins the first if
that was escaped just before, which `high` tells. -/
def addEscaped (done : List Symbol) (high : Option Nat) (n : Nat) : List Symbol × Option Nat :=
  match high.filter fun _ => isLow n with
  | some h => (Symbol.pair h n :: done.tail, none)
  | none => (Symbol.ofCode n :: done, if isHigh n then some n else none)

/-- The rest of a string after its opening quote: its symbols backwards, and what follows the
closing quote. -/
def readString (done : List Symbol) (high : Option Nat) :
    List Symbol → Except Fault (List Symbol × List Symbol)
  | [] => .error .malformed
  | .char '"' :: rest => .ok (done, rest)
  | .char '\\' :: .char 'u' :: a :: b :: c :: d :: rest =>
    match hex? [a, b, c, d] with
    | some n => readString (addEscaped done high n).1 (addEscaped done high n).2 rest
    | none => .error .malformed
  | .char '\\' :: s :: rest =>
    match plainEscape? s with
    | some c => readString (.char c :: done) none rest
    | none => .error .malformed
  | s :: rest =>
    if s.char?.any fun c => c.toNat < 0x20 || c == '\\' then .error .malformed
    else readString (s :: done) none rest

/-- The text of symbols, if all are characters. -/
def text? (symbols : List Symbol) : Option String :=
  (symbols.mapM Symbol.char?).map String.ofList

def Name.ofSymbols (symbols : List Symbol) : Name :=
  ((text? symbols).map Name.text).getD (.broken symbols)

/-- A run of digits after a prefix worth `value` of `count` digits: the worth and number of all
digits, and what follows. -/
def digitRun (value count : Nat) : List Symbol → Nat × Nat × List Symbol
  | .char c :: rest =>
    if c.isDigit then digitRun (value * 10 + (c.toNat - '0'.toNat)) (count + 1) rest
    else (value, count, .char c :: rest)
  | cs => (value, count, cs)

/-- The sign of an exponent and what follows it. -/
def splitSign : List Symbol → Bool × List Symbol
  | .char '-' :: rest => (true, rest)
  | .char '+' :: rest => (false, rest)
  | cs => (false, cs)

/-- The exponent at the front of a text, zero if there is none. -/
def readExponent (cs : List Symbol) : Option Int × List Symbol :=
  match cs with
  | .char e :: rest =>
    if e == 'e' || e == 'E' then
      let (negative, digits) := splitSign rest
      match digitRun 0 0 digits with
      | (_, 0, _) => (none, cs)
      | (n, _, after) => (some (Numeral.signed negative n), after)
    else (none, cs)
  | _ => (none, cs)

/-- The fraction at the front of a text, after a whole part of worth `value` and `count` digits: the
worth and number of digits with it, and how many digits it has. -/
def readFraction (value count : Nat) (cs : List Symbol) : Nat × Nat × Nat × List Symbol :=
  match cs with
  | .char '.' :: rest =>
    match digitRun value count rest with
    | (v, n, after) => if n == count then (value, count, 0, cs) else (v, n, n - count, after)
  | _ => (value, count, 0, cs)

def readNumber (negative : Bool) (cs : List Symbol) : Except Fault (Json × List Symbol) :=
  match (match cs with
    | .char '0' :: rest => (0, 1, rest)
    | _ => digitRun 0 0 cs) with
  | (_, 0, _) => .error .malformed
  | (whole, count, rest) =>
    let (value, digits, places, rest) := readFraction whole count rest
    let (exponent, rest) := readExponent rest
    if places == 0 && exponent.isNone then
      if Numeral.maxDigits < count then .error .tooLong
      else .ok (.int (Numeral.signed negative whole), rest)
    else
      .ok (.float (Binary64.ofDecimal negative value digits (exponent.getD 0 - places)), rest)

/-- What follows a word at the front of a text. -/
def after? (word : String) (cs : List Symbol) : Option (List Symbol) :=
  let symbols := word.toList.map Symbol.char
  if symbols.isPrefixOf cs then some (cs.drop symbols.length) else none

def readScalar (cs : List Symbol) : Except Fault (Json × List Symbol) :=
  if let some rest := after? "null" cs then .ok (.null, rest)
  else if let some rest := after? "true" cs then .ok (.bool true, rest)
  else if let some rest := after? "false" cs then .ok (.bool false, rest)
  else if let some rest := after? "NaN" cs then .ok (.float .nan, rest)
  else if let some rest := after? "Infinity" cs then .ok (.float (.infinite false), rest)
  else if let some rest := after? "-Infinity" cs then .ok (.float (.infinite true), rest)
  else match cs with
    | .char '-' :: rest => readNumber true rest
    | _ => readNumber false cs

mutual

/-- A value at the front of a text without leading space, with at most so many arrays and objects in
each other; `steps` bounds the recursion. -/
def readValue : Nat → Nat → List Symbol → Except Fault (Json × List Symbol)
  | 0, _, _ => .error .malformed
  | steps + 1, levels, cs =>
    match cs with
    | .char '"' :: rest => do
      let (done, rest) ← readString [] none rest
      return (((text? done.reverse).map Json.string).getD .brokenString, rest)
    | .char '[' :: rest =>
      match levels with
      | 0 => .error .tooDeep
      | levels + 1 =>
        match skipSpace rest with
        | .char ']' :: rest => .ok (.array [], rest)
        | rest => do
          let (items, rest) ← readItems steps levels [] rest
          return (.array items, rest)
    | .char '\x7b' :: rest =>
      match levels with
      | 0 => .error .tooDeep
      | levels + 1 =>
        match skipSpace rest with
        | .char '\x7d' :: rest => .ok (.object [], rest)
        | rest => do
          let (members, rest) ← readMembers steps levels [] rest
          return (ofMembers members, rest)
    | _ => readScalar cs

/-- The items of an array from one item on, after those in `done`, which are backwards. -/
def readItems : Nat → Nat → List Json → List Symbol → Except Fault (List Json × List Symbol)
  | 0, _, _, _ => .error .malformed
  | steps + 1, levels, done, cs => do
    let (item, rest) ← readValue steps levels cs
    match skipSpace rest with
    | .char ',' :: rest => readItems steps levels (item :: done) (skipSpace rest)
    | .char ']' :: rest => return ((item :: done).reverse, rest)
    | _ => .error .malformed

/-- The members of an object from one name on, after those in `done`, which are backwards. -/
def readMembers : Nat → Nat → Members → List Symbol → Except Fault (Members × List Symbol)
  | 0, _, _, _ => .error .malformed
  | steps + 1, levels, done, cs => do
    match cs with
    | .char '"' :: rest =>
      let (name, rest) ← readString [] none rest
      match skipSpace rest with
      | .char ':' :: rest =>
        let (value, rest) ← readValue steps levels (skipSpace rest)
        let done := (Name.ofSymbols name.reverse, value) :: done
        match skipSpace rest with
        | .char ',' :: rest => readMembers steps levels done (skipSpace rest)
        | .char '\x7d' :: rest => return (done.reverse, rest)
        | _ => .error .malformed
      | _ => .error .malformed
    | _ => .error .malformed

end

/-- The value that a text writes, with space around it. A symbol that opens an array or an object
takes two steps at most, so their number is no bound on what can be read. -/
def read (levels : Nat) (cs : List Symbol) : Except Fault Json := do
  let (value, rest) ← readValue (2 * cs.length + 1) levels (skipSpace cs)
  if (skipSpace rest).isEmpty then return value else .error .malformed

end Transcoding.Json
