import Transcoding.Timestamp
import Transcoding.Text.Numeral

/-!
Reading a timestamp such as `2015-11-18 17:27:09 -0500`. The text is matched against the notation
first, where digits of any script count, fields may lack a leading zero and any blanks may stand for
a space; of several ways to match, the one that takes the longer field first counts. What matches
may still be no moment: the faults say why.
-/

namespace Transcoding.Timestamp

open Text

inductive Fault
  | mismatch (text : List Char)
  | leftover (rest : List Char)
  /-- A zone has a colon after the hours and none before the seconds. -/
  | colons (zone : List Char)
  | numeral (fault : Numeral.Fault)
  | year
  | day
  | second
  | offset (micros : Int)
  deriving DecidableEq, Repr

/-- A span of time as days, seconds and microseconds, of which only the days may be negative. -/
def spanText (micros : Int) : String :=
  let days := micros.fdiv microsPerDay
  let rest := micros.fmod microsPerDay
  let parts := [("days", days), ("seconds", rest.fdiv microsPerSecond),
    ("microseconds", rest.fmod microsPerSecond)]
  let shown := parts.filterMap fun (name, n) =>
    if n == 0 then none else some (name ++ "=" ++ String.ofList (Numeral.ofInt n))
  "datetime.timedelta(" ++ (if shown.isEmpty then "0" else ", ".intercalate shown) ++ ")"

def Fault.message : Fault → String
  | .mismatch text =>
    "time data " ++ String.ofList (quote text) ++ " does not match format '%Y-%m-%d %H:%M:%S %z'"
  | .leftover rest => "unconverted data remains: " ++ String.ofList rest
  | .colons zone => "Inconsistent use of : in " ++ String.ofList zone
  | .numeral fault => fault.message
  | .year => "year 0 is out of range"
  | .day => "day is out of range for month"
  | .second => "second must be in 0..59"
  | .offset micros =>
    "offset must be a timedelta strictly between -timedelta(hours=24) and timedelta(hours=24), " ++
      "not " ++ spanText micros ++ "."

abbrev Pattern := List Char → List (List Char × List Char)

namespace Pattern

def one (p : Char → Bool) : Pattern
  | c :: rest => if p c then [([c], rest)] else []
  | [] => []

def digit : Pattern := one isDigit

/-- An ASCII character from `first` to `last`. -/
def range (first last : Char) : Pattern := one fun c => first ≤ c && c ≤ last

def char (c : Char) : Pattern := one (· == c)

def both (p q : Pattern) : Pattern := fun cs =>
  (p cs).flatMap fun (taken, rest) => (q rest).map fun (more, rest) => (taken ++ more, rest)

def either (p q : Pattern) : Pattern := fun cs => p cs ++ q cs

def maybe (p : Pattern) : Pattern := fun cs => p cs ++ [([], cs)]

/-- At most `count` characters, as many as can be first; at least one. -/
def upTo (p : Char → Bool) : Nat → Pattern
  | 0 => fun _ => []
  | count + 1 => fun cs =>
    match cs with
    | c :: rest =>
      if p c then
        (upTo p count rest).map (fun (taken, after) => (c :: taken, after)) ++ [([c], rest)]
      else []
    | [] => []

/-- At least one blank, as many as can be first. -/
def blanks : Pattern := fun cs => upTo isBlank cs.length cs

def year : Pattern := both digit (both digit (both digit digit))

def month : Pattern :=
  either (both (char '1') (range '0' '2'))
    (either (both (char '0') (range '1' '9')) (range '1' '9'))

def day : Pattern :=
  either (both (char '3') (range '0' '1'))
    (either (both (range '1' '2') digit)
      (either (both (char '0') (range '1' '9'))
        (either (range '1' '9') (both (char ' ') (range '1' '9')))))

def hour : Pattern :=
  either (both (char '2') (range '0' '3')) (either (both (range '0' '1') digit) digit)

def minute : Pattern := either (both (range '0' '5') digit) digit

def second : Pattern := either (both (char '6') (range '0' '1')) minute

def zone : Pattern :=
  let sexagesimal := both (range '0' '5') digit
  let fraction := both (char '.') (upTo isDigit 6)
  let seconds := both (maybe (char ':')) (both sexagesimal (maybe fraction))
  either
    (both (either (char '+') (char '-'))
      (both digit (both digit (both (maybe (char ':')) (both sexagesimal (maybe seconds))))))
    (char 'Z')

/-- The end of a text or anything before it. -/
def nothing : Pattern := fun cs => [([], cs)]

/-- The fields of a notation, each with what closes it: the ways to split a text into them, best
first, with what follows the last. -/
def split : List (Pattern × Pattern) → List Char → List (List (List Char) × List Char)
  | [], cs => [([], cs)]
  | (field, close) :: fields, cs =>
    (field cs).flatMap fun (taken, rest) =>
      (close rest).flatMap fun (_, rest) =>
        (split fields rest).map fun (others, rest) => (taken :: others, rest)

def timestamp : List (Pattern × Pattern) :=
  [(year, char '-'), (month, char '-'), (day, blanks), (hour, char ':'), (minute, char ':'),
    (second, blanks), (zone, nothing)]

end Pattern

structure Fields where
  year : List Char
  month : List Char
  day : List Char
  hour : List Char
  minute : List Char
  second : List Char
  zone : List Char
  deriving DecidableEq, Repr

def Fields.match? (cs : List Char) : Option (Fields × List Char) :=
  match (Pattern.split Pattern.timestamp cs).head? with
  | some ([year, month, day, hour, minute, second, zone], rest) =>
    some (⟨year, month, day, hour, minute, second, zone⟩, rest)
  | _ => none

/-- The worth of digits of any script. -/
def worth (cs : List Char) : Nat :=
  cs.foldl (fun n c => n * 10 + (digit? c).getD 0) 0

def numeral (cs : List Char) : Except Fault Int :=
  (Numeral.read cs).mapError .numeral

/-- A zone without the colons between its fields. A zone with a colon after the hours has to have
one before the seconds. -/
def dropColons (zone : List Char) : Except Fault (List Char) :=
  if zone.getD 3 ' ' == ':' then
    let zone' := zone.eraseIdx 3
    if 5 < zone'.length then
      if zone'.getD 5 ' ' == ':' then .ok (zone'.eraseIdx 5) else .error (.colons zone)
    else .ok zone'
  else .ok zone

/-- The microseconds that a zone is ahead of universal time. -/
def zoneMicros (zone : List Char) : Except Fault Int := do
  if zone == ['Z'] then return 0
  let z ← dropColons zone
  let hours ← numeral ((z.drop 1).take 2)
  let minutes ← numeral ((z.drop 3).take 2)
  let seconds ← match (z.drop 5).take 2 with
    | [] => pure 0
    | cs => numeral cs
  let fraction := z.drop 8
  let micros ← numeral (fraction ++ List.replicate (6 - fraction.length) '0')
  let total := (hours * 3600 + minutes * 60 + seconds) * microsPerSecond + micros
  return if z.head? == some '-' then -total else total

def dateOf (f : Fields) : Except Fault Date :=
  let year := worth f.year
  let month := worth f.month
  let day := worth f.day
  if hy : 1 ≤ year ∧ year ≤ 9999 then
    if hm : 1 ≤ month ∧ month ≤ 12 then
      if hd : 1 ≤ day ∧ day ≤ daysIn year month then .ok ⟨year, month, day, hy, hm, hd⟩
      else .error .day
    else .error .day
  else .error .year

def offsetOf (micros : Int) : Except Fault Offset :=
  if h : -microsPerDay < micros ∧ micros < microsPerDay then .ok ⟨micros, h⟩
  else .error (.offset micros)

def timeOf (f : Fields) : Except Fault TimeOfDay :=
  let hour := worth f.hour
  let minute := worth f.minute
  let second := worth f.second
  if h : hour < 24 ∧ minute < 60 ∧ second < 60 then .ok ⟨hour, minute, second, h.1, h.2.1, h.2.2⟩
  else .error .second

def parse (cs : List Char) : Except Fault Timestamp :=
  match Fields.match? cs with
  | none => .error (.mismatch cs)
  | some (f, rest) => do
    if !rest.isEmpty then throw (.leftover rest)
    let micros ← zoneMicros f.zone
    let date ← dateOf f
    let offset ← offsetOf micros
    let time ← timeOf f
    return ⟨date, time, offset⟩

/-- The moment that a text writes with blanks around it; a blank text writes none. -/
def read (cs : List Char) : Except Fault (Option Timestamp) :=
  match trim cs with
  | [] => .ok none
  | cs => (parse cs).map some

end Transcoding.Timestamp
