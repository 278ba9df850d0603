import Transcoding.Idna.Composition
import Transcoding.Idna.Punycode

/-!
Names of hosts outside ASCII, as the rules for internationalized names of 2008 have them: each label
has to be composed, of characters that may stand where they do, and written in one direction. A
label outside ASCII becomes Punycode with a prefix. Nothing is mapped to what may stand in a name,
so the caller has to pass a name in lower case.
-/

namespace Transcoding.Idna

open Text (isIn)

def isValid (c : Char) : Bool :=
  validRuns.any fun (first, last, step) =>
    first ≤ c.toNat && c.toNat ≤ last && (c.toNat - first) % step == 0

def isMark (c : Char) : Bool :=
  isIn nonspacingRanges c || isIn spacingRanges c

/-- The class of marks that join two consonants. -/
def viramaClass : Nat := 9

def joining? (c : Char) : Option Joining :=
  (joiningRuns.find? fun (first, last, _) => first ≤ c.toNat && c.toNat ≤ last).map (·.2.2)

/-- Whether a character does not count for whether its neighbours join. The few marks that differ in
this from all others are named. -/
def isTransparent (c : Char) : Bool :=
  (isIn nonspacingRanges c && c.toNat != 0x1171E) ||
    [0xCBF, 0xCC6, 0x11A07, 0x11A08, 0x11C3F, 0x1E94B].contains c.toNat

/-- Whether what stands next joins, marks apart. -/
def joins (side : Joining) (cs : List Char) : Bool :=
  ((cs.dropWhile isTransparent).head?.bind joining?).any fun j => j == side || j == .both

/-- Whether a character that may stand in some places only may stand between two texts, of which the
first is backwards. -/
def isInPlace (before : List Char) (c : Char) (after : List Char) : Bool :=
  if c == '\u200c' then
    before.head?.any (combiningClass · == viramaClass) || (joins .left before && joins .right after)
  else if c == '\u200d' then before.head?.any (combiningClass · == viramaClass)
  else if c == '\u00b7' then before.head? == some 'l' && after.head? == some 'l'
  else if c == '\u0375' then after.head?.any (isIn greekRanges)
  else if c == '\u05f3' || c == '\u05f4' then before.head?.any (isIn hebrewRanges)
  else if c == '\u30fb' then (before ++ after).any (isIn japaneseRanges)
  else if '\u0660' ≤ c && c ≤ '\u0669' then
    !(before ++ after).any fun d => '\u06f0' ≤ d && d ≤ '\u06f9'
  else if '\u06f0' ≤ c && c ≤ '\u06f9' then
    !(before ++ after).any fun d => '\u0660' ≤ d && d ≤ '\u0669'
  else false

/-- Whether all characters after a text, which is backwards, may stand where they do. -/
def areInPlace (before : List Char) : List Char → Bool
  | [] => true
  | c :: after => (isValid c || isInPlace before c after) && areInPlace (c :: before) after

def direction (c : Char) : Direction :=
  if isIn nonspacingRanges c then .mark
  else match directionRuns.find? fun (first, last, _) => first ≤ c.toNat && c.toNat ≤ last with
    | some (_, _, d) => d
    | none => .leftToRight

/-- Whether a label with something in it that is written from right to left can be told from the
text around it. -/
def keepsDirection (cs : List Char) : Bool :=
  let directions := cs.map direction
  let last := directions.reverse.find? (· != .mark)
  if !directions.any fun d => d == .rightToLeft || d == .arabic then true
  else match directions.head? with
    | some .rightToLeft =>
      !directions.contains .leftToRight &&
        !(directions.contains .european && directions.contains .arabic) &&
        last.any fun d => d == .rightToLeft || d == .european || d == .arabic
    | some .leftToRight =>
      !directions.any (fun d => d == .rightToLeft || d == .arabic) &&
        last.any fun d => d == .leftToRight || d == .european
    | _ => false

def isLabel (cs : List Char) : Bool :=
  !cs.isEmpty && areInPlace [] cs && isComposed cs && (cs.drop 2).take 2 != ['-', '-'] &&
    cs.head? != some '-' && cs.getLast? != some '-' && !cs.head?.any isMark && keepsDirection cs

/-- What an encoded label begins with. -/
def mark : List Char := ['x', 'n', '-', '-']

def maxLabelLength : Nat := 63

/-- A label in ASCII, if it is one. -/
def encodeLabel? (cs : List Char) : Option (List Char) :=
  let encoded := if cs.all (·.toNat < 0x80) then cs else mark ++ Punycode.encode cs
  let plain? :=
    if !cs.all (·.toNat < 0x80) then some cs
    else if !mark.isPrefixOf cs then some cs
    else if cs.getLast? == some '-' then none
    else Punycode.decode? (cs.drop mark.length)
  if plain?.any isLabel && encoded.length ≤ maxLabelLength then some encoded else none

/-- The dots of every script. -/
def isDot (c : Char) : Bool :=
  ['.', '\u3002', '\uff0e', '\uff61'].contains c

def maxNameLength : Nat := 253

/-- The name of a host in ASCII, if it is one. It may end with a dot, which does not count for its
length. -/
def encode? (name : List Char) : Option (List Char) := do
  let labels := name.splitOnP isDot
  let dotted := labels.getLast? == some []
  let encoded ← (if dotted then labels.dropLast else labels).mapM encodeLabel?
  let whole := ['.'].intercalate (if dotted then encoded ++ [[]] else encoded)
  if encoded.isEmpty || maxNameLength < (if dotted then whole.length - 1 else whole.length) then
    none
  else return whole

end Transcoding.Idna
