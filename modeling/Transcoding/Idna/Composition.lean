import Transcoding.Idna.Tables
import Transcoding.Text.Letter

/-!
Composed texts: those in which no letter and mark stand apart that make up one character, and marks
stand in their order. The characters of a text are taken apart and put together again; the text was
composed if it comes out as it was. Syllables of Hangul stay whole on the way, since what they are
made of may not stand in a name.
-/

namespace Transcoding.Idna

def combiningClass (c : Char) : Nat :=
  match combiningRuns.find? fun (first, last, _) => first ≤ c.toNat && c.toNat ≤ last with
  | some (_, _, number) => number
  | none => 0

/-- A letter and its marks from a character; at most `depth` marks are taken off. -/
def takeApart : Nat → Char → List Char
  | 0, c => [c]
  | depth + 1, c =>
    match composites.find? fun (whole, _, _) => whole == c.toNat with
    | some (_, letter, mark) => takeApart depth (Char.ofNat letter) ++ [Char.ofNat mark]
    | none => [c]

/-- One more character after a text, which is backwards; a mark goes before those of higher class.
-/
def insertMark (c : Char) : List Char → List Char
  | [] => [c]
  | d :: before =>
    if combiningClass c ≠ 0 && combiningClass c < combiningClass d then d :: insertMark c before
    else c :: d :: before

def compose? (letter mark : Char) : Option Char :=
  (composites.find? fun (_, first, second) =>
    first == letter.toNat && second == mark.toNat).map fun (whole, _, _) => Char.ofNat whole

/-- The text with what makes up one character put together, after a letter and marks on it that stay
apart, which are backwards. -/
def putTogether (letter : Char) (marks : List Char) : List Char → List Char
  | [] => letter :: marks.reverse
  | c :: rest =>
    let number := combiningClass c
    -- A mark reaches the letter past marks of lower class only.
    let reaches := marks.all fun mark => combiningClass mark < number
    match if reaches then compose? letter c else none with
    | some whole => putTogether whole marks rest
    | none =>
      if number == 0 then letter :: (marks.reverse ++ putTogether c [] rest)
      else putTogether letter (c :: marks) rest

def isComposed (cs : List Char) : Bool :=
  match ((cs.flatMap (takeApart 3)).foldl (fun done c => insertMark c done) []).reverse with
  | [] => true
  | c :: rest => putTogether c [] rest == cs

end Transcoding.Idna
