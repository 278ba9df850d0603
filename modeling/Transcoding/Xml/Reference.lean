import Transcoding.Xml.Character

/-!
References, read one character at a time after the ampersand: to an entity by its name, or to a
character by its number in decimal or hexadecimal.
-/

namespace Transcoding.Xml

inductive Reference
  | entity (name : List Char)
  | number (n : Nat)
  deriving DecidableEq, Repr

/-- How much of a reference has been read; names are kept backwards. -/
inductive ReferenceState
  | start
  | name (done : List Char)
  | hash
  | decimal (n : Nat)
  | hexStart
  | hex (n : Nat)
  deriving DecidableEq, Repr

/-- What a character does to a token that is being read. -/
inductive Progress (σ α : Type)
  | more (state : σ)
  | done (token : α)
  | invalid

def asciiDigit? (c : Char) : Option Nat :=
  if '0' ≤ c && c ≤ '9' then some (c.toNat - '0'.toNat) else none

def asciiHexDigit? (c : Char) : Option Nat :=
  if 'a' ≤ c && c ≤ 'f' then some (c.toNat - 'a'.toNat + 10)
  else if 'A' ≤ c && c ≤ 'F' then some (c.toNat - 'A'.toNat + 10)
  else asciiDigit? c

def ReferenceState.step (c : Char) : ReferenceState → Progress ReferenceState Reference
  | .start =>
    if c == '#' then .more .hash else if isNameStart c then .more (.name [c]) else .invalid
  | .name done =>
    if c == ';' then .done (.entity done.reverse)
    else if isNameChar c then .more (.name (c :: done))
    else .invalid
  | .hash =>
    if c == 'x' then .more .hexStart
    else match asciiDigit? c with
      | some d => .more (.decimal d)
      | none => .invalid
  | .decimal n =>
    if c == ';' then .done (.number n)
    else match asciiDigit? c with
      | some d => .more (.decimal (n * 10 + d))
      | none => .invalid
  | .hexStart =>
    match asciiHexDigit? c with
    | some d => .more (.hex d)
    | none => .invalid
  | .hex n =>
    if c == ';' then .done (.number n)
    else match asciiHexDigit? c with
      | some d => .more (.hex (n * 16 + d))
      | none => .invalid

/-- The character of an entity that every document knows. -/
def predefined? (name : List Char) : Option Char :=
  if name = ['l', 't'] then some '<'
  else if name = ['g', 't'] then some '>'
  else if name = ['a', 'm', 'p'] then some '&'
  else if name = ['q', 'u', 'o', 't'] then some '"'
  else if name = ['a', 'p', 'o', 's'] then some '\''
  else none

end Transcoding.Xml
