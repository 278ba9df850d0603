import Transcoding.Json
import Transcoding.Decimal.Reader
import Transcoding.Text.Letter

/-!
Checking JSON values against the types of this library, as `pydantic` checks them where it may
convert a value. A check yields a value or every issue it found, each with the place where it was
found; issues come in the order of the fields. Covered are the types that the fields here have,
records, lists, mappings of strings, strings, and numbers and truth values that are also read from
strings. Of an issue its kind and place are kept, not its message.
-/

namespace Transcoding

/-- One step from a value into a part of it. -/
inductive Place
  | member (name : Json.Name)
  | item (index : Nat)
  /-- From the value of a member to the name of that member. -/
  | key
  deriving DecidableEq, Repr

def Place.text : Place → String
  | .member name => name.shown
  | .item index => String.ofList (Numeral.ofNat index)
  | .key => "[key]"

inductive IssueKind
  | missing
  | stringType
  | stringUnicode
  | dictType
  | listType
  | modelType
  | modelAttributesType
  | tooShort
  | enumeration
  | intFromFloat
  | intParsing
  | intParsingSize
  | intType
  | finiteNumber
  | boolParsing
  | boolType
  | floatParsing
  | floatType
  | jsonInvalid
  deriving DecidableEq, Repr

def IssueKind.name : IssueKind → String
  | .missing => "missing"
  | .stringType => "string_type"
  | .stringUnicode => "string_unicode"
  | .dictType => "dict_type"
  | .listType => "list_type"
  | .modelType => "model_type"
  | .modelAttributesType => "model_attributes_type"
  | .tooShort => "too_short"
  | .enumeration => "enum"
  | .intFromFloat => "int_from_float"
  | .intParsing => "int_parsing"
  | .intParsingSize => "int_parsing_size"
  | .intType => "int_type"
  | .finiteNumber => "finite_number"
  | .boolParsing => "bool_parsing"
  | .boolType => "bool_type"
  | .floatParsing => "float_parsing"
  | .floatType => "float_type"
  | .jsonInvalid => "json_invalid"

structure Issue where
  place : List Place
  kind : IssueKind
  deriving DecidableEq, Repr

/-- The result of a check: a value, or the issues that keep it from being one. -/
inductive Check (α : Type)
  | valid (value : α)
  | invalid (issues : List Issue)
  deriving Repr

namespace Check

def issue {α : Type} (kind : IssueKind) : Check α :=
  .invalid [⟨[], kind⟩]

/-- Two checks of different parts: the issues of both count. -/
def seq {α β : Type} : Check (α → β) → Check α → Check β
  | .valid f, .valid a => .valid (f a)
  | .valid _, .invalid issues => .invalid issues
  | .invalid issues, .valid _ => .invalid issues
  | .invalid first, .invalid second => .invalid (first ++ second)

instance : Applicative Check where
  pure := .valid
  seq f x := seq f (x ())

/-- A check of a part at the given place. -/
def under {α : Type} (place : Place) : Check α → Check α
  | .valid a => .valid a
  | .invalid issues => .invalid (issues.map fun i => { i with place := place :: i.place })

def toExcept {α : Type} : Check α → Except (List Issue) α
  | .valid a => .ok a
  | .invalid issues => .error issues

/-- The checks of items one after the other, from a position on. -/
def items {α : Type} (check : Json → Check α) (index : Nat) : List Json → Check (List α)
  | [] => .valid []
  | item :: rest =>
    List.cons <$> (check item).under (.item index) <*> items check (index + 1) rest

end Check

namespace Validation

def string : Json → Check String
  | .string s => .valid s
  | .brokenString => .issue .stringUnicode
  | _ => .issue .stringType

def list {α : Type} (check : Json → Check α) : Json → Check (List α)
  | .array items => Check.items check 0 items
  | _ => .issue .listType

/-- A member whose name and value are both strings. -/
def entry (name : Json.Name) (value : Json) : Check (String × String) :=
  Check.under (.member name) (Prod.mk <$> (string name.json).under .key <*> string value)

def mapping : Json → Check (List (String × String))
  | .object members => go members
  | _ => .issue .dictType
where
  go : Json.Members → Check (List (String × String))
    | [] => .valid []
    | (name, value) :: rest => List.cons <$> entry name value <*> go rest

/-- The members of a value, for a check of each. What is said of a value without members depends on
whether it stands alone or comes in the body of a request. -/
def record {α : Type} (notRecord : IssueKind) (value : Json)
    (check : Json.Members → Check α) : Check α :=
  match value with
  | .object members => check members
  | _ => .issue notRecord

def required {α : Type} (members : Json.Members) (name : String) (check : Json → Check α) :
    Check α :=
  Check.under (.member name) (match members.lookup (.text name) with
    | some value => check value
    | none => .issue .missing)

def optional {α : Type} (members : Json.Members) (name : String) (default : α)
    (check : Json → Check α) : Check α :=
  match members.lookup (.text name) with
  | some value => Check.under (.member name) (check value)
  | none => .valid default

/-- What follows the sign of an integer: digits with single underscores between them, and after them
perhaps a point and only zeros. -/
def wholeDigits? (cs : List Char) : Option Nat :=
  if cs.all (·.toNat < 0x80) && cs.head?.any Char.isDigit then
    match Numeral.readDigits 0 0 cs with
    | some (value, _, []) => some value
    | some (value, _, '.' :: zeros) =>
      if !zeros.isEmpty && zeros.all (· == '0') then some value else none
    | _ => none
  else none

def intText (s : String) : Check Int :=
  let cs := Text.trimWhile Text.isAsciiBlank s.toList
  if Numeral.maxDigits < cs.length then .issue .intParsingSize
  else
    let (negative, body) := Numeral.splitSign cs
    match wholeDigits? body with
    | some n => .valid (Numeral.signed negative n)
    | none => .issue .intParsing

/-- The first magnitude that a number with a fraction part may not have where an integer is due: two
to the 63rd. -/
def wholeLimit : Nat := 0x8000000000000000

def int : Json → Check Int
  | .int i => .valid i
  | .bool b => .valid (if b then 1 else 0)
  | .float x =>
    match x.truncate? with
    | none => .issue .finiteNumber
    | some i =>
      if !x.isWhole then .issue .intFromFloat
      else if i.natAbs < wholeLimit then .valid i
      else .issue .intParsingSize
  | .string s => intText s
  | .brokenString => .issue .stringUnicode
  | _ => .issue .intType

def boolText (s : String) : Check Bool :=
  let word := String.ofList (Text.toLower s.toList)
  if ["1", "true", "t", "yes", "y", "on"].contains word then .valid true
  else if ["0", "false", "f", "no", "n", "off"].contains word then .valid false
  else .issue .boolParsing

def bool : Json → Check Bool
  | .bool b => .valid b
  | .string s => boolText s
  | .brokenString => .issue .stringUnicode
  | .int 0 => .valid false
  | .int 1 => .valid true
  | .int _ => .issue .boolParsing
  | .float x =>
    match x.truncate? with
    | some i =>
      if !x.isWhole then .issue .boolType
      else if i == 0 then .valid false
      else if i == 1 then .valid true
      else .issue .boolParsing
    | none => .issue .boolType
  | _ => .issue .boolType

def float : Json → Check Binary64
  | .float x => .valid x
  | .int i => .valid (Binary64.ofFraction (i < 0) i.natAbs 1)
  | .bool b => .valid (Binary64.ofFraction false (if b then 1 else 0) 1)
  | .string s =>
    match Binary64.read? s.toList with
    | some x => .valid x
    | none => .issue .floatParsing
  | .brokenString => .issue .stringUnicode
  | _ => .issue .floatType

end Validation
end Transcoding
