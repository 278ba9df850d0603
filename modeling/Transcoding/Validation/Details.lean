import Transcoding.Text.Utf8
import Transcoding.Validation

/-!
What is told of a value that is not accepted: with each issue the value that it is about, or, if a
member is missing, the one that should have it. Some values cannot be told: a number that is not
finite, a string or name that is no text, and arrays and objects that lie in each other more deeply
than the stack has room for. Nor can bytes that are no text.
-/

namespace Transcoding

namespace Validation

/-- What keeps issues from being told; of several the first in this order. -/
inductive DetailFault
  /-- Arrays and objects lie in each other too deeply. -/
  | tooDeep
  | notFinite
  /-- Half of a surrogate pair stands by itself. -/
  | noText
  /-- Bytes are no text. -/
  | undecodable
  deriving DecidableEq, Repr

def DetailFault.message : DetailFault → String
  | .tooDeep => "maximum recursion depth exceeded"
  | .notFinite => "Out of range float values are not JSON compliant"
  | .noText => "'utf-8' codec can't encode characters: surrogates not allowed"
  | .undecodable => "'utf-8' codec can't decode bytes: invalid data"

end Validation

namespace Json

open Validation (DetailFault)

/-- The part of a value at a place. -/
def part? : List Place → Json → Option Json
  | [], value => some value
  | [.member name, .key], .object members => (members.lookup name).map fun _ => name.json
  | .member name :: rest, .object members => (members.lookup name).bind (part? rest)
  | .item index :: rest, .array items => items[index]?.bind (part? rest)
  | _ :: _, _ => none

/-- Whether a member of this name is told with its object. -/
def Name.isTold (name : Name) : Bool :=
  !"_sa".toList.isPrefixOf name.shown.toList

/-- All that keeps a name from being told. -/
def Name.faults : Name → List DetailFault
  | .text _ => []
  | .broken _ => [.noText]

mutual

/-- All that keeps a value from being told with so many arrays and objects in each other. -/
def faults (levels : Nat) : Json → List DetailFault
  | .null | .bool _ | .int _ | .string _ | .float (.finite _ _ _) => []
  | .float _ => [.notFinite]
  | .brokenString => [.noText]
  | .array items =>
    match levels with
    | 0 => [.tooDeep]
    | levels + 1 => faultsOfItems levels items
  | .object members =>
    match levels with
    | 0 => [.tooDeep]
    | levels + 1 => faultsOfMembers levels members

def faultsOfItems (levels : Nat) : List Json → List DetailFault
  | [] => []
  | item :: rest => faults levels item ++ faultsOfItems levels rest

def faultsOfMembers (levels : Nat) : Members → List DetailFault
  | [] => []
  | (name, value) :: rest =>
    (if name.isTold then name.faults ++ faults levels value else []) ++
      faultsOfMembers levels rest

end

end Json

/-- The value in a checked value that an issue is about. -/
def Issue.subject? (value : Json) (i : Issue) : Option Json :=
  value.part? (if i.kind = .missing then i.place.dropLast else i.place)

namespace Validation

/-- The fault that comes of telling issues of a value, if there is one. -/
def detailFault? (levels : Nat) (value : Json) (issues : List Issue) : Option DetailFault :=
  let found := (issues.filterMap (·.subject? value)).flatMap (·.faults levels)
  [DetailFault.tooDeep, .notFinite, .noText, .undecodable].find? found.contains

/-- The fault that comes of telling bytes, if there is one. -/
def bytesFault? (bytes : List UInt8) : Option DetailFault :=
  if Text.isUtf8 bytes then none else some .undecodable

end Validation
end Transcoding
