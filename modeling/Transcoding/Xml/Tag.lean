import Transcoding.Xml.AttributeValue
import Transcoding.Xml.Namespace

/-!
Start tags: reading one character at a time after the first of its name, and then what the tag
means: the values of its attributes, those it takes from the document type, and the namespaces of
its names.
-/

namespace Transcoding.Xml

inductive Colon
  | before
  | here
  | after
  deriving DecidableEq, Repr

/-- A character of a qualified name; none if it is not one. -/
def Colon.step (q : Colon) (c : Char) : Option Colon :=
  match q with
  | .before => if isNameChar c then some .before else if c == ':' then some .here else none
  | .here => if isNameStart c then some .after else none
  | .after => if isNameChar c then some .after else none

/-- An attribute as written, with the text from its name on. -/
structure RawAttribute where
  name : List Char
  place : List Char
  pieces : List (Piece × List Char)

/-- A start tag as written; the attributes are in order. -/
structure RawTag where
  name : List Char
  attributes : List RawAttribute
  /-- Whether the tag ends its element too. -/
  closed : Bool

/-- Where in a start tag the next character stands. Names are kept backwards. -/
inductive TagPart
  | name (done : List Char) (q : Colon)
  | gap
  | slash
  | attributeName (done : List Char) (q : Colon) (place : List Char)
  | equals (name place : List Char)
  | openQuote (name place : List Char)
  | value (name place : List Char) (quote : Char) (value : ValueState)
  | closeQuote

/-- How much of a start tag has been read; attributes are backwards. -/
structure TagState where
  name : List Char
  attributes : List RawAttribute
  part : TagPart

namespace TagState

def start (c : Char) : TagState := ⟨[], [], .name [c] .before⟩

def finish (s : TagState) (closed : Bool) : RawTag := ⟨s.name, s.attributes.reverse, closed⟩

/-- A blank, a slash or the end of the tag, after a name or a value. -/
def boundary (s : TagState) (c : Char) : Progress TagState RawTag :=
  if isSpace c then .more { s with part := .gap }
  else if c == '/' then .more { s with part := .slash }
  else if c == '>' then .done (s.finish false)
  else .invalid

def step (s : TagState) (c : Char) (cs : List Char) : Progress TagState RawTag :=
  match s.part with
  | .name done q =>
    match q.step c with
    | some q => .more { s with part := .name (c :: done) q }
    | none => if q = .here then .invalid else boundary { s with name := done.reverse } c
  | .gap =>
    if isNameStart c then .more { s with part := .attributeName [c] .before cs } else s.boundary c
  | .slash => if c == '>' then .done (s.finish true) else .invalid
  | .attributeName done q place =>
    match q.step c with
    | some q => .more { s with part := .attributeName (c :: done) q place }
    | none =>
      if q = .here then .invalid
      else if isSpace c then .more { s with part := .equals done.reverse place }
      else if c == '=' then .more { s with part := .openQuote done.reverse place }
      else .invalid
  | .equals name place =>
    if c == '=' then .more { s with part := .openQuote name place }
    else if isSpace c then .more s
    else .invalid
  | .openQuote name place =>
    if c == '"' || c == '\'' then .more { s with part := .value name place c {} }
    else if isSpace c then .more s
    else .invalid
  | .value name place quote value =>
    if c == quote && value.reference.isNone then
      .more { s with
        attributes := ⟨name, place, value.pieces.reverse⟩ :: s.attributes, part := .closeQuote }
    else match value.step c cs with
      | some value => .more { s with part := .value name place quote value }
      | none => .invalid
  | .closeQuote => s.boundary c

end TagState

abbrev TagFault := FaultKind × Option (List Char)

/-- What a tag means so far: the namespaces in force, the attributes with names as written,
backwards, and how many characters entities may still add. -/
structure TagBuilder where
  scope : Scope
  attributes : List (List Char × List Char)
  budget : Nat

namespace TagBuilder

/-- Adds an attribute, or puts the prefix in force that it declares. -/
def add (b : TagBuilder) (name value : List Char) : Except FaultKind TagBuilder :=
  match declaredPrefix? name with
  | some qualifier => do
    let scope ← b.scope.bind qualifier value
    return { b with scope := scope }
  | none => .ok { b with attributes := (name, value) :: b.attributes }

/-- Adds the attributes as written, those in `known` already being there. -/
def addWritten (d : Doctype) (opened : List (List Char)) (declared : List AttributeDeclaration) :
    TagBuilder → List (List Char) → List RawAttribute → Except TagFault TagBuilder
  | b, _, [] => .ok b
  | b, known, a :: rest => do
    if known.contains a.name then throw (.duplicateAttribute, some a.place)
    let cdata := match declared.find? (·.name == a.name) with
      | some declaration => declaration.cdata
      | none => true
    let (value, budget) ← ValueBuilder.value d cdata opened a.pieces ⟨[], b.budget⟩
    let b ← (TagBuilder.add { b with budget := budget } a.name value).mapError (·, none)
    addWritten d opened declared b (a.name :: known) rest

/-- Adds the declared attributes that are not written and have a default. -/
def addDefaults (written : List (List Char)) :
    TagBuilder → List AttributeDeclaration → Except FaultKind TagBuilder
  | b, [] => .ok b
  | b, a :: rest =>
    match a.default with
    | some value =>
      if written.contains a.name then addDefaults written b rest
      else do addDefaults (a.name :: written) (← b.add a.name value) rest
    | none => addDefaults written b rest

/-- The attributes by their names in namespaces; no two may have the same. -/
def resolve (scope : Scope) : List (List Char × List Char) → Except FaultKind (List Attribute)
  | [] => .ok []
  | (raw, value) :: rest => do
    let name ← scope.attributeName raw
    let others ← resolve scope rest
    if !name.space.isEmpty && others.any (·.name = name) then throw .duplicateAttribute
    return ⟨name, value⟩ :: others

end TagBuilder

/-- The element that a tag begins, still empty, the namespaces in force in it, and how many
characters entities may still add. -/
def RawTag.resolve (d : Doctype) (opened : List (List Char)) (scope : Scope) (budget : Nat)
    (t : RawTag) : Except TagFault (Element × Scope × Nat) := do
  let declared := d.attributesOf t.name
  let b ← TagBuilder.addWritten d opened declared ⟨scope, [], budget⟩ [] t.attributes
  let b ← (TagBuilder.addDefaults (t.attributes.map (·.name)) b declared).mapError (·, none)
  let attributes ← (TagBuilder.resolve b.scope b.attributes.reverse).mapError (·, none)
  let name ← (b.scope.elementName t.name).mapError (·, none)
  return (⟨name, attributes, .nil⟩, b.scope, b.budget)

end Transcoding.Xml
