import Transcoding.Xml.Aside
import Transcoding.Xml.Tag

/-!
The inside of documents and entities, read one character at a time: text, elements, references,
comments, instructions and CDATA sections. Line ends become line feeds. An entity is read as content
of its own in place of the reference to it, so an element begins and ends in the same entity; faults
inside an entity are faults of the reference.
-/

namespace Transcoding.Xml

/-- An element whose end tag has not been read, with what stood before it. -/
structure Frame where
  raw : List Char
  name : Name
  attributes : List Attribute
  /-- The content in front of the element, backwards. -/
  before : Content
  scope : Scope

/-- What a run of text ends with, as far as the next character depends on it. -/
inductive TextEnd
  | plain
  | carriageReturn
  | bracket
  | brackets
  deriving DecidableEq, Repr

/-- Where the next character of a body stands. -/
inductive BodyPart
  | text (last : TextEnd)
  | less
  | bang
  | aside (s : AsideState)
  /-- In the opening of a CDATA section, of which some characters are still due. -/
  | cdataOpen (due : List Char)
  | cdata (last : TextEnd)
  | slash
  | endName (done place : List Char)
  | endGap (name place : List Char)
  | tag (s : TagState)
  | reference (s : ReferenceState)

/-- How much of a body has been read. -/
structure BodyState where
  part : BodyPart := .text .plain
  /-- The text from the token on that is being read. -/
  place : List Char := []
  /-- The content of the innermost open element so far, backwards. -/
  content : Content := .nil
  /-- The open elements, the innermost first. -/
  frames : List Frame := []
  scope : Scope
  /-- How many characters entities may still add. -/
  budget : Nat

/-- What a reference to an entity stands for, backwards, and how many characters entities may still
add after it, given the namespaces in force and how many they may add before it. -/
abbrev Expansion := List Char → Scope → Nat → Except FaultKind (Content × Nat)

namespace BodyState

def addChar (s : BodyState) (c : Char) (last : TextEnd) : BodyState :=
  { s with content := .char c s.content, part := .text last }

/-- A character of text that is no markup. -/
def textChar (s : BodyState) (last : TextEnd) (c : Char) (cs : List Char) :
    Except Fault BodyState :=
  if c == '\n' then
    .ok (if last = .carriageReturn then { s with part := .text .plain } else s.addChar '\n' .plain)
  else if c == '\r' then .ok (s.addChar '\n' .carriageReturn)
  else if c == ']' then
    .ok (s.addChar ']' (if last = .bracket ∨ last = .brackets then .brackets else .bracket))
  else if c == '>' && last = .brackets then .error ⟨.invalidToken, cs⟩
  else if isXmlChar c then .ok (s.addChar c .plain)
  else .error ⟨.invalidToken, cs⟩

def cdataChar (s : BodyState) (last : TextEnd) (c : Char) (cs : List Char) :
    Except Fault BodyState :=
  let pending := match last with
    | .bracket => Content.char ']' s.content
    | .brackets => .char ']' (.char ']' s.content)
    | _ => s.content
  if c == ']' then
    match last with
    | .bracket => .ok { s with part := .cdata .brackets }
    | .brackets =>
      .ok { s with
        content := .char ']' s.content, place := s.place.drop 1, part := .cdata .brackets }
    | _ => .ok { s with place := cs, part := .cdata .bracket }
  else if c == '>' && last = .brackets then .ok { s with part := .text .plain }
  else if c == '\n' && last = .carriageReturn then .ok { s with part := .cdata .plain }
  else if c == '\r' then
    .ok { s with content := .char '\n' pending, part := .cdata .carriageReturn }
  else if isXmlChar c then .ok { s with content := .char c pending, part := .cdata .plain }
  else .error ⟨.invalidToken, cs⟩

/-- The state inside a new element, or after it if its tag ends it too. -/
def enter (s : BodyState) (t : RawTag) (e : Element) (scope : Scope) (budget : Nat) : BodyState :=
  if t.closed then
    { s with content := .element e.name e.attributes .nil s.content, budget := budget,
             part := .text .plain }
  else
    { part := .text .plain
      frames := ⟨t.name, e.name, e.attributes, s.content, s.scope⟩ :: s.frames
      scope := scope
      budget := budget }

/-- The state after the end tag of a name. -/
def leave (s : BodyState) (raw place : List Char) : Except Fault BodyState :=
  match s.frames with
  | [] => .error ⟨.asynchronousEntity, s.place⟩
  | f :: outer =>
    if f.raw = raw then
      .ok { part := .text .plain
            content := .element f.name f.attributes s.content.reverse f.before
            frames := outer
            scope := f.scope
            budget := s.budget }
    else .error ⟨.mismatchedTag, place⟩

def refer (expand : Expansion) (s : BodyState) : Reference → Except Fault BodyState
  | .number n =>
    match charOf? n with
    | some c => .ok (s.addChar c .plain)
    | none => .error ⟨.badCharacterNumber, s.place⟩
  | .entity name =>
    match predefined? name with
    | some c => .ok (s.addChar c .plain)
    | none =>
      match expand name s.scope s.budget with
      | .ok (content, budget) =>
        .ok { s with content := content.append s.content, budget := budget, part := .text .plain }
      | .error kind => .error ⟨kind, s.place⟩

/-- The state after a character, where the entities in `opened` are being replaced already. `cs` is
the text from the character on. -/
def step (d : Doctype) (opened : List (List Char)) (expand : Expansion) (s : BodyState) (c : Char)
    (cs : List Char) : Except Fault BodyState :=
  match s.part with
  | .text last =>
    if c == '<' then .ok { s with part := .less, place := cs }
    else if c == '&' then .ok { s with part := .reference .start, place := cs }
    else s.textChar last c cs
  | .less =>
    if c == '!' then .ok { s with part := .bang }
    else if c == '?' then .ok { s with part := .aside .question }
    else if c == '/' then .ok { s with part := .slash }
    else if isNameStart c then .ok { s with part := .tag (.start c) }
    else .error ⟨.invalidToken, cs⟩
  | .bang =>
    if c == '-' then .ok { s with part := .aside .dash }
    else if c == '[' then .ok { s with part := .cdataOpen ['C', 'D', 'A', 'T', 'A', '['] }
    else .error ⟨.invalidToken, cs⟩
  | .aside a =>
    match a.step c with
    | .more a => .ok { s with part := .aside a }
    | .done (.declaration _) => .error ⟨.misplacedDeclaration, s.place⟩
    | .done _ => .ok { s with part := .text .plain }
    | .invalid => .error ⟨.invalidToken, cs⟩
  | .cdataOpen [] => s.cdataChar .plain c cs
  | .cdataOpen [last] =>
    if c == last then .ok { s with part := .cdata .plain } else .error ⟨.invalidToken, cs⟩
  | .cdataOpen (due :: rest) =>
    if c == due then .ok { s with part := .cdataOpen rest } else .error ⟨.invalidToken, cs⟩
  | .cdata last => s.cdataChar last c cs
  | .slash =>
    if isNameStart c then .ok { s with part := .endName [c] cs } else .error ⟨.invalidToken, cs⟩
  | .endName done place =>
    if isNameChar c || c == ':' then .ok { s with part := .endName (c :: done) place }
    else if isSpace c then .ok { s with part := .endGap done.reverse place }
    else if c == '>' then s.leave done.reverse place
    else .error ⟨.invalidToken, cs⟩
  | .endGap name place =>
    if isSpace c then .ok s
    else if c == '>' then s.leave name place
    else .error ⟨.invalidToken, cs⟩
  | .tag t =>
    match t.step c cs with
    | .more t => .ok { s with part := .tag t }
    | .done raw =>
      match raw.resolve d opened s.scope s.budget with
      | .ok (e, scope, budget) => .ok (s.enter raw e scope budget)
      | .error (kind, place) => .error ⟨kind, place.getD s.place⟩
    | .invalid => .error ⟨.invalidToken, cs⟩
  | .reference r =>
    match r.step c with
    | .more r => .ok { s with part := .reference r }
    | .done r => s.refer expand r
    | .invalid => .error ⟨.invalidToken, cs⟩

def run (d : Doctype) (opened : List (List Char)) (expand : Expansion) (s : BodyState) :
    List Char → Except Fault BodyState
  | [] => .ok s
  | c :: rest => do run d opened expand (← s.step d opened expand c (c :: rest)) rest

/-- The fault of a text that ends in the middle of a token. -/
def unfinished? (s : BodyState) : Option Fault :=
  match s.part with
  | .text _ => none
  | .cdata .bracket | .cdata .brackets => some ⟨.unclosedCdata, s.place⟩
  | .cdata _ => some ⟨.unclosedCdata, []⟩
  | _ => some ⟨.unclosedToken, s.place⟩

end BodyState

/-- What references to entities stand for, where those in `opened` are being replaced already.
`depth` bounds how far entities can nest. -/
def expansion (d : Doctype) : Nat → List (List Char) → Expansion
  | 0, _ => fun _ _ _ => .error .recursiveEntity
  | depth + 1, opened => fun name scope budget =>
    match d.entity? name with
    | none => .error (if d.complete then .undefinedEntity else .skippedEntity name)
    | some .unparsed => .error .binaryEntity
    | some .external => .error (.skippedEntity name)
    | some (.internal text) =>
      if opened.contains name then .error .recursiveEntity
      else if budget < text.length then .error .amplification
      else
        let start : BodyState := { scope := scope, budget := budget - text.length }
        match start.run d (name :: opened) (expansion d depth (name :: opened)) text with
        | .error fault => .error fault.kind
        | .ok s =>
          match s.unfinished? with
          | some fault => .error fault.kind
          | none =>
            if s.frames.isEmpty then .ok (s.content, s.budget) else .error .asynchronousEntity

/-- What references stand for in the body of the document itself. -/
def Doctype.expansion (d : Doctype) : Expansion :=
  Xml.expansion d (d.entities.length + 1) []

end Transcoding.Xml
