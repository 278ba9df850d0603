import Transcoding.Xml.AttributeValue
import Transcoding.Xml.Declaration
import Transcoding.Xml.Token

/-!
What stands before the root element: the declaration of the document and its type with the
declarations of entities, attributes, elements and notations. Each state says what is expected; a
token either leads to the next state, perhaps with more declared, or is a fault. What elements and
notations are declared to be has no meaning beyond its form.
-/

namespace Transcoding.Xml

/-- What an entity declaration defines. -/
inductive EntitySubject
  | general (name : List Char)
  | parameter
  deriving DecidableEq, Repr

inductive EntityPart
  | subject
  | parameterName
  | definition (e : EntitySubject)
  | publicId (e : EntitySubject)
  | systemId (e : EntitySubject)
  /-- The end, or that the entity is no XML. -/
  | ending (e : EntitySubject)
  | format (e : EntitySubject)
  deriving DecidableEq, Repr

inductive NotationPart
  | name
  | definition
  | publicId
  | systemId
  | ending
  deriving DecidableEq, Repr

structure AttributeSubject where
  element : List Char
  name : List Char
  cdata : Bool := false
  isId : Bool := false
  deriving DecidableEq, Repr

inductive AttributePart
  | element
  /-- The name of the next attribute, or the end. -/
  | name (element : List Char)
  | type (a : AttributeSubject)
  /-- A value that is allowed, of which only names count for notations. -/
  | choice (a : AttributeSubject) (notations : Bool)
  | afterChoice (a : AttributeSubject) (notations : Bool)
  | openChoices (a : AttributeSubject)
  | default (a : AttributeSubject)
  | fixed (a : AttributeSubject)
  deriving DecidableEq, Repr

inductive Connector
  | comma
  | bar
  deriving DecidableEq, Repr

inductive ElementPart
  | name
  | model
  | first
  | afterText
  | mixedName
  | afterMixedName
  /-- A part of the content model; the open groups with their connectors, the innermost first. -/
  | item (groups : List (Option Connector))
  | afterItem (groups : List (Option Connector))
  deriving DecidableEq, Repr

/-- What is expected before the root element. -/
inductive Expected
  /-- Anything, at the very start of the document. -/
  | first
  | doctypeOrRoot
  | root
  | doctypeName
  | doctypeId
  | doctypePublicId
  | doctypeSystemId
  | doctypeSubset
  | doctypeEnd
  /-- A declaration in the document type, or its end. -/
  | declaration
  | entity (part : EntityPart)
  | notationDeclaration (part : NotationPart)
  | attributes (part : AttributePart)
  | element (part : ElementPart)
  | declarationEnd
  deriving DecidableEq, Repr

/-- A token, the text from it on, and what is declared before it. -/
structure Occurrence where
  token : Token
  place : List Char
  doctype : Doctype

namespace Occurrence

abbrev Outcome := Except Fault (Expected × Doctype)

def fault (o : Occurrence) (kind : FaultKind) : Outcome :=
  .error ⟨kind, o.place⟩

def next (o : Occurrence) (e : Expected) : Outcome :=
  .ok (e, o.doctype)

def unexpected (o : Occurrence) : Outcome :=
  match o.token with
  | .parameterReference => o.fault .parameterReference
  | .aside (.declaration _) => o.fault .misplacedDeclaration
  | _ => o.fault .badSyntax

/-- The text from a place in a literal on, given the literal from that place to its end. -/
def within (o : Occurrence) (text rest : List Char) : List Char :=
  o.place.drop (1 + (text.length - rest.length))

end Occurrence

def isPublicIdChar (c : Char) : Bool :=
  c.isAlphanum || [' ', '\n', '\r', '-', '\'', '(', ')', '+', ',', '.', '/', ':', '=', '?', ';',
    '!', '*', '#', '@', '$', '_', '%'].contains c

/-- A public identifier leads to the next state if all its characters are allowed. -/
def Occurrence.publicId (o : Occurrence) (text : List Char) (e : Expected) : Occurrence.Outcome :=
  match text.dropWhile isPublicIdChar with
  | [] => o.next e
  | rest => .error ⟨.illegalPublicId, o.within text rest⟩

/-- How much of the value of an entity has been read; the text it stands for is backwards. -/
structure EntityValue where
  done : List Char := []
  afterReturn : Bool := false
  /-- A reference that is being read, with the value from it on. -/
  reference : Option (ReferenceState × List Char) := none
  /-- A percent sign that may begin a reference, with the value from it on, and whether a name has
  begun after it. -/
  percent : Option (Bool × List Char) := none

namespace EntityValue

/-- A character of a value. References to characters are replaced; those to entities stay. -/
def step (v : EntityValue) (c : Char) (cs : List Char) : Except Fault EntityValue :=
  match v.percent, v.reference with
  | some (false, place), _ =>
    if isNameStart c then .ok { v with percent := some (true, place) }
    else .error ⟨.invalidToken, cs⟩
  | some (true, place), _ =>
    if c == ';' then .error ⟨.parameterReference, place⟩
    else if isNameChar c then .ok v
    else .error ⟨.invalidToken, cs⟩
  | none, some (r, place) =>
    match r.step c with
    | .more r => .ok { v with reference := some (r, place) }
    | .done (.number n) =>
      match charOf? n with
      | some x => .ok { done := x :: v.done }
      | none => .error ⟨.badCharacterNumber, place⟩
    | .done (.entity name) => .ok { done := ';' :: (name.reverse ++ '&' :: v.done) }
    | .invalid => .error ⟨.invalidToken, cs⟩
  | none, none =>
    if c == '&' then .ok { v with reference := some (.start, cs) }
    else if c == '%' then .ok { v with percent := some (false, cs) }
    else if c == '\n' && v.afterReturn then .ok { v with afterReturn := false }
    else if c == '\r' then .ok { done := '\n' :: v.done, afterReturn := true }
    else .ok { done := c :: v.done }

def run (v : EntityValue) : List Char → Except Fault EntityValue
  | [] => .ok v
  | c :: rest => do run (← v.step c (c :: rest)) rest

/-- The text that an entity of some value stands for. -/
def read (text : List Char) : Except Fault (List Char) := do
  let v ← EntityValue.run {} text
  match v.percent, v.reference with
  | some (_, place), _ => throw ⟨.invalidToken, place⟩
  | none, some (_, place) => throw ⟨.invalidToken, place⟩
  | none, none => return v.done.reverse

end EntityValue

def defaultValue (d : Doctype) (cdata : Bool) (text : List Char) :
    Except (FaultKind × Option (List Char)) (List Char) := do
  let (ps, wrong) := ValueState.run {} text
  let (value, _) ← ValueBuilder.value d cdata [] ps ⟨[], maxExpansion⟩
  match wrong with
  | some place => throw (.invalidToken, some place)
  | none => return value
where
  /-- How many characters entities may add to one value. -/
  maxExpansion : Nat := 8388608

namespace Occurrence

def keyword (s : String) (text : List Char) : Bool :=
  text = s.toList

def define (o : Occurrence) (e : EntitySubject) (value : Entity) (next : Expected) : Outcome :=
  match e with
  | .general name => .ok (next, o.doctype.declareEntity name value)
  | .parameter => o.next next

def entity (o : Occurrence) : EntityPart → Outcome
  | .subject =>
    match o.token with
    | .percent => o.next (.entity .parameterName)
    | .name text => o.next (.entity (.definition (.general text)))
    | _ => o.unexpected
  | .parameterName =>
    match o.token with
    | .name _ => o.next (.entity (.definition .parameter))
    | _ => o.unexpected
  | .definition e =>
    match o.token with
    | .name text =>
      if keyword "SYSTEM" text then o.next (.entity (.systemId e))
      else if keyword "PUBLIC" text then o.next (.entity (.publicId e))
      else o.unexpected
    | .literal text =>
      if !o.doctype.processing then o.next .declarationEnd
      else match EntityValue.read text with
        | .ok value => o.define e (.internal value) .declarationEnd
        | .error fault => .error ⟨fault.kind, o.within text fault.rest⟩
    | _ => o.unexpected
  | .publicId e =>
    match o.token with
    | .literal text => o.publicId text (.entity (.systemId e))
    | _ => o.unexpected
  | .systemId e =>
    match o.token with
    | .literal _ => o.next (.entity (.ending e))
    | _ => o.unexpected
  | .ending e =>
    match o.token, e with
    | .close, _ => o.define e .external .declaration
    | .name text, .general _ =>
      if keyword "NDATA" text then o.next (.entity (.format e)) else o.unexpected
    | _, _ => o.unexpected
  | .format e =>
    match o.token with
    | .name _ => o.define e .unparsed .declarationEnd
    | _ => o.unexpected

def notationDeclaration (o : Occurrence) : NotationPart → Outcome
  | .name =>
    match o.token with
    | .name _ => o.next (.notationDeclaration .definition)
    | _ => o.unexpected
  | .definition =>
    match o.token with
    | .name text =>
      if keyword "SYSTEM" text then o.next (.notationDeclaration .systemId)
      else if keyword "PUBLIC" text then o.next (.notationDeclaration .publicId)
      else o.unexpected
    | _ => o.unexpected
  | .publicId =>
    match o.token with
    | .literal text => o.publicId text (.notationDeclaration .ending)
    | _ => o.unexpected
  | .systemId =>
    match o.token with
    | .literal _ => o.next .declarationEnd
    | _ => o.unexpected
  | .ending =>
    match o.token with
    | .literal _ => o.next .declarationEnd
    | .close => o.next .declaration
    | _ => o.unexpected

def attributeType (o : Occurrence) (a : AttributeSubject) (text : List Char) : Outcome :=
  if keyword "CDATA" text then o.next (.attributes (.default { a with cdata := true }))
  else if keyword "ID" text then o.next (.attributes (.default { a with isId := true }))
  else if ["IDREF", "IDREFS", "ENTITY", "ENTITIES", "NMTOKEN", "NMTOKENS"].any (keyword · text) then
    o.next (.attributes (.default a))
  else if keyword "NOTATION" text then o.next (.attributes (.openChoices a))
  else o.unexpected

def declare (o : Occurrence) (a : AttributeSubject) (default : Option (List Char)) : Outcome :=
  .ok (.attributes (.name a.element),
    o.doctype.declareAttribute a.element ⟨a.name, a.cdata, default⟩ a.isId)

def declareDefault (o : Occurrence) (a : AttributeSubject) (text : List Char) : Outcome :=
  if !o.doctype.processing then o.next (.attributes (.name a.element))
  else match defaultValue o.doctype a.cdata text with
    | .ok value => o.declare a (some value)
    | .error (kind, some rest) => .error ⟨kind, o.within text rest⟩
    | .error (kind, none) => o.fault kind

def attributes (o : Occurrence) : AttributePart → Outcome
  | .element =>
    match o.token with
    | .name text | .prefixedName text => o.next (.attributes (.name text))
    | _ => o.unexpected
  | .name element =>
    match o.token with
    | .name text | .prefixedName text =>
      o.next (.attributes (.type { element := element, name := text }))
    | .close => o.next .declaration
    | _ => o.unexpected
  | .type a =>
    match o.token with
    | .name text => o.attributeType a text
    | .openGroup => o.next (.attributes (.choice a false))
    | _ => o.unexpected
  | .openChoices a =>
    match o.token with
    | .openGroup => o.next (.attributes (.choice a true))
    | _ => o.unexpected
  | .choice a notations =>
    match o.token, notations with
    | .name _, _ | .prefixedName _, false | .nameToken, false =>
      o.next (.attributes (.afterChoice a notations))
    | _, _ => o.unexpected
  | .afterChoice a notations =>
    match o.token with
    | .closeGroup none => o.next (.attributes (.default a))
    | .bar => o.next (.attributes (.choice a notations))
    | _ => o.unexpected
  | .default a =>
    match o.token with
    | .hashName text =>
      if keyword "IMPLIED" text || keyword "REQUIRED" text then o.declare a none
      else if keyword "FIXED" text then o.next (.attributes (.fixed a))
      else o.unexpected
    | .literal text => o.declareDefault a text
    | _ => o.unexpected
  | .fixed a =>
    match o.token with
    | .literal text => o.declareDefault a text
    | _ => o.unexpected

/-- Two parts of the innermost group are joined; a group has one kind of connector. -/
def join (o : Occurrence) (groups : List (Option Connector)) (connector : Connector) : Outcome :=
  match groups with
  | [] => o.unexpected
  | found :: outer =>
    if found.any (· != connector) then o.unexpected
    else o.next (.element (.item (some connector :: outer)))

def element (o : Occurrence) : ElementPart → Outcome
  | .name =>
    match o.token with
    | .name _ | .prefixedName _ => o.next (.element .model)
    | _ => o.unexpected
  | .model =>
    match o.token with
    | .name text =>
      if keyword "EMPTY" text || keyword "ANY" text then o.next .declarationEnd else o.unexpected
    | .openGroup => o.next (.element .first)
    | _ => o.unexpected
  | .first =>
    match o.token with
    | .hashName text => if keyword "PCDATA" text then o.next (.element .afterText) else o.unexpected
    | .openGroup => o.next (.element (.item [none, none]))
    | .name _ | .prefixedName _ | .repeatedName => o.next (.element (.afterItem [none]))
    | _ => o.unexpected
  | .afterText =>
    match o.token with
    | .closeGroup none | .closeGroup (some .any) => o.next .declarationEnd
    | .bar => o.next (.element .mixedName)
    | _ => o.unexpected
  | .mixedName =>
    match o.token with
    | .name _ | .prefixedName _ => o.next (.element .afterMixedName)
    | _ => o.unexpected
  | .afterMixedName =>
    match o.token with
    | .closeGroup (some .any) => o.next .declarationEnd
    | .bar => o.next (.element .mixedName)
    | _ => o.unexpected
  | .item groups =>
    match o.token with
    | .openGroup => o.next (.element (.item (none :: groups)))
    | .name _ | .prefixedName _ | .repeatedName => o.next (.element (.afterItem groups))
    | _ => o.unexpected
  | .afterItem groups =>
    match o.token with
    | .closeGroup _ =>
      match groups with
      | _ :: outer :: more => o.next (.element (.afterItem (outer :: more)))
      | _ => o.next .declarationEnd
    | .comma => o.join groups .comma
    | .bar => o.join groups .bar
    | _ => o.unexpected

/-- The keyword of a declaration in the document type. -/
def declaration (o : Occurrence) (word : List Char) : Outcome :=
  if keyword "ENTITY" word then o.next (.entity .subject)
  else if keyword "ATTLIST" word then o.next (.attributes .element)
  else if keyword "ELEMENT" word then o.next (.element .name)
  else if keyword "NOTATION" word then o.next (.notationDeclaration .name)
  else o.unexpected

/-- Something that may stand before the document type or in place of it. -/
def beforeRoot (o : Occurrence) : Outcome :=
  match o.token with
  | .aside (.declaration _) => o.unexpected
  | .aside _ => o.next .doctypeOrRoot
  | .declaration word => if keyword "DOCTYPE" word then o.next .doctypeName else o.unexpected
  | _ => o.unexpected

def prologDeclaration (o : Occurrence) (body : List Char) : Outcome :=
  match Declaration.read body with
  | .ok d => .ok (.doctypeOrRoot, { o.doctype with standalone := d.standalone })
  | .error rest => .error ⟨.malformedDeclaration, o.place.drop (5 + (body.length - rest.length))⟩

def missingPart (o : Occurrence) : Doctype :=
  { o.doctype with incomplete := true }

/-- The state after a token other than blanks and the root. -/
def advance (o : Occurrence) : Expected → Outcome
  | .first =>
    match o.token with
    | .aside (.declaration body) => o.prologDeclaration body
    | _ => o.beforeRoot
  | .doctypeOrRoot => o.beforeRoot
  | .root =>
    match o.token with
    | .aside (.declaration _) => o.unexpected
    | .aside _ => o.next .root
    | _ => o.unexpected
  | .doctypeName =>
    match o.token with
    | .name _ | .prefixedName _ => o.next .doctypeId
    | _ => o.unexpected
  | .doctypeId =>
    match o.token with
    | .openBracket => o.next .declaration
    | .close => o.next .root
    | .name text =>
      if keyword "SYSTEM" text then o.next .doctypeSystemId
      else if keyword "PUBLIC" text then o.next .doctypePublicId
      else o.unexpected
    | _ => o.unexpected
  | .doctypePublicId =>
    match o.token with
    | .literal text => Occurrence.publicId { o with doctype := o.missingPart } text .doctypeSystemId
    | _ => o.unexpected
  | .doctypeSystemId =>
    match o.token with
    | .literal _ => .ok (.doctypeSubset, o.missingPart)
    | _ => o.unexpected
  | .doctypeSubset =>
    match o.token with
    | .openBracket => o.next .declaration
    | .close => o.next .root
    | _ => o.unexpected
  | .doctypeEnd =>
    match o.token with
    | .close => o.next .root
    | _ => o.unexpected
  | .declaration =>
    match o.token with
    | .aside (.declaration _) => o.unexpected
    | .aside _ => o.next .declaration
    | .declaration word => o.declaration word
    | .parameterReference =>
      .ok (.declaration,
        { o.missingPart with processing := o.doctype.processing && o.doctype.standalone })
    | .closeBracket => o.next .doctypeEnd
    | .closeBrackets false => .error ⟨.badSyntax, o.place.drop 1⟩
    | _ => o.unexpected
  | .entity part => o.entity part
  | .notationDeclaration part => o.notationDeclaration part
  | .attributes part => o.attributes part
  | .element part => o.element part
  | .declarationEnd =>
    match o.token with
    | .close => o.next .declaration
    | _ => o.unexpected

end Occurrence
end Transcoding.Xml
