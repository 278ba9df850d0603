import Transcoding.Text.Numeral

/-!
Why a text is no XML document, and where. A fault keeps the text from the place of the fault on; its
line and column follow from what stands before that.
-/

namespace Transcoding.Xml

inductive FaultKind
  | badSyntax
  | noElement
  | invalidToken
  | unclosedToken
  | partialCharacter
  | mismatchedTag
  | duplicateAttribute
  | junkAfterElement
  | parameterReference
  | undefinedEntity
  /-- A reference whose entity may be declared in a part of the document type that was not read. -/
  | skippedEntity (name : List Char)
  | recursiveEntity
  | asynchronousEntity
  | badCharacterNumber
  | binaryEntity
  | externalEntityInAttribute
  | misplacedDeclaration
  | unknownEncoding
  | incorrectEncoding
  | unclosedCdata
  | unboundPrefix
  | undeclaredPrefix
  | malformedDeclaration
  | illegalPublicId
  | reservedXmlPrefix
  | reservedXmlnsPrefix
  | reservedNamespace
  | amplification
  deriving DecidableEq, Repr

def FaultKind.text : FaultKind → String
  | .badSyntax => "syntax error"
  | .noElement => "no element found"
  | .invalidToken => "not well-formed (invalid token)"
  | .unclosedToken => "unclosed token"
  | .partialCharacter => "partial character"
  | .mismatchedTag => "mismatched tag"
  | .duplicateAttribute => "duplicate attribute"
  | .junkAfterElement => "junk after document element"
  | .parameterReference => "illegal parameter entity reference"
  | .undefinedEntity => "undefined entity"
  | .skippedEntity name => "undefined entity &" ++ String.ofList name ++ ";"
  | .recursiveEntity => "recursive entity reference"
  | .asynchronousEntity => "asynchronous entity"
  | .badCharacterNumber => "reference to invalid character number"
  | .binaryEntity => "reference to binary entity"
  | .externalEntityInAttribute => "reference to external entity in attribute"
  | .misplacedDeclaration => "XML or text declaration not at start of entity"
  | .unknownEncoding => "unknown encoding"
  | .incorrectEncoding => "encoding specified in XML declaration is incorrect"
  | .unclosedCdata => "unclosed CDATA section"
  | .unboundPrefix => "unbound prefix"
  | .undeclaredPrefix => "must not undeclare prefix"
  | .malformedDeclaration => "XML declaration not well-formed"
  | .illegalPublicId => "illegal character(s) in public id"
  | .reservedXmlPrefix =>
    "reserved prefix (xml) must not be undeclared or bound to another namespace name"
  | .reservedXmlnsPrefix => "reserved prefix (xmlns) must not be declared or undeclared"
  | .reservedNamespace => "prefix must not be bound to one of the reserved namespace names"
  | .amplification => "limit on input amplification factor (from DTD and entities) breached"

/-- A fault with the text from its place on. -/
structure Fault where
  kind : FaultKind
  rest : List Char
  deriving DecidableEq, Repr

structure Position where
  line : Nat
  column : Nat
  deriving DecidableEq, Repr

namespace Position

def start : Position := ⟨1, 0⟩

/-- The position after `count` characters of a text; a carriage return and the line feed after it
are one line end. -/
def advance (p : Position) : Nat → List Char → Position
  | 0, _ | _, [] => p
  | 1, '\r' :: _ => ⟨p.line + 1, 0⟩
  | count + 2, '\r' :: '\n' :: rest => advance ⟨p.line + 1, 0⟩ count rest
  | count + 1, c :: rest =>
    advance (if c == '\n' || c == '\r' then ⟨p.line + 1, 0⟩ else ⟨p.line, p.column + 1⟩) count rest

end Position

def FaultKind.message (kind : FaultKind) (p : Position) : String :=
  kind.text ++ ": line " ++ String.ofList (Numeral.ofNat p.line) ++ ", column " ++
    String.ofList (Numeral.ofNat p.column)

def Fault.position (document : List Char) (f : Fault) : Position :=
  Position.start.advance (document.length - f.rest.length) document

end Transcoding.Xml
