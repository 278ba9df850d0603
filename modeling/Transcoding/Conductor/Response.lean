import Transcoding.Timestamp.Reader
import Transcoding.Xml.Document

/-!
What the answers of a Conductor have in common: their values are the texts of children of the root,
and blanks around a text do not count.
-/

namespace Transcoding.Conductor

/-- Why an answer cannot be read. -/
inductive ResponseFault
  | document (f : Xml.DocumentFault)
  | numeral (f : Numeral.Fault)
  | timestamp (f : Timestamp.Fault)
  deriving DecidableEq, Repr

def ResponseFault.message : ResponseFault → String
  | .document f => f.message
  | .numeral f => f.message
  | .timestamp f => f.message

namespace ResponseFault

/-- What callers are told of a fault besides its message. -/
inductive Kind
  /-- The answer is no document. -/
  | malformed
  | unknownName
  | invalidValue
  /-- The encoding of the document is none that it can be read in. -/
  | unfitEncoding
  | unfitBytes
  deriving DecidableEq, Repr

def Kind.name : Kind → String
  | .malformed => "ParseError"
  | .unknownName => "LookupError"
  | .invalidValue => "ValueError"
  | .unfitEncoding => "UnicodeError"
  | .unfitBytes => "UnicodeDecodeError"

/-- Whether a kind is that of invalid values or one that belongs to it. -/
def Kind.isValueError : Kind → Bool
  | .invalidValue | .unfitEncoding | .unfitBytes => true
  | .malformed | .unknownName => false

def kind : ResponseFault → Kind
  | .document (.malformed _ _) => .malformed
  | .document (.unknownEncoding _) => .unknownName
  | .document (.unfitEncoding _ .asciiOnly) => .unfitBytes
  | .document (.unfitEncoding _ _) => .unfitEncoding
  | .document .multiByteEncoding | .numeral _ | .timestamp _ => .invalidValue

end ResponseFault

namespace Response

/-- The text of the first child of a name. -/
def text (e : Xml.Element) (name : String) : List Char :=
  Text.trim (e.childText (.plain name))

/-- The integer in the first child of a name, or zero if there is none. -/
def integer (e : Xml.Element) (name : String) : Except ResponseFault Int :=
  match text e name with
  | [] => .ok 0
  | cs => (Numeral.read cs).mapError .numeral

/-- The timestamp in the first child of a name, if there is one. -/
def timestamp (e : Xml.Element) (name : String) : Except ResponseFault (Option Timestamp) :=
  (Timestamp.read (text e name)).mapError .timestamp

/-- The `href` of an element, empty if it has none. -/
def href (e : Xml.Element) : String :=
  String.ofList ((e.attribute? (.plain "href")).getD [])

def ofDocument {α : Type} (read : Xml.Element → Except ResponseFault α)
    (document : Except Xml.DocumentFault Xml.Element) : Except ResponseFault α := do
  read (← document.mapError .document)

end Response
end Transcoding.Conductor
