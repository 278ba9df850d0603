import Transcoding.Xml.Body
import Transcoding.Xml.Encoding
import Transcoding.Xml.Prolog

/-!
Whole documents: what stands before the root element, the element, and what stands after it, read in
one pass over the text as `expat` reads it. Reading is total; a text that is no document has a fault
with its place. Entities from outside the document are not read.
-/

namespace Transcoding.Xml

/-- How much of a document has been read. -/
inductive DocumentState
  /-- Before the root; `place` is the text from the current token on. -/
  | prolog (expected : Expected) (d : Doctype) (token : TokenState) (place : List Char)
  | body (d : Doctype) (s : BodyState)
  | epilog (root : Element) (token : TokenState) (place : List Char)

namespace DocumentState

def start : DocumentState := .prolog .first {} .start []

def maxExpansion : Nat := 8388608

/-- The root element starts with a character of its name. -/
def enterRoot (d : Doctype) (c : Char) (place nameplace : List Char) : Except Fault DocumentState :=
  if isNameStart c then
    .ok (.body d
      { part := .tag (.start c), place := place, scope := .initial, budget := maxExpansion })
  else .error ⟨.invalidToken, nameplace⟩

def accept (place : List Char) (t : Token) : DocumentState → Except Fault DocumentState
  | .prolog expected d _ _ =>
    match t with
    | .space => .ok (.prolog (if expected = .first then .doctypeOrRoot else expected) d .start [])
    | .root c namePlace =>
      if expected = .first ∨ expected = .doctypeOrRoot ∨ expected = .root then
        enterRoot d c place namePlace
      else .error ⟨.badSyntax, place⟩
    | _ => do
      let (expected, d) ← Occurrence.advance ⟨t, place, d⟩ expected
      return .prolog expected d .start []
  | .body d s => .ok (.body d s)
  | .epilog root _ _ =>
    match t with
    | .space | .aside .comment | .aside .instruction => .ok (.epilog root .start [])
    | _ => .error ⟨.junkAfterElement, place⟩

def within (token : TokenState) (place : List Char) : DocumentState → DocumentState
  | .prolog expected d _ _ => .prolog expected d token place
  | .body d s => .body d s
  | .epilog root _ _ => .epilog root token place

/-- The state after what a character does to the token at `place`, where no token ends before it. -/
def scanned (cs place : List Char) (s : DocumentState) : Scan → Except Fault DocumentState
  | .more token => .ok (s.within token place)
  | .done t => s.accept place t
  | .before _ | .invalid => .error ⟨.invalidToken, cs⟩

/-- A character outside the root element. -/
def scan (token : TokenState) (place : List Char) (c : Char) (cs : List Char) (s : DocumentState) :
    Except Fault DocumentState :=
  match token with
  | .start => s.scanned cs cs (TokenState.begin c)
  | _ =>
    match token.step c cs with
    | .before t => do (← s.accept place t).scanned cs cs (TokenState.begin c)
    | effect => s.scanned cs place effect

/-- A body is over with the end tag of the root. -/
def ofBody (d : Doctype) (s : BodyState) : DocumentState :=
  match s.part, s.frames, s.content with
  | .text _, [], .element name attributes inner .nil => .epilog ⟨name, attributes, inner⟩ .start []
  | _, _, _ => .body d s

def step (s : DocumentState) (c : Char) (cs : List Char) : Except Fault DocumentState :=
  match s with
  | .prolog _ _ token place | .epilog _ token place => s.scan token place c cs
  | .body d b => do return ofBody d (← b.step d [] d.expansion c cs)

def run (s : DocumentState) : List Char → Except Fault DocumentState
  | [] => .ok s
  | c :: rest => do run (← s.step c (c :: rest)) rest

def unfinished (ending : Ending) (place : List Char) : Fault :=
  ⟨if ending = .character then .partialCharacter else .unclosedToken, place⟩

def settle (ending : Ending) (s : DocumentState) : Except Fault DocumentState :=
  match s with
  | .prolog _ _ token place | .epilog _ token place =>
    if token = .start then .ok s
    else match if ending = .character then none else token.atEnd? with
      | some t => s.accept place t
      | none => .error (unfinished ending place)
  | .body _ b =>
    match b.unfinished? with
    | some ⟨.unclosedCdata, place⟩ =>
      .error (if ending = .whole then ⟨.unclosedCdata, place⟩ else unfinished ending [])
    | some fault => .error (unfinished ending fault.rest)
    | none => .ok s

/-- The root element, once the text is over. -/
def root (ending : Ending) (s : DocumentState) : Except Fault Element :=
  if ending ≠ .whole then .error (unfinished ending [])
  else match s with
    | .epilog root _ _ => .ok root
    | _ => .error ⟨.noElement, []⟩

end DocumentState

def Source.root (s : Source) : Except Fault Element := do
  let state ← DocumentState.start.run s.body
  (← state.settle s.ending).root s.ending

inductive DocumentFault
  | malformed (kind : FaultKind) (place : Position)
  | unknownEncoding (name : List Char)
  | unfitEncoding (name : List Char) (reason : Unfitness)
  | multiByteEncoding
  deriving DecidableEq, Repr

def Unfitness.message (name : List Char) : Unfitness → String
  | .noReplacement =>
    "decoding with '" ++ String.ofList name ++
      "' codec failed (UnicodeError: Unsupported error handling replace)"
  | .noText =>
    "decoding with '" ++ String.ofList name ++
      "' codec failed (UnicodeError: undefined encoding)"
  | .asciiOnly =>
    "'ascii' codec can't decode byte 0x80 in position 82: ordinal not in range(128)"

def DocumentFault.message : DocumentFault → String
  | .malformed kind place => kind.message place
  | .unknownEncoding name =>
    if isNameIn name transformNames then
      "'" ++ String.ofList (name.take 400) ++
        "' is not a text encoding; use codecs.decode() to handle arbitrary codecs"
    else "unknown encoding: " ++ String.ofList name
  | .unfitEncoding name reason => reason.message name
  | .multiByteEncoding => "multi-byte encodings are not supported"

def EncodingFault.at (place : Position) : EncodingFault → DocumentFault
  | .document kind => .malformed kind place
  | .unknown name => .unknownEncoding name
  | .unfit name reason => .unfitEncoding name reason
  | .multiByte => .multiByteEncoding

def Element.ofSource (s : Source) : Except DocumentFault Element :=
  s.root.mapError fun f => .malformed f.kind (f.position s.text)

/-- The root element of a document given as text; the encoding that it declares does not matter. -/
def Element.ofText (text : List Char) : Except DocumentFault Element :=
  Element.ofSource (.ofText text)

def Element.ofBytes (bytes : List UInt8) : Except DocumentFault Element :=
  match Source.ofBytes bytes with
  | .ok s => Element.ofSource s
  | .error (fault, place) => .error (fault.at place)

end Transcoding.Xml
