import Transcoding.Xml.Codepage
import Transcoding.Xml.Declaration
import Transcoding.Xml.Fault

/-!
From the bytes of a document to its text. The first bytes tell UTF-16 from encodings of ASCII; among
the latter the document says which one it has, and UTF-8 is meant if it does not. What is no
character of the encoding becomes U+FFFF, which no document may hold, and ends the text.
-/

namespace Transcoding.Xml

/-- How the bytes of a text end. -/
inductive Ending
  | whole
  /-- In the middle of a character, after its first byte or unit. -/
  | character
  /-- In the middle of a unit of 16 bits. -/
  | unit
  deriving DecidableEq, Repr

structure Source where
  text : List Char
  ending : Ending := .whole
  /-- How many characters at the start stand for a byte order mark. -/
  mark : Nat := 0
  deriving DecidableEq, Repr

namespace Source

def cons (c : Char) (s : Source) : Source := { s with text := c :: s.text }

/-- Bytes that are no character. -/
def broken : Source := { text := ['\uffff'] }

def cutOff : Source := { text := [], ending := .character }

/-- The source with its first character taken for a byte order mark if it is one. -/
def marked (s : Source) : Source :=
  if s.text.head? == some '\ufeff' then { s with mark := 1 } else s

def ofText (text : List Char) : Source :=
  marked { text := text }

/-- The text after the byte order mark. -/
def body (s : Source) : List Char :=
  s.text.drop s.mark

end Source

inductive Encoding
  | utf8
  | utf16 (bigEndian : Bool)
  | ascii
  | latin
  | codepage (upper : List Char)
  deriving DecidableEq, Repr

/-- Whether a byte continues a character in UTF-8. -/
def isContinuation (b : UInt8) : Bool := 0x80 ≤ b && b < 0xC0

def continuationBits (b : UInt8) : Nat := b.toNat % 0x40

def decodeUtf8 : List UInt8 → Source
  | [] => { text := [] }
  | b :: rest =>
    if b < 0x80 then (decodeUtf8 rest).cons (Char.ofNat b.toNat)
    else if b < 0xC0 then .broken
    else if b < 0xE0 then
      match rest with
      | c :: rest =>
        if b < 0xC2 || !isContinuation c then .broken
        else (decodeUtf8 rest).cons (Char.ofNat ((b.toNat - 0xC0) * 0x40 + continuationBits c))
      | _ => .cutOff
    else if b < 0xF0 then
      match rest with
      | c :: d :: rest =>
        if !isContinuation c || !isContinuation d || (b == 0xE0 && c < 0xA0) ||
            (b == 0xED && 0xA0 ≤ c) then .broken
        else (decodeUtf8 rest).cons
          (Char.ofNat (((b.toNat - 0xE0) * 0x40 + continuationBits c) * 0x40 + continuationBits d))
      | _ => .cutOff
    else if b < 0xF5 then
      match rest with
      | c :: d :: e :: rest =>
        if !isContinuation c || !isContinuation d || !isContinuation e || (b == 0xF0 && c < 0x90) ||
            (b == 0xF4 && 0x90 ≤ c) then .broken
        else (decodeUtf8 rest).cons
          (Char.ofNat ((((b.toNat - 0xF0) * 0x40 + continuationBits c) * 0x40 +
            continuationBits d) * 0x40 + continuationBits e))
      | _ => .cutOff
    else .broken

def units (bigEndian : Bool) : List UInt8 → List Nat × Bool
  | [] => ([], false)
  | [_] => ([], true)
  | a :: b :: rest =>
    let (us, left) := units bigEndian rest
    ((if bigEndian then a.toNat * 0x100 + b.toNat else b.toNat * 0x100 + a.toNat) :: us, left)

/-- The text of 16 bit units, after which a byte may be left over. -/
def decodeUnits (left : Bool) : List Nat → Source
  | [] => { text := [], ending := if left then .unit else .whole }
  | u :: rest =>
    if 0xD800 ≤ u && u < 0xDC00 then
      match rest with
      | v :: rest =>
        if 0xDC00 ≤ v && v < 0xE000 then
          (decodeUnits left rest).cons (Char.ofNat (0x10000 + (u - 0xD800) * 0x400 + (v - 0xDC00)))
        else .broken
      | [] => .cutOff
    else if 0xDC00 ≤ u && u < 0xE000 then .broken
    else (decodeUnits left rest).cons (Char.ofNat u)

/-- The text of bytes that are one character each as far as they are one. -/
def decodeBytes (char? : UInt8 → Option Char) : List UInt8 → Source
  | [] => { text := [] }
  | b :: rest =>
    match char? b with
    | some c => (decodeBytes char? rest).cons c
    | none => .broken

namespace Encoding

def decode (bytes : List UInt8) : Encoding → Source
  | .utf8 => decodeUtf8 bytes
  | .utf16 bigEndian =>
    let (us, left) := units bigEndian bytes
    decodeUnits left us
  | .ascii => decodeBytes (fun b => if b < 0x80 then some (Char.ofNat b.toNat) else none) bytes
  | .latin => decodeBytes (fun b => some (Char.ofNat b.toNat)) bytes
  | .codepage upper =>
    let char? (b : UInt8) : Option Char :=
      if b < 0x80 then some (Char.ofNat b.toNat)
      else upper[b.toNat - 0x80]?.filter (· != '\ufffd')
    decodeBytes char? bytes

/-- What the first bytes tell, or none if they are too few to tell anything. -/
def detect? : List UInt8 → Option Encoding
  | [0x00] | [0xFE] | [0xFF] | [0xEF] | [0xEF, 0xBB] => none
  | 0xFE :: 0xFF :: _ => some (.utf16 true)
  | 0xFF :: 0xFE :: _ => some (.utf16 false)
  | 0x00 :: _ :: _ => some (.utf16 true)
  | _ :: 0x00 :: _ => some (.utf16 false)
  | _ => some .utf8

def isWide : Encoding → Bool
  | .utf16 _ => true
  | _ => false

end Encoding

/-- Why an encoding that has a name cannot be used. -/
inductive Unfitness
  /-- It refuses to replace what it cannot decode. -/
  | noReplacement
  | noText
  | asciiOnly
  deriving DecidableEq, Repr

inductive EncodingFault
  | document (kind : FaultKind)
  | unknown (name : List Char)
  | unfit (name : List Char) (reason : Unfitness)
  | multiByte
  deriving DecidableEq, Repr

/-- A name with its parts in lower case and single underscores between them. -/
def canonicalName (name : List Char) : List Char :=
  go false name
where
  go (gap : Bool) : List Char → List Char
    | [] => []
    | c :: rest =>
      if c == '-' || c == '_' then go true rest
      else if gap then '_' :: c.toLower :: go false rest
      else c.toLower :: go false rest

/-- The names that a name may mean. Points may stand for underscores in most names. -/
def spellings (name : List Char) : List String :=
  let canonical := canonicalName name
  let pointless := String.ofList (canonical.map fun c => if c == '.' then '_' else c)
  if unpointedNames.contains pointless then [String.ofList canonical]
  else [String.ofList canonical, pointless]

/-- Whether a name may mean one of some names. -/
def isNameIn (name : List Char) (names : List String) : Bool :=
  names.any (spellings name).contains

namespace Encoding

def ofOtherName (name : List Char) : Except EncodingFault Encoding :=
  let isIn := isNameIn name
  match codepages.find? fun page => isIn page.names with
  | some page => .ok (.codepage page.upper.toList)
  | none =>
    if isIn asciiNames then .ok .ascii
    else if isIn latinNames then .ok .latin
    else if isIn foreignNames then .error (.document .unknownEncoding)
    else if isIn multiByteNames then .error .multiByte
    else if isIn ["idna"] then .error (.unfit name .noReplacement)
    else if isIn ["punycode"] then .error (.unfit name .asciiOnly)
    else if isIn ["undefined"] then .error (.unfit name .noText)
    else .error (.unknown name)

/-- The encoding that a document declares by a name, where `found` is what its first bytes tell. -/
def declared (found : Encoding) (name : List Char) : Except EncodingFault Encoding :=
  let narrow (e : Encoding) : Except EncodingFault Encoding :=
    if found.isWide then .error (.document .incorrectEncoding) else .ok e
  let upper := String.ofList (name.map Char.toUpper)
  if upper == "UTF-8" then narrow .utf8
  else if upper == "ISO-8859-1" then narrow .latin
  else if upper == "US-ASCII" then narrow .ascii
  else if upper == "UTF-16" then
    if found.isWide then .ok found else .error (.document .incorrectEncoding)
  else if upper == "UTF-16BE" then
    if found = .utf16 true then .ok found else .error (.document .incorrectEncoding)
  else if upper == "UTF-16LE" then
    if found = .utf16 false then .ok found else .error (.document .incorrectEncoding)
  else ofOtherName name

end Encoding

/-- The text of bytes in the encoding that they declare. A byte order mark in front of them is one
of UTF-8; in another encoding it counts as three characters. -/
def Encoding.decodeMarked (bytes : List UInt8) (e : Encoding) : Source :=
  match bytes, e with
  | _, .utf8 | _, .utf16 _ => (e.decode bytes).marked
  | 0xEF :: 0xBB :: 0xBF :: rest, _ =>
    let s := e.decode rest
    { s with text := List.replicate 3 '\ufeff' ++ s.text, mark := 3 }
  | _, _ => e.decode bytes

/-- What stands between `<?xml` and the next `?>`, if a text begins with a declaration. -/
def declarationBody? (text : List Char) : Option (List Char) :=
  match text with
  | '<' :: '?' :: rest => go .question rest
  | _ => none
where
  go (s : AsideState) : List Char → Option (List Char)
    | [] => none
    | c :: rest =>
      match s.step c with
      | .more s => go s rest
      | .done (.declaration body) => some body
      | _ => none

/-- The name of the encoding that a text declares, and how many characters stand before the name. -/
def declaredEncoding? (text : List Char) : Option (List Char × Nat) := do
  let body ← declarationBody? text
  let d ← (Declaration.read body).toOption
  let name ← d.encoding
  return (name, "<?xml".length + (body.length - d.encodingPlace.length))

/-- The text of a document, or why it has none and the place of that. -/
def Source.ofBytes (bytes : List UInt8) : Except (EncodingFault × Position) Source :=
  match Encoding.detect? bytes with
  | none => .error (.document .unclosedToken, .start)
  | some found =>
    let source := (found.decode bytes).marked
    match declaredEncoding? source.body with
    | none => .ok source
    | some (name, before) =>
      match found.declared name with
      | .ok encoding => .ok (encoding.decodeMarked bytes)
      | .error fault => .error (fault, Position.start.advance (source.mark + before) source.text)

end Transcoding.Xml
