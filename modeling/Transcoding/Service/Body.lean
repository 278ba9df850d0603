import Transcoding.Json.Encoding
import Transcoding.Json.Reader
import Transcoding.Preset

/-!
The bodies of requests to the service, as `fastapi` reads them. A body is read as JSON if its
content type says so or if it has none. Bytes that are no text, an integer that is too long and too
many arrays and objects in each other make it unreadable, which is another thing than JSON that is
none. Bodies that come in parts or stop short are not covered.
-/

namespace Transcoding.Service

structure Body where
  contentType : String
  bytes : List UInt8
  deriving DecidableEq, Repr

def Body.empty : Body := ⟨"", []⟩

/-- A body of text in UTF-8. -/
def Body.ofText (contentType text : String) : Body :=
  ⟨contentType, Text.toUtf8 text.toList⟩

/-- Why a body cannot be read. -/
inductive Unreadable
  /-- Its bytes are no text. -/
  | undecodable
  /-- An integer has too many digits. -/
  | longInteger
  /-- Arrays and objects lie in each other too deeply. -/
  | tooDeep
  deriving DecidableEq, Repr

inductive BodyContent
  | absent
  | json (value : Json)
  /-- JSON that is none. -/
  | invalid
  | unreadable (why : Unreadable)
  /-- Something else than JSON. -/
  | foreign

def isJsonType (contentType : String) : Bool :=
  let name := Text.toLower (Text.trim (contentType.toList.takeWhile (· != ';')))
  match name.span (· != '/') with
  | (main, _ :: sub) =>
    !sub.contains '/' && main == "application".toList &&
      (sub == "json".toList || "+json".toList.isSuffixOf sub)
  | _ => false

/-- What a JSON body holds that was read. -/
def BodyContent.ofReading : Except Json.Fault Json → BodyContent
  | .ok value => .json value
  | .error .malformed => .invalid
  | .error .tooLong => .unreadable .longInteger
  | .error .tooDeep => .unreadable .tooDeep

/-- What a JSON body holds, read with at most so many arrays and objects in each other. -/
def readJson (levels : Nat) (bytes : List UInt8) : BodyContent :=
  match Json.symbols? bytes with
  | some symbols => .ofReading (Json.read levels symbols)
  | none => .unreadable .undecodable

def Body.content (levels : Nat) (b : Body) : BodyContent :=
  if b.bytes.isEmpty then .absent
  else if !b.contentType.isEmpty && !isJsonType b.contentType then .foreign
  else readJson levels b.bytes

structure TranscodeRequest where
  source : String
  provider : String
  presets : List Preset
  deriving DecidableEq, Repr

open Validation in
def checkPresets (value : Json) : Check (List Preset) :=
  match value with
  | .array [] => .issue .tooShort
  | value => list (Preset.check .modelAttributesType) value

open Validation in
def TranscodeRequest.check (value : Json) : Check TranscodeRequest :=
  record .modelAttributesType value fun members =>
    TranscodeRequest.mk <$> required members "source" string
      <*> required members "provider" string
      <*> required members "presets" checkPresets

end Transcoding.Service
