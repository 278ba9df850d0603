import Transcoding.Failure
import Transcoding.Text.Numeral
import Transcoding.Text.Quoted
import Transcoding.Url
import Transcoding.Validation.Details

/-!
What keeps a call to a provider from giving a result: a failure that callers are told, or a defect
that they are not, because no request can be made of what it is given, the answer is in an encoding
of which nothing is known, or what would be told cannot be written. The values of message headers
are ASCII.
-/

namespace Transcoding

namespace Header

/-- A run of characters that are not ASCII, at an index of a value. -/
structure Fault where
  index : Nat
  run : List Char
  deriving DecidableEq, Repr

def Fault.message (f : Fault) : String :=
  let place (n : Nat) := String.ofList (Numeral.ofNat n)
  let which := match f.run with
    | [c] => "character '" ++ String.ofList (Text.codeEscape c) ++ "' in position " ++ place f.index
    | run => "characters in position " ++ place f.index ++ "-" ++ place (f.index + run.length - 1)
  "'ascii' codec can't encode " ++ which ++ ": ordinal not in range(128)"

/-- The first run of characters that a header value may not have. -/
def fault? (value : List Char) : Option Fault :=
  let (before, rest) := value.span (·.toNat < 0x80)
  match rest.takeWhile (0x80 ≤ ·.toNat) with
  | [] => none
  | run => some ⟨before.length, run⟩

end Header

inductive Defect
  | url (f : Url.Fault)
  | header (f : Header.Fault)
  | numeral (f : Numeral.Fault)
  | unknownEncoding (name : List Char)
  | detail (f : Validation.DetailFault)
  deriving DecidableEq, Repr

def Defect.message : Defect → String
  | .url f => f.message
  | .header f => f.message
  | .numeral f => f.message
  | .unknownEncoding name => (Xml.DocumentFault.unknownEncoding name).message
  | .detail f => f.message

inductive Problem
  | failure (f : Failure)
  | defect (d : Defect)
  deriving Repr

end Transcoding
