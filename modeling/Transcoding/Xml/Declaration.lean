import Transcoding.Xml.Aside

/-!
The declaration at the start of a document: a version, perhaps an encoding, perhaps whether the
document stands alone, in this order. The version itself is not looked at.
-/

namespace Transcoding.Xml

structure Declaration where
  encoding : Option (List Char) := none
  /-- What follows the opening quote of the encoding. -/
  encodingPlace : List Char := []
  standalone : Bool := false
  deriving DecidableEq, Repr

/-- A name and its quoted value: the name with what follows its first character, the value with what
follows its opening quote. -/
structure PseudoAttribute where
  name : List Char
  namePlace : List Char
  value : List Char
  valuePlace : List Char

def isSettingChar (c : Char) : Bool :=
  c.isAlphanum || c == '.' || c == '-' || c == '_'

/-- The next pair of name and value and what follows it; no pair at the end. The error is the text
from the first wrong character on. -/
def PseudoAttribute.next (cs : List Char) :
    Except (List Char) (Option PseudoAttribute × List Char) :=
  let body := cs.dropWhile isSpace
  match cs, body with
  | _, [] => .ok (none, [])
  | c :: _, _ =>
    if !isSpace c then .error cs
    else
      let (name, rest) := body.span fun c => c != '=' && !isSpace c
      if name.any (0x80 ≤ ·.toNat) then .error (body.dropWhile (·.toNat < 0x80))
      else match rest.dropWhile isSpace with
        | '=' :: rest =>
          if name.isEmpty then .error body
          else match rest.dropWhile isSpace with
            | [] => .error []
            | q :: value =>
              if q != '"' && q != '\'' then .error (q :: value)
              else match value.span isSettingChar with
                | (text, c :: after) =>
                  if c == q then .ok (some ⟨name, body, text, value⟩, after)
                  else .error (c :: after)
                | (_, []) => .error []
        | rest => .error rest
  | [], _ => .ok (none, [])

def Declaration.standalone? (d : Declaration) (s : PseudoAttribute) (rest : List Char) :
    Except (List Char) Declaration :=
  if s.name != "standalone".toList then .error s.namePlace
  else if s.value != "yes".toList && s.value != "no".toList then .error s.valuePlace
  else match rest.dropWhile isSpace with
    | [] => .ok { d with standalone := s.value == "yes".toList }
    | rest => .error rest

def Declaration.read (body : List Char) : Except (List Char) Declaration := do
  let (version, rest) ← PseudoAttribute.next body
  match version with
  | none => throw body
  | some version =>
    if version.name != "version".toList then throw version.namePlace
    let (second, rest') ← PseudoAttribute.next rest
    match second with
    | none => return {}
    | some second =>
      if second.name != "encoding".toList then Declaration.standalone? {} second rest'
      else if !(second.value.head?.any Char.isAlpha) then throw second.valuePlace
      else
        let d : Declaration := ⟨some second.value, second.valuePlace, false⟩
        let (third, rest'') ← PseudoAttribute.next rest'
        match third with
        | none => return d
        | some third => d.standalone? third rest''

end Transcoding.Xml
