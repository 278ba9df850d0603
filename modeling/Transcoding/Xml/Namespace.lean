import Transcoding.Xml.Content
import Transcoding.Xml.Fault

/-!
Namespaces: the prefixes in force at an element, and what the names written with them stand for.
-/

namespace Transcoding.Xml

/-- The name of a namespace that XML keeps to itself: its scheme, its authority and its path. -/
def reservedNamespace (path : String) : List Char :=
  "http:".toList ++ "//www.w3.org/".toList ++ path.toList

def xmlNamespace : List Char := reservedNamespace "XML/1998/namespace"

def xmlnsNamespace : List Char := reservedNamespace "2000/xmlns/"

/-- The namespace of each prefix in force, the innermost first; the empty prefix is the default. -/
abbrev Scope := List (List Char × List Char)

def Scope.initial : Scope := [(['x', 'm', 'l'], xmlNamespace)]

/-- A name as written, split at its first colon; the first part is empty if there is no colon. -/
def splitQualified (raw : List Char) : List Char × List Char :=
  match raw.span (· != ':') with
  | (qualifier, ':' :: label) => (qualifier, label)
  | _ => ([], raw)

/-- The prefix that an attribute declares, if it declares one. -/
def declaredPrefix? (raw : List Char) : Option (List Char) :=
  if raw = "xmlns".toList then some []
  else match splitQualified raw with
    | (qualifier, label) => if qualifier = "xmlns".toList then some label else none

def Scope.bind (scope : Scope) (qualifier space : List Char) : Except FaultKind Scope :=
  if space.isEmpty && !qualifier.isEmpty then .error .undeclaredPrefix
  else if qualifier = "xmlns".toList then .error .reservedXmlnsPrefix
  else if space.contains '}' then .error .badSyntax
  else if qualifier = "xml".toList && space != xmlNamespace then .error .reservedXmlPrefix
  else if qualifier != "xml".toList && space = xmlNamespace then .error .reservedNamespace
  else if space = xmlnsNamespace then .error .reservedNamespace
  else .ok ((qualifier, space) :: scope)

/-- What the name of an element stands for. -/
def Scope.elementName (scope : Scope) (raw : List Char) : Except FaultKind Name :=
  match splitQualified raw with
  | (qualifier, label) =>
    match scope.lookup qualifier with
    | some space => .ok ⟨space, label⟩
    | none => if qualifier.isEmpty then .ok ⟨[], label⟩ else .error .unboundPrefix

/-- What the name of an attribute stands for; the default namespace does not matter to it. -/
def Scope.attributeName (scope : Scope) (raw : List Char) : Except FaultKind Name :=
  match splitQualified raw with
  | ([], label) => .ok ⟨[], label⟩
  | _ => scope.elementName raw

end Transcoding.Xml
