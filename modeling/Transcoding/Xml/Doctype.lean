import Transcoding.Xml.Reference

/-!
What the document type declares that matters to the tree: entities, and attributes with their types
and default values.
-/

namespace Transcoding.Xml

inductive Entity
  /-- An entity that stands for a text, which may hold markup and further references. -/
  | internal (text : List Char)
  /-- An entity whose text is elsewhere and is not read. -/
  | external
  /-- An entity that is no XML. -/
  | unparsed
  deriving DecidableEq, Repr

structure AttributeDeclaration where
  name : List Char
  /-- Whether white space in values counts as written. -/
  cdata : Bool
  default : Option (List Char)
  deriving DecidableEq, Repr

structure Doctype where
  entities : List (List Char × Entity) := []
  attributes : List (List Char × List AttributeDeclaration) := []
  /-- Whether declarations are missing because they are in a part that was not read. -/
  incomplete : Bool := false
  standalone : Bool := false
  /-- Whether declarations still count; they do not after a reference to a part that
  was not read. -/
  processing : Bool := true
  deriving DecidableEq, Repr

namespace Doctype

def entity? (d : Doctype) (name : List Char) : Option Entity :=
  d.entities.lookup name

/-- Whether a reference to an undeclared entity is a fault rather than one to a missing part. -/
def complete (d : Doctype) : Bool :=
  !d.incomplete || d.standalone

def attributesOf (d : Doctype) (element : List Char) : List AttributeDeclaration :=
  (d.attributes.lookup element).getD []

/-- Adds an entity; the first declaration of a name counts. -/
def declareEntity (d : Doctype) (name : List Char) (e : Entity) : Doctype :=
  if !d.processing || (predefined? name).isSome || (d.entity? name).isSome then d
  else { d with entities := (name, e) :: d.entities }

/-- Adds an attribute; one with a default or of type ID does not count if the name is declared. -/
def declareAttribute (d : Doctype) (element : List Char) (a : AttributeDeclaration) (isId : Bool) :
    Doctype :=
  let known := d.attributesOf element
  if !d.processing || ((a.default.isSome || isId) && known.any (·.name == a.name)) then d
  else
    let others := d.attributes.filter (·.1 != element)
    { d with attributes := (element, known ++ [a]) :: others }

end Doctype
end Transcoding.Xml
