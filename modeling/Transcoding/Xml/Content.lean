/-!
XML trees. What stands between the tags of an element is one sequence of characters and elements, so
a tree has one form only: no empty texts, no two texts side by side.
-/

namespace Transcoding.Xml

/-- A name within a namespace; the namespace is empty for names without one. -/
structure Name where
  space : List Char
  label : List Char
  deriving DecidableEq, Repr

def Name.plain (label : String) : Name := ⟨[], label.toList⟩

structure Attribute where
  name : Name
  value : List Char
  deriving DecidableEq, Repr

inductive Content
  | nil
  | char (c : Char) (next : Content)
  | element (name : Name) (attributes : List Attribute) (inner next : Content)
  deriving DecidableEq, Repr

structure Element where
  name : Name
  attributes : List Attribute
  content : Content
  deriving DecidableEq, Repr

namespace Content

/-- The content read backwards in front of other content; elements keep their inside. -/
def reverseOnto : Content → Content → Content
  | .nil, tail => tail
  | .char c next, tail => next.reverseOnto (.char c tail)
  | .element name attributes inner next, tail =>
    next.reverseOnto (.element name attributes inner tail)

def reverse (content : Content) : Content :=
  content.reverseOnto .nil

def append : Content → Content → Content
  | .nil, tail => tail
  | .char c next, tail => .char c (next.append tail)
  | .element name attributes inner next, tail => .element name attributes inner (next.append tail)

def ofText (cs : List Char) : Content :=
  cs.foldr .char .nil

/-- The characters before the first element. -/
def leadingText : Content → List Char
  | .char c next => c :: next.leadingText
  | _ => []

/-- The elements of a name, without those inside others. -/
def children (name : Name) : Content → List Element
  | .nil => []
  | .char _ next => next.children name
  | .element n attributes inner next =>
    if n = name then ⟨n, attributes, inner⟩ :: next.children name else next.children name

end Content

namespace Element

def attribute? (e : Element) (name : Name) : Option (List Char) :=
  (e.attributes.find? (·.name = name)).map (·.value)

/-- The text at the start of the first child of a name; none without such a child. -/
def childText (e : Element) (name : Name) : List Char :=
  match (e.content.children name).head? with
  | some child => child.content.leadingText
  | none => []

end Element
end Transcoding.Xml
