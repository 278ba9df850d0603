import Transcoding.Xml.Content

/-!
Documents to be written: every element has no attributes and holds either a text or elements, and no
space is added between them. An element that holds nothing is written as one tag.
-/

namespace Transcoding.Xml

/-- Elements next to each other. -/
inductive Outline
  | nil
  | leaf (tag text : List Char) (next : Outline)
  | branch (tag : List Char) (inner next : Outline)
  deriving DecidableEq, Repr

namespace Outline

def append : Outline → Outline → Outline
  | .nil, tail => tail
  | .leaf tag text next, tail => .leaf tag text (next.append tail)
  | .branch tag inner next, tail => .branch tag inner (next.append tail)

instance : Append Outline := ⟨append⟩

def text (tag : String) (value : List Char) : Outline :=
  .leaf tag.toList value .nil

def group (tag : String) (inner : Outline) : Outline :=
  .branch tag.toList inner .nil

def escape (c : Char) : List Char :=
  if c == '&' then ['&', 'a', 'm', 'p', ';']
  else if c == '<' then ['&', 'l', 't', ';']
  else if c == '>' then ['&', 'g', 't', ';']
  else [c]

def emptyTag (tag tail : List Char) : List Char :=
  '<' :: (tag ++ ' ' :: '/' :: '>' :: tail)

def startTag (tag tail : List Char) : List Char :=
  '<' :: (tag ++ '>' :: tail)

def endTag (tag tail : List Char) : List Char :=
  '<' :: '/' :: (tag ++ '>' :: tail)

def writeBefore : Outline → List Char → List Char
  | .nil, tail => tail
  | .leaf tag text next, tail =>
    if text.isEmpty then emptyTag tag (next.writeBefore tail)
    else startTag tag (text.flatMap escape ++ endTag tag (next.writeBefore tail))
  | .branch tag .nil next, tail => emptyTag tag (next.writeBefore tail)
  | .branch tag inner next, tail =>
    startTag tag (inner.writeBefore (endTag tag (next.writeBefore tail)))

def declaration : List Char :=
  "<?xml version='1.0' encoding='utf-8'?>\n".toList

def document (o : Outline) : List Char :=
  declaration ++ o.writeBefore []

/-- The tree that an outline stands for. -/
def content : Outline → Content
  | .nil => .nil
  | .leaf tag text next => .element ⟨[], tag⟩ [] (Content.ofText text) next.content
  | .branch tag inner next => .element ⟨[], tag⟩ [] inner.content next.content

end Outline
end Transcoding.Xml
