import Transcoding.Proofs.Text.Numeral
import Transcoding.Proofs.Xml.Outline

/-!
Reading the tree of an outline. A value stands in the one child of its name, as all that the child
holds. What is left of a tree without its characters is its skeleton: the elements, with their names
and their order. The texts of an outline have no part in the skeleton of its tree.
-/

namespace Transcoding.Xml

theorem Name.plain_inj {a b : String} : Name.plain a = Name.plain b ↔ a = b := by
  simp [Name.plain, String.toList_inj]

theorem all_isXmlChar_ofInt (i : Int) : (Numeral.ofInt i).all isXmlChar = true := by
  rw [List.all_eq_true]
  exact Numeral.forall_mem_ofInt (p := (isXmlChar · = true)) rfl (by decide) i

namespace Content

/-- The characters of content without elements. -/
def text? : Content → Option (List Char)
  | .nil => some []
  | .char c next => next.text?.map (c :: ·)
  | .element _ _ _ _ => none

/-- The elements alone. -/
def skeleton : Content → Content
  | .nil => .nil
  | .char _ next => next.skeleton
  | .element name attributes inner next =>
      .element name attributes inner.skeleton next.skeleton

@[simp] theorem text?_ofText (cs : List Char) : (ofText cs).text? = some cs := by
  induction cs with
  | nil => rfl
  | cons c cs ih => exact congrArg (Option.map (c :: ·)) ih

@[simp] theorem skeleton_ofText (cs : List Char) : (ofText cs).skeleton = .nil := by
  induction cs with
  | nil => rfl
  | cons c cs ih => exact ih

@[simp] theorem skeleton_append (a b : Content) :
    (a.append b).skeleton = a.skeleton.append b.skeleton := by
  induction a with
  | nil => rfl
  | char c next ih => exact ih
  | element name attributes inner next _ ih =>
      exact congrArg (Content.element name attributes inner.skeleton) ih

@[simp] theorem children_append (name : Name) (a b : Content) :
    (a.append b).children name = a.children name ++ b.children name := by
  induction a with
  | nil => rfl
  | char c next ih => exact ih
  | element n attributes inner next _ ih =>
      simp only [append, children, ih]
      split <;> rfl

end Content

namespace Element

def skeleton (e : Element) : Element :=
  { e with content := e.content.skeleton }

/-- The one child of a name. -/
def child? (e : Element) (name : String) : Option Element :=
  match e.content.children (.plain name) with
  | [child] => some child
  | _ => none

/-- The text that is all of the one child of a name. -/
def text? (e : Element) (name : String) : Option String := do
  let child ← e.child? name
  return String.ofList (← child.content.text?)

/-- The integer that is all of the one child of a name. -/
def integer? (e : Element) (name : String) : Option Int := do
  let text ← e.text? name
  (Numeral.read text.toList).toOption

end Element

namespace Outline

/-- The outlines one after another. -/
def join (os : List Outline) : Outline :=
  os.foldr (· ++ ·) .nil

/-- The tree of one element with an outline inside. -/
def root (tag : String) (inner : Outline) : Element :=
  ⟨.plain tag, [], inner.content⟩

@[simp] theorem content_append (a b : Outline) : (a ++ b).content = a.content.append b.content := by
  induction a with
  | nil => rfl
  | leaf tag text next ih => exact congrArg (Content.element _ _ _) ih
  | branch tag inner next _ ih => exact congrArg (Content.element _ _ _) ih

@[simp] theorem mapTexts_append (f : List Char → List Char) (a b : Outline) :
    (a ++ b).mapTexts f = a.mapTexts f ++ b.mapTexts f := by
  induction a with
  | nil => rfl
  | leaf tag text next ih => exact congrArg (leaf tag (f text)) ih
  | branch tag inner next _ ih => exact congrArg (branch tag (inner.mapTexts f)) ih

@[simp] theorem legal_append (a b : Outline) : (a ++ b).legal = (a.legal && b.legal) := by
  induction a with
  | nil => rfl
  | leaf tag text next ih =>
      rw [legal, Bool.and_assoc, ← ih]
      rfl
  | branch tag inner next _ ih =>
      rw [legal, Bool.and_assoc, ← ih]
      rfl

@[simp] theorem wellNamed_append (a b : Outline) :
    (a ++ b).wellNamed = (a.wellNamed && b.wellNamed) := by
  induction a with
  | nil => rfl
  | leaf tag text next ih =>
      rw [wellNamed, Bool.and_assoc, ← ih]
      rfl
  | branch tag inner next _ ih =>
      rw [wellNamed, Bool.and_assoc, ← ih]
      rfl

section Text

variable (tag : String) (value : List Char)

@[simp] theorem children_text (name : String) :
    (text tag value).content.children (.plain name) =
      if tag = name then [⟨.plain tag, [], .ofText value⟩] else [] := by
  simp only [← Name.plain_inj]
  rfl

@[simp] theorem legal_text : (text tag value).legal = value.all isXmlChar :=
  Bool.and_true _

@[simp] theorem wellNamed_text : (text tag value).wellNamed = isPlainName tag.toList :=
  Bool.and_true _

@[simp] theorem mapTexts_text (f : List Char → List Char) :
    (text tag value).mapTexts f = text tag (f value) :=
  rfl

@[simp] theorem skeleton_text :
    (text tag value).content.skeleton = .element (.plain tag) [] .nil .nil := by
  simp only [text, content, Content.skeleton, Content.skeleton_ofText]
  rfl

end Text

section Group

variable (tag : String) (inner : Outline)

@[simp] theorem children_group (name : String) :
    (group tag inner).content.children (.plain name) =
      if tag = name then [root tag inner] else [] := by
  simp only [← Name.plain_inj]
  rfl

@[simp] theorem legal_group : (group tag inner).legal = inner.legal :=
  Bool.and_true _

@[simp] theorem wellNamed_group :
    (group tag inner).wellNamed = (isPlainName tag.toList && inner.wellNamed) :=
  Bool.and_true _

@[simp] theorem mapTexts_group (f : List Char → List Char) :
    (group tag inner).mapTexts f = group tag (inner.mapTexts f) :=
  rfl

@[simp] theorem skeleton_group :
    (group tag inner).content.skeleton =
      .element (.plain tag) [] inner.content.skeleton .nil :=
  rfl

end Group

section Join

@[simp] theorem legal_join (os : List Outline) : (join os).legal = os.all legal := by
  induction os with
  | nil => rfl
  | cons o os ih => rw [join, List.foldr_cons, legal_append, ← join, ih, List.all_cons]

@[simp] theorem wellNamed_join (os : List Outline) : (join os).wellNamed = os.all wellNamed := by
  induction os with
  | nil => rfl
  | cons o os ih => rw [join, List.foldr_cons, wellNamed_append, ← join, ih, List.all_cons]

@[simp] theorem mapTexts_join (f : List Char → List Char) (os : List Outline) :
    (join os).mapTexts f = join (os.map (mapTexts f)) := by
  induction os with
  | nil => rfl
  | cons o os ih => rw [join, List.foldr_cons, mapTexts_append, ← join, ih]; rfl

theorem children_join (name : Name) (os : List Outline) :
    (join os).content.children name = os.flatMap (·.content.children name) := by
  induction os with
  | nil => rfl
  | cons o os ih =>
      rw [join, List.foldr_cons, content_append, Content.children_append, ← join, ih,
        List.flatMap_cons]

theorem skeleton_join (os : List Outline) :
    (join os).content.skeleton =
      (os.map (·.content.skeleton)).foldr Content.append .nil := by
  induction os with
  | nil => rfl
  | cons o os ih =>
      rw [join, List.foldr_cons, content_append, Content.skeleton_append, ← join, ih]
      rfl

end Join

end Outline
end Transcoding.Xml
