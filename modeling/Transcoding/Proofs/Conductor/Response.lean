import Mathlib.Data.List.Forall2
import Transcoding.Conductor.Response
import Transcoding.Proofs.Timestamp.Notation
import Transcoding.Proofs.Xml.Content
import Transcoding.Proofs.Xml.Document

/-!
How answers may hold what is read from them. Values stand in children of their names, between
blanks; characters and elements of other names may stand before, between and after those, and make
no difference.
-/

namespace Transcoding.Conductor

open Xml (Content Element Name)

section Holds

variable {α : Type} {names : List String} {tag : α → String} {Shows : Element → α → Prop}
  {content : Content} {items : List α}

/-- Whether content holds elements that show items, in the order of the items, each under the name
for its item. Anywhere else may stand characters and elements of none of the names given, whatever
is inside those. -/
inductive Holds (names : List String) (tag : α → String) (Shows : Element → α → Prop) :
    Content → List α → Prop
  | nil : Holds names tag Shows .nil []
  | char {c : Char} {next : Content} {items : List α} : Holds names tag Shows next items →
      Holds names tag Shows (.char c next) items
  | other {name : Name} {attributes : List Xml.Attribute} {inner next : Content} {items : List α} :
      (∀ n ∈ names, name ≠ .plain n) → Holds names tag Shows next items →
      Holds names tag Shows (.element name attributes inner next) items
  | item {a : α} {attributes : List Xml.Attribute} {inner next : Content} {items : List α} :
      Shows ⟨.plain (tag a), attributes, inner⟩ a → Holds names tag Shows next items →
      Holds names tag Shows (.element (.plain (tag a)) attributes inner next) (a :: items)

theorem Holds.ofText_append (h : Holds names tag Shows content items) (cs : List Char) :
    Holds names tag Shows ((Content.ofText cs).append content) items := by
  induction cs with
  | nil => exact h
  | cons c cs ih => exact .char ih

/-- The children of a name show just the items that belong to it. -/
theorem Holds.children (h : Holds names tag Shows content items) {name : String}
    (hname : name ∈ names) :
    List.Forall₂ Shows (content.children (.plain name)) (items.filter (tag · = name)) := by
  induction h with
  | nil => exact .nil
  | char _ ih => exact ih
  | other hother _ ih =>
      rw [Content.children, if_neg (hother name hname)]
      exact ih
  | @item a _ _ _ _ hshows _ ih =>
      rw [Content.children]
      by_cases ha : tag a = name
      · rw [if_pos (Name.plain_inj.2 ha), List.filter_cons, if_pos (decide_eq_true ha)]
        exact .cons hshows ih
      · have other : ¬decide (tag a = name) = true := fun h => ha (of_decide_eq_true h)
        rw [if_neg fun h => ha (Name.plain_inj.1 h), List.filter_cons, if_neg other]
        exact ih

end Holds

/-- Whether an element has just one child of a name, and that holds just a text, between blanks. -/
def HasValue (e : Element) (name : String) (text : List Char) : Prop :=
  ∃ child before after, e.content.children (.plain name) = [child] ∧
    (∀ c ∈ before, Text.isBlank c = true) ∧ (∀ c ∈ after, Text.isBlank c = true) ∧
    child.content = Content.ofText (before ++ (text ++ after))

/-- Whether an element has a moment as the value of a name, or no child of that name if there is no
moment. -/
def HasMoment (e : Element) (name : String) : Option Timestamp → Prop
  | none => e.content.children (.plain name) = []
  | some t => ∃ text, t.Writes text ∧ HasValue e name text

/-- Whether an element holds just the text of a named value, between blanks. -/
def ShowsValue (e : Element) (value : String × List Char) : Prop :=
  ∃ before after, (∀ c ∈ before, Text.isBlank c = true) ∧ (∀ c ∈ after, Text.isBlank c = true) ∧
    e.content = Content.ofText (before ++ (value.2 ++ after))

/-- Whether content holds values of some names, in the order of a list. -/
def HoldsValues (names : List String) (content : Content) (values : List (String × List Char)) :
    Prop :=
  Holds names Prod.fst ShowsValue content values

/-- The ways to give an integer in values of a name: none at all or just blanks, which stand for
zero, or a numeral. -/
inductive Quantity (name : String) : Int → List (String × List Char) → Prop
  | absent : Quantity name 0 []
  | blank : Quantity name 0 [(name, [])]
  | numeral {i : Int} {text : List Char} : Numeral.Writes i text → Quantity name i [(name, text)]

theorem leadingText_ofText (cs : List Char) : (Content.ofText cs).leadingText = cs := by
  induction cs with
  | nil => rfl
  | cons c cs ih => exact congrArg (c :: ·) ih

theorem hasValue_of_children {e : Element} {name : String} {text : List Char}
    (h : e.content.children (.plain name) = [⟨.plain name, [], .ofText text⟩]) :
    HasValue e name text :=
  ⟨_, [], [], h, nofun, nofun, by rw [List.append_nil, List.nil_append]⟩

section Values

variable {e : Element} {name : String} {text : List Char} {names : List String}
  {values : List (String × List Char)}

/-- Values may be held in any order. -/
theorem HoldsValues.hasValue (h : HoldsValues names e.content values) (hname : name ∈ names)
    (hvalue : (values.filter (·.1 = name)).Perm [(name, text)]) : HasValue e name text := by
  have shown := Holds.children h hname
  rw [List.perm_singleton.1 hvalue] at shown
  obtain ⟨child, hchild⟩ := List.length_eq_one_iff.1 shown.length_eq
  rw [hchild] at shown
  obtain ⟨before, after, hbefore, hafter, htext⟩ := (List.forall₂_cons.1 shown).1
  exact ⟨child, before, after, hchild, hbefore, hafter, htext⟩

theorem HoldsValues.children_eq_nil (h : HoldsValues names e.content values)
    (hname : name ∈ names) (hnone : (values.filter (·.1 = name)).Perm []) :
    e.content.children (.plain name) = [] := by
  have shown := Holds.children h hname
  rw [List.perm_nil.1 hnone] at shown
  exact List.forall₂_nil_right_iff.1 shown

theorem HasValue.exists_childText (h : HasValue e name text) :
    ∃ before after, (∀ c ∈ before, Text.isBlank c = true) ∧
      (∀ c ∈ after, Text.isBlank c = true) ∧
      e.childText (.plain name) = before ++ (text ++ after) := by
  obtain ⟨child, before, after, hchild, hbefore, hafter, htext⟩ := h
  refine ⟨before, after, hbefore, hafter, ?_⟩
  rw [Element.childText, hchild]
  simp only [List.head?_cons, htext, leadingText_ofText]

theorem HasValue.text_eq (h : HasValue e name text) (htext : Text.IsTrimmed text) :
    Response.text e name = text := by
  obtain ⟨before, after, hbefore, hafter, hchild⟩ := h.exists_childText
  rw [Response.text, hchild, htext.trim_eq hbefore hafter]

theorem text_eq_nil_of_children (h : e.content.children (.plain name) = []) :
    Response.text e name = [] := by
  rw [Response.text, Element.childText, h]
  rfl

theorem HasValue.integer_eq {i : Int} (h : HasValue e name text) (hi : Numeral.Writes i text) :
    Response.integer e name = .ok i := by
  have read := hi.read_eq
  rw [Response.integer, h.text_eq hi.isTrimmed]
  split
  · cases read
  · rw [read]
    rfl

theorem HasMoment.timestamp_eq {t : Option Timestamp} (h : HasMoment e name t) :
    Response.timestamp e name = .ok t := by
  cases t with
  | none =>
      have blank : Response.text e name = [] := text_eq_nil_of_children h
      rw [Response.timestamp, blank]
      rfl
  | some t =>
      obtain ⟨text, hwrites, hvalue⟩ := h
      have read : Timestamp.read ([] ++ (text ++ [])) = .ok (some t) :=
        Timestamp.read_of_writes hwrites nofun nofun
      rw [List.nil_append, List.append_nil] at read
      rw [Response.timestamp, hvalue.text_eq (Timestamp.isTrimmed_of_writes hwrites), read]
      rfl

/-- Of the ways to give an integer, all are read as it. -/
theorem HoldsValues.integer_eq (h : HoldsValues names e.content values) (hname : name ∈ names)
    {i : Int} {given : List (String × List Char)} (hgiven : Quantity name i given)
    (hvalue : (values.filter (·.1 = name)).Perm given) : Response.integer e name = .ok i := by
  cases hgiven with
  | absent =>
      rw [Response.integer, text_eq_nil_of_children (h.children_eq_nil hname hvalue)]
  | blank =>
      rw [Response.integer, (h.hasValue hname hvalue).text_eq ⟨nofun, nofun⟩]
  | numeral hi => exact (h.hasValue hname hvalue).integer_eq hi

theorem Quantity.filter_eq {i : Int} (h : Quantity name i values) (other : String) :
    values.filter (·.1 = other) = if name = other then values else [] := by
  cases h with
  | absent => exact (ite_self _).symm
  | blank | numeral _ =>
      by_cases hname : name = other
      · simp [hname]
      · simp [hname]

end Values

/-- Whether every document of a root is read as a value: every text of the root in UTF-8, and all
other bytes that make a document of it. -/
def Decodes {α : Type} (ofBytes : List UInt8 → Except ResponseFault α) (root : Element)
    (value : α) : Prop :=
  (∀ text, Xml.WritesDocument root text → ofBytes (Text.toUtf8 text) = .ok value) ∧
    ∀ bytes, Element.ofBytes bytes = .ok root → ofBytes bytes = .ok value

theorem decodes_of_element {α : Type} {ofElement : Element → Except ResponseFault α}
    {root : Element} {value : α} (h : ofElement root = .ok value) :
    Decodes (fun bytes => Response.ofDocument ofElement (Element.ofBytes bytes)) root value := by
  have read (bytes : List UInt8) (hroot : Element.ofBytes bytes = .ok root) :
      Response.ofDocument ofElement (Element.ofBytes bytes) = .ok value := by
    rw [Response.ofDocument, hroot]
    exact h
  exact ⟨fun _ hwrites => read _ hwrites.ofBytes_eq, read⟩

end Transcoding.Conductor
