import Transcoding.Proofs.Xml.Content
import Transcoding.Proofs.Xml.Document

/-!
Every tree of plain names and characters of documents has a document, so reading reaches all of
them. One way to write a tree is enough: every character as a reference, whatever it is.
-/

namespace Transcoding.Xml

/-- Whether a name can be written without a prefix. -/
def Name.IsPlain (name : Name) : Prop :=
  name.space = [] ∧ isPlainName name.label = true

/-- Whether attributes can stand in one tag and declare no namespace. -/
structure AreWritable (attributes : List Attribute) : Prop where
  distinct : attributes.Pairwise fun a b => b.name ≠ a.name
  plain : ∀ a ∈ attributes, a.name.IsPlain ∧ a.name.label ≠ "xmlns".toList
  chars : ∀ a ∈ attributes, ∀ c ∈ a.value, isXmlChar c = true

/-- Whether content holds only what a document can hold. -/
def Content.IsWritable : Content → Prop
  | .nil => True
  | .char c next => isXmlChar c = true ∧ next.IsWritable
  | .element name attributes inner next =>
      name.IsPlain ∧ AreWritable attributes ∧ inner.IsWritable ∧ next.IsWritable

def Element.IsWritable (e : Element) : Prop :=
  e.name.IsPlain ∧ AreWritable e.attributes ∧ e.content.IsWritable

theorem areWritable_nil : AreWritable [] :=
  ⟨.nil, nofun, nofun⟩

theorem areWritable_singleton {name value : List Char} (hname : isPlainName name = true)
    (hxmlns : name ≠ "xmlns".toList) (hvalue : value.all isXmlChar = true) :
    AreWritable [⟨⟨[], name⟩, value⟩] where
  distinct := List.pairwise_singleton _ _
  plain := List.forall_mem_singleton.2 ⟨⟨rfl, hname⟩, hxmlns⟩
  chars := List.forall_mem_singleton.2 (List.all_eq_true.1 hvalue)

theorem Content.isWritable_ofText {cs : List Char} (h : cs.all isXmlChar = true) :
    (Content.ofText cs).IsWritable := by
  induction cs with
  | nil => trivial
  | cons c cs ih =>
      obtain ⟨hc, hcs⟩ := Bool.and_eq_true_iff.1 h
      exact ⟨hc, ih hcs⟩

theorem Outline.isWritable_content {o : Outline} (hn : o.wellNamed = true) (hl : o.legal = true) :
    o.content.IsWritable := by
  induction o with
  | nil => trivial
  | leaf tag text next ih =>
      obtain ⟨htag, hnext⟩ := Bool.and_eq_true_iff.1 hn
      obtain ⟨htext, hlegal⟩ := Bool.and_eq_true_iff.1 hl
      exact ⟨⟨rfl, htag⟩, areWritable_nil, Content.isWritable_ofText htext, ih hnext hlegal⟩
  | branch tag inner next ihi ihn =>
      simp only [wellNamed, legal, Bool.and_eq_true] at hn hl
      exact ⟨⟨rfl, hn.1.1⟩, areWritable_nil, ihi hn.1.2 hl.1, ihn hn.2 hl.2⟩

theorem asciiDigit?_digitChar : ∀ d < 10, asciiDigit? (Text.digitChar d) = some d := by decide

/-- The digits of a number are worth it, in front of further digits. -/
theorem foldlM_digitsBefore (n : Nat) (tail : List Char) :
    (Numeral.digitsBefore n tail).foldlM (fun n c => (asciiDigit? c).map (n * 10 + ·)) 0 =
      tail.foldlM (fun n c => (asciiDigit? c).map (n * 10 + ·)) n := by
  induction n using Nat.strongRecOn generalizing tail with
  | ind n ih =>
      rw [Numeral.digitsBefore]
      split
      · next hn => simp [List.foldlM_cons, asciiDigit?_digitChar n hn]
      · next hn =>
          rw [ih (n / 10) (by omega), List.foldlM_cons, asciiDigit?_digitChar _ (by omega)]
          simp [Nat.div_add_mod']

theorem charOf?_toNat {c : Char} (hc : isXmlChar c = true) : charOf? c.toNat = some c := by
  have valid : c.toNat < 0xD800 ∨ 0xDFFF < c.toNat ∧ c.toNat < 0x110000 := c.valid
  simp only [charOf?, Char.ofNat_toNat, hc]
  rw [if_pos]
  simp
  omega

/-- Every character of documents has a reference, by its number. -/
theorem exists_refers {c : Char} (hc : isXmlChar c = true) : ∃ ref, Refers c ref := by
  have worth : worth? 10 asciiDigit? (Numeral.ofNat c.toNat) = some c.toNat :=
    foldlM_digitsBefore c.toNat []
  have nonempty : Numeral.ofNat c.toNat ≠ [] := by
    obtain ⟨d, -, hhead⟩ := Numeral.head?_digitsBefore c.toNat []
    intro hnil
    rw [Numeral.ofNat] at hnil
    rw [hnil] at hhead
    cases hhead
  exact ⟨_, .decimal nonempty worth (charOf?_toNat hc)⟩

theorem exists_writesValue (quote : Char) {value : List Char}
    (h : ∀ c ∈ value, isXmlChar c = true) : ∃ text, WritesValue quote value text := by
  induction value with
  | nil => exact ⟨[], .nil⟩
  | cons c value ih =>
      obtain ⟨hc, hvalue⟩ := List.forall_mem_cons.1 h
      obtain ⟨ref, href⟩ := exists_refers hc
      obtain ⟨text, htext⟩ := ih hvalue
      exact ⟨_, .reference href htext⟩

theorem AreWritable.exists_writes {attributes : List Attribute} (h : AreWritable attributes) :
    ∃ text, WritesAttributes attributes text := by
  induction attributes with
  | nil => exact ⟨[], .nil rfl⟩
  | cons a attributes ih =>
      obtain ⟨hothers, hdistinct⟩ := List.pairwise_cons.1 h.distinct
      obtain ⟨⟨⟨hspace, hlabel⟩, hxmlns⟩, hplain⟩ := List.forall_mem_cons.1 h.plain
      obtain ⟨hvalue, hchars⟩ := List.forall_mem_cons.1 h.chars
      obtain ⟨⟨space, label⟩, value⟩ := a
      obtain rfl : space = [] := hspace
      obtain ⟨written, hwritten⟩ := exists_writesValue '"' hvalue
      obtain ⟨text, htext⟩ := ih ⟨hdistinct, hplain, hchars⟩
      have blank : IsGap [' '] := rfl
      have none : IsGap [] := rfl
      exact ⟨_, .cons (List.cons_ne_nil _ _) blank hlabel hxmlns none none (.inl rfl) hwritten
        hothers htext⟩

theorem Content.IsWritable.exists_writes {content : Content} (h : content.IsWritable)
    (last : TextEnd) : ∃ text, Writes last content text := by
  induction content generalizing last with
  | nil => exact ⟨[], .nil⟩
  | char c next ih =>
      obtain ⟨hc, hnext⟩ := h
      obtain ⟨ref, href⟩ := exists_refers hc
      obtain ⟨text, htext⟩ := ih hnext .plain
      exact ⟨_, .reference href htext⟩
  | element name attributes inner next ihi ihn =>
      obtain ⟨⟨hspace, hlabel⟩, hattributes, hinner, hnext⟩ := h
      obtain ⟨space, label⟩ := name
      obtain rfl : space = [] := hspace
      obtain ⟨tag, htag⟩ := hattributes.exists_writes
      obtain ⟨inside, hinside⟩ := ihi hinner .plain
      obtain ⟨text, htext⟩ := ihn hnext .plain
      have none : IsGap [] := rfl
      exact ⟨_, .element hlabel htag hinside none htext⟩

theorem Element.IsWritable.exists_writes {root : Element} (h : root.IsWritable) :
    ∃ text, WritesDocument root text := by
  obtain ⟨⟨hspace, hlabel⟩, hattributes, hcontent⟩ := h
  obtain ⟨⟨space, label⟩, attributes, content⟩ := root
  obtain rfl : space = [] := hspace
  obtain ⟨tag, htag⟩ := hattributes.exists_writes
  obtain ⟨inside, hinside⟩ := hcontent.exists_writes .plain
  have none : IsGap [] := rfl
  exact ⟨_, .bare .nil (.whole hlabel htag hinside none) .nil⟩

/-- Every tree that can be written is what some bytes are read as. -/
theorem Element.IsWritable.exists_ofBytes_eq {root : Element} (h : root.IsWritable) :
    ∃ bytes, Element.ofBytes bytes = .ok root := by
  obtain ⟨text, htext⟩ := h.exists_writes
  exact ⟨Text.toUtf8 text, htext.ofBytes_eq⟩

end Transcoding.Xml
