import Transcoding.Proofs.Xml.Body

/-!
How documents may be written: relations between trees and texts, independent of any reader. One tree
has many texts, which differ in references, quotes, blanks inside tags, line ends, comments and
instructions. Documents with a document type or with prefixes of names are left out.
-/

namespace Transcoding.Xml

open DocumentState (withChar)

/-- Blanks of markup only, or nothing. -/
def IsGap (cs : List Char) : Prop :=
  cs.all isSpace = true

/-- What holds of the four blanks holds of every blank. -/
theorem forall_isSpace {p : Char → Prop} (h : p ' ' ∧ p '\t' ∧ p '\n' ∧ p '\r') {c : Char}
    (hc : isSpace c = true) : p c := by
  obtain ⟨space, tab, lineFeed, carriageReturn⟩ := h
  simp only [isSpace, Bool.or_eq_true, beq_iff_eq] at hc
  obtain ((rfl | rfl) | rfl) | rfl := hc
  · exact space
  · exact tab
  · exact lineFeed
  · exact carriageReturn

/-- The number that digits of a base write after each other. -/
def worth? (base : Nat) (digit? : Char → Option Nat) (cs : List Char) : Option Nat :=
  cs.foldlM (fun n c => (digit? c).map (n * base + ·)) 0

/-- The references that stand for a character. -/
inductive Refers (c : Char) : List Char → Prop
  | named {name : List Char} : predefined? name = some c → Refers c ('&' :: (name ++ [';']))
  | decimal {digits : List Char} {n : Nat} : digits ≠ [] → worth? 10 asciiDigit? digits = some n →
      charOf? n = some c → Refers c ('&' :: '#' :: (digits ++ [';']))
  | hex {digits : List Char} {n : Nat} : digits ≠ [] → worth? 16 asciiHexDigit? digits = some n →
      charOf? n = some c → Refers c ('&' :: '#' :: 'x' :: (digits ++ [';']))

/-- The texts of a value between two quotes. A blank is a space of the value, and so is a line end
of two characters. -/
inductive WritesValue (quote : Char) : List Char → List Char → Prop
  | nil : WritesValue quote [] []
  | raw {c : Char} {value text : List Char} : isXmlChar c = true → isSpace c = false → c ≠ quote →
      c ≠ '<' → c ≠ '&' → WritesValue quote value text → WritesValue quote (c :: value) (c :: text)
  | blank {c : Char} {value text : List Char} : isSpace c = true →
      (c = '\r' → text.head? ≠ some '\n') → WritesValue quote value text →
      WritesValue quote (' ' :: value) (c :: text)
  | lineEnd {value text : List Char} : WritesValue quote value text →
      WritesValue quote (' ' :: value) ('\r' :: '\n' :: text)
  | reference {c : Char} {ref value text : List Char} : Refers c ref →
      WritesValue quote value text → WritesValue quote (c :: value) (ref ++ text)

/-- The texts of a tag after its name. No attribute declares a namespace. -/
inductive WritesAttributes : List Attribute → List Char → Prop
  | nil {gap : List Char} : IsGap gap → WritesAttributes [] gap
  | cons {name value gap before after written text : List Char} {quote : Char}
      {rest : List Attribute} : gap ≠ [] → IsGap gap → isPlainName name = true →
      name ≠ "xmlns".toList → IsGap before → IsGap after → quote = '"' ∨ quote = '\'' →
      WritesValue quote value written → (∀ a ∈ rest, a.name ≠ ⟨[], name⟩) →
      WritesAttributes rest text →
      WritesAttributes (⟨⟨[], name⟩, value⟩ :: rest)
        (gap ++ (name ++ (before ++ '=' :: (after ++ quote :: (written ++ quote :: text)))))

/-- A comment or an instruction. -/
inductive WritesAside : List Char → Prop
  | comment {text : List Char} : text.all isXmlChar = true → ¬['-', '-'] <:+: text ++ ['-'] →
      WritesAside ('<' :: '!' :: '-' :: '-' :: (text ++ ['-', '-', '>']))
  | instruction {target text : List Char} : isPlainName target = true →
      target.map Char.toLower ≠ ['x', 'm', 'l'] → (∀ c ∈ text.head?, isSpace c = true) →
      text.all isXmlChar = true → ¬['?', '>'] <:+: text →
      WritesAside ('<' :: '?' :: (target ++ (text ++ ['?', '>'])))

def emptyElement (name tag : List Char) : List Char :=
  '<' :: (name ++ (tag ++ ['/', '>']))

def wholeElement (name tag inside gap : List Char) : List Char :=
  '<' :: (name ++ (tag ++ '>' :: (inside ++ '<' :: '/' :: (name ++ (gap ++ ['>'])))))

/-- The texts of a content where the text before it ends in some way: that matters to a line feed,
which may be part of a line end already, and to what would end a CDATA section. -/
inductive Writes : TextEnd → Content → List Char → Prop
  | nil {last : TextEnd} : Writes last .nil []
  | raw {last : TextEnd} {c : Char} {next : Content} {text : List Char} : isXmlChar c = true →
      c ≠ '<' → c ≠ '&' → (c = '>' → last ≠ .brackets) → Writes (last.after c) next text →
      Writes last (withChar last c next) (c :: text)
  | reference {last : TextEnd} {c : Char} {next : Content} {ref text : List Char} : Refers c ref →
      Writes .plain next text → Writes last (.char c next) (ref ++ text)
  | cdata {last : TextEnd} {next : Content} {inside text : List Char} :
      inside.all isXmlChar = true → ¬[']', ']', '>'] <:+: inside → Writes .plain next text →
      Writes last ((Content.ofText (lineEnds false inside)).append next)
        ("<![CDATA[".toList ++ (inside ++ ']' :: ']' :: '>' :: text))
  | aside {last : TextEnd} {next : Content} {aside text : List Char} : WritesAside aside →
      Writes .plain next text → Writes last next (aside ++ text)
  | empty {last : TextEnd} {name tag text : List Char} {attributes : List Attribute}
      {next : Content} : isPlainName name = true → WritesAttributes attributes tag →
      Writes .plain next text →
      Writes last (.element ⟨[], name⟩ attributes .nil next) (emptyElement name tag ++ text)
  | element {last : TextEnd} {name tag inside gap text : List Char} {attributes : List Attribute}
      {inner next : Content} : isPlainName name = true → WritesAttributes attributes tag →
      Writes .plain inner inside → IsGap gap → Writes .plain next text →
      Writes last (.element ⟨[], name⟩ attributes inner next)
        (wholeElement name tag inside gap ++ text)

/-- The texts of an element of its own. -/
inductive WritesElement : Element → List Char → Prop
  | empty {name tag : List Char} {attributes : List Attribute} : isPlainName name = true →
      WritesAttributes attributes tag →
      WritesElement ⟨⟨[], name⟩, attributes, .nil⟩ (emptyElement name tag)
  | whole {name tag inside gap : List Char} {attributes : List Attribute} {inner : Content} :
      isPlainName name = true → WritesAttributes attributes tag → Writes .plain inner inside →
      IsGap gap →
      WritesElement ⟨⟨[], name⟩, attributes, inner⟩ (wholeElement name tag inside gap)

/-- What may stand around the root: blanks, comments and instructions. -/
inductive WritesMisc : List Char → Prop
  | nil : WritesMisc []
  | space {c : Char} {text : List Char} : isSpace c = true → WritesMisc text →
      WritesMisc (c :: text)
  | aside {aside text : List Char} : WritesAside aside → WritesMisc text →
      WritesMisc (aside ++ text)

/-- A setting of a declaration, with the blanks in front of it. -/
def WritesSetting (name value text : List Char) : Prop :=
  ∃ gap before after quote, gap ≠ [] ∧ IsGap gap ∧ IsGap before ∧ IsGap after ∧
    (quote = '"' ∨ quote = '\'') ∧
    text = gap ++ (name ++ (before ++ '=' :: (after ++ quote :: (value ++ [quote]))))

/-- The declarations of documents in UTF-8, without the marks at both ends. -/
def WritesDeclaration (text : List Char) : Prop :=
  ∃ version encoding standalone gap, WritesSetting "version".toList "1.0".toList version ∧
    (encoding = [] ∨ ∃ name, name.map Char.toUpper = "UTF-8".toList ∧
      WritesSetting "encoding".toList name encoding) ∧
    (standalone = [] ∨ ∃ answer, (answer = "yes".toList ∨ answer = "no".toList) ∧
      WritesSetting "standalone".toList answer standalone) ∧
    IsGap gap ∧ text = version ++ (encoding ++ (standalone ++ gap))

/-- The texts of a document. A byte order mark and a declaration may stand in front. -/
inductive WritesDocument : Element → List Char → Prop
  | bare {root : Element} {before text after : List Char} : WritesMisc before →
      WritesElement root text → WritesMisc after →
      WritesDocument root (before ++ (text ++ after))
  | declared {root : Element} {declaration before text after : List Char} :
      WritesDeclaration declaration → WritesMisc before → WritesElement root text →
      WritesMisc after → WritesDocument root
        ("<?xml".toList ++ (declaration ++ '?' :: '>' :: (before ++ (text ++ after))))
  | marked {root : Element} {text : List Char} : text.head? ≠ some '\ufeff' →
      WritesDocument root text → WritesDocument root ('\ufeff' :: text)

end Transcoding.Xml
