import Transcoding.Proofs.Text.Ascii
import Transcoding.Proofs.Xml.Scan

/-!
Declarations of the grammar are read: each setting is one pair of name and value, and the encoding
that a declaration names, if it names one, is UTF-8.
-/

namespace Transcoding.Xml

theorem dropWhile_gap {gap : List Char} (h : IsGap gap) {c : Char} (hc : isSpace c = false)
    (rest : List Char) : (gap ++ c :: rest).dropWhile isSpace = c :: rest := by
  rw [List.dropWhile_append_of_pos (List.all_eq_true.1 h)]
  exact List.dropWhile_cons_of_neg (by simp [hc])

theorem dropWhile_gap_nil {gap : List Char} (h : IsGap gap) : gap.dropWhile isSpace = [] :=
  List.dropWhile_eq_nil_iff.2 (List.all_eq_true.1 h)

theorem span_of_stop {p : Char → Bool} {front : List Char} (h : ∀ c ∈ front, p c = true)
    {c : Char} (hc : p c = false) (rest : List Char) :
    (front ++ c :: rest).span p = (front, c :: rest) := by
  rw [List.span_eq_takeWhile_dropWhile, List.takeWhile_append_of_pos h,
    List.dropWhile_append_of_pos h, List.takeWhile_cons_of_neg (by simp [hc]),
    List.dropWhile_cons_of_neg (by simp [hc]), List.append_nil]

namespace PseudoAttribute

/-- Whether a character may stand in the name of a setting. -/
def isLabelChar (c : Char) : Bool :=
  c != '=' && !isSpace c && c.toNat < 0x80

theorem next_gap {gap : List Char} (h : IsGap gap) : next gap = .ok (none, []) := by
  rw [next]
  simp only [dropWhile_gap_nil h]

theorem next_setting {name value text : List Char} (hne : name ≠ [])
    (hname : name.all isLabelChar = true) (hvalue : value.all isSettingChar = true)
    (h : WritesSetting name value text) (rest : List Char) :
    ∃ s, next (text ++ rest) = .ok (some s, rest) ∧ s.name = name ∧ s.value = value := by
  obtain ⟨gap, before, after, quote, hgapne, hgap, hbefore, hafter, hquote, rfl⟩ := h
  obtain ⟨g, gap, rfl⟩ := List.exists_cons_of_ne_nil hgapne
  obtain ⟨n, name, rfl⟩ := List.exists_cons_of_ne_nil hne
  let tail := after ++ quote :: (value ++ quote :: rest)
  have hquoteSpace : isSpace quote = false := by obtain rfl | rfl := hquote <;> rfl
  have hquoteSetting : isSettingChar quote = false := by obtain rfl | rfl := hquote <;> rfl
  have label : ∀ c ∈ n :: name, (c ≠ '=' ∧ isSpace c = false) ∧ c.toNat < 0x80 := by
    intro c hc
    simpa [isLabelChar] using List.all_eq_true.1 hname c hc
  have hbody : (g :: (gap ++ n :: (name ++ (before ++ '=' :: tail)))).dropWhile isSpace =
      n :: (name ++ (before ++ '=' :: tail)) :=
    dropWhile_gap hgap (label n List.mem_cons_self).1.2 _
  have hspan : (n :: (name ++ (before ++ '=' :: tail))).span (fun c => c != '=' && !isSpace c) =
      (n :: name, before ++ '=' :: tail) := by
    have inside : ∀ c ∈ n :: name, (c != '=' && !isSpace c) = true := fun c hc => by
      simpa using (label c hc).1
    cases before with
    | nil => exact span_of_stop inside rfl tail
    | cons b before =>
        have hb : isSpace b = true := (Bool.and_eq_true_iff.1 hbefore).1
        exact span_of_stop inside (by simp [hb]) (before ++ '=' :: tail)
  have hascii : (n :: name).any (0x80 ≤ ·.toNat) = false := by
    simpa using fun c hc => (label c hc).2
  have hequals : (before ++ '=' :: tail).dropWhile isSpace = '=' :: tail :=
    dropWhile_gap hbefore rfl _
  have hopen : tail.dropWhile isSpace = quote :: (value ++ quote :: rest) :=
    dropWhile_gap hafter hquoteSpace _
  have hclose : (value ++ quote :: rest).span isSettingChar = (value, quote :: rest) :=
    span_of_stop (List.all_eq_true.1 hvalue) hquoteSetting _
  have hfirst : isSpace g = true := (Bool.and_eq_true_iff.1 hgap).1
  have hmarks : (quote != '"' && quote != '\'') = false := by
    obtain rfl | rfl := hquote <;> rfl
  let body := n :: (name ++ (before ++ '=' :: tail))
  refine ⟨⟨n :: name, body, value, value ++ quote :: rest⟩, ?_, rfl, rfl⟩
  simp only [List.cons_append, List.append_assoc, List.nil_append]
  change next (g :: (gap ++ n :: (name ++ (before ++ '=' :: tail)))) = _
  simp only [next, hbody, hfirst, hspan, hascii, hequals, hopen, hclose, hmarks, Bool.not_true,
    Bool.false_eq_true, if_false, List.isEmpty_cons, beq_self_eq_true, if_true, body]

end PseudoAttribute

open PseudoAttribute (next)

theorem isSettingChar_of_toUpper {c : Char} (h : isSettingChar c.toUpper = true) :
    isSettingChar c = true := by
  obtain lower | same := Text.isLower_or_toUpper_eq c
  · simp [isSettingChar, Text.isAlphanum_of_isAlpha (Text.isAlpha_of_isLower lower)]
  · rwa [same] at h

theorem all_isSettingChar_of_utf8 {name : List Char}
    (h : name.map Char.toUpper = "UTF-8".toList) : name.all isSettingChar = true := by
  have hupper : (name.map Char.toUpper).all isSettingChar = true := by
    rw [h]
    decide
  rw [List.all_map, List.all_eq_true] at hupper
  exact List.all_eq_true.2 fun c hc => isSettingChar_of_toUpper (hupper c hc)

/-- A name of UTF-8 begins with a letter. -/
theorem any_isAlpha_of_utf8 {name : List Char} (h : name.map Char.toUpper = "UTF-8".toList) :
    name.head?.any Char.isAlpha = true := by
  cases name with
  | nil => cases h
  | cons c name =>
      have hc : c.toUpper = 'U' := (List.cons.inj h).1
      exact Text.isAlpha_of_toUpper (by rw [hc]; decide)

variable {text : List Char}

theorem next_version (h : WritesSetting "version".toList "1.0".toList text) (rest : List Char) :
    ∃ s, next (text ++ rest) = .ok (some s, rest) ∧ s.name = "version".toList := by
  obtain ⟨s, hnext, hname, -⟩ :=
    PseudoAttribute.next_setting (by decide) (by decide) (by decide) h rest
  exact ⟨s, hnext, hname⟩

theorem next_encoding {name : List Char} (hname : name.map Char.toUpper = "UTF-8".toList)
    (h : WritesSetting "encoding".toList name text) (rest : List Char) :
    ∃ s, next (text ++ rest) = .ok (some s, rest) ∧ s.name = "encoding".toList ∧ s.value = name :=
  PseudoAttribute.next_setting (by decide) (by decide) (all_isSettingChar_of_utf8 hname) h rest

/-- What may follow the encoding: whether the document stands alone, or nothing. -/
theorem next_standalone {gap : List Char} (hgap : IsGap gap)
    (h : text = [] ∨ ∃ answer, (answer = "yes".toList ∨ answer = "no".toList) ∧
      WritesSetting "standalone".toList answer text) :
    next (text ++ gap) = .ok (none, []) ∨
      ∃ s, next (text ++ gap) = .ok (some s, gap) ∧ s.name = "standalone".toList ∧
        ∀ d : Declaration, ∃ d', d.standalone? s gap = .ok d' ∧ d'.encoding = d.encoding := by
  obtain rfl | ⟨answer, hanswer, h⟩ := h
  · exact .inl (PseudoAttribute.next_gap hgap)
  · have hvalue : answer.all isSettingChar = true := by
      obtain rfl | rfl := hanswer <;> decide
    obtain ⟨s, hnext, hname, hs⟩ :=
      PseudoAttribute.next_setting (by decide) (by decide) hvalue h gap
    have known : ¬(s.value != "yes".toList && s.value != "no".toList) = true := by
      rw [hs]
      obtain rfl | rfl := hanswer <;> decide
    refine .inr ⟨s, hnext, hname, fun d => ⟨{ d with standalone := s.value == "yes".toList }, ?_,
      rfl⟩⟩
    rw [Declaration.standalone?, hname, if_neg (by decide), if_neg known, dropWhile_gap_nil hgap]

/-- A declaration names no encoding but UTF-8. -/
theorem WritesDeclaration.exists_read (h : WritesDeclaration text) :
    ∃ d, Declaration.read text = .ok d ∧
      ∀ name ∈ d.encoding, name.map Char.toUpper = "UTF-8".toList := by
  obtain ⟨version, encoding, standalone, gap, hversion, hencoding, hstandalone, hgap, rfl⟩ := h
  obtain ⟨v, hv, hversion⟩ := next_version hversion (encoding ++ (standalone ++ gap))
  have hlast := next_standalone hgap hstandalone
  obtain rfl | ⟨name, hname, hencoding⟩ := hencoding
  · obtain hnone | ⟨s, hs, hstandalone, hread⟩ := hlast
    · refine ⟨{}, ?_, nofun⟩
      rw [List.nil_append] at hv
      simp [Declaration.read, hv, hversion, hnone, bind, Except.bind]
      rfl
    · obtain ⟨d, hd, hsame⟩ := hread {}
      refine ⟨d, ?_, by rw [hsame]; exact nofun⟩
      rw [List.nil_append] at hv
      simp [Declaration.read, hv, hversion, hs, hstandalone, hd, bind, Except.bind]
  · obtain ⟨e, he, hencoding, hvalue⟩ := next_encoding hname hencoding (standalone ++ gap)
    have letter := any_isAlpha_of_utf8 hname
    rw [← hvalue] at letter
    obtain hnone | ⟨s, hs, hstandalone, hread⟩ := hlast
    · refine ⟨⟨some e.value, e.valuePlace, false⟩, ?_, ?_⟩
      · simp [Declaration.read, hv, hversion, he, hencoding, letter, hnone, bind, Except.bind]
        rfl
      · rintro _ ⟨⟩
        rwa [hvalue]
    · obtain ⟨d, hd, hsame⟩ := hread ⟨some e.value, e.valuePlace, false⟩
      refine ⟨d, ?_, ?_⟩
      · simp [Declaration.read, hv, hversion, he, hencoding, letter, hs, hd, bind, Except.bind]
      · rw [hsame]
        rintro _ ⟨⟩
        rwa [hvalue]

/-- Whether a character may stand in a declaration. -/
def isDeclarationChar (c : Char) : Bool :=
  isXmlChar c && c != '?'

theorem isDeclarationChar_of_isSpace {c : Char} : isSpace c = true → isDeclarationChar c = true :=
  forall_isSpace (p := (isDeclarationChar · = true)) ⟨rfl, rfl, rfl, rfl⟩

theorem IsGap.all_isDeclarationChar {gap : List Char} (h : IsGap gap) :
    gap.all isDeclarationChar = true :=
  List.all_eq_true.2 fun c hc => isDeclarationChar_of_isSpace (List.all_eq_true.1 h c hc)

theorem WritesSetting.all_isDeclarationChar {name value : List Char}
    (h : WritesSetting name value text) (hname : name.all isDeclarationChar = true)
    (hvalue : value.all isDeclarationChar = true) : text.all isDeclarationChar = true := by
  obtain ⟨gap, before, after, quote, -, hgap, hbefore, hafter, hquote, rfl⟩ := h
  have hmark : isDeclarationChar quote = true := by
    obtain rfl | rfl := hquote <;> rfl
  have hequals : isDeclarationChar '=' = true := rfl
  simp only [List.all_append, List.all_cons, List.all_nil, hgap.all_isDeclarationChar, hname,
    hbefore.all_isDeclarationChar, hafter.all_isDeclarationChar, hvalue, hmark, hequals,
    Bool.and_self]

theorem WritesSetting.exists_cons {name value : List Char} (h : WritesSetting name value text) :
    ∃ c rest, text = c :: rest ∧ isSpace c = true := by
  obtain ⟨gap, before, after, quote, hne, hgap, -, -, -, rfl⟩ := h
  obtain ⟨g, gap, rfl⟩ := List.exists_cons_of_ne_nil hne
  exact ⟨g, _, rfl, (Bool.and_eq_true_iff.1 hgap).1⟩

theorem isDeclarationChar_of_isSettingChar {c : Char} (h : isSettingChar c = true) :
    isDeclarationChar c = true := by
  have hquestion : c ≠ '?' := by
    rintro rfl
    cases h
  have range : 0x20 ≤ c.toNat ∧ c.toNat < 0x80 := by
    simp only [isSettingChar, Bool.or_eq_true, beq_iff_eq] at h
    obtain ((h | rfl) | rfl) | rfl := h
    · have bounds := Text.bounds_of_isAlphanum h
      omega
    all_goals decide
  have hchar : isXmlChar c = true := by
    simp only [isXmlChar, if_neg (Nat.not_lt.2 range.1), Bool.and_eq_true, bne_iff_ne]
    omega
  simp [isDeclarationChar, hchar, hquestion]

theorem WritesDeclaration.all_isDeclarationChar (h : WritesDeclaration text) :
    text.all isDeclarationChar = true := by
  obtain ⟨version, encoding, standalone, gap, hversion, hencoding, hstandalone, hgap, rfl⟩ := h
  have hversion := hversion.all_isDeclarationChar (by decide) (by decide)
  have hencoding : encoding.all isDeclarationChar = true := by
    obtain rfl | ⟨name, hname, hencoding⟩ := hencoding
    · rfl
    · have hall := List.all_eq_true.1 (all_isSettingChar_of_utf8 hname)
      exact hencoding.all_isDeclarationChar (by decide)
        (List.all_eq_true.2 fun c hc => isDeclarationChar_of_isSettingChar (hall c hc))
  have hstandalone : standalone.all isDeclarationChar = true := by
    obtain rfl | ⟨answer, hanswer, hstandalone⟩ := hstandalone
    · rfl
    · have hall : answer.all isDeclarationChar = true := by
        obtain rfl | rfl := hanswer <;> decide
      exact hstandalone.all_isDeclarationChar (by decide) hall
  simp only [List.all_append, hversion, hencoding, hstandalone, hgap.all_isDeclarationChar,
    Bool.and_self]

/-- A declaration after the first two characters. -/
theorem WritesDeclaration.scans (h : WritesDeclaration text) :
    Scans AsideState.step .question ("xml".toList ++ (text ++ ['?', '>'])) (.declaration text) := by
  have hchars := h.all_isDeclarationChar
  simp only [isDeclarationChar, List.all_eq_true, Bool.and_eq_true, bne_iff_ne] at hchars
  have hspace : ∀ c ∈ text.head?, isSpace c = true := by
    obtain ⟨version, encoding, standalone, gap, hversion, -, -, -, rfl⟩ := h
    obtain ⟨c, rest, rfl, hc⟩ := hversion.exists_cons
    rintro _ ⟨⟩
    exact hc
  have hend : ¬['?', '>'] <:+: text := by
    intro hin
    have hmem : '?' ∈ text := hin.subset List.mem_cons_self
    exact (hchars '?' hmem).2 rfl
  have htarget : isPlainName "xml".toList = true := by decide
  have hdeclares : declares? "xml".toList = some true := by decide
  exact scans_instruction htarget hdeclares hspace (List.all_eq_true.2 fun c hc => (hchars c hc).1)
    hend

end Transcoding.Xml
