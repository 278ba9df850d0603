import Mathlib.Data.List.TakeDrop
import Mathlib.Data.List.TakeWhile
import Transcoding.Xml.Document
import Transcoding.Xml.Outline

/-!
Pieces of markup inside the root element, read in front of any text. Each theorem says what state
the body is in after a piece: a name, a start tag without attributes, an empty tag, an end tag, an
escaped character. Only documents that declare no attributes are covered.
-/

namespace Transcoding.Xml

/-- Whether a name has one part only and the form of a name. -/
def isPlainName : List Char → Bool
  | [] => false
  | c :: rest => isNameStart c && rest.all isNameChar

/-- A text with its line ends as they are read: a carriage return is a line feed, and so is a
carriage return with the line feed after it. `after` tells whether the text follows a carriage
return. -/
def lineEnds (after : Bool) : List Char → List Char
  | [] => []
  | c :: rest =>
      if c == '\n' && after then lineEnds false rest
      else (if c == '\r' then '\n' else c) :: lineEnds (c == '\r') rest

/-- What a text ends with once a character is written in it as it is. -/
def TextEnd.after (last : TextEnd) (c : Char) : TextEnd :=
  if c = '\r' then .carriageReturn
  else if c = ']' then if last = .bracket ∨ last = .brackets then .brackets else .bracket
  else .plain

theorem TextEnd.after_eq_carriageReturn_iff {last : TextEnd} {c : Char} :
    last.after c = .carriageReturn ↔ c = '\r' := by
  rw [TextEnd.after]
  by_cases hr : c = '\r'
  · rw [if_pos hr]
    exact iff_of_true rfl hr
  · refine iff_of_false ?_ hr
    rw [if_neg hr]
    split
    · split <;> exact nofun
    · exact nofun

theorem not_mem_lineEnds (after : Bool) (cs : List Char) : '\r' ∉ lineEnds after cs := by
  induction cs generalizing after with
  | nil => exact List.not_mem_nil
  | cons c cs ih =>
      simp only [lineEnds]
      split
      · exact ih false
      · by_cases h : c = '\r'
        · simpa [h] using ih true
        · simp [h, Ne.symm h, ih]

theorem lineEnds_of_not_mem {cs : List Char} (h : '\r' ∉ cs) : lineEnds false cs = cs := by
  induction cs with
  | nil => rfl
  | cons c cs ih =>
      have hc : (c == '\r') = false := beq_eq_false_iff_ne.2 (List.ne_of_not_mem_cons h).symm
      simp [lineEnds, hc, ih (List.not_mem_of_not_mem_cons h)]

theorem lineEnds_eq_iff (cs : List Char) : lineEnds false cs = cs ↔ '\r' ∉ cs :=
  ⟨fun h => h ▸ not_mem_lineEnds false cs, lineEnds_of_not_mem⟩

theorem ne_of_isNameStart {c x : Char} (hc : isNameStart c = true) (hx : isNameStart x = false) :
    c ≠ x := by
  rintro rfl
  rw [hx] at hc
  contradiction

theorem isNameChar_of_isNameStart {c : Char} (h : isNameStart c = true) : isNameChar c = true := by
  by_cases hc : c.toNat < 0x80
  · simp only [isNameStart, hc, if_true, Bool.or_eq_true] at h
    rcases h with h | h <;> simp [isNameChar, hc, Char.isAlphanum, h]
  · simp only [isNameStart, hc, if_false] at h
    simp [isNameChar, hc, h]

theorem all_isNameChar_of_isPlainName {name : List Char} (h : isPlainName name = true) :
    name.all isNameChar = true := by
  cases name with
  | nil => rfl
  | cons c rest =>
      simp only [isPlainName, Bool.and_eq_true] at h
      simp [isNameChar_of_isNameStart h.1, h.2]

theorem splitQualified_of_isPlainName {name : List Char} (h : isPlainName name = true) :
    splitQualified name = ([], name) := by
  have colonless : ∀ c ∈ name, (c != ':') = true := by
    intro c hc
    rw [bne_iff_ne]
    rintro rfl
    exact absurd (List.all_eq_true.1 (all_isNameChar_of_isPlainName h) ':' hc) (by decide)
  have hspan : name.span (· != ':') = (name, []) := by
    rw [List.span_eq_takeWhile_dropWhile, List.takeWhile_eq_self_iff.2 colonless,
      List.dropWhile_eq_nil_iff.2 colonless]
  rw [splitQualified, hspan]

/-- Where nothing is declared, a tag of a plain name without attributes means just that name. -/
theorem RawTag.resolve_of_isPlainName {d : Doctype} (hd : d.attributes = [])
    (opened : List (List Char)) {scope : Scope} (hs : scope.lookup [] = none) (budget : Nat)
    {name : List Char} (hn : isPlainName name = true) (closed : Bool) :
    RawTag.resolve d opened scope budget ⟨name, [], closed⟩ =
      .ok (⟨⟨[], name⟩, [], .nil⟩, scope, budget) := by
  have element : scope.elementName name = .ok ⟨[], name⟩ := by
    simp [Scope.elementName, splitQualified_of_isPlainName hn, hs]
  have declared : d.attributesOf name = [] := by
    simp [Doctype.attributesOf, hd]
  simp only [RawTag.resolve, declared, List.map_nil, TagBuilder.addWritten, TagBuilder.addDefaults,
    List.reverse_nil, TagBuilder.resolve, element, bind, Except.bind, Except.mapError, pure,
    Except.pure]

namespace Content

theorem reverseOnto_reverseOnto (a b t : Content) :
    (a.reverseOnto b).reverseOnto t = b.reverseOnto (a.append t) := by
  induction a generalizing b with
  | nil => rfl
  | char c next ih => exact ih (.char c b)
  | element name attributes inner next _ ih => exact ih (.element name attributes inner b)

@[simp] theorem append_nil (a : Content) : a.append .nil = a := by
  induction a with
  | nil => rfl
  | char c next ih => rw [append, ih]
  | element name attributes inner next _ ih => rw [append, ih]

@[simp] theorem reverse_reverseOnto (a : Content) : (a.reverseOnto .nil).reverse = a := by
  rw [reverse, reverseOnto_reverseOnto, append_nil]
  rfl

end Content

namespace DocumentState

variable {d : Doctype} {place : List Char} {content : Content} {f : Frame} {frames : List Frame}
  {scope : Scope} {budget : Nat}

@[simp] theorem ofBody_cons {part : BodyPart} :
    ofBody d ⟨part, place, content, f :: frames, scope, budget⟩ =
      .body d ⟨part, place, content, f :: frames, scope, budget⟩ := by
  cases part <;> rfl

/-- A character of the body. -/
theorem run_body {s t : BodyState} {c : Char} {rest : List Char}
    (h : s.step d [] d.expansion c (c :: rest) = .ok t) :
    run (.body d s) (c :: rest) = run (ofBody d t) rest := by
  simp only [run, step, h]
  rfl

theorem run_less {last : TextEnd} (tail : List Char) :
    run (.body d ⟨.text last, place, content, frames, scope, budget⟩) ('<' :: tail) =
      run (.body d ⟨.less, '<' :: tail, content, frames, scope, budget⟩) tail :=
  rfl

theorem run_tagName {name : List Char} (h : name.all isNameChar = true) (done tail : List Char) :
    run (.body d ⟨.tag ⟨[], [], .name done .before⟩, place, content, frames, scope, budget⟩)
        (name ++ tail) =
      run (.body d ⟨.tag ⟨[], [], .name (name.reverse ++ done) .before⟩, place, content, frames,
        scope, budget⟩) tail := by
  induction name generalizing done with
  | nil => rfl
  | cons c name ih =>
      simp only [List.all_cons, Bool.and_eq_true] at h
      have hs : BodyState.step d [] d.expansion
          ⟨.tag ⟨[], [], .name done .before⟩, place, content, frames, scope, budget⟩ c
            (c :: (name ++ tail)) =
            .ok ⟨.tag ⟨[], [], .name (c :: done) .before⟩, place, content, frames, scope,
              budget⟩ := by
        simp [BodyState.step, TagState.step, Colon.step, h.1]
      rw [List.cons_append, run_body hs]
      exact (ih h.2 (c :: done)).trans (by rw [List.reverse_cons, List.append_assoc]; rfl)

/-- The end of a tag that means an element. -/
theorem run_tagEnd {t : TagState} {c : Char} {rest : List Char} {raw : RawTag} {e : Element}
    {inner : Scope} {left : Nat} (ht : t.step c (c :: rest) = .done raw)
    (hr : raw.resolve d [] scope budget = .ok (e, inner, left)) :
    run (.body d ⟨.tag t, place, content, frames, scope, budget⟩) (c :: rest) =
      run (ofBody d (BodyState.enter ⟨.tag t, place, content, frames, scope, budget⟩ raw e inner
        left)) rest := by
  apply run_body
  simp only [BodyState.step, ht, hr]

/-- A start tag after the first character of its name. -/
theorem run_startTag_rest (hd : d.attributes = []) (hs : scope.lookup [] = none) {c : Char}
    {name : List Char} (hn : isPlainName (c :: name) = true) (tail : List Char) :
    run (.body d ⟨.tag (.start c), place, content, frames, scope, budget⟩) (name ++ '>' :: tail) =
      run (.body d ⟨.text .plain, [], .nil,
        ⟨c :: name, ⟨[], c :: name⟩, [], content, scope⟩ :: frames, scope, budget⟩) tail := by
  have hall := (Bool.and_eq_true_iff.1 hn).2
  have ended : TagState.step ⟨[], [], .name (name.reverse ++ [c]) .before⟩ '>' ('>' :: tail) =
      .done ⟨(name.reverse ++ [c]).reverse, [], false⟩ := rfl
  rw [List.reverse_append, List.reverse_reverse] at ended
  rw [TagState.start, run_tagName hall,
    run_tagEnd ended (RawTag.resolve_of_isPlainName hd [] hs budget hn false)]
  exact congrArg (run · tail) ofBody_cons

/-- A tag of an empty element after the first character of its name. -/
theorem run_emptyTag_rest (hd : d.attributes = []) (hs : scope.lookup [] = none) {c : Char}
    {name : List Char} (hn : isPlainName (c :: name) = true) (tail : List Char) :
    run (.body d ⟨.tag (.start c), place, content, frames, scope, budget⟩)
        (name ++ ' ' :: '/' :: '>' :: tail) =
      run (ofBody d ⟨.text .plain, place, .element ⟨[], c :: name⟩ [] .nil content, frames, scope,
        budget⟩) tail := by
  have hall := (Bool.and_eq_true_iff.1 hn).2
  have ended : TagState.step ⟨c :: name, [], .slash⟩ '>' ('>' :: tail) =
      .done ⟨c :: name, [], true⟩ := rfl
  have slashed : run (.body d ⟨.tag ⟨[], [], .name (name.reverse ++ [c]) .before⟩, place, content,
        frames, scope, budget⟩) (' ' :: '/' :: '>' :: tail) =
      run (.body d ⟨.tag ⟨(name.reverse ++ [c]).reverse, [], .slash⟩, place, content, frames, scope,
        budget⟩) ('>' :: tail) := rfl
  rw [TagState.start, run_tagName hall, slashed, List.reverse_append, List.reverse_reverse]
  exact run_tagEnd ended (RawTag.resolve_of_isPlainName hd [] hs budget hn true)

theorem isPlainName_eq_true_iff {name : List Char} :
    isPlainName name = true ↔
      ∃ c rest, name = c :: rest ∧ isNameStart c = true ∧ rest.all isNameChar = true := by
  cases name with
  | nil => simp [isPlainName]
  | cons c rest => simp [isPlainName]

/-- The start of a tag up to the first character of its name. -/
theorem run_tagStart {c : Char} (hc : isNameStart c = true) (last : TextEnd) (tail : List Char) :
    run (.body d ⟨.text last, place, content, frames, scope, budget⟩) ('<' :: c :: tail) =
      run (.body d ⟨.tag (.start c), '<' :: c :: tail, content, frames, scope, budget⟩) tail := by
  have hne {x : Char} := ne_of_isNameStart (x := x) hc
  rw [run_less, run_body (t := ⟨.tag (.start c), '<' :: c :: tail, content, frames, scope, budget⟩)]
  · rfl
  · simp (disch := decide) [BodyState.step, hne, hc]

/-- The first two characters of the root element. -/
theorem run_rootStart {expected : Expected} (he : expected = .first ∨ expected = .doctypeOrRoot)
    (d : Doctype) {c : Char} (hc : isNameStart c = true) (tail : List Char) :
    run (.prolog expected d .start []) ('<' :: c :: tail) =
      run (.body d ⟨.tag (.start c), '<' :: c :: tail, .nil, [], .initial, maxExpansion⟩)
        tail := by
  have hne {x : Char} := ne_of_isNameStart (x := x) hc
  have opened : run (.prolog expected d .start []) ('<' :: c :: tail) =
      run (.prolog expected d .less ('<' :: c :: tail)) (c :: tail) := rfl
  have entered : step (.prolog expected d .less ('<' :: c :: tail)) c (c :: tail) =
      .ok (.body d ⟨.tag (.start c), '<' :: c :: tail, .nil, [], .initial, maxExpansion⟩) := by
    have hallowed : expected = .first ∨ expected = .doctypeOrRoot ∨ expected = .root :=
      he.imp_right .inl
    simp (disch := decide) [step, scan, scanned, TokenState.step, accept, enterRoot, hne, hc,
      hallowed]
  rw [opened, run, entered]
  rfl

theorem run_startTag (hd : d.attributes = []) (hs : scope.lookup [] = none) {name : List Char}
    (hn : isPlainName name = true) (last : TextEnd) (tail : List Char) :
    run (.body d ⟨.text last, place, content, frames, scope, budget⟩)
        (Outline.startTag name tail) =
      run (.body d ⟨.text .plain, [], .nil, ⟨name, ⟨[], name⟩, [], content, scope⟩ :: frames, scope,
        budget⟩) tail := by
  obtain ⟨c, rest, rfl, hc, -⟩ := isPlainName_eq_true_iff.1 hn
  rw [Outline.startTag, List.cons_append, run_tagStart hc, run_startTag_rest hd hs hn]

theorem run_emptyTag (hd : d.attributes = []) (hs : scope.lookup [] = none) {name : List Char}
    (hn : isPlainName name = true) (last : TextEnd) (tail : List Char) :
    run (.body d ⟨.text last, place, content, f :: frames, scope, budget⟩)
        (Outline.emptyTag name tail) =
      run (.body d ⟨.text .plain, Outline.emptyTag name tail,
        .element ⟨[], name⟩ [] .nil content, f :: frames, scope, budget⟩) tail := by
  obtain ⟨c, rest, rfl, hc, -⟩ := isPlainName_eq_true_iff.1 hn
  rw [Outline.emptyTag, List.cons_append, run_tagStart hc, run_emptyTag_rest hd hs hn, ofBody_cons]

theorem run_endName {name : List Char} (h : name.all isNameChar = true)
    (done start tail : List Char) :
    run (.body d ⟨.endName done start, place, content, f :: frames, scope, budget⟩)
        (name ++ tail) =
      run (.body d ⟨.endName (name.reverse ++ done) start, place, content, f :: frames, scope,
        budget⟩) tail := by
  induction name generalizing done with
  | nil => rfl
  | cons c name ih =>
      simp only [List.all_cons, Bool.and_eq_true] at h
      have hs : BodyState.step d [] d.expansion
          ⟨.endName done start, place, content, f :: frames, scope, budget⟩ c
            (c :: (name ++ tail)) =
          .ok ⟨.endName (c :: done) start, place, content, f :: frames, scope, budget⟩ := by
        simp [BodyState.step, h.1]
      rw [List.cons_append, run_body hs, ofBody_cons, ih h.2 (c :: done), List.reverse_cons,
        List.append_assoc]
      rfl

variable (d place content f frames scope budget) in
/-- The end tag of the innermost element between its first character and the end of its name. -/
theorem run_endTagName (hn : isPlainName f.raw = true) (tail : List Char) :
    ∃ start, run (.body d ⟨.less, place, content, f :: frames, scope, budget⟩)
        ('/' :: (f.raw ++ tail)) =
      run (.body d ⟨.endName f.raw.reverse start, place, content, f :: frames, scope, budget⟩)
        tail := by
  obtain ⟨c, name, hf, hc, hname⟩ := isPlainName_eq_true_iff.1 hn
  let start := c :: (name ++ tail)
  have slashed : run (.body d ⟨.less, place, content, f :: frames, scope, budget⟩)
      ('/' :: start) =
    run (.body d ⟨.slash, place, content, f :: frames, scope, budget⟩) start := rfl
  have begun : BodyState.step d [] d.expansion ⟨.slash, place, content, f :: frames, scope, budget⟩
      c start = .ok ⟨.endName [c] start, place, content, f :: frames, scope, budget⟩ := by
    simp only [BodyState.step, hc, if_true]
  refine ⟨start, ?_⟩
  rw [hf, List.cons_append, slashed, run_body begun, ofBody_cons, run_endName hname,
    List.reverse_cons]

/-- The end tag of the innermost element after its first character. -/
theorem run_endTag (hn : isPlainName f.raw = true) (tail : List Char) :
    run (.body d ⟨.less, place, content, f :: frames, scope, budget⟩)
        ('/' :: (f.raw ++ '>' :: tail)) =
      run (ofBody d ⟨.text .plain, [], .element f.name f.attributes content.reverse f.before,
        frames, f.scope, budget⟩) tail := by
  obtain ⟨start, hname⟩ := run_endTagName d place content f frames scope budget hn ('>' :: tail)
  have closed : BodyState.step d [] d.expansion
      ⟨.endName f.raw.reverse start, place, content, f :: frames, scope, budget⟩ '>'
        ('>' :: tail) =
      .ok ⟨.text .plain, [], .element f.name f.attributes content.reverse f.before, frames, f.scope,
        budget⟩ := by
    simp only [BodyState.step]
    rw [if_neg (by decide), if_neg (by decide), if_pos (by decide), List.reverse_reverse]
    exact if_pos rfl
  rw [hname, run_body closed]

/-- What a character of a text adds to the content, backwards, where `last` ends the text before
it. -/
def withChar (last : TextEnd) (c : Char) (content : Content) : Content :=
  if c == '\n' && last = .carriageReturn then content
  else .char (if c == '\r' then '\n' else c) content

theorem textChar_of_isXmlChar {c : Char} (hc : isXmlChar c = true) {last : TextEnd}
    (hgt : c = '>' → last ≠ .brackets) (s : BodyState) (cs : List Char) :
    s.textChar last c cs =
      .ok { s with part := .text (last.after c), content := withChar last c s.content } := by
  by_cases hn : c = '\n'
  · subst hn
    cases last <;> rfl
  by_cases hr : c = '\r'
  · subst hr
    rfl
  by_cases hb : c = ']'
  · subst hb
    rfl
  · have hends : (c == '>' && decide (last = .brackets)) = false := by
      rw [Bool.and_eq_false_iff, beq_eq_false_iff_ne, decide_eq_false_iff_not, ← imp_iff_not_or]
      exact hgt
    simp [BodyState.textChar, BodyState.addChar, withChar, TextEnd.after, hn, hr, hb, hends, hc]

variable (d place content f frames scope budget) in
/-- An escaped character of a text. -/
theorem run_escape {c : Char} (hc : isXmlChar c = true) (last : TextEnd) (tail : List Char) :
    ∃ place' last', (last' = .carriageReturn ↔ c = '\r') ∧
      run (.body d ⟨.text last, place, content, f :: frames, scope, budget⟩)
          (Outline.escape c ++ tail) =
        run (.body d ⟨.text last', place', withChar last c content, f :: frames, scope, budget⟩)
          tail := by
  -- The references that stand for the three escaped characters are read in one go, at no cost to
  -- the budget; only what is written as it is meets the states of a text.
  by_cases hamp : c = '&'
  · subst hamp
    exact ⟨_, .plain, by decide, rfl⟩
  by_cases hlt : c = '<'
  · subst hlt
    exact ⟨_, .plain, by decide, rfl⟩
  by_cases hgt : c = '>'
  · subst hgt
    exact ⟨_, .plain, by decide, rfl⟩
  have hescape : Outline.escape c = [c] := by simp [Outline.escape, hamp, hlt, hgt]
  have hends : c = '>' → last ≠ .brackets := fun h => absurd h hgt
  have hstep := textChar_of_isXmlChar hc hends
    ⟨.text last, place, content, f :: frames, scope, budget⟩ (c :: tail)
  refine ⟨place, last.after c, TextEnd.after_eq_carriageReturn_iff, ?_⟩
  rw [hescape, List.singleton_append, run_body, ofBody_cons]
  simpa [BodyState.step, hamp, hlt] using hstep

private theorem ne_of_not_isXmlChar {c x : Char} (hc : isXmlChar c = false)
    (hx : isXmlChar x = true) : c ≠ x := by
  rintro rfl
  rw [hx] at hc
  contradiction

theorem escape_of_not_isXmlChar {c : Char} (hc : isXmlChar c = false) :
    Outline.escape c = [c] := by
  simp (disch := decide) [Outline.escape, ne_of_not_isXmlChar hc]

/-- A character that no document may hold. -/
theorem run_illegal {c : Char} (hc : isXmlChar c = false) (last : TextEnd) (tail : List Char) :
    run (.body d ⟨.text last, place, content, frames, scope, budget⟩) (c :: tail) =
      .error ⟨.invalidToken, c :: tail⟩ := by
  have hstep : BodyState.step d [] d.expansion
      ⟨.text last, place, content, frames, scope, budget⟩ c (c :: tail) =
      .error ⟨.invalidToken, c :: tail⟩ := by
    simp (disch := decide) [BodyState.step, BodyState.textChar, ne_of_not_isXmlChar hc, hc]
  simp only [run, step, hstep]
  rfl

end DocumentState
end Transcoding.Xml
