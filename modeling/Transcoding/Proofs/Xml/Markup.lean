import Transcoding.Proofs.Xml.Outline
import Transcoding.Proofs.Xml.Tag

/-!
Contents of the grammar are read as what they write. Each piece of markup leaves the body in the
state of a text again, with what the piece writes in front of the content.
-/

namespace Transcoding.Xml

namespace Content

theorem reverseOnto_append (a b t : Content) :
    (a.append b).reverseOnto t = b.reverseOnto (a.reverseOnto t) := by
  induction a generalizing t with
  | nil => rfl
  | char c next ih => exact ih (.char c t)
  | element name attributes inner next _ ih => exact ih (.element name attributes inner t)

theorem ofText_append (a b : List Char) : ofText (a ++ b) = (ofText a).append (ofText b) := by
  induction a with
  | nil => rfl
  | cons c a ih => exact congrArg (char c) ih

end Content

namespace DocumentState

variable {d : Doctype} {place : List Char} {content : Content} {f : Frame} {frames : List Frame}
  {scope : Scope} {budget : Nat}

theorem run_scannedAside {s : AsideState} {text : List Char} {a : Aside}
    (h : Scans AsideState.step s text a) (ha : ∀ body, a ≠ .declaration body) (tail : List Char) :
    run (.body d ⟨.aside s, place, content, f :: frames, scope, budget⟩) (text ++ tail) =
      run (.body d ⟨.text .plain, place, content, f :: frames, scope, budget⟩) tail := by
  induction h with
  | @done s c a hstep =>
      have ended : BodyState.step d [] d.expansion
          ⟨.aside s, place, content, f :: frames, scope, budget⟩ c (c :: tail) =
          .ok ⟨.text .plain, place, content, f :: frames, scope, budget⟩ := by
        cases a with
        | declaration body => exact absurd rfl (ha body)
        | comment | instruction => simp only [BodyState.step, hstep]
      rw [List.singleton_append, run_body ended, ofBody_cons]
  | @more s t c cs a hstep _ ih =>
      rw [List.cons_append, run_body
        (t := ⟨.aside t, place, content, f :: frames, scope, budget⟩)
        (by simp only [BodyState.step, hstep]), ofBody_cons]
      exact ih ha

theorem run_aside {text : List Char} (h : WritesAside text) (last : TextEnd) (tail : List Char) :
    run (.body d ⟨.text last, place, content, f :: frames, scope, budget⟩) (text ++ tail) =
      run (.body d ⟨.text .plain, text ++ tail, content, f :: frames, scope, budget⟩) tail := by
  obtain ⟨rest, rfl, hscan⟩ | ⟨rest, rfl, hscan⟩ := h.exists_scans
  · exact run_scannedAside hscan nofun tail
  · exact run_scannedAside hscan nofun tail

theorem run_scannedReference {s : ReferenceState} {text : List Char} {r : Reference} {c : Char}
    (h : Scans ReferenceState.step s text r) (hr : r.StandsFor c) (tail : List Char) :
    run (.body d ⟨.reference s, place, content, f :: frames, scope, budget⟩) (text ++ tail) =
      run (.body d ⟨.text .plain, place, .char c content, f :: frames, scope, budget⟩) tail := by
  induction h with
  | @done s x r hstep =>
      have ended : BodyState.step d [] d.expansion
          ⟨.reference s, place, content, f :: frames, scope, budget⟩ x (x :: tail) =
          .ok ⟨.text .plain, place, .char c content, f :: frames, scope, budget⟩ := by
        obtain ⟨n, rfl, hc⟩ | ⟨name, rfl, hc⟩ := hr <;>
          simp only [BodyState.step, hstep, BodyState.refer, hc] <;> rfl
      rw [List.singleton_append, run_body ended, ofBody_cons]
  | @more s t x cs r hstep _ ih =>
      rw [List.cons_append, run_body
        (t := ⟨.reference t, place, content, f :: frames, scope, budget⟩)
        (by simp only [BodyState.step, hstep]), ofBody_cons]
      exact ih hr

theorem run_reference {c : Char} {text : List Char} (h : Refers c text) (last : TextEnd)
    (tail : List Char) :
    run (.body d ⟨.text last, place, content, f :: frames, scope, budget⟩) (text ++ tail) =
      run (.body d ⟨.text .plain, text ++ tail, .char c content, f :: frames, scope, budget⟩)
        tail := by
  obtain ⟨rest, r, rfl, hscan, hr⟩ := h.exists_scans
  exact run_scannedReference hscan hr tail

/-- The brackets at the end of a CDATA section that are no content yet. -/
def pending : TextEnd → List Char
  | .bracket => [']']
  | .brackets => [']', ']']
  | _ => []

/-- What a CDATA section holds where some brackets are pending and the rest is still to come. -/
def cdataContent (last : TextEnd) (rest : List Char) : Content :=
  Content.ofText (pending last ++ lineEnds (last = .carriageReturn) rest)

theorem cdataChar_of_isXmlChar {c : Char} (hc : isXmlChar c = true) (hb : c ≠ ']') {last : TextEnd}
    (hgt : c = '>' → last ≠ .brackets) (s : BodyState) (cs : List Char) :
    s.cdataChar last c cs = .ok { s with
      part := .cdata (if c = '\r' then .carriageReturn else .plain)
      content := withChar last c ((Content.ofText (pending last)).reverseOnto s.content) } := by
  have hends : (c == '>' && decide (last = .brackets)) = false := by
    rw [Bool.and_eq_false_iff, beq_eq_false_iff_ne, decide_eq_false_iff_not, ← imp_iff_not_or]
    exact hgt
  by_cases hn : c = '\n'
  · subst hn
    cases last <;> rfl
  by_cases hr : c = '\r'
  · subst hr
    cases last <;> rfl
  · cases last <;> simp [BodyState.cdataChar, withChar, pending, Content.ofText,
      Content.reverseOnto, hn, hr, hb, hc] at hends ⊢
    exact hends

variable (d place content f frames scope budget) in
/-- A character of a CDATA section. What is pending and what is still to come are an end of what
they were, and the new content makes up for what they lost. -/
theorem run_cdataChar {c : Char} (hc : isXmlChar c = true) {last : TextEnd}
    (hgt : c = '>' → last ≠ .brackets) (tail : List Char) :
    ∃ place' last' content', (∀ rest, pending last' ++ rest <:+ pending last ++ c :: rest) ∧
      (∀ rest, (cdataContent last' rest).reverseOnto content' =
        (cdataContent last (c :: rest)).reverseOnto content) ∧
      run (.body d ⟨.cdata last, place, content, f :: frames, scope, budget⟩) (c :: tail) =
        run (.body d ⟨.cdata last', place', content', f :: frames, scope, budget⟩) tail := by
  by_cases hb : c = ']'
  · -- The first of three closing brackets is content at last.
    subst hb
    cases last with
    | plain | carriageReturn =>
        exact ⟨_, .bracket, content, fun _ => List.suffix_rfl, fun _ => rfl, rfl⟩
    | bracket => exact ⟨_, .brackets, content, fun _ => List.suffix_rfl, fun _ => rfl, rfl⟩
    | brackets =>
        exact ⟨_, .brackets, .char ']' content, fun _ => List.suffix_cons _ _, fun _ => rfl, rfl⟩
  · have read : BodyState.step d [] d.expansion
        ⟨.cdata last, place, content, f :: frames, scope, budget⟩ c (c :: tail) =
        .ok ⟨.cdata (if c = '\r' then .carriageReturn else .plain), place,
          withChar last c ((Content.ofText (pending last)).reverseOnto content), f :: frames, scope,
          budget⟩ := cdataChar_of_isXmlChar hc hb hgt _ _
    refine ⟨place, if c = '\r' then .carriageReturn else .plain, _, fun rest => ?_, fun rest => ?_,
      run_body read⟩
    · have hpending : pending (if c = '\r' then .carriageReturn else .plain) = [] := by
        split <;> rfl
      rw [hpending]
      exact (List.suffix_cons c rest).trans (List.suffix_append _ _)
    · rw [cdataContent, cdataContent, Content.ofText_append (pending last),
        Content.reverseOnto_append, ← reverseOnto_withChar]
      by_cases hr : c = '\r'
      · subst hr
        rfl
      · rw [if_neg hr, beq_eq_false_iff_ne.2 hr]
        rfl

variable (d place content f frames scope budget) in
/-- A CDATA section from its text on, after some closing brackets in it. -/
theorem run_cdata {text : List Char} (hchars : text.all isXmlChar = true) {last : TextEnd}
    (hend : ¬[']', ']', '>'] <:+: pending last ++ text) (tail : List Char) :
    ∃ place', run (.body d ⟨.cdata last, place, content, f :: frames, scope, budget⟩)
        (text ++ ']' :: ']' :: '>' :: tail) =
      run (.body d ⟨.text .plain, place', (cdataContent last text).reverseOnto content, f :: frames,
        scope, budget⟩) tail := by
  induction text generalizing last place content with
  | nil => cases last <;> exact ⟨_, rfl⟩
  | cons c text ih =>
      obtain ⟨hc, hrest⟩ := Bool.and_eq_true_iff.1 hchars
      have hgt : c = '>' → last ≠ .brackets := by
        rintro rfl rfl
        exact hend (List.infix_append [] [']', ']', '>'] text)
      obtain ⟨place₁, last', content', hsuffix, hread, hstep⟩ := run_cdataChar d place content f
        frames scope budget hc hgt (text ++ ']' :: ']' :: '>' :: tail)
      obtain ⟨place₂, hrun⟩ := ih place₁ content' hrest
        fun hin => hend (hin.trans (hsuffix text).isInfix)
      refine ⟨place₂, ?_⟩
      rw [← hread, ← hrun, ← hstep]
      rfl

theorem run_cdataOpening (last : TextEnd) (tail : List Char) :
    run (.body d ⟨.text last, place, content, f :: frames, scope, budget⟩)
        ("<![CDATA[".toList ++ tail) =
      run (.body d ⟨.cdata .plain, "<![CDATA[".toList ++ tail, content, f :: frames, scope, budget⟩)
        tail :=
  rfl

section Tags

variable {name tag : List Char} {attributes : List Attribute}

theorem run_openingTag (hd : d.attributes = []) (hs : scope.lookup [] = none)
    (hn : isPlainName name = true) (hw : WritesAttributes attributes tag) (last : TextEnd)
    (tail : List Char) :
    run (.body d ⟨.text last, place, content, frames, scope, budget⟩)
        ('<' :: (name ++ (tag ++ '>' :: tail))) =
      run (.body d ⟨.text .plain, [], .nil,
        ⟨name, ⟨[], name⟩, attributes, content, scope⟩ :: frames, scope, budget⟩) tail := by
  obtain ⟨c, rest, rfl, hc, -⟩ := isPlainName_eq_true_iff.1 hn
  rw [List.cons_append, run_tagStart hc, run_openingTag_rest hd hs hn hw]

theorem run_closedTag (hd : d.attributes = []) (hs : scope.lookup [] = none)
    (hn : isPlainName name = true) (hw : WritesAttributes attributes tag) (last : TextEnd)
    (tail : List Char) :
    ∃ place', run (.body d ⟨.text last, place, content, f :: frames, scope, budget⟩)
        ('<' :: (name ++ (tag ++ '/' :: '>' :: tail))) =
      run (.body d ⟨.text .plain, place', .element ⟨[], name⟩ attributes .nil content, f :: frames,
        scope, budget⟩) tail := by
  obtain ⟨c, rest, rfl, hc, -⟩ := isPlainName_eq_true_iff.1 hn
  refine ⟨'<' :: c :: (rest ++ (tag ++ '/' :: '>' :: tail)), ?_⟩
  rw [List.cons_append, run_tagStart hc, run_closedTag_rest hd hs hn hw, ofBody_cons]

end Tags

/-- The blanks and the end of an end tag. -/
theorem run_endGap {start gap : List Char} (hgap : IsGap gap) (tail : List Char) :
    run (.body d ⟨.endGap f.raw start, place, content, f :: frames, scope, budget⟩)
        (gap ++ '>' :: tail) =
      run (ofBody d ⟨.text .plain, [], .element f.name f.attributes content.reverse f.before,
        frames, f.scope, budget⟩) tail := by
  induction gap with
  | nil =>
      have closed : BodyState.step d [] d.expansion
          ⟨.endGap f.raw start, place, content, f :: frames, scope, budget⟩ '>' ('>' :: tail) =
          .ok ⟨.text .plain, [], .element f.name f.attributes content.reverse f.before, frames,
            f.scope, budget⟩ := by
        simp only [BodyState.step]
        rw [if_neg (by decide), if_pos (by decide)]
        exact if_pos rfl
      exact run_body closed
  | cons c gap ih =>
      obtain ⟨hc, hrest⟩ := Bool.and_eq_true_iff.1 hgap
      have blank : BodyState.step d [] d.expansion
          ⟨.endGap f.raw start, place, content, f :: frames, scope, budget⟩ c
            (c :: (gap ++ '>' :: tail)) =
          .ok ⟨.endGap f.raw start, place, content, f :: frames, scope, budget⟩ := if_pos hc
      rw [List.cons_append, run_body blank, ofBody_cons]
      exact ih hrest

/-- The end tag of the innermost element after its first character, with blanks inside it. -/
theorem run_endTag_gap (hn : isPlainName f.raw = true) {gap : List Char} (hgap : IsGap gap)
    (tail : List Char) :
    run (.body d ⟨.less, place, content, f :: frames, scope, budget⟩)
        ('/' :: (f.raw ++ (gap ++ '>' :: tail))) =
      run (ofBody d ⟨.text .plain, [], .element f.name f.attributes content.reverse f.before,
        frames, f.scope, budget⟩) tail := by
  obtain ⟨start, hname⟩ :=
    run_endTagName d place content f frames scope budget hn (gap ++ '>' :: tail)
  cases gap with
  | nil => exact run_endTag hn tail
  | cons c gap =>
      obtain ⟨hc, hrest⟩ := Bool.and_eq_true_iff.1 hgap
      have named : ¬(isNameChar c || c == ':') = true :=
        forall_isSpace (p := fun c => ¬(isNameChar c || c == ':') = true) (by decide) hc
      have begun : BodyState.step d [] d.expansion
          ⟨.endName f.raw.reverse start, place, content, f :: frames, scope, budget⟩ c
            (c :: (gap ++ '>' :: tail)) =
          .ok ⟨.endGap f.raw start, place, content, f :: frames, scope, budget⟩ := by
        simp only [BodyState.step]
        rw [if_neg named, if_pos hc, List.reverse_reverse]
      rw [hname, List.cons_append, run_body begun, ofBody_cons]
      exact run_endGap hrest tail

theorem reverseOnto_withChar_next (last : TextEnd) (c : Char) (next : Content) :
    (withChar last c next).reverseOnto content = next.reverseOnto (withChar last c content) := by
  rw [withChar, withChar]
  split <;> rfl

variable (place content f frames budget) in
/-- A content of the grammar inside an element. -/
theorem run_writes (hd : d.attributes = []) (hs : scope.lookup [] = none) {last : TextEnd}
    {written : Content} {text : List Char} (h : Writes last written text) (tail : List Char) :
    ∃ place' last', run (.body d ⟨.text last, place, content, f :: frames, scope, budget⟩)
        (text ++ tail) =
      run (.body d ⟨.text last', place', written.reverseOnto content, f :: frames, scope, budget⟩)
        tail := by
  -- The inside of an element goes by induction in a frame of its own, which its end tag closes.
  induction h generalizing place content f frames tail with
  | @nil last => exact ⟨place, last, rfl⟩
  | @raw last c next text hchar hless hamp hgt _ ih =>
      have read : BodyState.step d [] d.expansion
          ⟨.text last, place, content, f :: frames, scope, budget⟩ c (c :: (text ++ tail)) =
          .ok ⟨.text (last.after c), place, withChar last c content, f :: frames, scope,
            budget⟩ := by
        simp only [BodyState.step, beq_iff_eq, if_neg hless, if_neg hamp]
        exact textChar_of_isXmlChar hchar hgt _ _
      rw [List.cons_append, run_body read, ofBody_cons, reverseOnto_withChar_next]
      exact ih _ _ _ _ tail
  | reference href _ ih =>
      rw [List.append_assoc, run_reference href]
      exact ih _ _ _ _ tail
  | @cdata last next inside text hchars hend _ ih =>
      let after := inside ++ ']' :: ']' :: '>' :: (text ++ tail)
      have hplain : ¬[']', ']', '>'] <:+: pending .plain ++ inside := hend
      obtain ⟨_, hinside⟩ := run_cdata d ("<![CDATA[".toList ++ after) content f frames scope budget
        hchars hplain (text ++ tail)
      obtain ⟨place₂, last₂, hrun⟩ := ih _ _ f frames tail
      refine ⟨place₂, last₂, ?_⟩
      simp only [List.append_assoc, List.cons_append]
      rw [run_cdataOpening, Content.reverseOnto_append, ← hrun]
      exact hinside
  | aside haside _ ih =>
      rw [List.append_assoc, run_aside haside]
      exact ih _ _ _ _ tail
  | @empty last name tag text attributes next hn hw _ ih =>
      obtain ⟨place₁, htag⟩ := run_closedTag hd hs hn hw last (text ++ tail)
      obtain ⟨place₂, last₂, hrun⟩ := ih _ _ f frames tail
      refine ⟨place₂, last₂, ?_⟩
      simp only [emptyElement, List.append_assoc, List.cons_append, List.nil_append]
      exact htag.trans hrun
  | @element last name tag inside gap text attributes inner next hn hw _ hgap _ ihi ihn =>
      obtain ⟨place₁, last₁, hinner⟩ := ihi [] .nil
        ⟨name, ⟨[], name⟩, attributes, content, scope⟩ (f :: frames)
        ('<' :: '/' :: (name ++ (gap ++ '>' :: (text ++ tail))))
      obtain ⟨place₂, last₂, hrun⟩ := ihn _ _ f frames tail
      refine ⟨place₂, last₂, ?_⟩
      simp only [wholeElement, List.append_assoc, List.cons_append, List.nil_append]
      rw [run_openingTag hd hs hn hw, hinner, run_less]
      refine (run_endTag_gap hn hgap (text ++ tail)).trans ?_
      rw [ofBody_cons, Content.reverse_reverseOnto]
      exact hrun

/-- The root element after the first two characters, up to what follows it. -/
theorem run_writesElement (hd : d.attributes = []) {e : Element} {text : List Char}
    (h : WritesElement e text) :
    ∃ c rest, text = '<' :: c :: rest ∧ isNameStart c = true ∧ ∀ place tail,
      run (.body d ⟨.tag (.start c), place, .nil, [], .initial, maxExpansion⟩) (rest ++ tail) =
        run (.epilog e .start []) tail := by
  have hs : Scope.initial.lookup [] = none := rfl
  cases h with
  | @empty name tag attributes hn hw =>
      obtain ⟨c, name, rfl, hc, -⟩ := isPlainName_eq_true_iff.1 hn
      refine ⟨c, name ++ (tag ++ ['/', '>']), rfl, hc, fun place tail => ?_⟩
      simp only [List.append_assoc, List.cons_append, List.nil_append]
      exact run_closedTag_rest hd hs hn hw tail
  | @whole name tag inside gap attributes inner hn hw hinner hgap =>
      obtain ⟨c, name, rfl, hc, -⟩ := isPlainName_eq_true_iff.1 hn
      let rest := tag ++ '>' :: (inside ++ '<' :: '/' :: c :: (name ++ (gap ++ ['>'])))
      refine ⟨c, name ++ rest, rfl, hc, fun place tail => ?_⟩
      simp only [rest, List.append_assoc, List.cons_append, List.nil_append]
      let frame : Frame := ⟨c :: name, ⟨[], c :: name⟩, attributes, .nil, .initial⟩
      obtain ⟨_, _, hrun⟩ := run_writes [] .nil frame [] maxExpansion hd hs hinner
        ('<' :: '/' :: c :: (name ++ (gap ++ '>' :: tail)))
      rw [run_openingTag_rest hd hs hn hw, hrun, run_less]
      refine (run_endTag_gap hn hgap tail).trans ?_
      rw [Content.reverse_reverseOnto]
      rfl

end DocumentState
end Transcoding.Xml
