import Transcoding.Proofs.Xml.Body
import Transcoding.Proofs.Xml.Encoding

/-!
Written documents are read back. An outline whose tags are names and whose texts hold characters of
XML only is read as the tree that it stands for, but for the line ends of its texts; with any other
character in a text there is no tree at all. Both hold of the bytes of the document.
-/

namespace Transcoding.Xml

namespace Outline

/-- Whether all tags are plain names. -/
def wellNamed : Outline → Bool
  | .nil => true
  | .leaf tag _ next => isPlainName tag && next.wellNamed
  | .branch tag inner next => isPlainName tag && inner.wellNamed && next.wellNamed

/-- Whether all texts may stand in a document. -/
def legal : Outline → Bool
  | .nil => true
  | .leaf _ text next => text.all isXmlChar && next.legal
  | .branch _ inner next => inner.legal && next.legal

/-- The outline with other texts. -/
def mapTexts (f : List Char → List Char) : Outline → Outline
  | .nil => .nil
  | .leaf tag text next => .leaf tag (f text) (next.mapTexts f)
  | .branch tag inner next => .branch tag (inner.mapTexts f) (next.mapTexts f)

theorem writeBefore_branch {inner : Outline} (h : inner ≠ .nil) (tag tail : List Char)
    (next : Outline) :
    (branch tag inner next).writeBefore tail =
      startTag tag (inner.writeBefore (endTag tag (next.writeBefore tail))) := by
  cases inner with
  | nil => contradiction
  | leaf _ _ _ | branch _ _ _ => rfl

end Outline

namespace DocumentState

variable {d : Doctype} {place : List Char} {content : Content} {f : Frame} {frames : List Frame}
  {scope : Scope} {budget : Nat}

theorem reverseOnto_withChar (last : TextEnd) (c : Char) (rest : List Char) :
    (Content.ofText (lineEnds (c == '\r') rest)).reverseOnto (withChar last c content) =
      (Content.ofText (lineEnds (last = .carriageReturn) (c :: rest))).reverseOnto content := by
  by_cases h : (c == '\n' && decide (last = .carriageReturn)) = true
  · have hc : c = '\n' := beq_iff_eq.1 (Bool.and_eq_true_iff.1 h).1
    subst hc
    rw [withChar, lineEnds, if_pos h, if_pos h]
    rfl
  · rw [withChar, lineEnds, if_neg h, if_neg h]
    rfl

theorem run_text {text : List Char} (h : text.all isXmlChar = true) (last : TextEnd)
    (tail : List Char) :
    run (.body d ⟨.text last, place, content, f :: frames, scope, budget⟩)
        (text.flatMap Outline.escape ++ '<' :: tail) =
      run (.body d ⟨.less, '<' :: tail,
        (Content.ofText (lineEnds (last = .carriageReturn) text)).reverseOnto content, f :: frames,
        scope, budget⟩) tail := by
  induction text generalizing last place content with
  | nil => exact run_less tail
  | cons c text ih =>
      obtain ⟨hc, htext⟩ := Bool.and_eq_true_iff.1 h
      obtain ⟨_, last', hlast, hrun⟩ := run_escape d place content f frames scope budget hc last
        (text.flatMap Outline.escape ++ '<' :: tail)
      have hreturn : decide (last' = .carriageReturn) = (c == '\r') := by
        rw [Bool.eq_iff_iff, decide_eq_true_iff, beq_iff_eq, hlast]
      rw [List.flatMap_cons, List.append_assoc, hrun, ih htext, hreturn, reverseOnto_withChar]

theorem run_illegal_text {text : List Char} (h : text.all isXmlChar = false) (last : TextEnd)
    (tail : List Char) :
    ∃ fault, run (.body d ⟨.text last, place, content, f :: frames, scope, budget⟩)
      (text.flatMap Outline.escape ++ tail) = .error fault := by
  induction text generalizing last place content with
  | nil => simp at h
  | cons c text ih =>
      cases hc : isXmlChar c with
      | true =>
          obtain ⟨_, last', _, hrun⟩ := run_escape d place content f frames scope budget hc last
            (text.flatMap Outline.escape ++ tail)
          rw [List.flatMap_cons, List.append_assoc, hrun]
          exact ih (by simpa [hc] using h) last'
      | false =>
          rw [List.flatMap_cons, escape_of_not_isXmlChar hc]
          exact ⟨_, run_illegal hc last _⟩

/-- The elements of an outline, in front of a tag. -/
theorem run_writeBefore (hd : d.attributes = []) (hs : scope.lookup [] = none) (o : Outline)
    (hn : o.wellNamed = true) (hl : o.legal = true) (last : TextEnd) (tail : List Char) :
    run (.body d ⟨.text last, place, content, f :: frames, scope, budget⟩)
        (o.writeBefore ('<' :: tail)) =
      run (.body d ⟨.less, '<' :: tail,
        (o.mapTexts (lineEnds false)).content.reverseOnto content, f :: frames, scope, budget⟩)
        tail := by
  -- A branch opens a frame, which its end tag closes again: the inside goes by induction for the
  -- new frame, and what comes next for the old ones with one element more in their content.
  induction o generalizing last place content f frames tail with
  | nil => exact run_less tail
  | leaf tag text next ih =>
      simp only [Outline.wellNamed, Outline.legal, Bool.and_eq_true] at hn hl
      rw [Outline.writeBefore]
      split
      · next hempty =>
          rw [run_emptyTag hd hs hn.1, ih hn.2 hl.2, List.isEmpty_iff.1 hempty]
          rfl
      · rw [run_startTag hd hs hn.1, Outline.endTag, run_text hl.1, run_endTag hn.1, ofBody_cons,
          ih hn.2 hl.2, Content.reverse_reverseOnto]
        rfl
  | branch tag inner next ihi ihn =>
      simp only [Outline.wellNamed, Outline.legal, Bool.and_eq_true] at hn hl
      by_cases hi : inner = .nil
      · subst hi
        rw [Outline.writeBefore, run_emptyTag hd hs hn.1.1, ihn hn.2 hl.2]
        rfl
      · rw [Outline.writeBefore_branch hi, run_startTag hd hs hn.1.1, Outline.endTag,
          ihi hn.1.2 hl.1, run_endTag hn.1.1, ofBody_cons, ihn hn.2 hl.2,
          Content.reverse_reverseOnto]
        rfl

theorem run_illegal_outline (hd : d.attributes = []) (hs : scope.lookup [] = none) (o : Outline)
    (hn : o.wellNamed = true) (hl : o.legal = false) (last : TextEnd) (tail : List Char) :
    ∃ fault, run (.body d ⟨.text last, place, content, f :: frames, scope, budget⟩)
      (o.writeBefore ('<' :: tail)) = .error fault := by
  -- The first text that is not legal stands after legal ones, which are read as above.
  induction o generalizing last place content f frames tail with
  | nil => simp [Outline.legal] at hl
  | leaf tag text next ih =>
      simp only [Outline.wellNamed, Bool.and_eq_true] at hn
      rw [Outline.legal, Bool.and_eq_false_iff] at hl
      rw [Outline.writeBefore]
      split
      · next hempty =>
          rw [run_emptyTag hd hs hn.1]
          apply ih hn.2
          simpa [List.isEmpty_iff.1 hempty] using hl
      · rw [run_startTag hd hs hn.1]
        cases ht : text.all isXmlChar with
        | false => exact run_illegal_text ht _ _
        | true =>
            rw [Outline.endTag, run_text ht, run_endTag hn.1, ofBody_cons]
            exact ih hn.2 (by simpa [ht] using hl) _ _
  | branch tag inner next ihi ihn =>
      simp only [Outline.wellNamed, Bool.and_eq_true] at hn
      rw [Outline.legal, Bool.and_eq_false_iff] at hl
      by_cases hi : inner = .nil
      · subst hi
        rw [Outline.writeBefore, run_emptyTag hd hs hn.1.1]
        exact ihn hn.2 (by simpa [Outline.legal] using hl) _ _
      · rw [Outline.writeBefore_branch hi, run_startTag hd hs hn.1.1]
        cases hil : inner.legal with
        | false => exact ihi hn.1.2 hil _ _
        | true =>
            rw [Outline.endTag, run_writeBefore hd hs inner hn.1.2 hil, run_endTag hn.1.1,
              ofBody_cons]
            exact ihn hn.2 (by simpa [hil] using hl) _ _

/-- The declaration and the first two characters of the root element. -/
theorem run_declaration {c : Char} (hc : isNameStart c = true) (tail : List Char) :
    start.run (Outline.declaration ++ '<' :: c :: tail) =
      run (.body {} ⟨.tag (.start c), '<' :: c :: tail, .nil, [], .initial, maxExpansion⟩)
        tail := by
  have declared : start.run (Outline.declaration ++ '<' :: c :: tail) =
      run (.prolog .doctypeOrRoot {} .start []) ('<' :: c :: tail) := rfl
  rw [declared, run_rootStart (.inr rfl) {} hc]

/-- The document of an empty root element. -/
theorem run_empty_document {tag : List Char} (hn : isPlainName tag = true) :
    start.run (Outline.branch tag .nil .nil).document =
      .ok (.epilog ⟨⟨[], tag⟩, [], .nil⟩ .start []) := by
  obtain ⟨c, name, rfl, hc, -⟩ := isPlainName_eq_true_iff.1 hn
  rw [Outline.document, Outline.writeBefore, Outline.emptyTag, List.cons_append,
    run_declaration hc, run_emptyTag_rest rfl rfl hn]
  rfl

/-- The document of a root element with elements inside, up to its content. -/
theorem run_document {tag : List Char} (hn : isPlainName tag = true) {inner : Outline}
    (hi : inner ≠ .nil) :
    start.run (Outline.branch tag inner .nil).document =
      run (.body {} ⟨.text .plain, [], .nil, [⟨tag, ⟨[], tag⟩, [], .nil, .initial⟩], .initial,
        maxExpansion⟩) (inner.writeBefore (Outline.endTag tag [])) := by
  obtain ⟨c, name, rfl, hc, -⟩ := isPlainName_eq_true_iff.1 hn
  rw [Outline.document, Outline.writeBefore_branch hi, Outline.startTag, List.cons_append,
    run_declaration hc, run_startTag_rest rfl rfl hn]
  rfl

end DocumentState

namespace Outline

open DocumentState

/-- A document with legal texts is read as its tree, with the line ends of texts as they are
read. -/
theorem root_document {tag : List Char} (ht : isPlainName tag = true) {inner : Outline}
    (hn : inner.wellNamed = true) (hl : inner.legal = true) :
    Source.root { text := (branch tag inner .nil).document } =
      .ok ⟨⟨[], tag⟩, [], (inner.mapTexts (lineEnds false)).content⟩ := by
  have finished : start.run (branch tag inner .nil).document =
      .ok (.epilog ⟨⟨[], tag⟩, [], (inner.mapTexts (lineEnds false)).content⟩ .start []) := by
    by_cases hi : inner = .nil
    · rw [hi, run_empty_document ht]
      rfl
    · rw [run_document ht hi, endTag, run_writeBefore rfl rfl inner hn hl, run_endTag ht,
        Content.reverse_reverseOnto]
      rfl
  rw [Source.root, Source.body, List.drop_zero, finished]
  rfl

theorem root_illegal_document {tag : List Char} (ht : isPlainName tag = true) {inner : Outline}
    (hn : inner.wellNamed = true) (hl : inner.legal = false) :
    ∃ fault, Source.root { text := (branch tag inner .nil).document } = .error fault := by
  have hi : inner ≠ .nil := by
    rintro rfl
    exact Bool.noConfusion hl
  obtain ⟨fault, hfault⟩ : ∃ fault, start.run (branch tag inner .nil).document = .error fault := by
    rw [run_document ht hi]
    exact run_illegal_outline rfl rfl inner hn hl .plain _
  refine ⟨fault, ?_⟩
  rw [Source.root, Source.body, List.drop_zero, hfault]
  rfl

/-- What the bytes of a document are read as. -/
theorem ofBytes_document {tag : List Char} (ht : isPlainName tag = true) {inner : Outline}
    (hn : inner.wellNamed = true) (hl : inner.legal = true) :
    Element.ofBytes (Text.toUtf8 (branch tag inner .nil).document) =
      .ok ⟨⟨[], tag⟩, [], (inner.mapTexts (lineEnds false)).content⟩ := by
  rw [Element.ofBytes, document, Source.ofBytes_declaration, ← document]
  simp only [Element.ofSource, root_document ht hn hl]
  rfl

theorem ofBytes_illegal_document {tag : List Char} (ht : isPlainName tag = true) {inner : Outline}
    (hn : inner.wellNamed = true) (hl : inner.legal = false) :
    ∃ fault, Element.ofBytes (Text.toUtf8 (branch tag inner .nil).document) = .error fault := by
  obtain ⟨fault, hfault⟩ := root_illegal_document ht hn hl
  refine ⟨.malformed fault.kind (fault.position (branch tag inner .nil).document), ?_⟩
  rw [Element.ofBytes, document, Source.ofBytes_declaration, ← document]
  simp only [Element.ofSource, hfault]
  rfl

end Outline
end Transcoding.Xml
