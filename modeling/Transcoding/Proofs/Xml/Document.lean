import Transcoding.Proofs.Xml.Declaration
import Transcoding.Proofs.Xml.Markup

/-!
Documents of the grammar are read as the trees that they write, from their bytes in UTF-8 on: a byte
order mark, a declaration, comments and instructions make no difference.
-/

namespace Transcoding.Xml

namespace DocumentState

/-- A state between two tokens outside the root, where blanks, comments and instructions may
stand. -/
inductive IsBetween : DocumentState → Prop
  | first (d : Doctype) : IsBetween (.prolog .first d .start [])
  | prolog (d : Doctype) : IsBetween (.prolog .doctypeOrRoot d .start [])
  | epilog (root : Element) : IsBetween (.epilog root .start [])

/-- The state after one of those: no declaration may follow any more. -/
def passed : DocumentState → DocumentState
  | .prolog _ d _ _ => .prolog .doctypeOrRoot d .start []
  | s => s

theorem IsBetween.passed {s : DocumentState} (h : s.IsBetween) : s.passed.IsBetween := by
  cases h with
  | first d | prolog d => exact .prolog d
  | epilog root => exact .epilog root

theorem passed_passed (s : DocumentState) : s.passed.passed = s.passed := by
  cases s <;> rfl

theorem IsBetween.accept {s : DocumentState} (h : s.IsBetween) (place : List Char) {t : Token}
    (ht : t = .space ∨ t = .aside .comment ∨ t = .aside .instruction) :
    s.accept place t = .ok s.passed := by
  obtain rfl | rfl | rfl := ht <;> cases h <;> rfl

/-- The rest of a comment, an instruction or a declaration outside the root element. -/
theorem IsBetween.run_scannedAside {s t : DocumentState} (hs : s.IsBetween) {place : List Char}
    {state : AsideState} {text : List Char} {a : Aside} (h : Scans AsideState.step state text a)
    (ha : s.accept place (.aside a) = .ok t) (tail : List Char) :
    run (s.within (.aside state) place) (text ++ tail) = run t tail := by
  induction h with
  | @done state c a hstep =>
      have ended : step (s.within (.aside state) place) c (c :: tail) = .ok t := by
        rw [← ha]
        cases hs <;> simp only [within, step, scan, TokenState.step, hstep, scanned] <;> rfl
      rw [List.singleton_append, run, ended]
      rfl
  | @more state state' c cs a hstep _ ih =>
      have inside : step (s.within (.aside state) place) c (c :: (cs ++ tail)) =
          .ok (s.within (.aside state') place) := by
        cases hs <;> simp only [within, step, scan, TokenState.step, hstep, scanned]
      rw [List.cons_append, run, inside]
      exact ih ha

theorem IsBetween.run_aside {s : DocumentState} (hs : s.IsBetween) {text : List Char}
    (h : WritesAside text) (tail : List Char) : run s (text ++ tail) = run s.passed tail := by
  obtain ⟨rest, rfl, hscan⟩ | ⟨rest, rfl, hscan⟩ := h.exists_scans
  · have opened : run s ('<' :: '!' :: '-' :: (rest ++ tail)) =
        run (s.within (.aside .dash) ('<' :: '!' :: '-' :: (rest ++ tail))) (rest ++ tail) := by
      cases hs <;> rfl
    exact opened.trans (hs.run_scannedAside hscan (hs.accept _ (.inr (.inl rfl))) tail)
  · have opened : run s ('<' :: '?' :: (rest ++ tail)) =
        run (s.within (.aside .question) ('<' :: '?' :: (rest ++ tail))) (rest ++ tail) := by
      cases hs <;> rfl
    exact opened.trans (hs.run_scannedAside hscan (hs.accept _ (.inr (.inr rfl))) tail)

theorem IsBetween.run_space {s : DocumentState} (hs : s.IsBetween) {c : Char}
    (hc : isSpace c = true) (tail : List Char) : run s (c :: tail) = run s.passed tail := by
  have blank : TokenState.begin c = .done .space := if_pos hc
  have read : step s c (c :: tail) = .ok s.passed := by
    rw [← hs.accept (c :: tail) (.inl rfl)]
    cases hs <;> simp only [step, scan, blank, scanned]
  rw [run, read]
  rfl

/-- What may stand around the root. -/
theorem IsBetween.run_misc {s : DocumentState} (hs : s.IsBetween) {text : List Char}
    (h : WritesMisc text) (tail : List Char) :
    ∃ t, (t = s ∨ t = s.passed) ∧ run s (text ++ tail) = run t tail := by
  induction h generalizing s with
  | nil => exact ⟨s, .inl rfl, rfl⟩
  | @space c text hc _ ih =>
      obtain ⟨t, ht, hrun⟩ := ih hs.passed
      rw [passed_passed, or_self] at ht
      exact ⟨t, .inr ht, (hs.run_space hc _).trans hrun⟩
  | @aside aside text haside _ ih =>
      obtain ⟨t, ht, hrun⟩ := ih hs.passed
      rw [passed_passed, or_self] at ht
      refine ⟨t, .inr ht, ?_⟩
      rw [List.append_assoc, hs.run_aside haside, hrun]

/-- The root element and what stands around it. -/
theorem run_rootAndMisc {expected : Expected}
    (he : expected = .first ∨ expected = .doctypeOrRoot) {d : Doctype} (hd : d.attributes = [])
    {root : Element} {before text after : List Char} (hbefore : WritesMisc before)
    (h : WritesElement root text) (hafter : WritesMisc after) :
    run (.prolog expected d .start []) (before ++ (text ++ after)) =
      .ok (.epilog root .start []) := by
  have between : IsBetween (.prolog expected d .start []) := by
    obtain rfl | rfl := he
    · exact .first d
    · exact .prolog d
  obtain ⟨s, hs, hrun⟩ := between.run_misc hbefore (text ++ after)
  obtain ⟨expected', he', rfl⟩ : ∃ expected', (expected' = .first ∨ expected' = .doctypeOrRoot) ∧
      s = .prolog expected' d .start [] := by
    obtain rfl | rfl := hs
    · exact ⟨expected, he, rfl⟩
    · exact ⟨_, .inr rfl, rfl⟩
  obtain ⟨c, rest, rfl, hc, hroot⟩ := run_writesElement hd h
  obtain ⟨t, ht, hend⟩ := (IsBetween.epilog root).run_misc hafter []
  have ht : t = .epilog root .start [] := by
    obtain rfl | rfl := ht <;> rfl
  rw [List.append_nil, ht] at hend
  rw [hrun]
  refine (run_rootStart he' d hc (rest ++ after)).trans ?_
  rw [hroot, hend]
  rfl

end DocumentState

def Aside.declared? : Aside → Option (List Char)
  | .declaration body => some body
  | _ => none

theorem go_of_scans {state : AsideState} {text : List Char} {a : Aside}
    (h : Scans AsideState.step state text a) (tail : List Char) :
    declarationBody?.go state (text ++ tail) = a.declared? := by
  induction h with
  | @done state c a hstep =>
      rw [List.singleton_append, declarationBody?.go, hstep]
      cases a <;> rfl
  | @more state state' c cs a hstep _ ih =>
      rw [List.cons_append, declarationBody?.go, hstep]
      exact ih

/-- Whether the text of a document, without a byte order mark, is read as a root element from its
characters on, and its beginning and what it declares speak for UTF-8. -/
structure ReadsAs (text : List Char) (root : Element) : Prop where
  run_eq : DocumentState.start.run text = .ok (.epilog root .start [])
  encoding : ∀ name before, declaredEncoding? text = some (name, before) →
    name.map Char.toUpper = "UTF-8".toList
  starts : ∃ c c' rest, text = c :: c' :: rest ∧ (c = '<' ∨ isSpace c = true) ∧ c' ≠ '\x00'

section Bare

variable {root : Element} {before text after : List Char}

theorem declarationBody?_of_ne {c d : Char} (h : c ≠ '<' ∨ d ≠ '?') (rest : List Char) :
    declarationBody? (c :: d :: rest) = none := by
  unfold declarationBody?
  split
  · next heq =>
      cases heq
      exact absurd rfl (h.resolve_left fun hc => hc rfl)
  · rfl

variable (after) in
/-- What stands around the root does not begin a declaration. -/
theorem WritesMisc.begins (hbefore : WritesMisc before) (h : WritesElement root text) :
    declarationBody? (before ++ (text ++ after)) = none ∧
      ∃ c c' rest, before ++ (text ++ after) = c :: c' :: rest ∧
        (c = '<' ∨ isSpace c = true) ∧ c' ≠ '\x00' := by
  obtain ⟨c, rest, rfl, hc, -⟩ := DocumentState.run_writesElement (d := {}) rfl h
  have hne {x : Char} := ne_of_isNameStart (x := x) hc
  induction hbefore with
  | nil =>
      exact ⟨declarationBody?_of_ne (.inr (hne rfl)) _, _, _, _, rfl, .inl rfl, hne rfl⟩
  | @space s before hs _ ih =>
      obtain ⟨-, x, x', rest', hrest, hx, -⟩ := ih
      have hless : s ≠ '<' := by
        rintro rfl
        cases hs
      have hnull : x ≠ '\x00' := by
        rintro rfl
        exact hx.elim nofun nofun
      rw [List.cons_append, hrest]
      exact ⟨declarationBody?_of_ne (.inl hless) _, _, _, _, rfl, .inr hs, hnull⟩
  | @aside aside before haside _ ih =>
      obtain ⟨rest', rfl, -⟩ | ⟨rest', rfl, hscan⟩ := haside.exists_scans
      · exact ⟨rfl, _, _, _, rfl, .inl rfl, by decide⟩
      · refine ⟨?_, _, _, _, rfl, .inl rfl, by decide⟩
        rw [List.append_assoc]
        exact go_of_scans hscan _

theorem readsAs_bare (hbefore : WritesMisc before) (h : WritesElement root text)
    (hafter : WritesMisc after) : ReadsAs (before ++ (text ++ after)) root := by
  obtain ⟨hnone, hstarts⟩ := hbefore.begins after h
  refine ⟨DocumentState.run_rootAndMisc (.inl rfl) rfl hbefore h hafter, ?_, hstarts⟩
  intro name before hdeclared
  rw [declaredEncoding?, hnone] at hdeclared
  cases hdeclared

end Bare

theorem readsAs_declared {root : Element} {declaration before text after : List Char}
    (hdeclaration : WritesDeclaration declaration) (hbefore : WritesMisc before)
    (h : WritesElement root text) (hafter : WritesMisc after) :
    ReadsAs ("<?xml".toList ++ (declaration ++ '?' :: '>' :: (before ++ (text ++ after))))
      root := by
  obtain ⟨d, hread, hname⟩ := hdeclaration.exists_read
  let rest := before ++ (text ++ after)
  let token := "xml".toList ++ (declaration ++ ['?', '>'])
  have split : "<?xml".toList ++ (declaration ++ '?' :: '>' :: rest) =
      '<' :: '?' :: (token ++ rest) := by
    simp [token]
  have accepted (place : List Char) :
      DocumentState.start.accept place (.aside (.declaration declaration)) =
        .ok (.prolog .doctypeOrRoot { standalone := d.standalone } .start []) := by
    simp only [DocumentState.start, DocumentState.accept, Occurrence.advance,
      Occurrence.prologDeclaration, hread]
    rfl
  have declared : DocumentState.start.run ('<' :: '?' :: (token ++ rest)) =
      DocumentState.run (.prolog .doctypeOrRoot { standalone := d.standalone } .start []) rest := by
    have opened : DocumentState.start.run ('<' :: '?' :: (token ++ rest)) =
        (DocumentState.start.within (.aside .question) ('<' :: '?' :: (token ++ rest))).run
          (token ++ rest) := rfl
    rw [opened]
    exact (DocumentState.IsBetween.first {}).run_scannedAside hdeclaration.scans (accepted _) rest
  have body : declarationBody? ('<' :: '?' :: (token ++ rest)) = some declaration :=
    go_of_scans hdeclaration.scans rest
  rw [split]
  refine ⟨?_, ?_, '<', '?', token ++ rest, rfl, .inl rfl, by decide⟩
  · rw [declared]
    exact DocumentState.run_rootAndMisc (.inr rfl) rfl hbefore h hafter
  · intro name before hdeclared
    apply hname name
    rw [declaredEncoding?, body] at hdeclared
    simp only [hread, Except.toOption, Option.bind_eq_bind, Option.bind_some,
      Option.bind_eq_some_iff] at hdeclared
    obtain ⟨_, hencoding, hdeclared⟩ := hdeclared
    cases hdeclared
    exact hencoding

/-- The first byte of a character is zero for one character only. -/
theorem exists_utf8Bytes_eq_cons {c : Char} (hc : c ≠ '\x00') :
    ∃ b bytes, Text.utf8Bytes c = b :: bytes ∧ b ≠ 0 := by
  have decoded := decodeUtf8_utf8Bytes c []
  rw [List.append_nil] at decoded
  cases hbytes : Text.utf8Bytes c with
  | nil =>
      rw [hbytes] at decoded
      cases decoded
  | cons b bytes =>
      refine ⟨b, bytes, rfl, ?_⟩
      rintro rfl
      rw [hbytes, decodeUtf8.eq_def] at decoded
      have hzero : '\x00' = c := (List.cons.inj (congrArg Source.text decoded)).1
      exact hc hzero.symm

theorem detect?_of_starts {c c' : Char} (hc : c = '<' ∨ isSpace c = true) (hc' : c' ≠ '\x00')
    (rest : List Char) : Encoding.detect? (Text.toUtf8 (c :: c' :: rest)) = some .utf8 := by
  obtain ⟨b, bytes, hbytes, hb⟩ := exists_utf8Bytes_eq_cons hc'
  obtain ⟨a, ha, hne, hlow⟩ : ∃ a, Text.utf8Bytes c = [a] ∧ a ≠ 0 ∧ a < 0x80 := by
    obtain rfl | hc := hc
    · exact ⟨_, rfl, by decide, by decide⟩
    · exact forall_isSpace (p := fun c => ∃ a, Text.utf8Bytes c = [a] ∧ a ≠ 0 ∧ a < 0x80)
        ⟨⟨_, rfl, by decide, by decide⟩, ⟨_, rfl, by decide, by decide⟩,
          ⟨_, rfl, by decide, by decide⟩, ⟨_, rfl, by decide, by decide⟩⟩ hc
  have split : Text.toUtf8 (c :: c' :: rest) = a :: b :: (bytes ++ Text.toUtf8 rest) := by
    rw [Text.toUtf8, List.flatMap_cons, List.flatMap_cons, ha, hbytes]
    rfl
  rw [split, Encoding.detect?.eq_def]
  split <;> simp_all

/-- Bytes that speak for UTF-8 are the text that they encode. -/
theorem Source.ofBytes_toUtf8 {text : List Char}
    (hdetect : Encoding.detect? (Text.toUtf8 text) = some .utf8)
    (hdeclared : ∀ name before, declaredEncoding? (Source.ofText text).body = some (name, before) →
      name.map Char.toUpper = "UTF-8".toList) :
    Source.ofBytes (Text.toUtf8 text) = .ok (Source.ofText text) := by
  have decoded : (Encoding.utf8.decode (Text.toUtf8 text)).marked = Source.ofText text := by
    rw [Encoding.decode, decodeUtf8_toUtf8, Source.ofText]
  rw [Source.ofBytes, hdetect]
  simp only [decoded]
  split
  · rfl
  · next name before heq =>
      have hname : Encoding.utf8.declared name = .ok .utf8 := by
        rw [Encoding.declared, hdeclared name before heq]
        rfl
      rw [hname]
      exact congrArg Except.ok decoded

theorem ReadsAs.ofSource_eq {text : List Char} {root : Element} (h : ReadsAs text root) {s : Source}
    (hbody : s.body = text) (hending : s.ending = .whole) : Element.ofSource s = .ok root := by
  rw [Element.ofSource, Source.root, hbody, h.run_eq, hending]
  rfl

/-- A byte order mark in front makes no difference. -/
theorem ReadsAs.ofBytes_eq {text : List Char} {root : Element} (h : ReadsAs text root) :
    Element.ofBytes (Text.toUtf8 text) = .ok root ∧
      Element.ofBytes (Text.toUtf8 ('\ufeff' :: text)) = .ok root := by
  obtain ⟨c, c', rest, rfl, hc, hc'⟩ := h.starts
  have unmarked : Source.ofText (c :: c' :: rest) = { text := c :: c' :: rest } := by
    have hmark : c ≠ '\ufeff' := by
      rintro rfl
      exact hc.elim nofun nofun
    simp [Source.ofText, Source.marked, hmark]
  have body : (Source.ofText (c :: c' :: rest)).body = c :: c' :: rest := by
    rw [unmarked]
    rfl
  have markedBody : (Source.ofText ('\ufeff' :: c :: c' :: rest)).body = c :: c' :: rest := rfl
  have markedDetect : Encoding.detect? (Text.toUtf8 ('\ufeff' :: c :: c' :: rest)) = some .utf8 :=
    rfl
  constructor
  · rw [Element.ofBytes, Source.ofBytes_toUtf8 (detect?_of_starts hc hc' rest)
      (by rw [body]; exact h.encoding)]
    exact h.ofSource_eq body (by rw [unmarked])
  · rw [Element.ofBytes, Source.ofBytes_toUtf8 markedDetect
      (by rw [markedBody]; exact h.encoding)]
    exact h.ofSource_eq markedBody rfl

/-- Documents are read as the trees that they write. -/
theorem WritesDocument.ofBytes_eq {root : Element} {text : List Char}
    (h : WritesDocument root text) : Element.ofBytes (Text.toUtf8 text) = .ok root := by
  cases h with
  | bare hbefore hroot hafter => exact (readsAs_bare hbefore hroot hafter).ofBytes_eq.1
  | declared hdeclaration hbefore hroot hafter =>
      exact (readsAs_declared hdeclaration hbefore hroot hafter).ofBytes_eq.1
  | marked hmark h =>
      cases h with
      | bare hbefore hroot hafter => exact (readsAs_bare hbefore hroot hafter).ofBytes_eq.2
      | declared hdeclaration hbefore hroot hafter =>
          exact (readsAs_declared hdeclaration hbefore hroot hafter).ofBytes_eq.2
      | marked => exact absurd rfl hmark

end Transcoding.Xml
