import Transcoding.Proofs.Xml.Grammar

/-!
Tokens that are read character by character wherever they stand: comments, instructions and
references. What is read of each text of the grammar is the token that it writes.
-/

namespace Transcoding.Xml

/-- What is read of a text from some state on, if it is one whole token. -/
inductive Scans {σ α : Type} (step : Char → σ → Progress σ α) : σ → List Char → α → Prop
  | done {s : σ} {c : Char} {a : α} : step c s = .done a → Scans step s [c] a
  | more {s t : σ} {c : Char} {cs : List Char} {a : α} : step c s = .more t → Scans step t cs a →
      Scans step s (c :: cs) a

theorem not_infix_of_cons {α : Type} {pattern cs : List α} {c : α}
    (h : ¬pattern <:+: c :: cs) : ¬pattern <:+: cs :=
  fun hin => h (List.infix_cons hin)

/-- A comment from its text on. After a dash there has to be something else. -/
private theorem scans_commentText {text : List Char} (hchars : text.all isXmlChar = true) :
    (¬['-', '-'] <:+: text ++ ['-'] →
      Scans AsideState.step .comment (text ++ ['-', '-', '>']) .comment) ∧
    (¬['-', '-'] <:+: '-' :: (text ++ ['-']) →
      Scans AsideState.step .commentDash (text ++ ['-', '-', '>']) .comment) := by
  induction text with
  | nil =>
      refine ⟨fun _ => .more rfl (.more rfl (.done rfl)), fun h => absurd ?_ h⟩
      exact List.infix_refl _
  | cons c text ih =>
      obtain ⟨hc, hrest⟩ := Bool.and_eq_true_iff.1 hchars
      obtain ⟨plain, dash⟩ := ih hrest
      have other (hdash : c ≠ '-') (s : AsideState) (hs : s = .comment ∨ s = .commentDash) :
          s.step c = .more .comment := by
        obtain rfl | rfl := hs <;> simp [AsideState.step, hdash, hc]
      constructor
      · intro h
        by_cases hdash : c = '-'
        · subst hdash
          exact .more rfl (dash h)
        · exact .more (other hdash _ (.inl rfl)) (plain (not_infix_of_cons h))
      · intro h
        have hdash : c ≠ '-' := by
          rintro rfl
          exact h (List.infix_append [] ['-', '-'] (text ++ ['-']))
        exact .more (other hdash _ (.inr rfl)) (plain (not_infix_of_cons (not_infix_of_cons h)))

theorem scans_comment {text : List Char} (hchars : text.all isXmlChar = true)
    (hdashes : ¬['-', '-'] <:+: text ++ ['-']) :
    Scans AsideState.step .dash ('-' :: (text ++ ['-', '-', '>'])) .comment :=
  .more rfl ((scans_commentText hchars).1 hdashes)

/-- An instruction from its text on. After a question mark there has to be something else than the
end; the text is kept if the instruction is a declaration. -/
private theorem scans_instructionText (declares : Bool) {text : List Char}
    (hchars : text.all isXmlChar = true) (done : List Char) :
    (¬['?', '>'] <:+: text → Scans AsideState.step (.body declares done) (text ++ ['?', '>'])
      (Aside.ofInstruction declares (done.reverse ++ text))) ∧
    (¬['?', '>'] <:+: '?' :: text → Scans AsideState.step (.bodyQuestion declares done)
      (text ++ ['?', '>']) (Aside.ofInstruction declares (done.reverse ++ '?' :: text))) := by
  -- Only what is kept of a declaration matters, so the texts of others may be left out.
  have kept (c : Char) (done rest : List Char) :
      Aside.ofInstruction declares ((if declares then c :: done else done).reverse ++ rest) =
        Aside.ofInstruction declares (done.reverse ++ c :: rest) := by
    cases declares with
    | false => rfl
    | true => rw [if_pos rfl, List.reverse_cons, List.append_assoc]; rfl
  induction text generalizing done with
  | nil =>
      constructor
      · intro _
        rw [List.append_nil]
        exact .more rfl (.done rfl)
      · intro _
        have question := kept '?' done []
        rw [List.append_nil] at question
        rw [← question]
        exact .more rfl (.done rfl)
  | cons c text ih =>
      obtain ⟨hc, hrest⟩ := Bool.and_eq_true_iff.1 hchars
      have ordinary (hquestion : c ≠ '?') (done : List Char) :
          AsideState.inBody declares done c =
            .more (.body declares (if declares then c :: done else done)) := by
        simp [AsideState.inBody, hquestion, hc]
      constructor
      · intro h
        by_cases hquestion : c = '?'
        · subst hquestion
          exact .more rfl ((ih hrest done).2 h)
        · rw [← kept c done text]
          exact .more (ordinary hquestion done) ((ih hrest _).1 (not_infix_of_cons h))
      · intro h
        have hclose : c ≠ '>' := by
          rintro rfl
          exact h (List.infix_append [] ['?', '>'] text)
        have inside : AsideState.step c (.bodyQuestion declares done) =
            AsideState.inBody declares (if declares then '?' :: done else done) c := by
          simp [AsideState.step, hclose]
        rw [← kept '?' done (c :: text)]
        by_cases hquestion : c = '?'
        · subst hquestion
          exact .more inside ((ih hrest _).2 (not_infix_of_cons h))
        · rw [← kept c _ text]
          exact .more (inside.trans (ordinary hquestion _))
            ((ih hrest _).1 (not_infix_of_cons (not_infix_of_cons h)))

private theorem scans_target {target cs : List Char} {a : Aside}
    (h : target.all isNameChar = true) (done : List Char)
    (hrest : Scans AsideState.step (.target (target.reverse ++ done)) cs a) :
    Scans AsideState.step (.target done) (target ++ cs) a := by
  induction target generalizing done with
  | nil => exact hrest
  | cons c target ih =>
      obtain ⟨hc, htarget⟩ := Bool.and_eq_true_iff.1 h
      have named : AsideState.step c (.target done) = .more (.target (c :: done)) := by
        simp [AsideState.step, hc]
      refine .more named (ih htarget (c :: done) ?_)
      rwa [List.reverse_cons, List.append_assoc] at hrest

theorem isNameChar_of_isSpace {c : Char} : isSpace c = true → isNameChar c = false :=
  forall_isSpace (p := (isNameChar · = false)) ⟨rfl, rfl, rfl, rfl⟩

/-- An instruction, or a declaration if its target is that of one. -/
theorem scans_instruction {target text : List Char} (htarget : isPlainName target = true)
    {declares : Bool} (hdeclares : declares? target = some declares)
    (hspace : ∀ c ∈ text.head?, isSpace c = true) (hchars : text.all isXmlChar = true)
    (hend : ¬['?', '>'] <:+: text) :
    Scans AsideState.step .question (target ++ (text ++ ['?', '>']))
      (Aside.ofInstruction declares text) := by
  obtain ⟨c, name, rfl, hc, hname⟩ := DocumentState.isPlainName_eq_true_iff.1 htarget
  have begun : AsideState.step c .question = .more (.target [c]) := by
    simp [AsideState.step, hc]
  refine .more begun (scans_target hname [c] ?_)
  have whole : (name.reverse ++ [c]).reverse = c :: name := by simp
  cases text with
  | nil =>
      have ended : AsideState.step '?' (.target (name.reverse ++ [c])) =
          .more (.targetQuestion declares) := by
        rw [AsideState.step, if_neg (by decide), whole, hdeclares]
        rfl
      exact .more ended (.done rfl)
  | cons s text =>
      have hs : isSpace s = true := hspace s rfl
      obtain ⟨_, hrest⟩ := Bool.and_eq_true_iff.1 hchars
      have ended : AsideState.step s (.target (name.reverse ++ [c])) =
          .more (.body declares (if declares then [s] else [])) := by
        rw [AsideState.step, isNameChar_of_isSpace hs, if_neg Bool.false_ne_true, whole, hdeclares]
        exact if_pos hs
      have inside := (scans_instructionText declares hrest
        (if declares then [s] else [])).1 (not_infix_of_cons hend)
      have kept : Aside.ofInstruction declares ((if declares then [s] else []).reverse ++ text) =
          Aside.ofInstruction declares (s :: text) := by
        cases declares <;> rfl
      rw [kept] at inside
      exact .more ended inside

/-- What a comment or an instruction is read as after its first two characters. -/
theorem WritesAside.exists_scans {text : List Char} (h : WritesAside text) :
    (∃ rest, text = '<' :: '!' :: '-' :: rest ∧ Scans AsideState.step .dash rest .comment) ∨
      ∃ rest, text = '<' :: '?' :: rest ∧ Scans AsideState.step .question rest .instruction := by
  cases h with
  | comment hchars hdashes => exact .inl ⟨_, rfl, scans_comment hchars hdashes⟩
  | @instruction target _ htarget hxml hspace hchars hend =>
      have named : declares? target = some false := by
        rw [declares?, if_neg, if_neg hxml]
        rintro rfl
        exact hxml rfl
      exact .inr ⟨_, rfl, scans_instruction htarget named hspace hchars hend⟩

/-- What a reference to a character is read as: its number, or a name that every document knows. -/
def Reference.StandsFor (r : Reference) (c : Char) : Prop :=
  (∃ n, r = .number n ∧ charOf? n = some c) ∨ ∃ name, r = .entity name ∧ predefined? name = some c

private theorem scans_entityRest {rest : List Char} (h : rest.all isNameChar = true)
    (done : List Char) : Scans ReferenceState.step (.name done) (rest ++ [';'])
      (.entity (done.reverse ++ rest)) := by
  induction rest generalizing done with
  | nil =>
      rw [List.append_nil]
      exact .done rfl
  | cons c rest ih =>
      obtain ⟨hc, hrest⟩ := Bool.and_eq_true_iff.1 h
      have named : ReferenceState.step c (.name done) = .more (.name (c :: done)) := by
        have hsemicolon : c ≠ ';' := by
          rintro rfl
          cases hc
        simp [ReferenceState.step, hsemicolon, hc]
      have whole := ih hrest (c :: done)
      rw [List.reverse_cons, List.append_assoc] at whole
      exact .more named whole

/-- A reference by name. -/
theorem scans_entity {name : List Char} (h : isPlainName name = true) :
    Scans ReferenceState.step .start (name ++ [';']) (.entity name) := by
  obtain ⟨c, rest, rfl, hc, hrest⟩ := DocumentState.isPlainName_eq_true_iff.1 h
  have begun : ReferenceState.step c .start = .more (.name [c]) := by
    have hhash : c ≠ '#' := by
      rintro rfl
      cases hc
    simp [ReferenceState.step, hhash, hc]
  exact .more begun (scans_entityRest hrest [c])

theorem isPlainName_of_predefined? {name : List Char} {c : Char} (h : predefined? name = some c) :
    isPlainName name = true := by
  rw [predefined?] at h
  repeat' split at h
  iterate 5
    · subst name
      rfl
  · cases h

private theorem scans_digits {base : Nat} {digit? : Char → Option Nat}
    {state : Nat → ReferenceState} (hdigit : ∀ n c d, digit? c = some d →
      ReferenceState.step c (state n) = .more (state (n * base + d)))
    (hend : ∀ n, ReferenceState.step ';' (state n) = .done (.number n)) {digits : List Char}
    {n m : Nat}
    (h : digits.foldlM (fun n c => (digit? c).map (n * base + ·)) n = some m) :
    Scans ReferenceState.step (state n) (digits ++ [';']) (.number m) := by
  induction digits generalizing n with
  | nil =>
      obtain rfl : n = m := Option.some.inj h
      exact .done (hend n)
  | cons c digits ih =>
      rw [List.foldlM_cons, Option.bind_eq_bind, Option.bind_eq_some_iff] at h
      obtain ⟨k, hk, h⟩ := h
      obtain ⟨d, hd, rfl⟩ := Option.map_eq_some_iff.1 hk
      exact .more (hdigit n c d hd) (ih h)

theorem ne_of_asciiDigit? {c x : Char} {d : Nat} (h : asciiDigit? c = some d)
    (hx : asciiDigit? x = none) : c ≠ x := by
  rintro rfl
  rw [hx] at h
  cases h

theorem ne_of_asciiHexDigit? {c x : Char} {d : Nat} (h : asciiHexDigit? c = some d)
    (hx : asciiHexDigit? x = none) : c ≠ x := by
  rintro rfl
  rw [hx] at h
  cases h

/-- The first digit of a number decides where its digits go. -/
theorem worth?_cons {base : Nat} {digit? : Char → Option Nat} {c : Char} {digits : List Char}
    {n : Nat} (h : worth? base digit? (c :: digits) = some n) :
    ∃ d, digit? c = some d ∧
      digits.foldlM (fun n c => (digit? c).map (n * base + ·)) d = some n := by
  rw [worth?, List.foldlM_cons, Option.bind_eq_bind, Option.bind_eq_some_iff] at h
  obtain ⟨k, hk, h⟩ := h
  obtain ⟨d, hd, rfl⟩ := Option.map_eq_some_iff.1 hk
  rw [Nat.zero_mul, Nat.zero_add] at h
  exact ⟨d, hd, h⟩

theorem Refers.exists_scans {c : Char} {ref : List Char} (h : Refers c ref) :
    ∃ rest r, ref = '&' :: rest ∧ Scans ReferenceState.step .start rest r ∧ r.StandsFor c := by
  cases h with
  | @named name hname =>
      exact ⟨_, .entity name, rfl, scans_entity (isPlainName_of_predefined? hname),
        .inr ⟨name, rfl, hname⟩⟩
  | @decimal digits n hne hworth hchar =>
      refine ⟨_, .number n, rfl, ?_, .inl ⟨n, rfl, hchar⟩⟩
      cases digits with
      | nil => exact absurd rfl hne
      | cons d digits =>
          obtain ⟨k, hk, hworth⟩ := worth?_cons hworth
          have first : ReferenceState.step d .hash = .more (.decimal k) := by
            simp [ReferenceState.step, hk, ne_of_asciiDigit? hk (x := 'x') rfl]
          refine .more rfl (.more first (scans_digits ?_ (fun _ => rfl) hworth))
          intro n c d hd
          simp [ReferenceState.step, hd, ne_of_asciiDigit? hd (x := ';') rfl]
  | @hex digits n hne hworth hchar =>
      refine ⟨_, .number n, rfl, ?_, .inl ⟨n, rfl, hchar⟩⟩
      cases digits with
      | nil => exact absurd rfl hne
      | cons d digits =>
          obtain ⟨k, hk, hworth⟩ := worth?_cons hworth
          have first : ReferenceState.step d .hexStart = .more (.hex k) := by
            simp [ReferenceState.step, hk]
          refine .more rfl (.more rfl (.more first (scans_digits ?_ (fun _ => rfl) hworth)))
          intro n c d hd
          simp [ReferenceState.step, hd, ne_of_asciiHexDigit? hd (x := ';') rfl]

end Transcoding.Xml
