import Transcoding.Proofs.Xml.Scan

/-!
Start tags of the grammar are read as the attributes that they write. A tag is read on its own, in
front of the text that follows it, whatever document it stands in.
-/

namespace Transcoding.Xml

namespace TagState

/-- Reading a text in front of another one leads from one state of a tag to another. -/
inductive Reaches : TagState → List Char → List Char → TagState → Prop
  | refl {s : TagState} {tail : List Char} : Reaches s [] tail s
  | more {s t u : TagState} {c : Char} {cs tail : List Char} :
      s.step c (c :: (cs ++ tail)) = .more t → Reaches t cs tail u → Reaches s (c :: cs) tail u

theorem Reaches.append {s t u : TagState} {cs ds tail : List Char}
    (h : Reaches s cs (ds ++ tail) t) (h' : Reaches t ds tail u) : Reaches s (cs ++ ds) tail u := by
  generalize hrest : ds ++ tail = rest at h
  induction h with
  | refl => exact h'
  | more hstep _ ih =>
      subst hrest
      rw [← List.append_assoc] at hstep
      exact .more hstep (ih h' rfl)

/-- A state that any blank, slash or end of the tag may follow, with the name of the tag and its
attributes so far, backwards. -/
structure Ready (s : TagState) (name : List Char) (attributes : List RawAttribute) : Prop where
  space : ∀ c cs, isSpace c = true → s.step c cs = .more ⟨name, attributes, .gap⟩
  slash : ∀ cs, s.step '/' cs = .more ⟨name, attributes, .slash⟩
  close : ∀ cs, s.step '>' cs = .done ⟨name, attributes.reverse, false⟩

theorem step_none_of_isSpace {c : Char} : isSpace c = true → Colon.step .before c = none :=
  forall_isSpace (p := (Colon.step .before · = none)) ⟨rfl, rfl, rfl, rfl⟩

theorem isNameStart_of_isSpace {c : Char} : isSpace c = true → isNameStart c = false :=
  forall_isSpace (p := (isNameStart · = false)) ⟨rfl, rfl, rfl, rfl⟩

variable {name : List Char} {attributes : List RawAttribute}

theorem ready_name (done : List Char) : Ready ⟨[], [], .name done .before⟩ done.reverse [] where
  space c cs hc := by
    rw [step]
    simp only [step_none_of_isSpace hc]
    exact if_pos hc
  slash _ := rfl
  close _ := rfl

theorem ready_gap : Ready ⟨name, attributes, .gap⟩ name attributes where
  space c cs hc := by
    rw [step]
    simp only [isNameStart_of_isSpace hc]
    exact if_pos hc
  slash _ := rfl
  close _ := rfl

theorem ready_closeQuote : Ready ⟨name, attributes, .closeQuote⟩ name attributes where
  space _ _ hc := if_pos hc
  slash _ := rfl
  close _ := rfl

/-- Blanks after a name or a value. -/
theorem Ready.gap {s : TagState} (h : s.Ready name attributes) {gap : List Char} (hgap : IsGap gap)
    (tail : List Char) : ∃ t, Reaches s gap tail t ∧ t.Ready name attributes ∧
      (gap ≠ [] → t = ⟨name, attributes, .gap⟩) := by
  induction gap generalizing s with
  | nil => exact ⟨s, .refl, h, fun hne => absurd rfl hne⟩
  | cons c gap ih =>
      obtain ⟨hc, hrest⟩ := Bool.and_eq_true_iff.1 hgap
      obtain ⟨t, hreach, hready, hgap⟩ := ih ready_gap hrest
      refine ⟨t, .more (h.space c _ hc) hreach, hready, fun _ => ?_⟩
      by_cases hnil : gap = []
      · subst hnil
        cases hreach
        rfl
      · exact hgap hnil

theorem reaches_name {rest : List Char} (h : rest.all isNameChar = true) (done tail : List Char) :
    Reaches ⟨[], [], .name done .before⟩ rest tail
      ⟨[], [], .name (rest.reverse ++ done) .before⟩ := by
  induction rest generalizing done with
  | nil => exact .refl
  | cons c rest ih =>
      obtain ⟨hc, hrest⟩ := Bool.and_eq_true_iff.1 h
      have named : step ⟨[], [], .name done .before⟩ c (c :: (rest ++ tail)) =
          .more ⟨[], [], .name (c :: done) .before⟩ := by
        simp [step, Colon.step, hc]
      rw [List.reverse_cons, List.append_assoc]
      exact .more named (ih hrest (c :: done))

theorem reaches_attributeName {rest : List Char} (h : rest.all isNameChar = true)
    (done place tail : List Char) :
    Reaches ⟨name, attributes, .attributeName done .before place⟩ rest tail
      ⟨name, attributes, .attributeName (rest.reverse ++ done) .before place⟩ := by
  induction rest generalizing done with
  | nil => exact .refl
  | cons c rest ih =>
      obtain ⟨hc, hrest⟩ := Bool.and_eq_true_iff.1 h
      have named : step ⟨name, attributes, .attributeName done .before place⟩ c
          (c :: (rest ++ tail)) =
            .more ⟨name, attributes, .attributeName (c :: done) .before place⟩ := by
        simp [step, Colon.step, hc]
      rw [List.reverse_cons, List.append_assoc]
      exact .more named (ih hrest (c :: done))

variable (name attributes) in
/-- The name of an attribute and the equals sign after it. -/
theorem reaches_equals {label before : List Char} (hlabel : isPlainName label = true)
    (hbefore : IsGap before) (tail : List Char) :
    ∃ place, Reaches ⟨name, attributes, .gap⟩ (label ++ (before ++ ['='])) tail
      ⟨name, attributes, .openQuote label place⟩ := by
  obtain ⟨c, rest, rfl, hc, hrest⟩ := DocumentState.isPlainName_eq_true_iff.1 hlabel
  let place := c :: (rest ++ (before ++ ['=']) ++ tail)
  refine ⟨place, .more (if_pos hc) ((reaches_attributeName hrest [c] place _).append ?_)⟩
  have whole : (rest.reverse ++ [c]).reverse = c :: rest := by simp
  have equals {gap : List Char} (hgap : IsGap gap) :
      Reaches ⟨name, attributes, .equals (c :: rest) place⟩ (gap ++ ['=']) tail
        ⟨name, attributes, .openQuote (c :: rest) place⟩ := by
    induction gap with
    | nil => exact .more rfl .refl
    | cons d gap ih =>
        obtain ⟨hd, hgap⟩ := Bool.and_eq_true_iff.1 hgap
        refine .more ?_ (ih hgap)
        have hne : d ≠ '=' := by
          rintro rfl
          cases hd
        simp [step, hne, hd]
  cases before with
  | nil =>
      refine .more ?_ .refl
      rw [← whole]
      rfl
  | cons d before =>
      obtain ⟨hd, hbefore⟩ := Bool.and_eq_true_iff.1 hbefore
      refine .more ?_ (equals hbefore)
      rw [step]
      simp only [step_none_of_isSpace hd, whole]
      exact if_pos hd

theorem reaches_quote {label place after : List Char} {quote : Char} (hafter : IsGap after)
    (hquote : quote = '"' ∨ quote = '\'') (tail : List Char) :
    Reaches ⟨name, attributes, .openQuote label place⟩ (after ++ [quote]) tail
      ⟨name, attributes, .value label place quote {}⟩ := by
  induction after with
  | nil => obtain rfl | rfl := hquote <;> exact .more rfl .refl
  | cons c after ih =>
      obtain ⟨hc, hafter⟩ := Bool.and_eq_true_iff.1 hafter
      refine .more ?_ (ih hafter)
      have hmarks : ¬(c == '"' || c == '\'') = true :=
        forall_isSpace (p := fun c => ¬(c == '"' || c == '\'') = true) (by decide) hc
      simp only [step, if_neg hmarks, if_pos hc]

end TagState

/-- Whether pieces of a value of character data mean a text, whatever entities there are. -/
def PiecesMean (pieces : List (Piece × List Char)) (value : List Char) : Prop :=
  ∀ expand b, pieces.foldlM (ValueBuilder.piece expand true) b =
    .ok { b with done := value.reverse ++ b.done }

theorem piecesMean_nil : PiecesMean [] [] :=
  fun _ _ => rfl

theorem PiecesMean.cons {piece : Piece × List Char} {pieces : List (Piece × List Char)} {c : Char}
    {value : List Char} (hpiece : ∀ expand b, ValueBuilder.piece expand true b piece =
      .ok { b with done := c :: b.done }) (h : PiecesMean pieces value) :
    PiecesMean (piece :: pieces) (c :: value) := by
  intro expand b
  rw [List.foldlM_cons, hpiece, List.reverse_cons, List.append_assoc]
  exact h expand { b with done := c :: b.done }

theorem piece_reference {r : Reference} {c : Char} (h : r.StandsFor c) (place : List Char)
    (expand : List Char → List Char → ValueBuilder → ValueBuilder.Outcome) (b : ValueBuilder) :
    ValueBuilder.piece expand true b (.reference r, place) =
      .ok { b with done := c :: b.done } := by
  obtain ⟨n, rfl, hc⟩ | ⟨name, rfl, hc⟩ := h
  · rw [ValueBuilder.piece]
    simp only [hc]
    split
    · next heq => cases heq
    · next heq => cases heq; rfl
    · next heq => cases heq; rfl
  · rw [ValueBuilder.piece]
    simp only [hc]

theorem piece_blank (place : List Char)
    (expand : List Char → List Char → ValueBuilder → ValueBuilder.Outcome) (b : ValueBuilder) :
    ValueBuilder.piece expand true b (.blank, place) = .ok { b with done := ' ' :: b.done } :=
  rfl

namespace TagState

variable {name label place : List Char} {attributes : List RawAttribute} {quote : Char}

/-- Whether reading a text in front of another one leads from one state of a value to another. -/
def ReachesInValue (quote : Char) (v : ValueState) (cs tail : List Char) (w : ValueState) : Prop :=
  ∀ name attributes label place, Reaches ⟨name, attributes, .value label place quote v⟩ cs tail
    ⟨name, attributes, .value label place quote w⟩

theorem ReachesInValue.cons {v w u : ValueState} {c : Char} {cs tail : List Char}
    (hquote : c = quote → v.reference.isNone = false)
    (hstep : v.step c (c :: (cs ++ tail)) = some w) (h : ReachesInValue quote w cs tail u) :
    ReachesInValue quote v (c :: cs) tail u := by
  intro name attributes label place
  refine .more ?_ (h name attributes label place)
  have inside : ¬(c == quote && v.reference.isNone) = true := by
    rw [Bool.and_eq_true, beq_iff_eq]
    rintro ⟨hc, hnone⟩
    rw [hquote hc] at hnone
    cases hnone
  rw [step]
  simp only [if_neg inside, hstep]

theorem reachesInValue_nil (quote : Char) (v : ValueState) (tail : List Char) :
    ReachesInValue quote v [] tail v :=
  fun _ _ _ _ => .refl

theorem ReachesInValue.append {v w u : ValueState} {cs ds tail : List Char}
    (h : ReachesInValue quote v cs (ds ++ tail) w) (h' : ReachesInValue quote w ds tail u) :
    ReachesInValue quote v (cs ++ ds) tail u :=
  fun name attributes label place =>
    (h name attributes label place).append (h' name attributes label place)

/-- The rest of a reference in a value. -/
theorem reachesInValue_reference {r : ReferenceState} {text : List Char} {ref : Reference}
    (h : Scans ReferenceState.step r text ref) (pieces : List (Piece × List Char)) (after : Bool)
    (start tail : List Char) : ReachesInValue quote ⟨pieces, after, some (r, start)⟩ text tail
      ⟨(.reference ref, start) :: pieces, false, none⟩ := by
  induction h with
  | done hstep =>
      refine .cons (fun _ => rfl) ?_ (reachesInValue_nil _ _ _)
      simp only [ValueState.step, hstep]
  | more hstep _ ih =>
      refine .cons (fun _ => rfl) ?_ ih
      simp only [ValueState.step, hstep]

/-- Whether a text is read as a value, after some pieces of it. -/
def ReadsValue (quote : Char) (pieces : List (Piece × List Char)) (after : Bool)
    (text tail value : List Char) : Prop :=
  ∃ more after', PiecesMean more value ∧
    ReachesInValue quote ⟨pieces, after, none⟩ text tail ⟨more.reverse ++ pieces, after', none⟩

/-- A text that is one piece of a value, in front of the rest. -/
theorem ReadsValue.cons {pieces : List (Piece × List Char)} {after after' : Bool} {piece : Piece}
    {start cs text tail value : List Char} {c : Char}
    (h : ReadsValue quote ((piece, start) :: pieces) after' text tail value)
    (hreach : ReachesInValue quote ⟨pieces, after, none⟩ cs (text ++ tail)
      ⟨(piece, start) :: pieces, after', none⟩)
    (hpiece : ∀ expand b, ValueBuilder.piece expand true b (piece, start) =
      .ok { b with done := c :: b.done }) :
    ReadsValue quote pieces after (cs ++ text) tail (c :: value) := by
  obtain ⟨more, last, hmean, hrest⟩ := h
  refine ⟨(piece, start) :: more, last, hmean.cons hpiece, hreach.append ?_⟩
  rw [List.reverse_cons, List.append_assoc]
  exact hrest

/-- A value up to its closing quote. After a carriage return a line feed would not count. -/
theorem readsValue (hquote : quote = '"' ∨ quote = '\'') {value text : List Char}
    (h : WritesValue quote value text) (pieces : List (Piece × List Char)) {after : Bool}
    (hafter : after = true → text.head? ≠ some '\n') (tail : List Char) :
    ReadsValue quote pieces after text tail value := by
  have inside {c : Char} (hc : c ≠ '"' ∧ c ≠ '\'') : c ≠ quote := by
    rintro rfl
    exact hquote.elim hc.1 hc.2
  have blank {c : Char} (hc : isSpace c = true) : c ≠ '&' ∧ c ≠ quote := by
    obtain ⟨hamp, hmarks⟩ := forall_isSpace (p := fun c => c ≠ '&' ∧ c ≠ '"' ∧ c ≠ '\'')
      (by decide) hc
    exact ⟨hamp, inside hmarks⟩
  induction h generalizing pieces after with
  | nil => exact ⟨[], after, piecesMean_nil, reachesInValue_nil _ _ _⟩
  | @raw c value text hchar hspace hne hless hamp _ ih =>
      have hline : c ≠ '\n' := by
        rintro rfl
        cases hspace
      have read : ValueState.step ⟨pieces, after, none⟩ c (c :: (text ++ tail)) =
          some ⟨(.char c, c :: (text ++ tail)) :: pieces, false, none⟩ := by
        simp [ValueState.step, hamp, hline, hspace, hless, hchar]
      have rest : ReadsValue quote ((.char c, c :: (text ++ tail)) :: pieces) false text tail
        value := ih _ nofun
      exact rest.cons (.cons (fun h => absurd h hne) read (reachesInValue_nil _ _ _))
        fun _ _ => rfl
  | @blank c value text hspace hhead _ ih =>
      obtain ⟨hamp, hne⟩ := blank hspace
      have hline : ¬(c == '\n' && after) = true := by
        rw [Bool.and_eq_true, beq_iff_eq]
        rintro ⟨rfl, hreturn⟩
        exact hafter hreturn rfl
      have read : ValueState.step ⟨pieces, after, none⟩ c (c :: (text ++ tail)) =
          some ⟨(.blank, c :: (text ++ tail)) :: pieces, c == '\r', none⟩ := by
        simp only [ValueState.step]
        rw [if_neg (by simpa using hamp), if_neg hline, if_pos hspace]
      exact (ih _ (fun h => hhead (beq_iff_eq.1 h))).cons
        (.cons (fun h => absurd h hne) read (reachesInValue_nil _ _ _)) (piece_blank _)
  | @lineEnd value text _ ih =>
      have rest : ReadsValue quote ((.blank, '\r' :: '\n' :: (text ++ tail)) :: pieces) false text
        tail value := ih _ nofun
      exact rest.cons
        (.cons (fun h => absurd h (blank rfl).2) rfl
          (.cons (fun h => absurd h (blank rfl).2) rfl (reachesInValue_nil _ _ _)))
        (piece_blank _)
  | @reference c ref value text href _ ih =>
      obtain ⟨rest, r, rfl, hscan, hstands⟩ := href.exists_scans
      have rest : ReadsValue quote ((.reference r, '&' :: (rest ++ (text ++ tail))) :: pieces) false
        text tail value := ih _ nofun
      exact rest.cons
        (.cons (fun h => absurd h (inside (by decide))) rfl
          (reachesInValue_reference hscan pieces false _ _))
        (piece_reference hstands _)

end TagState

/-- Whether an attribute as written is one of a name without a prefix, declares no namespace and has
the pieces of a value. -/
structure RawAttribute.Means (raw : RawAttribute) (a : Attribute) : Prop where
  name_eq : a.name = ⟨[], raw.name⟩
  plain : isPlainName raw.name = true
  ne_xmlns : raw.name ≠ "xmlns".toList
  pieces : PiecesMean raw.pieces a.value

theorem WritesAttributes.space_eq_nil {attributes : List Attribute} {text : List Char}
    (h : WritesAttributes attributes text) : ∀ a ∈ attributes, a.name.space = [] := by
  induction h with
  | nil => exact nofun
  | cons _ _ _ _ _ _ _ _ _ _ ih => exact List.forall_mem_cons.2 ⟨rfl, ih⟩

theorem WritesAttributes.pairwise {attributes : List Attribute} {text : List Char}
    (h : WritesAttributes attributes text) :
    attributes.Pairwise fun a b => b.name.label ≠ a.name.label := by
  induction h with
  | nil => exact .nil
  | @cons label _ _ _ _ _ _ _ rest _ _ _ _ _ _ _ _ hdistinct hrest ih =>
      refine .cons (fun a ha hlabel => hdistinct a ha ?_) ih
      have hname : a.name = ⟨a.name.space, a.name.label⟩ := rfl
      rw [hname, hrest.space_eq_nil a ha, hlabel]

namespace TagState

variable {name : List Char} {attributes : List RawAttribute}

variable (name attributes) in
/-- An attribute with the blanks inside it. -/
theorem reaches_attribute {label before after value written : List Char} {quote : Char}
    (hlabel : isPlainName label = true) (hbefore : IsGap before) (hafter : IsGap after)
    (hquote : quote = '"' ∨ quote = '\'') (hvalue : WritesValue quote value written)
    (tail : List Char) :
    ∃ place pieces, PiecesMean pieces value ∧ Reaches ⟨name, attributes, .gap⟩
      ((label ++ (before ++ ['='])) ++ ((after ++ [quote]) ++ (written ++ [quote]))) tail
      ⟨name, ⟨label, place, pieces⟩ :: attributes, .closeQuote⟩ := by
  obtain ⟨place, hequals⟩ := reaches_equals name attributes hlabel hbefore
    ((after ++ [quote]) ++ (written ++ [quote]) ++ tail)
  obtain ⟨pieces, last, hpieces, hread⟩ :=
    readsValue hquote hvalue [] (fun h : false = true => nomatch h) ([quote] ++ tail)
  rw [List.append_nil] at hread
  have hopen : Reaches ⟨name, attributes, .openQuote label place⟩ (after ++ [quote])
      (written ++ [quote] ++ tail) ⟨name, attributes, .value label place quote {}⟩ :=
    reaches_quote hafter hquote _
  have hclose : Reaches ⟨name, attributes, .value label place quote ⟨pieces.reverse, last, none⟩⟩
      [quote] tail ⟨name, ⟨label, place, pieces⟩ :: attributes, .closeQuote⟩ := by
    refine .more ?_ .refl
    rw [step]
    simp
  exact ⟨place, pieces, hpieces,
    hequals.append (hopen.append ((hread name attributes label place).append hclose))⟩

/-- What is read of the attributes of a tag. -/
theorem reaches_attributes {written : List Attribute} {text : List Char}
    (h : WritesAttributes written text) {s : TagState} (hs : s.Ready name attributes)
    (tail : List Char) :
    ∃ raws t, List.Forall₂ RawAttribute.Means raws written ∧ Reaches s text tail t ∧
      t.Ready name (raws.reverse ++ attributes) := by
  induction h generalizing s attributes with
  | nil hgap =>
      obtain ⟨t, hreach, hready, -⟩ := hs.gap hgap tail
      exact ⟨[], t, .nil, hreach, hready⟩
  | @cons label value gap before after written text quote rest hne hgap hlabel hbinds hbefore
      hafter hquote hvalue _ _ ih =>
      let inside := (label ++ (before ++ ['='])) ++ ((after ++ [quote]) ++ (written ++ [quote]))
      have split : gap ++ (label ++ (before ++ '=' :: (after ++ quote :: (written ++ quote ::
          text)))) = gap ++ (inside ++ text) := by
        simp [inside]
      obtain ⟨t, hblanks, -, ht⟩ := hs.gap hgap (inside ++ text ++ tail)
      obtain rfl := ht hne
      obtain ⟨place, pieces, hpieces, hinside⟩ := reaches_attribute name attributes hlabel hbefore
        hafter hquote hvalue (text ++ tail)
      have closed : Ready ⟨name, ⟨label, place, pieces⟩ :: attributes, .closeQuote⟩ name _ :=
        ready_closeQuote
      obtain ⟨raws, t, hraws, hrest, hready⟩ := ih closed
      refine ⟨⟨label, place, pieces⟩ :: raws, t, .cons ⟨rfl, hlabel, hbinds, hpieces⟩ hraws, ?_, ?_⟩
      · rw [split]
        exact hblanks.append (hinside.append hrest)
      · rw [List.reverse_cons, List.append_assoc]
        exact hready

end TagState

theorem PiecesMean.value_eq {pieces : List (Piece × List Char)} {value : List Char}
    (h : PiecesMean pieces value) (d : Doctype) (opened : List (List Char)) (budget : Nat) :
    ValueBuilder.value d true opened pieces ⟨[], budget⟩ = .ok (value, budget) := by
  rw [ValueBuilder.value, h, List.append_nil]
  exact congrArg (fun done => Except.ok (done, budget)) (List.reverse_reverse value)

namespace TagBuilder

theorem add_of_isPlainName {label : List Char} (hlabel : isPlainName label = true)
    (hbinds : label ≠ "xmlns".toList) (b : TagBuilder) (value : List Char) :
    b.add label value = .ok { b with attributes := (label, value) :: b.attributes } := by
  have hnone : declaredPrefix? label = none := by
    rw [declaredPrefix?, if_neg hbinds, splitQualified_of_isPlainName hlabel]
    exact if_neg nofun
  rw [add, hnone]

/-- Attributes as written are added under their names. -/
theorem addWritten_of_means {raws : List RawAttribute} {written : List Attribute}
    (h : List.Forall₂ RawAttribute.Means raws written)
    (hdistinct : written.Pairwise fun a b => b.name.label ≠ a.name.label) (d : Doctype)
    (opened : List (List Char)) (b : TagBuilder) {known : List (List Char)}
    (hknown : ∀ a ∈ written, a.name.label ∉ known) :
    addWritten d opened [] b known raws = .ok { b with
      attributes := (written.map fun a => (a.name.label, a.value)).reverse ++ b.attributes } := by
  induction h generalizing b known with
  | nil => rfl
  | @cons raw a raws written hmeans _ ih =>
      obtain ⟨hfirst, hrest⟩ := List.pairwise_cons.1 hdistinct
      have hlabel : a.name.label = raw.name := by rw [hmeans.name_eq]
      have fresh : ¬known.contains raw.name = true := by
        rw [List.contains_iff_mem, ← hlabel]
        exact hknown a List.mem_cons_self
      have others : ∀ a' ∈ written, a'.name.label ∉ raw.name :: known := by
        intro a' ha'
        rw [← hlabel, List.mem_cons, not_or]
        exact ⟨hfirst a' ha', hknown a' (List.mem_cons_of_mem _ ha')⟩
      have added := add_of_isPlainName hmeans.plain hmeans.ne_xmlns b a.value
      rw [addWritten, if_neg fresh]
      simp only [List.find?_nil, hmeans.pieces.value_eq, added, bind, Except.bind, Except.mapError]
      rw [ih hrest _ others, List.map_cons, List.reverse_cons, List.append_assoc, hlabel]
      rfl

theorem resolve_of_means {raws : List RawAttribute} {written : List Attribute}
    (h : List.Forall₂ RawAttribute.Means raws written) (scope : Scope) :
    resolve scope (written.map fun a => (a.name.label, a.value)) = .ok written := by
  induction h with
  | nil => rfl
  | @cons raw a raws written hmeans _ ih =>
      have hname : scope.attributeName a.name.label = .ok a.name := by
        rw [hmeans.name_eq, Scope.attributeName, splitQualified_of_isPlainName hmeans.plain]
      have hspace : a.name.space = [] := by rw [hmeans.name_eq]
      rw [List.map_cons, resolve, hname, ih]
      simp only [bind, Except.bind, hspace]
      rfl

end TagBuilder

/-- A tag of plain names means them where nothing is declared. -/
theorem RawTag.resolve_of_means {d : Doctype} (hd : d.attributes = []) (opened : List (List Char))
    {scope : Scope} (hs : scope.lookup [] = none) (budget : Nat) {name : List Char}
    (hn : isPlainName name = true) {raws : List RawAttribute} {written : List Attribute}
    (hmeans : List.Forall₂ RawAttribute.Means raws written)
    (hdistinct : written.Pairwise fun a b => b.name.label ≠ a.name.label) (closed : Bool) :
    RawTag.resolve d opened scope budget ⟨name, raws, closed⟩ =
      .ok (⟨⟨[], name⟩, written, .nil⟩, scope, budget) := by
  have element : scope.elementName name = .ok ⟨[], name⟩ := by
    simp [Scope.elementName, splitQualified_of_isPlainName hn, hs]
  have declared : d.attributesOf name = [] := by
    simp [Doctype.attributesOf, hd]
  have fresh : ∀ a ∈ written, a.name.label ∉ ([] : List (List Char)) :=
    fun _ _ => List.not_mem_nil
  have added := TagBuilder.addWritten_of_means hmeans hdistinct d opened ⟨scope, [], budget⟩ fresh
  rw [List.append_nil] at added
  simp only [RawTag.resolve, declared, added, TagBuilder.addDefaults, List.reverse_reverse,
    TagBuilder.resolve_of_means hmeans, element, bind, Except.bind, Except.mapError, pure,
    Except.pure]

namespace DocumentState

variable {d : Doctype} {place : List Char} {content : Content} {frames : List Frame}
  {scope : Scope} {budget : Nat}

theorem run_reaches {s t : TagState} {text tail : List Char} (h : s.Reaches text tail t) :
    run (.body d ⟨.tag s, place, content, frames, scope, budget⟩) (text ++ tail) =
      run (.body d ⟨.tag t, place, content, frames, scope, budget⟩) tail := by
  induction h with
  | refl => rfl
  | @more s t u c cs tail hstep _ ih =>
      have inside : BodyState.step d [] d.expansion
          ⟨.tag s, place, content, frames, scope, budget⟩ c (c :: (cs ++ tail)) =
          .ok ⟨.tag t, place, content, frames, scope, budget⟩ := by
        simp only [BodyState.step, hstep]
      rw [List.cons_append, run_body inside]
      exact ih

variable {c : Char} {name tag : List Char} {attributes : List Attribute}

variable (d place content frames scope budget) in
/-- The name and the attributes of a tag after the first character of the name. -/
theorem run_tag (hn : isPlainName (c :: name) = true) (hw : WritesAttributes attributes tag)
    (tail : List Char) :
    ∃ raws t, List.Forall₂ RawAttribute.Means raws attributes ∧
      t.Ready (c :: name) raws.reverse ∧
      run (.body d ⟨.tag (.start c), place, content, frames, scope, budget⟩)
          (name ++ (tag ++ tail)) =
        run (.body d ⟨.tag t, place, content, frames, scope, budget⟩) tail := by
  have hall := (Bool.and_eq_true_iff.1 hn).2
  have named : (name.reverse ++ [c]).reverse = c :: name := by simp
  have ready := TagState.ready_name (name.reverse ++ [c])
  rw [named] at ready
  obtain ⟨raws, t, hraws, hreach, hready⟩ := TagState.reaches_attributes hw ready tail
  rw [List.append_nil] at hready
  refine ⟨raws, t, hraws, hready, ?_⟩
  rw [TagState.start, run_reaches (TagState.reaches_name hall [c] (tag ++ tail)),
    run_reaches hreach]

/-- A start tag with attributes after the first character of its name. -/
theorem run_openingTag_rest (hd : d.attributes = []) (hs : scope.lookup [] = none)
    (hn : isPlainName (c :: name) = true) (hw : WritesAttributes attributes tag)
    (tail : List Char) :
    run (.body d ⟨.tag (.start c), place, content, frames, scope, budget⟩)
        (name ++ (tag ++ '>' :: tail)) =
      run (.body d ⟨.text .plain, [], .nil,
        ⟨c :: name, ⟨[], c :: name⟩, attributes, content, scope⟩ :: frames, scope, budget⟩)
        tail := by
  obtain ⟨raws, t, hraws, hready, hrun⟩ := run_tag d place content frames scope budget hn hw
    ('>' :: tail)
  have ended := hready.close ('>' :: tail)
  rw [List.reverse_reverse] at ended
  rw [hrun, run_tagEnd ended (RawTag.resolve_of_means hd [] hs budget hn hraws hw.pairwise false)]
  exact congrArg (run · tail) ofBody_cons

/-- A tag of an empty element with attributes after the first character of its name. -/
theorem run_closedTag_rest (hd : d.attributes = []) (hs : scope.lookup [] = none)
    (hn : isPlainName (c :: name) = true) (hw : WritesAttributes attributes tag)
    (tail : List Char) :
    run (.body d ⟨.tag (.start c), place, content, frames, scope, budget⟩)
        (name ++ (tag ++ '/' :: '>' :: tail)) =
      run (ofBody d ⟨.text .plain, place, .element ⟨[], c :: name⟩ attributes .nil content, frames,
        scope, budget⟩) tail := by
  obtain ⟨raws, t, hraws, hready, hrun⟩ := run_tag d place content frames scope budget hn hw
    ('/' :: '>' :: tail)
  have slashed : t.Reaches ['/'] ('>' :: tail) ⟨c :: name, raws.reverse, .slash⟩ :=
    .more (hready.slash _) .refl
  have ended : TagState.step ⟨c :: name, raws.reverse, .slash⟩ '>' ('>' :: tail) =
      .done ⟨c :: name, raws, true⟩ := by
    simp [TagState.step, TagState.finish]
  rw [hrun]
  refine (run_reaches slashed).trans ?_
  rw [run_tagEnd ended (RawTag.resolve_of_means hd [] hs budget hn hraws hw.pairwise true)]
  rfl

end DocumentState
end Transcoding.Xml
