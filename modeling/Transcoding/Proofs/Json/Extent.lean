import Transcoding.Json.Reader

/-!
How far reading JSON goes. What is read is taken from the front of a text, so the bound on the steps
of a reader, twice the length of the text, never decides: with more steps the same is read. The
limit of arrays and objects in each other does nothing either but refuse what exceeds it.
-/

namespace Transcoding.Json

/-- Whether a reader leaves at most so many symbols, if it succeeds. -/
def Leaves {α : Type} (n : Nat) (r : Except Fault (α × List Symbol)) : Prop :=
  ∀ a rest, r = .ok (a, rest) → rest.length ≤ n

namespace Leaves

variable {α β : Type} {m n : Nat} {r : Except Fault (α × List Symbol)}

theorem ok {a : α} {rest : List Symbol} (h : rest.length ≤ n) : Leaves n (.ok (a, rest)) := by
  rintro _ _ ⟨⟩
  exact h

theorem error (f : Fault) : Leaves (α := α) n (.error f) := nofun

theorem mono (h : Leaves m r) (hm : m ≤ n) : Leaves n r :=
  fun a rest ha => Nat.le_trans (h a rest ha) hm

theorem bind {f : α × List Symbol → Except Fault (β × List Symbol)} (h : Leaves m r)
    (hf : ∀ a rest, rest.length ≤ m → Leaves n (f (a, rest))) : Leaves n (r >>= f) := by
  cases r with
  | error e => exact error e
  | ok p => exact hf p.1 p.2 (h p.1 p.2 rfl)

theorem bind_congr {f g : α × List Symbol → Except Fault β} (h : Leaves m r)
    (hfg : ∀ a rest, rest.length ≤ m → f (a, rest) = g (a, rest)) : r >>= f = r >>= g := by
  cases r with
  | error e => rfl
  | ok p => exact hfg p.1 p.2 (h p.1 p.2 rfl)

end Leaves

theorem length_skipSpace_le (cs : List Symbol) : (skipSpace cs).length ≤ cs.length :=
  (List.dropWhile_sublist _).length_le

theorem length_le_of_skipSpace_eq_cons {cs rest : List Symbol} {s : Symbol}
    (h : skipSpace cs = s :: rest) : rest.length + 1 ≤ cs.length := by
  have taken := length_skipSpace_le cs
  rwa [h, List.length_cons] at taken

theorem length_skipSpace_lt {cs rest : List Symbol} {s : Symbol} (h : skipSpace cs = s :: rest) :
    (skipSpace rest).length < cs.length :=
  Nat.lt_of_le_of_lt (length_skipSpace_le rest) (length_le_of_skipSpace_eq_cons h)

theorem leaves_readString (done : List Symbol) (high : Option Nat) (cs : List Symbol) :
    Leaves cs.length (readString done high cs) := by
  fun_induction readString done high cs with
  | case1 | case4 | case6 | case7 => exact .error _
  | case2 => exact .ok (Nat.le_succ _)
  | case3 _ _ _ _ _ _ _ _ _ ih | case5 _ _ _ _ _ _ _ ih | case8 _ _ _ _ _ _ _ _ ih =>
      exact ih.mono (by simp only [List.length_cons]; omega)

theorem length_digitRun_le (value count : Nat) (cs : List Symbol) :
    (digitRun value count cs).2.2.length ≤ cs.length := by
  fun_induction digitRun value count cs with
  | case1 _ _ _ _ _ ih => exact Nat.le_succ_of_le ih
  | case2 | case3 => exact Nat.le_refl _

theorem length_splitSign_le (cs : List Symbol) : (splitSign cs).2.length ≤ cs.length := by
  unfold splitSign
  split <;> simp

theorem length_readExponent_le (cs : List Symbol) : (readExponent cs).2.length ≤ cs.length := by
  unfold readExponent
  split
  case h_2 => exact Nat.le_refl _
  case h_1 e rest =>
    have taken := length_digitRun_le 0 0 (splitSign rest).2
    have sign := length_splitSign_le rest
    dsimp only
    split
    · split
      · exact Nat.le_refl _
      · rename_i after heq
        rw [heq] at taken
        exact Nat.le_succ_of_le (Nat.le_trans taken sign)
    · exact Nat.le_refl _

theorem length_readFraction_le (value count : Nat) (cs : List Symbol) :
    (readFraction value count cs).2.2.2.length ≤ cs.length := by
  unfold readFraction
  split
  case h_2 => exact Nat.le_refl _
  case h_1 rest =>
    dsimp only
    split
    · exact Nat.le_refl _
    · exact Nat.le_succ_of_le (length_digitRun_le value count rest)

theorem leaves_readNumber (negative : Bool) (cs : List Symbol) :
    Leaves cs.length (readNumber negative cs) := by
  unfold readNumber
  dsimp only
  split
  · exact .error _
  · rename_i whole count rest _ heq
    have taken : rest.length ≤ cs.length := by
      split at heq
      · obtain ⟨-, -, rfl⟩ := Prod.mk.injEq .. ▸ heq
        exact Nat.le_succ _
      · have run := length_digitRun_le 0 0 cs
        rwa [heq] at run
    have fraction := length_readFraction_le whole count rest
    have exponent := length_readExponent_le (readFraction whole count rest).2.2.2
    have left := Nat.le_trans exponent (Nat.le_trans fraction taken)
    split
    · split
      · exact .error _
      · exact .ok left
    · exact .ok left

theorem length_le_of_after? {word : String} {cs rest : List Symbol}
    (h : after? word cs = some rest) : rest.length ≤ cs.length := by
  unfold after? at h
  dsimp only at h
  split at h
  · obtain rfl := Option.some.inj h
    exact (List.drop_sublist _ cs).length_le
  · cases h

theorem leaves_readScalar (cs : List Symbol) : Leaves cs.length (readScalar cs) := by
  unfold readScalar
  iterate 6
    split
    · exact .ok (length_le_of_after? ‹_›)
  split
  · exact (leaves_readNumber true _).mono (Nat.le_succ _)
  · exact leaves_readNumber false cs

/-- Whether the readers with some steps take what they read from the front of a text. -/
structure LeaveAt (steps : Nat) : Prop where
  value : ∀ levels cs, Leaves cs.length (readValue steps levels cs)
  items : ∀ levels done cs, Leaves cs.length (readItems steps levels done cs)
  members : ∀ levels done cs, Leaves cs.length (readMembers steps levels done cs)

namespace LeaveAt

variable {steps : Nat} (h : LeaveAt steps)
include h

theorem readValue_succ (levels : Nat) (cs : List Symbol) :
    Leaves cs.length (readValue (steps + 1) levels cs) := by
  unfold readValue
  split
  case h_1 => exact (leaves_readString _ _ _).bind fun _ _ hrest => .ok (Nat.le_succ_of_le hrest)
  case h_4 => exact leaves_readScalar cs
  all_goals
    rename_i inside
    have skipped := length_skipSpace_le inside
    rw [List.length_cons]
    split
    · exact .error _
    · split
      · have taken := length_le_of_skipSpace_eq_cons ‹_›
        exact .ok (by omega)
      · first
        | exact (h.items _ _ _).bind fun _ _ hrest => .ok (by omega)
        | exact (h.members _ _ _).bind fun _ _ hrest => .ok (by omega)

theorem readItems_succ (levels : Nat) (done : List Json) (cs : List Symbol) :
    Leaves cs.length (readItems (steps + 1) levels done cs) := by
  unfold readItems
  refine (h.value levels cs).bind fun item rest hrest => ?_
  dsimp only
  split
  case h_1 hmore =>
    have taken := length_skipSpace_lt hmore
    exact (h.items levels _ _).mono (by omega)
  case h_2 hmore =>
    have taken := length_le_of_skipSpace_eq_cons hmore
    exact .ok (by omega)
  case h_3 => exact .error _

theorem readMembers_succ (levels : Nat) (done : Members) (cs : List Symbol) :
    Leaves cs.length (readMembers (steps + 1) levels done cs) := by
  unfold readMembers
  split
  case h_2 => exact .error _
  case h_1 text =>
    rw [List.length_cons]
    refine (leaves_readString [] none text).bind fun name rest hrest => ?_
    dsimp only
    split
    case h_2 => exact .error _
    case h_1 hinside =>
      have taken := length_skipSpace_lt hinside
      refine (h.value levels _).bind fun item rest hrest => ?_
      dsimp only
      split
      case h_1 hmore =>
        have taken' := length_skipSpace_lt hmore
        exact (h.members levels _ _).mono (by omega)
      case h_2 hmore =>
        have taken' := length_le_of_skipSpace_eq_cons hmore
        exact .ok (by omega)
      case h_3 => exact .error _

end LeaveAt

theorem leaveAt (steps : Nat) : LeaveAt steps := by
  induction steps with
  | zero => exact ⟨fun _ _ => .error _, fun _ _ _ => .error _, fun _ _ _ => .error _⟩
  | succ steps ih => exact ⟨ih.readValue_succ, ih.readItems_succ, ih.readMembers_succ⟩

/-- Whether two numbers of steps make no difference to texts for which both are enough. -/
structure AgreeAt (steps steps' : Nat) : Prop where
  value : ∀ levels cs, 2 * cs.length < steps → 2 * cs.length < steps' →
    readValue steps levels cs = readValue steps' levels cs
  items : ∀ levels done cs, 2 * cs.length + 1 < steps → 2 * cs.length + 1 < steps' →
    readItems steps levels done cs = readItems steps' levels done cs
  members : ∀ levels done cs, 2 * cs.length + 1 < steps → 2 * cs.length + 1 < steps' →
    readMembers steps levels done cs = readMembers steps' levels done cs

namespace AgreeAt

variable {steps steps' : Nat} (h : AgreeAt steps steps') (levels : Nat)
include h

theorem readValue_succ (cs : List Symbol) (enough : 2 * cs.length < steps + 1)
    (enough' : 2 * cs.length < steps' + 1) :
    readValue (steps + 1) levels cs = readValue (steps' + 1) levels cs := by
  unfold readValue
  split
  case h_1 | h_4 => rfl
  all_goals
    rename_i inside
    have skipped := length_skipSpace_le inside
    rw [List.length_cons] at enough enough'
    split
    · rfl
    · split
      · rfl
      · first
        | rw [h.items _ _ _ (by omega) (by omega)]
        | rw [h.members _ _ _ (by omega) (by omega)]

theorem readItems_succ (done : List Json) (cs : List Symbol)
    (enough : 2 * cs.length + 1 < steps + 1) (enough' : 2 * cs.length + 1 < steps' + 1) :
    readItems (steps + 1) levels done cs = readItems (steps' + 1) levels done cs := by
  unfold readItems
  rw [h.value levels cs (by omega) (by omega)]
  refine ((leaveAt steps').value levels cs).bind_congr fun item rest hrest => ?_
  dsimp only
  split
  case h_2 | h_3 => rfl
  case h_1 hmore =>
    have taken := length_skipSpace_lt hmore
    exact h.items levels _ _ (by omega) (by omega)

theorem readMembers_succ (done : Members) (cs : List Symbol)
    (enough : 2 * cs.length + 1 < steps + 1) (enough' : 2 * cs.length + 1 < steps' + 1) :
    readMembers (steps + 1) levels done cs = readMembers (steps' + 1) levels done cs := by
  unfold readMembers
  split
  case h_2 => rfl
  case h_1 text =>
    rw [List.length_cons] at enough enough'
    refine (leaves_readString [] none text).bind_congr fun name rest hrest => ?_
    dsimp only
    split
    case h_2 => rfl
    case h_1 hinside =>
      have taken := length_skipSpace_lt hinside
      rw [h.value levels _ (by omega) (by omega)]
      refine ((leaveAt steps').value levels _).bind_congr fun item rest hrest => ?_
      dsimp only
      split
      case h_2 | h_3 => rfl
      case h_1 hmore =>
        have taken' := length_skipSpace_lt hmore
        exact h.members levels _ _ (by omega) (by omega)

end AgreeAt

theorem agreeAt (steps steps' : Nat) : AgreeAt steps steps' := by
  induction steps generalizing steps' with
  | zero =>
      have none {n : Nat} : ¬n < 0 := Nat.not_lt_zero n
      exact ⟨fun _ _ few => absurd few none, fun _ _ _ few => absurd few none,
        fun _ _ _ few => absurd few none⟩
  | succ steps ih =>
      cases steps' with
      | zero =>
          have none {n : Nat} : ¬n < 0 := Nat.not_lt_zero n
          exact ⟨fun _ _ _ few => absurd few none, fun _ _ _ _ few => absurd few none,
            fun _ _ _ _ few => absurd few none⟩
      | succ steps' =>
          have h := ih steps'
          exact ⟨h.readValue_succ, h.readItems_succ, h.readMembers_succ⟩

/-- The bound on the steps of a reader is no bound on what is read. -/
theorem readValue_eq_of_lt {steps : Nat} {cs : List Symbol} (h : 2 * cs.length < steps)
    (levels : Nat) : readValue steps levels (skipSpace cs) =
      readValue (2 * cs.length + 1) levels (skipSpace cs) := by
  have skipped := length_skipSpace_le cs
  exact (agreeAt steps (2 * cs.length + 1)).value levels _ (by omega) (by omega)

/-- Whether a reader does as another one does, unless that refuses a text for its depth. -/
def Extends {α : Type} (r' r : Except Fault α) : Prop :=
  r = .error .tooDeep ∨ r' = r

namespace Extends

variable {α β : Type}

theorem refl {r : Except Fault α} : Extends r r := .inr rfl

theorem trans {r r' r'' : Except Fault α} (h' : Extends r'' r') (h : Extends r' r) :
    Extends r'' r := by
  obtain h | rfl := h
  · exact .inl h
  · exact h'

theorem bind {r r' : Except Fault α} {f f' : α → Except Fault β} (h : Extends r' r)
    (hf : ∀ a, Extends (f' a) (f a)) : Extends (r' >>= f') (r >>= f) := by
  obtain rfl | rfl := h
  · exact .inl rfl
  · cases r' with
    | error e => exact refl
    | ok a => exact hf a

end Extends

/-- Whether one level more does nothing but let the readers with some steps go on. -/
structure ExtendAt (steps : Nat) : Prop where
  value : ∀ levels cs, Extends (readValue steps (levels + 1) cs) (readValue steps levels cs)
  items : ∀ levels done cs,
    Extends (readItems steps (levels + 1) done cs) (readItems steps levels done cs)
  members : ∀ levels done cs,
    Extends (readMembers steps (levels + 1) done cs) (readMembers steps levels done cs)

namespace ExtendAt

variable {steps : Nat} (h : ExtendAt steps)
include h

theorem readValue_succ (levels : Nat) (cs : List Symbol) :
    Extends (readValue (steps + 1) (levels + 1) cs) (readValue (steps + 1) levels cs) := by
  unfold readValue
  split
  case h_1 | h_4 => exact .refl
  all_goals
    cases levels with
    | zero => exact .inl rfl
    | succ levels =>
        dsimp only
        split
        · exact .refl
        · first
          | exact (h.items levels _ _).bind fun _ => .refl
          | exact (h.members levels _ _).bind fun _ => .refl

theorem readItems_succ (levels : Nat) (done : List Json) (cs : List Symbol) :
    Extends (readItems (steps + 1) (levels + 1) done cs)
      (readItems (steps + 1) levels done cs) := by
  unfold readItems
  refine (h.value levels cs).bind ?_
  rintro ⟨item, rest⟩
  dsimp only
  split
  case h_1 => exact h.items levels _ _
  case h_2 | h_3 => exact .refl

theorem readMembers_succ (levels : Nat) (done : Members) (cs : List Symbol) :
    Extends (readMembers (steps + 1) (levels + 1) done cs)
      (readMembers (steps + 1) levels done cs) := by
  unfold readMembers
  split
  case h_2 => exact .refl
  case h_1 text =>
    refine Extends.refl.bind ?_
    rintro ⟨name, rest⟩
    dsimp only
    split
    case h_2 => exact .refl
    case h_1 =>
      refine (h.value levels _).bind ?_
      rintro ⟨item, rest⟩
      dsimp only
      split
      case h_1 => exact h.members levels _ _
      case h_2 | h_3 => exact .refl

end ExtendAt

theorem extendAt (steps : Nat) : ExtendAt steps := by
  induction steps with
  | zero => exact ⟨fun _ _ => .refl, fun _ _ _ => .refl, fun _ _ _ => .refl⟩
  | succ steps ih => exact ⟨ih.readValue_succ, ih.readItems_succ, ih.readMembers_succ⟩

/-- The limit of arrays and objects in each other does nothing but refuse what exceeds it. -/
theorem read_extends {levels levels' : Nat} (h : levels ≤ levels') (cs : List Symbol) :
    Extends (read levels' cs) (read levels cs) := by
  induction h with
  | refl => exact .refl
  | step _ ih =>
      refine Extends.trans ?_ ih
      exact ((extendAt _).value _ _).bind fun _ => .refl

end Transcoding.Json
