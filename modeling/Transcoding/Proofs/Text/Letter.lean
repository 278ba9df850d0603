import Mathlib.Data.List.Forall2
import Transcoding.Proofs.Text.Ascii
import Transcoding.Proofs.Text.Trim
import Transcoding.Text.Letter

/-!
Words in any case. The Kelvin sign is the only character outside ASCII whose lower case is in ASCII,
no character lowers to nothing, and where a capital sigma stands decides only between two letters
outside ASCII. So a text has the lower case of an ASCII word without a k exactly if it is the word
but for the case of its ASCII letters.
-/

namespace Transcoding.Text

/-- Whether a text is a word in lower case, but for the case of its ASCII letters. -/
def InAnyCase (word text : List Char) : Prop :=
  List.Forall₂ (fun l c => c = l ∨ c = l.toUpper) word text

/-- Whether a character of a word is the lower case of nothing but itself and an ASCII letter. -/
def IsPlainLower (l : Char) : Prop :=
  l.toNat < 0x80 ∧ l.isUpper = false ∧ l ≠ 'k'

instance : DecidablePred IsPlainLower :=
  fun _ => inferInstanceAs (Decidable (_ ∧ _))

theorem toLower_toUpper {l : Char} (ascii : l.toNat < 0x80) (lowered : l.isUpper = false) :
    l.toUpper.toLower = l := by
  have all : ∀ n < 0x80, (Char.ofNat n).isUpper = false →
      (Char.ofNat n).toUpper.toLower = Char.ofNat n := by decide
  exact forall_ascii (p := fun l => l.isUpper = false → l.toUpper.toLower = l) all ascii lowered

theorem toLower_of_not_isUpper {c : Char} (hc : c.isUpper = false) : c.toLower = c := by
  have outside : ¬(c.val ≥ 'A'.val ∧ c.val ≤ 'Z'.val) := of_decide_eq_false hc
  exact dif_neg outside

theorem toUpper_toLower {c : Char} (hc : c.isUpper = true) : c.toLower.toUpper = c := by
  have ascii : c.toNat < 0x80 := by
    obtain ⟨-, below⟩ := of_decide_eq_true hc
    exact Nat.lt_of_le_of_lt below (by decide)
  have all : ∀ n < 0x80, (Char.ofNat n).isUpper = true →
      (Char.ofNat n).toLower.toUpper = Char.ofNat n := by decide
  exact forall_ascii (p := fun c => c.isUpper = true → c.toLower.toUpper = c) all ascii hc

theorem IsPlainLower.toLower_eq_iff {l : Char} (h : IsPlainLower l) {c : Char} :
    c.toLower = l ↔ c = l ∨ c = l.toUpper := by
  obtain ⟨ascii, lowered, -⟩ := h
  constructor
  · rintro rfl
    cases hc : c.isUpper with
    | true => exact .inr (toUpper_toLower hc).symm
    | false => exact .inl (toLower_of_not_isUpper hc).symm
  · rintro (rfl | rfl)
    · exact toLower_of_not_isUpper lowered
    · exact toLower_toUpper ascii lowered

theorem toNat_toUpper_lt {l : Char} (ascii : l.toNat < 0x80) : l.toUpper.toNat < 0x80 :=
  forall_ascii (p := fun l => l.toUpper.toNat < 0x80) (by decide) ascii

/-- Whether all characters of a run but the Kelvin sign lower to characters outside ASCII. -/
def StaysForeign (first last : Nat) (distance : Int) : Prop :=
  (first = 0x212A ∧ last = 0x212A) ∨
    (0x80 ≤ first + distance ∧
      (last + distance < 0xD800 ∨ 0xDFFF < first + distance ∧ last + distance < 0x110000))

instance (first last : Nat) (distance : Int) : Decidable (StaysForeign first last distance) :=
  inferInstanceAs (Decidable (_ ∨ _))

theorem staysForeign_of_mem :
    ∀ run ∈ lowerRuns, StaysForeign run.1 run.2.1 run.2.2.2 := by
  decide +kernel

theorem toNat_ofNat_of_isValidChar {n : Nat} (valid : n.isValidChar) :
    (Char.ofNat n).toNat = n := by
  rw [Char.ofNat, dif_pos valid]
  rfl

theorem exists_foreign_of_changeCase {c : Char} (foreign : 0x80 ≤ c.toNat) (kelvin : c ≠ '\u212a') :
    ∃ d ∈ changeCase longLowers lowerRuns c, 0x80 ≤ d.toNat := by
  rw [changeCase]
  split
  next code codes found =>
    have listed := List.mem_singleton.1 (List.mem_of_find?_eq_some found)
    obtain ⟨-, rfl⟩ := Prod.mk.inj listed
    exact ⟨'\u0307', .tail _ (.head _), by decide⟩
  next =>
    split
    next first last step distance found =>
      have within := List.find?_some found
      simp only [Bool.and_eq_true, decide_eq_true_eq] at within
      obtain ⟨⟨above, below⟩, -⟩ := within
      refine ⟨_, .head _, ?_⟩
      obtain ⟨hfirst, hlast⟩ | ⟨low, valid⟩ :=
        staysForeign_of_mem _ (List.mem_of_find?_eq_some found)
      · refine absurd (Char.toNat_inj.1 ?_) kelvin
        exact Nat.le_antisymm (below.trans_eq hlast) (hfirst.symm.le.trans above)
      · change 0x80 ≤ (first : Int) + distance at low
        change (last : Int) + distance < 0xD800 ∨
          0xDFFF < (first : Int) + distance ∧ (last : Int) + distance < 0x110000 at valid
        rw [toNat_ofNat_of_isValidChar (by unfold Nat.isValidChar; omega)]
        omega
    next => exact ⟨c, .head _, foreign⟩

variable {before after : List Char} {c : Char}

theorem lower_of_ascii (ascii : c.toNat < 0x80) : lower before c after = [c.toLower] :=
  if_pos ascii

theorem exists_foreign_of_lower (foreign : 0x80 ≤ c.toNat) (kelvin : c ≠ '\u212a') :
    ∃ d ∈ lower before c after, 0x80 ≤ d.toNat := by
  rw [lower, if_neg (Nat.not_lt.2 foreign)]
  split
  · split
    · exact ⟨_, .head _, by decide⟩
    · exact ⟨_, .head _, by decide⟩
  · exact exists_foreign_of_changeCase foreign kelvin

theorem lowerAfter_eq_iff {word : List Char} (h : ∀ l ∈ word, IsPlainLower l) {text : List Char} :
    lowerAfter before text = word ↔ InAnyCase word text := by
  induction text generalizing before word with
  | nil =>
      rw [lowerAfter, InAnyCase, List.forall₂_nil_right_iff]
      exact eq_comm
  | cons c text ih =>
      rw [lowerAfter]
      by_cases ascii : c.toNat < 0x80
      · rw [lower_of_ascii ascii, List.singleton_append]
        cases word with
        | nil => exact ⟨nofun, nofun⟩
        | cons l word =>
            obtain ⟨hl, hword⟩ := List.forall_mem_cons.1 h
            rw [List.cons_eq_cons, hl.toLower_eq_iff, ih hword, InAnyCase, InAnyCase,
              List.forall₂_cons]
      · refine iff_of_false ?_ ?_
        · rintro rfl
          by_cases kelvin : c = '\u212a'
          · subst kelvin
            exact (h 'k' (.head _)).2.2 rfl
          · obtain ⟨d, hd, foreign⟩ := exists_foreign_of_lower (Nat.not_lt.1 ascii) kelvin
            exact Nat.not_lt.2 foreign (h d (List.mem_append_left _ hd)).1
        · intro same
          obtain ⟨l, word', hc, -, rfl⟩ := List.forall₂_cons_right_iff.1 same
          have plain := (h l (.head _)).1
          obtain rfl | rfl := hc
          · exact ascii plain
          · exact ascii (toNat_toUpper_lt plain)

/-- No character but the letters of a word themselves is taken for one of them. -/
theorem toLower_eq_iff {word : List Char} (h : ∀ l ∈ word, IsPlainLower l) {text : List Char} :
    toLower text = word ↔ InAnyCase word text :=
  lowerAfter_eq_iff h

/-- What holds of the letters of a word in both cases holds of all that is the word in any case. -/
theorem InAnyCase.forall_mem {p : Char → Prop} {word text : List Char} (h : InAnyCase word text)
    (letters : ∀ l ∈ word, p l ∧ p l.toUpper) : ∀ c ∈ text, p c := by
  rw [InAnyCase] at h
  induction h with
  | nil => exact nofun
  | cons same rest ih =>
      obtain ⟨⟨lowered, raised⟩, others⟩ := List.forall_mem_cons.1 letters
      refine List.forall_mem_cons.2 ⟨?_, ih others⟩
      obtain rfl | rfl := same
      · exact lowered
      · exact raised

theorem isBlank_of_isAlphanum {c : Char} (h : c.isAlphanum = true) : isBlank c = false := by
  obtain ⟨above, below⟩ := bounds_of_isAlphanum h
  simp only [isBlank, Bool.or_eq_false_iff, Bool.and_eq_false_iff, decide_eq_false_iff_not,
    beq_eq_false_iff_ne]
  omega

example : InAnyCase "hls".toList "HlS".toList :=
  (toLower_eq_iff (forall_of_all (by decide))).1 rfl

end Transcoding.Text
