/-!
Letters and digits of ASCII by their code points, and what letter case does to them.
-/

namespace Transcoding.Text

theorem forall_ascii {p : Char → Prop} (h : ∀ n < 0x80, p (Char.ofNat n)) {c : Char}
    (hc : c.toNat < 0x80) : p c := by
  have here := h c.toNat hc
  rwa [Char.ofNat_toNat] at here

variable {c : Char}

theorem bounds_of_between {first last : UInt32}
    (h : (decide (first ≤ c.val) && decide (c.val ≤ last)) = true) :
    first.toNat ≤ c.toNat ∧ c.toNat ≤ last.toNat := by
  rwa [Bool.and_eq_true, decide_eq_true_eq, decide_eq_true_eq, UInt32.le_iff_toNat_le,
    UInt32.le_iff_toNat_le] at h

theorem bounds_of_isAlphanum (h : c.isAlphanum = true) : 0x30 ≤ c.toNat ∧ c.toNat ≤ 0x7A := by
  obtain letter | digit := Bool.or_eq_true_iff.1 h
  · obtain upper | lower := Bool.or_eq_true_iff.1 letter
    · obtain ⟨above, below⟩ := of_decide_eq_true upper
      exact ⟨Nat.le_trans (by decide) above, Nat.le_trans below (by decide)⟩
    · obtain ⟨above, below⟩ := bounds_of_between lower
      exact ⟨Nat.le_trans (by decide) above, below⟩
  · obtain ⟨above, below⟩ := bounds_of_between digit
    exact ⟨above, Nat.le_trans below (by decide)⟩

theorem isAlpha_of_isLower (h : c.isLower = true) : c.isAlpha = true :=
  Bool.or_eq_true_iff.2 (.inr h)

theorem isAlphanum_of_isAlpha (h : c.isAlpha = true) : c.isAlphanum = true :=
  Bool.or_eq_true_iff.2 (.inl h)

theorem isLower_or_toUpper_eq (c : Char) : c.isLower = true ∨ c.toUpper = c := by
  by_cases hlower : 'a'.val ≤ c.val ∧ c.val ≤ 'z'.val
  · exact .inl (Bool.and_eq_true_iff.2 ⟨decide_eq_true hlower.1, decide_eq_true hlower.2⟩)
  · exact .inr (dif_neg hlower)

theorem isAlpha_of_toUpper (h : c.toUpper.isAlpha = true) : c.isAlpha = true := by
  obtain lower | same := isLower_or_toUpper_eq c
  · exact isAlpha_of_isLower lower
  · rwa [same] at h

end Transcoding.Text
