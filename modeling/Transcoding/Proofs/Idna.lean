import Transcoding.Idna
import Transcoding.Proofs.Url.PlainHost

/-!
Names of hosts outside ASCII once they are encoded. They are in ASCII then, and the numbers that
Punycode adds to a label end by themselves, so they are read back one by one.
-/

namespace Transcoding.Idna

namespace Punycode

theorem one_le_threshold (place bias : Nat) : 1 ≤ threshold place bias :=
  Nat.le_max_left 1 _

theorem threshold_le (place bias : Nat) : threshold place bias ≤ 26 :=
  Nat.max_le.2 ⟨by decide, Nat.min_le_left 26 _⟩

theorem digit?_digitChar : ∀ n < 36, digit? (digitChar n) = some n := by decide

theorem toNat_digitChar_lt : ∀ n < 36, (digitChar n).toNat < 0x80 := by decide

theorem digit_lt {t n : Nat} (low : 1 ≤ t) (high : t ≤ 26) : t + (n - t) % (36 - t) < 36 := by
  have rest : (n - t) % (36 - t) < 36 - t := Nat.mod_lt _ (by omega)
  omega

theorem toNat_lt_of_mem_writeDelta {bias place n : Nat} {c : Char}
    (h : c ∈ writeDelta bias place n) : c.toNat < 0x80 := by
  have low := one_le_threshold place bias
  have high := threshold_le place bias
  fun_induction writeDelta bias place n with
  | case1 place n t last =>
      obtain rfl := List.mem_singleton.1 h
      exact toNat_digitChar_lt n (by omega)
  | case2 place n t more ih =>
      obtain rfl | h := List.mem_cons.1 h
      · exact toNat_digitChar_lt _ (digit_lt low high)
      · exact ih h (one_le_threshold _ _) (threshold_le _ _)

/-- A difference is read back with whatever follows it, so its digits end by themselves. -/
theorem readDelta_writeDelta (bias place d weight n : Nat) (rest : List Char) :
    readDelta bias place weight n (writeDelta bias place d ++ rest) =
      some (n + d * weight, rest) := by
  fun_induction writeDelta bias place d generalizing weight n with
  | case1 place d t last =>
      have high : t ≤ 26 := threshold_le place bias
      rw [List.singleton_append, readDelta, digit?_digitChar d (by omega)]
      exact if_pos last
  | case2 place d t more ih =>
      have low : 1 ≤ t := one_le_threshold place bias
      have high : t ≤ 26 := threshold_le place bias
      have digit := digit?_digitChar _ (digit_lt (n := d) low high)
      have going : ¬t + (d - t) % (36 - t) < t := Nat.not_lt.2 (Nat.le_add_right t _)
      have parts := Nat.mod_add_div (d - t) (36 - t)
      have total : n + (t + (d - t) % (36 - t)) * weight +
          (d - t) / (36 - t) * (weight * (36 - t)) = n + d * weight := by
        have whole : t + (d - t) % (36 - t) + (36 - t) * ((d - t) / (36 - t)) = d := by omega
        have carried : (d - t) / (36 - t) * (weight * (36 - t)) =
            (36 - t) * ((d - t) / (36 - t)) * weight := by
          rw [← Nat.mul_assoc, Nat.mul_comm _ (36 - t), ← Nat.mul_assoc]
        rw [carried, Nat.add_assoc, ← Nat.add_mul, whole]
      rw [List.cons_append, readDelta, digit, ← total]
      exact (if_neg going).trans (ih _ _)

theorem toNat_lt_of_mem_pass {basic code : Nat} {p : Progress} (h : ∀ c ∈ p.written, c.toNat < 0x80)
    (d : Char) : ∀ c ∈ (p.pass basic code d).written, c.toNat < 0x80 := by
  rw [Progress.pass]
  split
  · exact h
  · split
    · intro c hc
      obtain hc | hc := List.mem_append.1 hc
      · exact h c hc
      · exact toNat_lt_of_mem_writeDelta hc
    · exact h

theorem toNat_lt_of_mem_placeCodes {text : List Char} {basic next : Nat} {p : Progress}
    {codes : List Nat} (h : ∀ c ∈ p.written, c.toNat < 0x80) :
    ∀ c ∈ (placeCodes text basic next p codes).written, c.toNat < 0x80 := by
  induction codes generalizing next p with
  | nil => exact h
  | cons code codes ih =>
      have passed {q : Progress} (hq : ∀ c ∈ q.written, c.toNat < 0x80) :
          ∀ c ∈ (text.foldl (Progress.pass basic code) q).written, c.toNat < 0x80 :=
        List.foldlRecOn text (Progress.pass basic code)
          (motive := fun q => ∀ c ∈ q.written, c.toNat < 0x80) hq
          fun _ hp d _ => toNat_lt_of_mem_pass hp d
      exact ih (passed h)

theorem toNat_lt_of_mem_encode {text : List Char} {c : Char} (h : c ∈ encode text) :
    c.toNat < 0x80 := by
  simp only [encode, List.mem_append, or_assoc] at h
  obtain h | h | h := h
  · exact of_decide_eq_true (List.mem_filter.1 h).2
  · split at h
    · cases h
    · obtain rfl := List.mem_singleton.1 h
      decide
  · exact toNat_lt_of_mem_placeCodes (by exact nofun) c h

end Punycode

theorem toNat_lt_of_encodeLabel? {label encoded : List Char} (h : encodeLabel? label = some encoded)
    {c : Char} (hc : c ∈ encoded) : c.toNat < 0x80 := by
  rw [encodeLabel?, Option.ite_none_right_eq_some] at h
  obtain rfl := Option.some.inj h.2
  split at hc
  · next ascii => exact of_decide_eq_true (List.all_eq_true.1 ascii c hc)
  · obtain hc | hc := List.mem_append.1 hc
    · have ascii : mark.all (·.toNat < 0x80) = true := by decide
      exact of_decide_eq_true (List.all_eq_true.1 ascii c hc)
    · exact Punycode.toNat_lt_of_mem_encode hc

theorem exists_of_mem_mapM {α β : Type} {f : α → Option β} {as : List α} {bs : List β}
    (h : as.mapM f = some bs) {b : β} (hb : b ∈ bs) : ∃ a, f a = some b := by
  induction as generalizing bs with
  | nil =>
      obtain rfl := Option.some.inj h
      cases hb
  | cons a as ih =>
      rw [List.mapM_cons] at h
      obtain ⟨first, hfirst, h⟩ := Option.bind_eq_some_iff.1 h
      obtain ⟨others, hothers, h⟩ := Option.bind_eq_some_iff.1 h
      obtain rfl := Option.some.inj h
      obtain rfl | hb := List.mem_cons.1 hb
      · exact ⟨a, hfirst⟩
      · exact ih hothers hb

/-- The encoded name of a host is ASCII. -/
theorem toNat_lt_of_encode? {name encoded : List Char} (h : encode? name = some encoded) {c : Char}
    (hc : c ∈ encoded) : c.toNat < 0x80 := by
  unfold encode? at h
  obtain ⟨labels, hlabels, h⟩ := Option.bind_eq_some_iff.1 h
  rw [Option.ite_none_left_eq_some] at h
  obtain rfl := Option.some.inj h.2
  have label {l : List Char} (hl : l ∈ labels) (hc : c ∈ l) : c.toNat < 0x80 := by
    obtain ⟨_, hencoded⟩ := exists_of_mem_mapM hlabels hl
    exact toNat_lt_of_encodeLabel? hencoded hc
  obtain dot | ⟨part, hpart, hc⟩ := Url.mem_of_mem_intercalate hc
  · obtain rfl := List.mem_singleton.1 dot
    decide
  · split at hpart
    · obtain hpart | hnil := List.mem_append.1 hpart
      · exact label hpart hc
      · obtain rfl := List.mem_singleton.1 hnil
        cases hc
    · exact label hpart hc

end Transcoding.Idna
