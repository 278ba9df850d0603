import Transcoding.Proofs.Text.Trim
import Transcoding.Text.Numeral

/-!
Written integers are read back. The number of digits comes along, since neither way may it be more
than the most that a numeral may have.
-/

namespace Transcoding

namespace Numeral

open Text

private theorem readDigits_digitChar {d : Nat} (hd : d < 10) (value count : Nat)
    (tail : List Char) :
    readDigits value count (digitChar d :: tail) =
      readDigits (value * 10 + d) (count + 1) tail := by
  match d, hd with
  | 0, _ | 1, _ | 2, _ | 3, _ | 4, _ | 5, _ | 6, _ | 7, _ | 8, _ | 9, _ => rfl

/-- What digits are worth after a prefix. -/
def worthOf (value : Nat) (ds : List Nat) : Nat :=
  ds.foldl (fun n d => n * 10 + d) value

theorem readDigits_map {ds : List Nat} (h : ∀ d ∈ ds, d < 10) (value count : Nat) :
    readDigits value count (ds.map digitChar) = some (worthOf value ds, count + ds.length, []) := by
  induction ds generalizing value count with
  | nil => rfl
  | cons d ds ih =>
      obtain ⟨hd, hds⟩ := List.forall_mem_cons.1 h
      rw [List.map_cons, readDigits_digitChar hd, ih hds, List.length_cons, Nat.add_assoc,
        Nat.add_comm 1]
      rfl

/-- A number is written by digits that are worth it; there are no more of them than it needs. -/
theorem exists_digits (n : Nat) (tail : List Char) :
    ∃ d ds, (∀ k ∈ d :: ds, k < 10) ∧ worthOf 0 (d :: ds) = n ∧
      (ds = [] ∨ Nat.pow 10 ds.length ≤ n) ∧
      digitsBefore n tail = (d :: ds).map digitChar ++ tail := by
  induction n using Nat.strongRecOn generalizing tail with
  | ind n ih =>
      rw [digitsBefore]
      split
      · next hn =>
          exact ⟨n, [], List.forall_mem_singleton.2 hn, by simp [worthOf], .inl rfl, rfl⟩
      · next hn =>
          obtain ⟨d, ds, hds, hworth, hlength, htext⟩ :=
            ih (n / 10) (by omega) (digitChar (n % 10) :: tail)
          refine ⟨d, ds ++ [n % 10], ?_, ?_, .inr ?_, ?_⟩
          · have last : ∀ k ∈ [n % 10], k < 10 := List.forall_mem_singleton.2 (by omega)
            rw [← List.cons_append]
            exact List.forall_mem_append.2 ⟨hds, last⟩
          · rw [worthOf] at hworth
            rw [worthOf, ← List.cons_append, List.foldl_append, hworth]
            exact Nat.div_add_mod' n 10
          · have hpow : Nat.pow 10 (ds.length + 1) = Nat.pow 10 ds.length * 10 := rfl
            rw [List.length_append, List.length_singleton, hpow]
            obtain rfl | hlength := hlength
            · exact Nat.not_lt.1 hn
            · omega
          · simp [htext]

/-- Different numbers have different numerals. -/
theorem ofNat_inj {n m : Nat} : ofNat n = ofNat m ↔ n = m := by
  refine ⟨fun h => ?_, congrArg ofNat⟩
  have worth (n : Nat) : ∃ k, readDigits 0 0 (ofNat n) = some (n, k, []) := by
    obtain ⟨d, ds, hds, hworth, -, htext⟩ := exists_digits n []
    rw [ofNat, htext, List.append_nil, readDigits_map hds, hworth]
    exact ⟨_, rfl⟩
  obtain ⟨_, hn⟩ := worth n
  obtain ⟨_, hm⟩ := worth m
  rw [h, hm] at hn
  cases hn
  rfl

theorem head?_digitsBefore (n : Nat) (tail : List Char) :
    ∃ d, d < 10 ∧ (digitsBefore n tail).head? = some (digitChar d) := by
  obtain ⟨d, ds, hds, -, -, htext⟩ := exists_digits n tail
  exact ⟨d, (List.forall_mem_cons.1 hds).1, by rw [htext]; rfl⟩

theorem ofInt_inj {i j : Int} : ofInt i = ofInt j ↔ i = j := by
  refine ⟨fun h => ?_, congrArg ofInt⟩
  have minus (n m : Nat) : ofNat n ≠ '-' :: ofNat m := by
    obtain ⟨d, hd, hhead⟩ := head?_digitsBefore n []
    intro h
    have first : some (digitChar d) = some '-' := hhead.symm.trans (congrArg List.head? h)
    have digit : ∀ d < 10, digitChar d ≠ '-' := by decide
    exact digit d hd (Option.some.inj first)
  cases i with
  | ofNat n =>
      cases j with
      | ofNat m => exact congrArg Int.ofNat (ofNat_inj.1 h)
      | negSucc m => exact absurd h (minus n (m + 1))
  | negSucc n =>
      cases j with
      | ofNat m => exact absurd h.symm (minus m (n + 1))
      | negSucc m =>
          have tails : ofNat (n + 1) = ofNat (m + 1) := (List.cons.inj h).2
          exact congrArg Int.negSucc (Nat.succ.inj (ofNat_inj.1 tails))

/-- A test that holds of the minus sign and the ten digits holds of every character of a
numeral. -/
theorem forall_mem_ofInt {p : Char → Prop} (minus : p '-') (digit : ∀ d < 10, p (digitChar d))
    (i : Int) : ∀ c ∈ ofInt i, p c := by
  have nat (n : Nat) : ∀ c ∈ ofNat n, p c := by
    obtain ⟨d, ds, hds, -, -, htext⟩ := exists_digits n []
    rw [ofNat, htext, List.append_nil]
    exact List.forall_mem_map.2 fun k hk => digit k (hds k hk)
  intro c hc
  cases i with
  | ofNat n => exact nat n c hc
  | negSucc n =>
      rcases List.mem_cons.1 hc with rfl | hc
      · exact minus
      · exact nat (n + 1) c hc

private theorem pow_mono {k m : Nat} (h : k ≤ m) : Nat.pow 10 k ≤ Nat.pow 10 m :=
  Nat.pow_le_pow_right (by decide) h

private theorem lt_of_pow_le {n m k : Nat} (h : n < Nat.pow 10 m) (hk : Nat.pow 10 k ≤ n) :
    k < m := by
  apply Nat.lt_of_not_le
  intro hmk
  have hle := pow_mono hmk
  omega

theorem splitSign_digitChar {d : Nat} (hd : d < 10) (rest : List Char) :
    splitSign (digitChar d :: rest) = (false, digitChar d :: rest) := by
  match d, hd with
  | 0, _ | 1, _ | 2, _ | 3, _ | 4, _ | 5, _ | 6, _ | 7, _ | 8, _ | 9, _ => rfl

theorem isBlank_digitChar : ∀ d < 10, isBlank (digitChar d) = false := by decide

/-- Whether digits make a numeral. -/
structure IsDigits (ds : List Nat) : Prop where
  nonempty : ds ≠ []
  lt_ten : ∀ d ∈ ds, d < 10
  length_le : ds.length ≤ maxDigits

/-- The numerals of an integer in ASCII digits: zeros may lead, and a plus sign makes no
difference. -/
inductive Writes : Int → List Char → Prop
  | bare {ds : List Nat} : IsDigits ds → Writes (worthOf 0 ds) (ds.map digitChar)
  | plus {ds : List Nat} : IsDigits ds → Writes (worthOf 0 ds) ('+' :: ds.map digitChar)
  | minus {ds : List Nat} : IsDigits ds → Writes (-(worthOf 0 ds : Int)) ('-' :: ds.map digitChar)

theorem IsDigits.notBlank {ds : List Nat} (h : IsDigits ds) :
    ∀ c ∈ ds.map digitChar, isBlank c = false :=
  List.forall_mem_map.2 fun d hd => isBlank_digitChar d (h.lt_ten d hd)

theorem IsDigits.read_eq {ds : List Nat} (h : IsDigits ds) {text : List Char} {negative : Bool}
    (hb : ∀ c ∈ text, isBlank c = false) (hs : splitSign text = (negative, ds.map digitChar)) :
    read text = .ok (signed negative (worthOf 0 ds)) := by
  have digit : (ds.map digitChar).head?.any isDigit = true := by
    obtain ⟨d, ds, rfl⟩ := List.exists_cons_of_ne_nil h.nonempty
    simp [isDigit, digit?_digitChar (List.forall_mem_cons.1 h.lt_ten).1]
  have fits : ¬maxDigits < 0 + ds.length := by
    have length_le := h.length_le
    omega
  simp only [read, (isTrimmed_of_forall hb).trim_self, hs, digit, readDigits_map h.lt_ten,
    if_neg fits]
  rfl

theorem Writes.notBlank {i : Int} {text : List Char} (h : Writes i text) :
    ∀ c ∈ text, isBlank c = false := by
  cases h with
  | bare h => exact h.notBlank
  | plus h | minus h => exact List.forall_mem_cons.2 ⟨rfl, h.notBlank⟩

theorem Writes.isTrimmed {i : Int} {text : List Char} (h : Writes i text) : IsTrimmed text :=
  isTrimmed_of_forall h.notBlank

/-- Every numeral is read as its integer. -/
theorem Writes.read_eq {i : Int} {text : List Char} (h : Writes i text) : read text = .ok i := by
  have hb := h.notBlank
  cases h with
  | @bare ds h =>
      have unsigned : splitSign (ds.map digitChar) = (false, ds.map digitChar) := by
        obtain ⟨d, ds, rfl⟩ := List.exists_cons_of_ne_nil h.nonempty
        exact splitSign_digitChar (List.forall_mem_cons.1 h.lt_ten).1 _
      exact h.read_eq hb unsigned
  | plus h => exact h.read_eq hb rfl
  | minus h => exact h.read_eq hb rfl

/-- Whether an integer is not too long to be written. -/
def Fits (i : Int) : Prop :=
  i.natAbs < Nat.pow 10 maxDigits

instance : DecidablePred Fits :=
  fun i => inferInstanceAs (Decidable (i.natAbs < Nat.pow 10 maxDigits))

theorem write_eq_ok_iff {i : Int} {cs : List Char} : write i = .ok cs ↔ Fits i ∧ cs = ofInt i := by
  rw [write_eq]
  split
  · next h => exact ⟨fun hcs => ⟨h, by cases hcs; rfl⟩, fun ⟨_, hcs⟩ => by rw [hcs]⟩
  · next h => exact ⟨nofun, fun ⟨hi, _⟩ => absurd hi h⟩

theorem writes_ofInt {i : Int} (h : Fits i) : Writes i (ofInt i) := by
  have digits {n : Nat} (hn : n < Nat.pow 10 maxDigits) :
      ∃ ds, IsDigits ds ∧ worthOf 0 ds = n ∧ ofNat n = ds.map digitChar := by
    obtain ⟨d, ds, hds, hworth, hlength, htext⟩ := exists_digits n []
    have length_le : (d :: ds).length ≤ maxDigits := by
      obtain rfl | hlength := hlength
      · exact Nat.le_of_ble_eq_true rfl
      · exact lt_of_pow_le hn hlength
    rw [List.append_nil] at htext
    exact ⟨d :: ds, ⟨List.cons_ne_nil _ _, hds, length_le⟩, hworth, htext⟩
  cases i with
  | ofNat n =>
      obtain ⟨ds, hds, rfl, htext⟩ := digits (n := n) h
      rw [ofInt, htext]
      exact .bare hds
  | negSucc n =>
      obtain ⟨ds, hds, hworth, htext⟩ := digits (n := n + 1) h
      have worth : Int.negSucc n = -(worthOf 0 ds : Int) := by
        rw [hworth]
        rfl
      rw [ofInt, htext, worth]
      exact .minus hds

/-- Reading undoes writing. -/
theorem read_ofInt {i : Int} (h : Fits i) : read (ofInt i) = .ok i :=
  (writes_ofInt h).read_eq

theorem lt_of_digit? {c : Char} {d : Nat} (h : digit? c = some d) : d < 10 := by
  rw [digit?] at h
  split at h
  · split at h
    · next hc =>
        obtain ⟨-, hle⟩ := Bool.and_eq_true_iff.1 hc
        have nine : c.toNat ≤ 57 := of_decide_eq_true hle
        cases h
        change c.toNat - 48 < 10
        omega
    · cases h
  · obtain ⟨z, hz, rfl⟩ := Option.map_eq_some_iff.1 h
    have within := List.find?_some hz
    simp only [Bool.and_eq_true, decide_eq_true_eq] at within
    omega

theorem readDigits_lt {value count : Nat} {cs : List Char} {n k : Nat} {rest : List Char}
    (h : readDigits value count cs = some (n, k, rest)) (hv : value < Nat.pow 10 count) :
    n < Nat.pow 10 k := by
  have more {value count d : Nat} (hv : value < Nat.pow 10 count) (hd : d < 10) :
      value * 10 + d < Nat.pow 10 (count + 1) := by
    have pow : Nat.pow 10 (count + 1) = Nat.pow 10 count * 10 := rfl
    omega
  fun_induction readDigits value count cs with
  | case1 value count =>
      cases h
      exact hv
  | case2 value count => cases h
  | case3 value count c rest d hd ih => exact ih h (more hv (lt_of_digit? hd))
  | case4 value count c rest hd => cases h
  | case5 value count c rest hc hr d hd ih => exact ih h (more hv (lt_of_digit? hd))
  | case6 value count c rest hc hr hd =>
      cases h
      exact hv

theorem natAbs_signed (negative : Bool) (n : Nat) : (signed negative n).natAbs = n := by
  cases negative with
  | false => rfl
  | true => exact Int.natAbs_neg n

/-- An integer that is read has few enough digits to be written. -/
theorem fits_of_read {text : List Char} {i : Int} (h : read text = .ok i) : Fits i := by
  simp only [read] at h
  split at h
  · cases h
  · split at h
    · cases h
    · next hread =>
        split at h
        · cases h
        · next hcount =>
            split at h
            · cases h
              rw [Fits, natAbs_signed]
              have one : 0 < Nat.pow 10 0 := Nat.one_pos
              have few := pow_mono (Nat.le_of_not_lt hcount)
              exact Nat.lt_of_lt_of_le (readDigits_lt hread one) few
            · cases h

end Numeral
end Transcoding
