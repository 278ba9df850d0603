import Transcoding.Text.Utf8

/-!
Reading UTF-8 without failing. Wherever reading stands, the bytes of a character are read as that
character, and what was not complete before them as one replacement character. So reading undoes
writing, and a run of characters and loose bytes is never read as more characters than it has parts.
-/

namespace Transcoding.Text

namespace Utf8State

/-- The text read so far, backwards, with what is not complete taken for a replacement character. -/
def flush : Utf8State → List Char
  | (done, none) => done
  | (done, some _) => replacement :: done

theorem flush_none (done : List Char) : flush (done, none) = done := rfl

end Utf8State

/-- Whether only a byte that continues a character can complete what is pending. -/
def Utf8Pending.Sound (p : Utf8Pending) : Prop :=
  0x80 ≤ p.low.toNat ∧ p.high.toNat ≤ 0xBF

def Utf8State.Sound (s : Utf8State) : Prop :=
  ∀ p, s.2 = some p → p.Sound

open Utf8State

theorem Utf8State.sound_none (done : List Char) : Sound (done, none) :=
  nofun

theorem Utf8Pending.sound_of_any (bits missing : Nat) : Sound ⟨bits, missing, 0x80, 0xBF⟩ :=
  ⟨Nat.le_refl 0x80, Nat.le_refl 0xBF⟩

theorem ofUtf8_eq (bytes : List UInt8) :
    ofUtf8 bytes = (bytes.foldl utf8Step ([], none)).flush.reverse := by
  rw [ofUtf8]
  rcases bytes.foldl utf8Step ([], none) with ⟨done, _ | p⟩ <;> rfl

theorem toNat_of_utf8Lead? {b : UInt8} {p : Utf8Pending} (h : utf8Lead? b = some p) :
    b.toNat < 0x80 ∨ 0xC0 ≤ b.toNat := by
  rw [utf8Lead?] at h
  by_cases one : b < 0x80
  · exact .inl (UInt8.lt_iff_toNat_lt.1 one)
  · by_cases below : b < 0xC2
    · rw [if_neg one, if_pos below] at h
      cases h
    · simp only [UInt8.lt_iff_toNat_lt, UInt8.reduceToNat] at below
      exact .inr (by omega)

theorem utf8Lead?_one {b : UInt8} (hb : b.toNat < 0x80) :
    utf8Lead? b = some ⟨b.toNat, 0, 0x80, 0xBF⟩ := by
  rw [utf8Lead?, if_pos (UInt8.lt_iff_toNat_lt.2 hb)]

theorem utf8Lead?_two {b : UInt8} {n : Nat} (hb : b.toNat = 0xC0 + n) (hn : 2 ≤ n ∧ n < 0x20) :
    utf8Lead? b = some ⟨n, 1, 0x80, 0xBF⟩ := by
  simp only [utf8Lead?, UInt8.lt_iff_toNat_lt, UInt8.reduceToNat, hb]
  rw [if_neg (by omega), if_neg (by omega), if_pos (by omega), Nat.add_sub_cancel_left]

theorem utf8Lead?_three {b : UInt8} {n : Nat} (hb : b.toNat = 0xE0 + n) (hn : n < 0x10) :
    utf8Lead? b =
      some ⟨n, 2, if n = 0 then 0xA0 else 0x80, if n = 0xD then 0x9F else 0xBF⟩ := by
  simp only [utf8Lead?, UInt8.lt_iff_toNat_lt, UInt8.reduceToNat, hb, beq_iff_eq,
    ← UInt8.toNat_inj]
  rw [if_neg (by omega), if_neg (by omega), if_neg (by omega), if_pos (by omega),
    Nat.add_sub_cancel_left]
  simp only [show 0xE0 + n = 0xE0 ↔ n = 0 by omega, show 0xE0 + n = 0xED ↔ n = 0xD by omega]

theorem utf8Lead?_four {b : UInt8} {n : Nat} (hb : b.toNat = 0xF0 + n) (hn : n < 5) :
    utf8Lead? b =
      some ⟨n, 3, if n = 0 then 0x90 else 0x80, if n = 4 then 0x8F else 0xBF⟩ := by
  simp only [utf8Lead?, UInt8.lt_iff_toNat_lt, UInt8.reduceToNat, hb, beq_iff_eq,
    ← UInt8.toNat_inj]
  rw [if_neg (by omega), if_neg (by omega), if_neg (by omega), if_neg (by omega),
    if_pos (by omega), Nat.add_sub_cancel_left]
  simp only [show 0xF0 + n = 0xF0 ↔ n = 0 by omega, show 0xF0 + n = 0xF4 ↔ n = 4 by omega]

/-- Whether bytes complete what is pending, to a code point. -/
inductive Utf8Pending.Completes : Utf8Pending → List UInt8 → Nat → Prop
  | done {p : Utf8Pending} (h : p.missing = 0) : Completes p [] p.bits
  | next {p : Utf8Pending} {b : UInt8} {n : Nat} (hb : b.toNat = 0x80 + n) (h : p.missing ≠ 0)
      (low : p.low.toNat ≤ 0x80 + n) (high : 0x80 + n ≤ p.high.toNat) {rest : List UInt8}
      {code : Nat} (others : Completes ⟨p.bits * 0x40 + n, p.missing - 1, 0x80, 0xBF⟩ rest code) :
      Completes p (b :: rest) code

theorem toNat_toUInt8 {n : Nat} (h : n < 256) : n.toUInt8.toNat = n :=
  UInt8.toNat_ofNat_of_lt' h

/-- The first byte of a character begins what the others complete. -/
theorem exists_completes (c : Char) :
    ∃ b rest p, utf8Bytes c = b :: rest ∧ utf8Lead? b = some p ∧ p.Completes rest c.toNat := by
  have hc : c.toNat < 0xD800 ∨ 0xDFFF < c.toNat ∧ c.toNat < 0x110000 := c.valid
  rw [utf8Bytes]
  generalize c.toNat = n at hc
  by_cases h1 : n < 0x80
  · have first : n.toUInt8.toNat = n := toNat_toUInt8 (by omega)
    refine ⟨_, _, ⟨n, 0, 0x80, 0xBF⟩, if_pos h1, ?_, .done rfl⟩
    rw [utf8Lead?_one (by omega), first]
  by_cases h2 : n < 0x800
  · have hn : n = n / 0x40 * 0x40 + n % 0x40 := by omega
    have first := toNat_toUInt8 (n := 0xC0 + n / 0x40) (by omega)
    have last := toNat_toUInt8 (n := 0x80 + n % 0x40) (by omega)
    refine ⟨_, _, _, (if_neg h1).trans (if_pos h2), utf8Lead?_two first (by omega), ?_⟩
    refine .next last (by simp) (by simp) (by simp; omega) ?_
    rw [← hn]
    exact .done rfl
  by_cases h3 : n < 0x10000
  · have hn : n = (n / 0x1000 * 0x40 + n / 0x40 % 0x40) * 0x40 + n % 0x40 := by omega
    have first := toNat_toUInt8 (n := 0xE0 + n / 0x1000) (by omega)
    have second := toNat_toUInt8 (n := 0x80 + n / 0x40 % 0x40) (by omega)
    have last := toNat_toUInt8 (n := 0x80 + n % 0x40) (by omega)
    refine ⟨_, _, _, (if_neg h1).trans ((if_neg h2).trans (if_pos h3)),
      utf8Lead?_three first (by omega), ?_⟩
    refine .next second (by simp) (by dsimp only; split <;> simp; omega)
      (by dsimp only; split <;> (simp; omega)) ?_
    refine .next last (by simp) (by simp) (by simp; omega) ?_
    rw [← hn]
    exact .done rfl
  · have hn : n = ((n / 0x40000 * 0x40 + n / 0x1000 % 0x40) * 0x40 + n / 0x40 % 0x40) * 0x40 +
        n % 0x40 := by omega
    have first := toNat_toUInt8 (n := 0xF0 + n / 0x40000) (by omega)
    have second := toNat_toUInt8 (n := 0x80 + n / 0x1000 % 0x40) (by omega)
    have third := toNat_toUInt8 (n := 0x80 + n / 0x40 % 0x40) (by omega)
    have last := toNat_toUInt8 (n := 0x80 + n % 0x40) (by omega)
    refine ⟨_, _, _, (if_neg h1).trans ((if_neg h2).trans (if_neg h3)),
      utf8Lead?_four first (by omega), ?_⟩
    refine .next second (by simp) (by dsimp only; split <;> simp; omega)
      (by dsimp only; split <;> (simp; omega)) ?_
    refine .next third (by simp) (by simp) (by simp; omega) ?_
    refine .next last (by simp) (by simp) (by simp; omega) ?_
    rw [← hn]
    exact .done rfl

/-- A byte that begins a character ends what was pending. -/
theorem utf8Step_lead {s : Utf8State} (hs : s.Sound) {b : UInt8} {p : Utf8Pending}
    (hb : utf8Lead? b = some p) : utf8Step s b = p.settle s.flush := by
  have began (done : List Char) : utf8Begin done b = p.settle done := by rw [utf8Begin, hb]
  obtain ⟨done, _ | q⟩ := s
  · exact began done
  · obtain ⟨hlow, hhigh⟩ := hs q rfl
    have lead : b.toNat < 0x80 ∨ 0xC0 ≤ b.toNat := toNat_of_utf8Lead? hb
    have outside : ¬(decide (q.low ≤ b) && decide (b ≤ q.high)) = true := by
      simp only [Bool.and_eq_true, decide_eq_true_eq, UInt8.le_iff_toNat_le]
      omega
    exact (if_neg outside).trans (began _)

theorem foldl_of_completes {p : Utf8Pending} {rest : List UInt8} {code : Nat}
    (h : p.Completes rest code) (done : List Char) :
    rest.foldl utf8Step (p.settle done) = (Char.ofNat code :: done, none) := by
  induction h with
  | done h => exact if_pos (beq_iff_eq.2 h)
  | @next p b n hb h low high rest code _ ih =>
      have pending : p.settle done = (done, some p) := if_neg fun heq => h (beq_iff_eq.1 heq)
      have inside : (decide (p.low ≤ b) && decide (b ≤ p.high)) = true := by
        simp only [Bool.and_eq_true, decide_eq_true_eq, UInt8.le_iff_toNat_le, hb]
        exact ⟨low, high⟩
      rw [List.foldl_cons, pending, utf8Step, if_pos inside, hb, Nat.add_sub_cancel_left]
      exact ih

theorem foldl_utf8Bytes (c : Char) {s : Utf8State} (hs : s.Sound) :
    (utf8Bytes c).foldl utf8Step s = (c :: s.flush, none) := by
  obtain ⟨b, rest, p, hbytes, hlead, hrest⟩ := exists_completes c
  rw [hbytes, List.foldl_cons, utf8Step_lead hs hlead, foldl_of_completes hrest, Char.ofNat_toNat]

theorem foldl_toUtf8 (cs done : List Char) :
    (toUtf8 cs).foldl utf8Step (done, none) = (cs.reverse ++ done, none) := by
  induction cs generalizing done with
  | nil => rfl
  | cons c cs ih =>
      have here : (utf8Bytes c).foldl utf8Step (done, none) = (c :: done, none) :=
        foldl_utf8Bytes c (sound_none done)
      rw [toUtf8, List.flatMap_cons, List.foldl_append, here, ← toUtf8, ih, List.reverse_cons,
        List.append_assoc]
      rfl

/-- Reading undoes writing. -/
theorem ofUtf8_toUtf8 (cs : List Char) : ofUtf8 (toUtf8 cs) = cs := by
  rw [ofUtf8_eq, foldl_toUtf8, List.append_nil, flush_none, List.reverse_reverse]

theorem Utf8Pending.Sound.settle {p : Utf8Pending} (h : p.Sound) (done : List Char) :
    Utf8State.Sound (p.settle done) := by
  rw [Utf8Pending.settle]
  split
  · exact sound_none _
  · rintro _ ⟨⟩
    exact h

theorem sound_of_utf8Lead? {b : UInt8} {p : Utf8Pending} (h : utf8Lead? b = some p) : p.Sound := by
  rw [utf8Lead?] at h
  repeat' split at h
  all_goals simp only [Option.some.injEq, reduceCtorEq] at h
  all_goals exact h ▸ ⟨of_decide_eq_true rfl, of_decide_eq_true rfl⟩

theorem sound_utf8Begin (done : List Char) (b : UInt8) : Sound (utf8Begin done b) := by
  rw [utf8Begin]
  split
  · exact sound_none _
  · next p h => exact (sound_of_utf8Lead? h).settle done

theorem sound_utf8Step (s : Utf8State) (b : UInt8) : Sound (utf8Step s b) := by
  obtain ⟨done, _ | p⟩ := s
  · exact sound_utf8Begin done b
  · rw [utf8Step]
    split
    · exact (Utf8Pending.sound_of_any _ _).settle done
    · exact sound_utf8Begin _ b

theorem length_flush_settle_le (p : Utf8Pending) (done : List Char) :
    (p.settle done).flush.length ≤ done.length + 1 := by
  rw [Utf8Pending.settle]
  split <;> exact Nat.le_refl _

theorem length_flush_utf8Begin_le (done : List Char) (b : UInt8) :
    (utf8Begin done b).flush.length ≤ done.length + 1 := by
  rw [utf8Begin]
  split
  · exact Nat.le_refl _
  · next p _ => exact length_flush_settle_le p done

theorem length_flush_utf8Step_le (s : Utf8State) (b : UInt8) :
    (utf8Step s b).flush.length ≤ s.flush.length + 1 := by
  obtain ⟨done, _ | p⟩ := s
  · exact length_flush_utf8Begin_le done b
  · rw [utf8Step]
    split
    · exact Nat.le_succ_of_le (length_flush_settle_le _ done)
    · exact length_flush_utf8Begin_le _ b

end Transcoding.Text
