import Mathlib.Tactic.Ring
import Transcoding.Text.Quoted

/-!
Quoted texts tell what is quoted. Each character can be read off its escape, and no escape begins
with the quote, so a quoted text ends by itself wherever it stands. All its characters are
printable: it has no controls and no line ends.
-/

namespace Transcoding.Text

def hexWorth (c : Char) : Nat :=
  "0123456789abcdef".toList.idxOf c

/-- What hexadecimal digits are worth after a prefix. -/
def hexNumber (value : Nat) (digits : List Char) : Nat :=
  digits.foldl (fun n c => n * 16 + hexWorth c) value

theorem hexWorth_hexDigit : ∀ n < 16, hexWorth (hexDigit n) = n := by decide

theorem hexNumber_hexDigits (value n width : Nat) :
    hexNumber value (hexDigits n width) = value * Nat.pow 16 width + n % Nat.pow 16 width := by
  induction width generalizing value with
  | zero =>
      have one : n % Nat.pow 16 0 = 0 := Nat.mod_one n
      rw [one]
      exact (Nat.mul_one value).symm
  | succ width ih =>
      have digit : n / Nat.pow 16 width % 16 < 16 := Nat.mod_lt _ (by decide)
      have power : Nat.pow 16 (width + 1) = Nat.pow 16 width * 16 := rfl
      have first : hexNumber value (hexDigits n (width + 1)) =
          hexNumber (value * 16 + n / Nat.pow 16 width % 16) (hexDigits n width) := by
        rw [hexDigits, hexNumber, List.foldl_cons, hexWorth_hexDigit _ digit, ← hexNumber]
      rw [first, ih, power, Nat.mod_mul]
      ring

theorem length_hexDigits (n width : Nat) : (hexDigits n width).length = width := by
  induction width with
  | zero => rfl
  | succ width ih => rw [hexDigits, List.length_cons, ih]

theorem take_hexDigits (n width : Nat) (rest : List Char) :
    (hexDigits n width ++ rest).take width = hexDigits n width :=
  List.take_left' (length_hexDigits n width)

/-- The marks that can stand around a text. -/
def IsQuote (q : Char) : Prop :=
  q = '\'' ∨ q = '"'

/-- The letters in front of a code, and how many digits follow each. -/
inductive IsCodeMark : Char → Nat → Prop
  | two : IsCodeMark 'x' 2
  | four : IsCodeMark 'u' 4
  | eight : IsCodeMark 'U' 8

/-- The ways to write a character inside a quote. -/
inductive Escapes (q : Char) : Char → List Char → Prop
  | marked {c : Char} : c = q ∨ c = '\\' → Escapes q c ['\\', c]
  | lineFeed : Escapes q '\n' ['\\', 'n']
  | carriageReturn : Escapes q '\r' ['\\', 'r']
  | tab : Escapes q '\t' ['\\', 't']
  | plain {c : Char} : c ≠ q → c ≠ '\\' → isPrintable c = true → Escapes q c [c]
  | code {c mark : Char} {width : Nat} : IsCodeMark mark width → c.toNat < Nat.pow 16 width →
      Escapes q c ('\\' :: mark :: hexDigits c.toNat width)

theorem isQuote_quoteFor (cs : List Char) : IsQuote (quoteFor cs) := by
  rw [quoteFor]
  split
  · exact .inr rfl
  · exact .inl rfl

theorem escapes_codeEscape (q c : Char) : Escapes q c (codeEscape c) := by
  rw [codeEscape]
  split
  · next h => exact .code .two h
  · split
    · next h => exact .code .four h
    · have valid : c.toNat < 0x110000 := by
        obtain low | ⟨-, high⟩ := c.valid
        · exact Nat.lt_trans low (by decide)
        · exact high
      exact .code .eight (Nat.lt_trans valid (by decide))

theorem escapes_escapeIn (q c : Char) : Escapes q c (escapeIn q c) := by
  rw [escapeIn]
  split
  · next h => exact .marked ((Bool.or_eq_true_iff.1 h).imp beq_iff_eq.1 beq_iff_eq.1)
  · next h =>
      have other : c ≠ q ∧ c ≠ '\\' := by simpa using h
      split
      · next h => exact beq_iff_eq.1 h ▸ .lineFeed
      · split
        · next h => exact beq_iff_eq.1 h ▸ .carriageReturn
        · split
          · next h => exact beq_iff_eq.1 h ▸ .tab
          · split
            · next printable => exact .plain other.1 other.2 printable
            · exact escapes_codeEscape q c

/-- The character whose code is in the first digits of a text. -/
def codedChar (width : Nat) (digits : List Char) : Char :=
  Char.ofNat (hexNumber 0 (digits.take width))

/-- The character that an escape stands for, from what is behind its backslash. -/
def escapedChar? : List Char → Option Char
  | 'n' :: _ => some '\n'
  | 'r' :: _ => some '\r'
  | 't' :: _ => some '\t'
  | 'x' :: rest => some (codedChar 2 rest)
  | 'u' :: rest => some (codedChar 4 rest)
  | 'U' :: rest => some (codedChar 8 rest)
  | cs => cs.head?

/-- The character that the first escape of a text stands for. -/
def firstChar? : List Char → Option Char
  | [] => none
  | c :: rest => if c = '\\' then escapedChar? rest else some c

variable {q c : Char} {escape cs cs' rest rest' : List Char}

theorem codedChar_hexDigits {width : Nat} (h : c.toNat < Nat.pow 16 width) (rest : List Char) :
    codedChar width (hexDigits c.toNat width ++ rest) = c := by
  rw [codedChar, take_hexDigits, hexNumber_hexDigits, Nat.zero_mul, Nat.zero_add,
    Nat.mod_eq_of_lt h, Char.ofNat_toNat]

/-- A character can be read off its escape, whatever follows. -/
theorem Escapes.firstChar?_eq (h : Escapes q c escape) (hq : IsQuote q) (rest : List Char) :
    firstChar? (escape ++ rest) = some c := by
  cases h with
  | marked h =>
      obtain rfl | rfl := h
      · obtain rfl | rfl := hq <;> rfl
      · rfl
  | lineFeed | carriageReturn | tab => rfl
  | plain _ other _ => exact if_neg other
  | code mark h =>
      have coded := congrArg some (codedChar_hexDigits h rest)
      cases mark with
      | two | four | eight => exact coded

/-- No escape begins with the quote, so a quote ends the text. -/
theorem Escapes.exists_cons (h : Escapes q c escape) (hq : IsQuote q) :
    ∃ first others, escape = first :: others ∧ first ≠ q := by
  have backslash : '\\' ≠ q := by
    obtain rfl | rfl := hq <;> decide
  cases h with
  | marked _ | lineFeed | carriageReturn | tab | code _ _ => exact ⟨_, _, rfl, backslash⟩
  | plain other _ _ => exact ⟨_, _, rfl, other⟩

theorem firstChar?_escapeIn (hq : IsQuote q) (c : Char) (rest : List Char) :
    firstChar? (escapeIn q c ++ rest) = some c :=
  (escapes_escapeIn q c).firstChar?_eq hq rest

theorem flatMap_escapeIn_append_inj (hq : IsQuote q)
    (h : cs.flatMap (escapeIn q) ++ q :: rest = cs'.flatMap (escapeIn q) ++ q :: rest') :
    cs = cs' ∧ rest = rest' := by
  -- Where one text is at its end, the other one cannot begin with an escape.
  have apart (c : Char) (tail tail' : List Char) : q :: tail ≠ escapeIn q c ++ tail' := by
    obtain ⟨first, others, hescape, differs⟩ := (escapes_escapeIn q c).exists_cons hq
    rw [hescape]
    exact fun h => differs (List.cons.inj h).1.symm
  induction cs generalizing cs' with
  | nil =>
      cases cs' with
      | nil => exact ⟨rfl, (List.cons.inj h).2⟩
      | cons c' cs' =>
          rw [List.flatMap_cons, List.append_assoc] at h
          exact absurd h (apart c' rest _)
  | cons c cs ih =>
      rw [List.flatMap_cons, List.append_assoc] at h
      cases cs' with
      | nil => exact absurd h.symm (apart c rest' _)
      | cons c' cs' =>
          rw [List.flatMap_cons, List.append_assoc] at h
          have same := congrArg firstChar? h
          rw [firstChar?_escapeIn hq, firstChar?_escapeIn hq] at same
          obtain rfl := Option.some.inj same
          obtain ⟨rfl, hrest⟩ := ih (List.append_cancel_left h)
          exact ⟨rfl, hrest⟩

/-- What is quoted and what follows can be told from a text that begins with a quoted one. -/
theorem quote_append_inj (h : quote cs ++ rest = quote cs' ++ rest') : cs = cs' ∧ rest = rest' := by
  rw [quote, quote, List.append_assoc, List.append_assoc] at h
  obtain ⟨mark, body⟩ := List.cons.inj h
  rw [← mark] at body
  exact flatMap_escapeIn_append_inj (isQuote_quoteFor cs) body

theorem quoted_append_inj {s s' t t' : String} (h : quoted s ++ t = quoted s' ++ t') :
    s = s' ∧ t = t' := by
  have texts := congrArg String.toList h
  simp only [String.toList_append, quoted, String.toList_ofList] at texts
  exact (quote_append_inj texts).imp String.toList_inj.1 String.toList_inj.1

theorem quoted_inj {s s' : String} (h : quoted s = quoted s') : s = s' :=
  (quoted_append_inj (congrArg (· ++ "") h)).1

theorem forall_mem_hexDigits {p : Char → Prop} (h : ∀ d < 16, p (hexDigit d)) (n width : Nat) :
    ∀ c ∈ hexDigits n width, p c := by
  induction width with
  | zero => exact List.forall_mem_nil p
  | succ width ih => exact List.forall_mem_cons.2 ⟨h _ (Nat.mod_lt _ (by decide)), ih⟩

theorem IsQuote.printable (hq : IsQuote q) : isPrintable q = true := by
  obtain rfl | rfl := hq <;> rfl

theorem Escapes.printable (h : Escapes q c escape) (hq : IsQuote q) :
    ∀ d ∈ escape, isPrintable d = true := by
  have digit : ∀ d < 16, isPrintable (hexDigit d) = true := by decide
  have mark {m : Char} (hm : isPrintable m = true) {cs : List Char}
      (hcs : ∀ d ∈ cs, isPrintable d = true) :
      ∀ d ∈ '\\' :: m :: cs, isPrintable d = true :=
    List.forall_mem_cons.2 ⟨rfl, List.forall_mem_cons.2 ⟨hm, hcs⟩⟩
  cases h with
  | marked h =>
      obtain rfl | rfl := h
      · exact mark hq.printable (List.forall_mem_nil _)
      · exact mark rfl (List.forall_mem_nil _)
  | lineFeed | carriageReturn | tab => exact mark rfl (List.forall_mem_nil _)
  | plain _ _ printable => exact List.forall_mem_singleton.2 printable
  | code h _ =>
      have digits := forall_mem_hexDigits (p := fun d => isPrintable d = true) digit c.toNat
      cases h with
      | two | four | eight => exact mark rfl (digits _)

theorem isPrintable_of_mem_quote (h : c ∈ quote cs) : isPrintable c = true := by
  have hq := isQuote_quoteFor cs
  rw [quote, List.mem_append, List.mem_cons, List.mem_singleton] at h
  obtain (rfl | h) | rfl := h
  · exact hq.printable
  · obtain ⟨d, -, hc⟩ := List.mem_flatMap.1 h
    exact (escapes_escapeIn _ d).printable hq c hc
  · exact hq.printable

/-- Whether all characters of a text are printable. -/
def Printable (s : String) : Prop :=
  ∀ c ∈ s.toList, isPrintable c = true

theorem printable_of_all {s : String} (h : s.toList.all isPrintable = true) : Printable s :=
  List.all_eq_true.1 h

theorem Printable.append {s t : String} (hs : Printable s) (ht : Printable t) :
    Printable (s ++ t) := by
  rw [Printable, String.toList_append]
  exact List.forall_mem_append.2 ⟨hs, ht⟩

theorem printable_quoted (s : String) : Printable (quoted s) := by
  rw [Printable, quoted, String.toList_ofList]
  exact fun c => isPrintable_of_mem_quote

/-- Whether a character is one of the control codes. -/
def IsControlCode (c : Char) : Prop :=
  c.toNat < 0x20 ∨ 0x7F ≤ c.toNat ∧ c.toNat ≤ 0x9F

/-- Whether a line ends at a character, in any of the ways there are. -/
def EndsLine (c : Char) : Prop :=
  0x0A ≤ c.toNat ∧ c.toNat ≤ 0x0D ∨ 0x1C ≤ c.toNat ∧ c.toNat ≤ 0x1E ∨ c.toNat = 0x85 ∨
    c.toNat = 0x2028 ∨ c.toNat = 0x2029

/-- What is printable stands outside each range of the table. -/
theorem not_between_of_isPrintable (h : isPrintable c = true) {first last : Nat}
    (hrange : (first, last) ∈ unprintableRanges) (above : 0x7F ≤ first) :
    ¬(first ≤ c.toNat ∧ c.toNat ≤ last) := by
  rintro ⟨hfirst, hlast⟩
  rw [isPrintable, if_neg (by omega), Bool.not_eq_true', List.any_eq_false] at h
  exact h _ hrange (by simp [hfirst, hlast])

theorem not_isControlCode_of_isPrintable (h : isPrintable c = true) : ¬IsControlCode c := by
  have above := not_between_of_isPrintable h
    (by decide +kernel : (0x7F, 0xA0) ∈ unprintableRanges) (by decide)
  have below : 0x20 ≤ c.toNat := by
    rw [isPrintable] at h
    split at h
    · exact of_decide_eq_true h
    · omega
  rw [IsControlCode]
  omega

theorem not_endsLine_of_isPrintable (h : isPrintable c = true) : ¬EndsLine c := by
  have control := not_isControlCode_of_isPrintable h
  have separator := not_between_of_isPrintable h
    (by decide +kernel : (0x2028, 0x202F) ∈ unprintableRanges) (by decide)
  rw [IsControlCode] at control
  rw [EndsLine]
  omega

end Transcoding.Text
