import Transcoding.Proofs.Text.Utf8
import Transcoding.Xml.Encoding
import Transcoding.Xml.Outline

/-!
Documents in UTF-8. Decoding undoes encoding for every text, one lemma for each length of an
encoded character, so a document that says that it is in UTF-8 is read as the text it was made of.
A byte is named by its worth here: `u.toNat = 0xC0 + a` for the first of two.
-/

namespace Transcoding.Xml

open Text

private theorem isContinuation_of_toNat {u : UInt8} {n : Nat} (hu : u.toNat = 0x80 + n)
    (h : n < 0x40) : isContinuation u = true := by
  simp only [isContinuation, Bool.and_eq_true, decide_eq_true_eq, UInt8.le_iff_toNat_le,
    UInt8.lt_iff_toNat_lt, hu]
  exact ⟨Nat.le_add_right _ _, Nat.add_lt_add_left h _⟩

private theorem continuationBits_of_toNat {u : UInt8} {n : Nat} (hu : u.toNat = 0x80 + n)
    (h : n < 0x40) : continuationBits u = n := by
  rw [continuationBits, hu]
  omega

private theorem decodeUtf8_one {u : UInt8} (hu : u.toNat < 0x80) (rest : List UInt8) :
    decodeUtf8 (u :: rest) = (decodeUtf8 rest).cons (Char.ofNat u.toNat) := by
  rw [decodeUtf8.eq_def]
  exact if_pos (UInt8.lt_iff_toNat_lt.2 hu)

private theorem decodeUtf8_two {u v : UInt8} {a b : Nat} (hu : u.toNat = 0xC0 + a)
    (hv : v.toNat = 0x80 + b) (ha : 2 ≤ a ∧ a < 0x20) (hb : b < 0x40) (rest : List UInt8) :
    decodeUtf8 (u :: v :: rest) = (decodeUtf8 rest).cons (Char.ofNat (a * 0x40 + b)) := by
  have fits : ¬(decide (0xC0 + a < 0xC2) || !isContinuation v) = true := by
    simp only [isContinuation_of_toNat hv hb, Bool.not_true, Bool.or_false, decide_eq_true_eq]
    omega
  rw [decodeUtf8.eq_def]
  simp only [UInt8.lt_iff_toNat_lt, UInt8.reduceToNat, hu, continuationBits_of_toNat hv hb]
  rw [if_neg (by omega), if_neg (by omega), if_pos (by omega), if_neg fits, Nat.add_sub_cancel_left]

private theorem decodeUtf8_three {u v w : UInt8} {a b c : Nat} (hu : u.toNat = 0xE0 + a)
    (hv : v.toNat = 0x80 + b) (hw : w.toNat = 0x80 + c) (ha : a < 0x10) (hb : b < 0x40)
    (hc : c < 0x40) (hlow : a = 0 → 0x20 ≤ b) (hhigh : a = 0xD → b < 0x20) (rest : List UInt8) :
    decodeUtf8 (u :: v :: w :: rest) =
      (decodeUtf8 rest).cons (Char.ofNat ((a * 0x40 + b) * 0x40 + c)) := by
  have fits : ¬(!isContinuation v || !isContinuation w || (u == 0xE0 && decide (v < 0xA0)) ||
      (u == 0xED && decide (0xA0 ≤ v))) = true := by
    simp only [isContinuation_of_toNat hv hb, isContinuation_of_toNat hw hc, Bool.not_true,
      Bool.false_or, Bool.or_eq_true, Bool.and_eq_true, beq_iff_eq, decide_eq_true_eq,
      UInt8.lt_iff_toNat_lt, UInt8.le_iff_toNat_le, ← UInt8.toNat_inj, UInt8.reduceToNat, hu, hv]
    omega
  rw [decodeUtf8.eq_def]
  simp only [fits]
  simp only [UInt8.lt_iff_toNat_lt, UInt8.reduceToNat, hu, continuationBits_of_toNat hv hb,
    continuationBits_of_toNat hw hc]
  rw [if_neg (by omega), if_neg (by omega), if_neg (by omega), if_pos (by omega),
    if_neg Bool.false_ne_true, Nat.add_sub_cancel_left]

private theorem decodeUtf8_four {u v w x : UInt8} {a b c d : Nat} (hu : u.toNat = 0xF0 + a)
    (hv : v.toNat = 0x80 + b) (hw : w.toNat = 0x80 + c) (hx : x.toNat = 0x80 + d) (ha : a < 5)
    (hb : b < 0x40) (hc : c < 0x40) (hd : d < 0x40) (hlow : a = 0 → 0x10 ≤ b)
    (hhigh : a = 4 → b < 0x10) (rest : List UInt8) :
    decodeUtf8 (u :: v :: w :: x :: rest) =
      (decodeUtf8 rest).cons (Char.ofNat (((a * 0x40 + b) * 0x40 + c) * 0x40 + d)) := by
  have fits : ¬(!isContinuation v || !isContinuation w || !isContinuation x ||
      (u == 0xF0 && decide (v < 0x90)) || (u == 0xF4 && decide (0x90 ≤ v))) = true := by
    simp only [isContinuation_of_toNat hv hb, isContinuation_of_toNat hw hc,
      isContinuation_of_toNat hx hd, Bool.not_true, Bool.false_or, Bool.or_eq_true,
      Bool.and_eq_true, beq_iff_eq, decide_eq_true_eq, UInt8.lt_iff_toNat_lt,
      UInt8.le_iff_toNat_le, ← UInt8.toNat_inj, UInt8.reduceToNat, hu, hv]
    omega
  rw [decodeUtf8.eq_def]
  simp only [fits]
  simp only [UInt8.lt_iff_toNat_lt, UInt8.reduceToNat, hu, continuationBits_of_toNat hv hb,
    continuationBits_of_toNat hw hc, continuationBits_of_toNat hx hd]
  rw [if_neg (by omega), if_neg (by omega), if_neg (by omega), if_neg (by omega),
    if_pos (by omega), if_neg Bool.false_ne_true, Nat.add_sub_cancel_left]

theorem decodeUtf8_utf8Bytes (c : Char) (rest : List UInt8) :
    decodeUtf8 (utf8Bytes c ++ rest) = (decodeUtf8 rest).cons c := by
  have hc : c.toNat < 0xD800 ∨ 0xDFFF < c.toNat ∧ c.toNat < 0x110000 := c.valid
  -- That surrogates are no characters is what keeps the second of three bytes in its range.
  rw [utf8Bytes]
  conv => rhs; rw [← Char.ofNat_toNat c]
  generalize c.toNat = n at hc
  by_cases h1 : n < 0x80
  · have hn := toNat_toUInt8 (n := n) (by omega)
    simp only [h1, if_true, List.cons_append, List.nil_append]
    rw [decodeUtf8_one (by rw [hn]; exact h1), hn]
  by_cases h2 : n < 0x800
  · have hn : n = n / 0x40 * 0x40 + n % 0x40 := by omega
    simp only [h1, h2, if_true, if_false, List.cons_append, List.nil_append]
    rw [decodeUtf8_two (toNat_toUInt8 (by omega)) (toNat_toUInt8 (by omega)) (by omega) (by omega),
      ← hn]
  by_cases h3 : n < 0x10000
  · have hn : n = (n / 0x1000 * 0x40 + n / 0x40 % 0x40) * 0x40 + n % 0x40 := by omega
    simp only [h1, h2, h3, if_true, if_false, List.cons_append, List.nil_append]
    rw [decodeUtf8_three (toNat_toUInt8 (by omega)) (toNat_toUInt8 (by omega))
      (toNat_toUInt8 (by omega)) (by omega) (by omega) (by omega) (by omega) (by omega), ← hn]
  · have hn : n = ((n / 0x40000 * 0x40 + n / 0x1000 % 0x40) * 0x40 + n / 0x40 % 0x40) * 0x40 +
        n % 0x40 := by omega
    simp only [h1, h2, h3, if_false, List.cons_append, List.nil_append]
    rw [decodeUtf8_four (toNat_toUInt8 (by omega)) (toNat_toUInt8 (by omega))
      (toNat_toUInt8 (by omega)) (toNat_toUInt8 (by omega)) (by omega) (by omega) (by omega)
      (by omega) (by omega) (by omega), ← hn]

/-- Decoding undoes encoding. -/
theorem decodeUtf8_toUtf8 (cs : List Char) : decodeUtf8 (toUtf8 cs) = { text := cs } := by
  induction cs with
  | nil => rfl
  | cons c cs ih =>
      rw [toUtf8, List.flatMap_cons, decodeUtf8_utf8Bytes, ← toUtf8, ih]
      rfl

/-- The declaration that documents are written with is followed when they are read. -/
theorem Source.ofBytes_declaration (cs : List Char) :
    Source.ofBytes (toUtf8 (Outline.declaration ++ cs)) =
      .ok { text := Outline.declaration ++ cs } := by
  have source : (decodeUtf8 (toUtf8 (Outline.declaration ++ cs))).marked =
      { text := Outline.declaration ++ cs } := by
    rw [decodeUtf8_toUtf8]
    rfl
  have found : Encoding.detect? (toUtf8 (Outline.declaration ++ cs)) = some .utf8 := rfl
  have declared : declaredEncoding? (Outline.declaration ++ cs) =
      some ("utf-8".toList, 30) := rfl
  have named : Encoding.utf8.declared "utf-8".toList = .ok .utf8 := rfl
  simp only [Source.ofBytes, found, Encoding.decode, source, Source.body, List.drop_zero, declared,
    named, Encoding.decodeMarked]

end Transcoding.Xml
