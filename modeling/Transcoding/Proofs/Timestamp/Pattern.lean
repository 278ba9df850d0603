import Mathlib.Tactic.IntervalCases
import Transcoding.Proofs.Text.Numeral
import Transcoding.Timestamp.Reader

/-!
What the patterns of a timestamp take first. A pattern may match in several ways; what counts is the
first one, so each field comes with what it takes first in front of any text.
-/

namespace Transcoding.Timestamp

open Text Numeral

namespace Pattern

/-- Whether the first way of a pattern to match takes just a text in front of another one. -/
def Takes (p : Pattern) (text tail : List Char) : Prop :=
  (p (text ++ tail)).head? = some (text, tail)

variable {p q : Pattern} {text more tail : List Char}

theorem head?_flatMap_of {α β : Type} {as : List α} {f : α → List β} {a : α} {b : β}
    (ha : as.head? = some a) (hb : (f a).head? = some b) : (as.flatMap f).head? = some b := by
  obtain ⟨rest, rfl⟩ := List.head?_eq_some_iff.1 ha
  obtain ⟨others, hf⟩ := List.head?_eq_some_iff.1 hb
  rw [List.flatMap_cons, hf]
  rfl

theorem Takes.both (hp : p.Takes text (more ++ tail)) (hq : q.Takes more tail) :
    (both p q).Takes (text ++ more) tail := by
  have hmore : ((q (more ++ tail)).map fun found => (text ++ found.1, found.2)).head? =
      some (text ++ more, tail) := by
    rw [List.head?_map, hq]
    rfl
  rw [Takes, List.append_assoc]
  exact head?_flatMap_of hp hmore

theorem Takes.left (h : p.Takes text tail) : (either p q).Takes text tail := by
  rw [Takes, either, List.head?_append, h]
  rfl

theorem Takes.right (hp : p (text ++ tail) = []) (h : q.Takes text tail) :
    (either p q).Takes text tail := by
  rw [Takes, either, hp, List.nil_append, h]

theorem Takes.maybe_some (h : p.Takes text tail) : (maybe p).Takes text tail := by
  rw [Takes, maybe, List.head?_append, h]
  rfl

theorem Takes.maybe_none (h : p tail = []) : (maybe p).Takes [] tail := by
  rw [Takes, List.nil_append, maybe, h]
  rfl

theorem takes_one {f : Char → Bool} {c : Char} (h : f c = true) (tail : List Char) :
    (one f).Takes [c] tail := by
  rw [Takes, List.singleton_append, one, if_pos h]
  rfl

theorem takes_char (c : Char) (tail : List Char) : (char c).Takes [c] tail :=
  takes_one (beq_self_eq_true c) tail

theorem takes_digit {d : Nat} (hd : d < 10) (tail : List Char) : digit.Takes [digitChar d] tail :=
  takes_one (by rw [isDigit, digit?_digitChar hd]; rfl) tail

/-- All of a text, if it is not too long and ends there. -/
theorem takes_upTo {f : Char → Bool} {text : List Char} (hne : text ≠ [])
    (h : ∀ c ∈ text, f c = true) : (upTo f text.length).Takes text [] := by
  rw [Takes, List.append_nil]
  induction text with
  | nil => exact absurd rfl hne
  | cons c text ih =>
      obtain ⟨hc, htext⟩ := List.forall_mem_cons.1 h
      simp only [List.length_cons, upTo, if_pos hc]
      cases text with
      | nil => rfl
      | cons d text =>
          rw [List.head?_append, List.head?_map, ih (List.cons_ne_nil d text) htext]
          rfl

/-- A blank in front of something else. -/
theorem takes_blanks {c : Char} (hc : isBlank c = false) (tail : List Char) :
    blanks.Takes [' '] (c :: tail) := by
  have stop : upTo isBlank (c :: tail).length (c :: tail) = [] := by
    simp [upTo, hc]
  have step : blanks (' ' :: c :: tail) =
      (upTo isBlank (c :: tail).length (c :: tail)).map
        (fun found => (' ' :: found.1, found.2)) ++ [([' '], c :: tail)] := rfl
  rw [Takes, List.singleton_append, step, stop]
  rfl

theorem takes_year (n : Nat) (tail : List Char) : year.Takes (padded n 4) tail := by
  have digit (k : Nat) (tail : List Char) : digit.Takes [digitChar (k % 10)] tail :=
    takes_digit (Nat.mod_lt k (by decide)) tail
  exact (digit _ _).both ((digit _ _).both ((digit _ _).both (digit _ _)))

theorem takes_month {n : Nat} (h : 1 ≤ n ∧ n ≤ 12) (tail : List Char) :
    month.Takes (twoDigits n) tail := by
  obtain ⟨h1, h12⟩ := h
  interval_cases n <;> rfl

theorem takes_day {n : Nat} (h : 1 ≤ n ∧ n ≤ 31) (tail : List Char) :
    day.Takes (twoDigits n) tail := by
  obtain ⟨h1, h31⟩ := h
  interval_cases n <;> rfl

theorem takes_hour {n : Nat} (h : n < 24) (tail : List Char) : hour.Takes (twoDigits n) tail := by
  interval_cases n <;> rfl

/-- Two digits of a number below sixty. -/
theorem takes_sexagesimal {n : Nat} (h : n < 60) (tail : List Char) :
    (both (range '0' '5') digit).Takes (twoDigits n) tail := by
  have tens : ∀ d < 6, ('0' ≤ digitChar d && digitChar d ≤ '5') = true := by decide
  exact (takes_one (tens _ (by omega)) _).both (takes_digit (Nat.mod_lt n (by decide)) tail)

theorem takes_minute {n : Nat} (h : n < 60) (tail : List Char) : minute.Takes (twoDigits n) tail :=
  (takes_sexagesimal h tail).left

theorem char_of_ne {c d : Char} (h : d ≠ c) (tail : List Char) : char c (d :: tail) = [] :=
  if_neg (by simpa using h)

theorem takes_second {n : Nat} (h : n < 60) (tail : List Char) :
    second.Takes (twoDigits n) tail := by
  have tens : ∀ d < 6, digitChar d ≠ '6' := by decide
  have leap : char '6' (twoDigits n ++ tail) = [] := char_of_ne (tens (n / 10 % 10) (by omega)) _
  refine .right ?_ (takes_minute h tail)
  rw [both, leap]
  rfl

theorem takes_nothing (tail : List Char) : nothing.Takes [] tail :=
  rfl

/-- A field and what closes it, in front of further fields. -/
theorem head?_split {field close : Pattern} {fields : List (Pattern × Pattern)}
    {text sep rest tail : List Char} {others : List (List Char)}
    (hfield : field.Takes text (sep ++ rest)) (hclose : close.Takes sep rest)
    (hothers : (split fields rest).head? = some (others, tail)) :
    (split ((field, close) :: fields) (text ++ (sep ++ rest))).head? =
      some (text :: others, tail) := by
  have hrest : ((split fields rest).map fun found => (text :: found.1, found.2)).head? =
      some (text :: others, tail) := by
    rw [List.head?_map, hothers]
    rfl
  exact head?_flatMap_of hfield (head?_flatMap_of hclose hrest)

end Pattern
end Transcoding.Timestamp
