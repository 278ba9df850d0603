import Transcoding.Proofs.Timestamp.Pattern
import Transcoding.Timestamp

/-!
The zones of offsets, with colons between their fields and without. A zone shows seconds, and a
fraction of a second after them, only if they are not zero; either way it is read as its offset.
-/

namespace Transcoding.Timestamp

open Text Numeral

/-- What a zone shows of its seconds and of the microseconds after them. -/
def secondsText (colon : List Char) (seconds micros : Nat) : List Char :=
  if seconds = 0 ∧ micros = 0 then []
  else colon ++ (twoDigits seconds ++ if micros = 0 then [] else '.' :: padded micros 6)

/-- The zone of hours, minutes, seconds and microseconds ahead of universal time or behind it. -/
def zoneText (colon : List Char) (negative : Bool) (hours minutes seconds micros : Nat) :
    List Char :=
  (if negative then '-' else '+') ::
    (twoDigits hours ++ (colon ++ (twoDigits minutes ++ secondsText colon seconds micros)))

/-- What stands between the fields of a zone. -/
def IsColon (colon : List Char) : Prop :=
  colon = [] ∨ colon = [':']

variable {colon : List Char}

theorem digitChar_ne_colon : ∀ d < 10, digitChar d ≠ ':' := by decide

namespace Pattern

theorem takes_sign (negative : Bool) (tail : List Char) :
    (either (char '+') (char '-')).Takes [if negative then '-' else '+'] tail := by
  cases negative with
  | false => exact (takes_char _ _).left
  | true => exact .right rfl (takes_char _ _)

/-- A colon or none, in front of digits. -/
theorem takes_colon (h : IsColon colon) (n : Nat) (tail : List Char) :
    (maybe (char ':')).Takes colon (digitChar (n % 10) :: tail) := by
  obtain rfl | rfl := h
  · exact .maybe_none (char_of_ne (digitChar_ne_colon _ (Nat.mod_lt _ (by decide))) _)
  · exact .maybe_some (takes_char ':' _)

theorem takes_fraction (micros : Nat) :
    (maybe (both (char '.') (upTo isDigit 6))).Takes
      (if micros = 0 then [] else '.' :: padded micros 6) [] := by
  have digit (n : Nat) : isDigit (digitChar (n % 10)) = true := by
    rw [isDigit, digit?_digitChar (Nat.mod_lt n (by decide))]
    rfl
  have digits : ∀ c ∈ padded micros 6, isDigit c = true := by
    simp [padded, digit]
  split
  · exact .maybe_none rfl
  · exact .maybe_some ((takes_char '.' _).both (takes_upTo (List.cons_ne_nil _ _) digits))

theorem takes_zoneText (h : IsColon colon) (negative : Bool) (hours : Nat) {minutes seconds : Nat}
    (hm : minutes < 60) (hs : seconds < 60) (micros : Nat) :
    zone.Takes (zoneText colon negative hours minutes seconds micros) [] := by
  let sexagesimal := both (range '0' '5') digit
  let fraction := both (char '.') (upTo isDigit 6)
  have digit (n : Nat) (tail : List Char) : digit.Takes [digitChar (n % 10)] tail :=
    takes_digit (Nat.mod_lt n (by decide)) tail
  have shown : (maybe (both (maybe (char ':')) (both sexagesimal (maybe fraction)))).Takes
      (secondsText colon seconds micros) [] := by
    rw [secondsText]
    split
    · exact .maybe_none rfl
    · exact .maybe_some
        ((takes_colon h _ _).both ((takes_sexagesimal hs _).both (takes_fraction micros)))
  exact ((takes_sign negative _).both ((digit _ _).both ((digit _ _).both
    ((takes_colon h _ _).both ((takes_sexagesimal hm _).both shown))))).left

end Pattern

theorem numeral_map {ds : List Nat} (hne : ds ≠ []) (h : ∀ d ∈ ds, d < 10)
    (hlength : ds.length ≤ 6) :
    numeral (ds.map digitChar) = .ok (worthOf 0 ds) := by
  have fits : 6 ≤ maxDigits := by decide
  have digits : IsDigits ds := ⟨hne, h, hlength.trans fits⟩
  rw [numeral, (Writes.bare digits).read_eq]
  rfl

theorem numeral_twoDigits {n : Nat} (h : n < 100) : numeral (twoDigits n) = .ok n := by
  have digits : ∀ d ∈ [n / 10 % 10, n % 10], d < 10 := by simp; omega
  have worth : worthOf 0 [n / 10 % 10, n % 10] = n := by
    simp only [worthOf, List.foldl_cons, List.foldl_nil]
    omega
  refine (numeral_map (List.cons_ne_nil _ _) digits (Nat.le_of_ble_eq_true rfl)).trans ?_
  rw [worth]

theorem numeral_padded {n : Nat} (h : n < 1000000) : numeral (padded n 6) = .ok n := by
  let ds := [n / 100000 % 10, n / 10000 % 10, n / 1000 % 10, n / 100 % 10, n / 10 % 10, n / 1 % 10]
  have digits : ∀ d ∈ ds, d < 10 := by simp [ds]; omega
  have worth : worthOf 0 ds = n := by
    simp only [ds, worthOf, List.foldl_cons, List.foldl_nil]
    omega
  refine (numeral_map (List.cons_ne_nil _ _) digits (Nat.le_of_ble_eq_true rfl)).trans ?_
  rw [worth]

theorem dropColons_zoneText (h : IsColon colon) (negative : Bool)
    (hours minutes seconds micros : Nat) :
    dropColons (zoneText colon negative hours minutes seconds micros) =
      .ok (zoneText [] negative hours minutes seconds micros) := by
  obtain rfl | rfl := h
  · have fourth : (zoneText [] negative hours minutes seconds micros).getD 3 ' ' =
        digitChar (minutes / 10 % 10) := rfl
    have digit : (digitChar (minutes / 10 % 10) == ':') = false :=
      beq_eq_false_iff_ne.2 (digitChar_ne_colon _ (Nat.mod_lt _ (by decide)))
    rw [dropColons, fourth, digit]
    rfl
  · by_cases shown : seconds = 0 ∧ micros = 0
    · simp only [zoneText, secondsText, if_pos shown]
      rfl
    · simp only [zoneText, secondsText, if_neg shown]
      rfl

/-- A zone is worth what its fields are; seconds that it does not show are zero. -/
theorem zoneMicros_of_fields {text z : List Char} {hours minutes seconds micros : Nat}
    (hzulu : (text == ['Z']) = false) (hcolons : dropColons text = .ok z)
    (hhours : numeral ((z.drop 1).take 2) = .ok hours)
    (hminutes : numeral ((z.drop 3).take 2) = .ok minutes)
    (hseconds : (z.drop 5).take 2 = [] ∧ seconds = 0 ∨
      (z.drop 5).take 2 ≠ [] ∧ numeral ((z.drop 5).take 2) = .ok seconds)
    (hmicros : numeral (z.drop 8 ++ List.replicate (6 - (z.drop 8).length) '0') = .ok micros) :
    zoneMicros text = .ok (signed (z.head? == some '-')
      (((hours * 60 + minutes) * 60 + seconds) * 1000000 + micros)) := by
  have total : ((hours : Int) * 3600 + minutes * 60 + seconds) * microsPerSecond + micros =
      (((hours * 60 + minutes) * 60 + seconds) * 1000000 + micros : Nat) := by
    rw [microsPerSecond]
    omega
  simp only [zoneMicros, hzulu, hcolons, hhours, hminutes, hmicros, bind, Except.bind]
  rw [signed, ← total]
  obtain ⟨hnone, rfl⟩ | ⟨hsome, hread⟩ := hseconds
  · rw [hnone]
    rfl
  · obtain ⟨c, cs, hcons⟩ := List.exists_cons_of_ne_nil hsome
    rw [hcons] at hread ⊢
    simp only [hread]
    rfl

/-- The seconds of a zone without colons. -/
theorem numeral_seconds {seconds : Nat} (h : seconds < 60) (micros : Nat) :
    (secondsText [] seconds micros).take 2 = [] ∧ seconds = 0 ∨
      (secondsText [] seconds micros).take 2 ≠ [] ∧
        numeral ((secondsText [] seconds micros).take 2) = .ok seconds := by
  rw [secondsText]
  split
  · next none => exact .inl ⟨rfl, none.1⟩
  · exact .inr ⟨List.cons_ne_nil _ _, numeral_twoDigits (h.trans (by decide))⟩

/-- The fraction of a zone without colons, filled up with zeros. -/
theorem numeral_fraction (seconds : Nat) {micros : Nat} (h : micros < 1000000) :
    numeral ((secondsText [] seconds micros).drop 3 ++
      List.replicate (6 - ((secondsText [] seconds micros).drop 3).length) '0') = .ok micros := by
  have zeros : numeral (List.replicate 6 '0') = .ok (0 : Nat) := by decide +kernel
  by_cases whole : micros = 0
  · have none : (secondsText [] seconds micros).drop 3 = [] := by
      rw [secondsText, if_pos whole]
      split
      · rfl
      · rfl
    rw [none, whole]
    exact zeros
  · have digits : (secondsText [] seconds micros).drop 3 = padded micros 6 := by
      rw [secondsText, if_neg fun none => whole none.2, if_neg whole]
      rfl
    have six : (padded micros 6).length = 6 := rfl
    rw [digits, six, Nat.sub_self, List.replicate_zero, List.append_nil, numeral_padded h]

theorem zoneMicros_zoneText (h : IsColon colon) (negative : Bool)
    {hours minutes seconds micros : Nat} (hh : hours < 24) (hm : minutes < 60) (hs : seconds < 60)
    (hu : micros < 1000000) :
    zoneMicros (zoneText colon negative hours minutes seconds micros) =
      .ok (signed negative (((hours * 60 + minutes) * 60 + seconds) * 1000000 + micros)) := by
  have zulu : (zoneText colon negative hours minutes seconds micros == ['Z']) = false := by
    cases negative <;> rfl
  have sign :
      ((zoneText [] negative hours minutes seconds micros).head? == some '-') = negative := by
    cases negative <;> rfl
  have read := zoneMicros_of_fields zulu (dropColons_zoneText h _ _ _ _ _)
    (numeral_twoDigits (n := hours) (by omega)) (numeral_twoDigits (n := minutes) (by omega))
    (numeral_seconds hs micros) (numeral_fraction seconds hu)
  rwa [sign] at read

/-- Whether a text without blanks is a zone, and is worth some microseconds. -/
structure IsZone (text : List Char) (micros : Int) : Prop where
  takes : Pattern.zone.Takes text []
  solid : ∀ c ∈ text, isBlank c = false
  worth : zoneMicros text = .ok micros

theorem IsZone.ne_nil {text : List Char} {micros : Int} (h : IsZone text micros) : text ≠ [] := by
  rintro rfl
  exact nomatch h.takes

theorem isBlank_of_mem_zoneText (h : IsColon colon) (negative : Bool)
    (hours minutes seconds micros : Nat) :
    ∀ c ∈ zoneText colon negative hours minutes seconds micros, isBlank c = false := by
  have digit (n : Nat) : isBlank (digitChar (n % 10)) = false :=
    isBlank_digitChar _ (Nat.mod_lt n (by decide))
  have between : ∀ c ∈ colon, isBlank c = false := by
    obtain rfl | rfl := h
    · exact nofun
    · exact List.forall_mem_singleton.2 rfl
  have fraction : ∀ c ∈ (if micros = 0 then [] else '.' :: padded micros 6), isBlank c = false := by
    split
    · exact nofun
    · simp [padded, digit, show isBlank '.' = false from rfl]
  have last : ∀ c ∈ secondsText colon seconds micros, isBlank c = false := by
    rw [secondsText]
    split
    · exact nofun
    · simp only [twoDigits, List.forall_mem_append, List.forall_mem_cons]
      exact ⟨between, ⟨digit _, digit _, nofun⟩, fraction⟩
  have sign : isBlank (if negative then '-' else '+') = false := by
    cases negative <;> rfl
  simp only [zoneText, twoDigits, List.forall_mem_append, List.forall_mem_cons]
  exact ⟨sign, ⟨digit _, digit _, nofun⟩, between, ⟨digit _, digit _, nofun⟩, last⟩

theorem isZone_zoneText (h : IsColon colon) (negative : Bool) {hours minutes seconds micros : Nat}
    (hh : hours < 24) (hm : minutes < 60) (hs : seconds < 60) (hu : micros < 1000000) :
    IsZone (zoneText colon negative hours minutes seconds micros)
      (signed negative (((hours * 60 + minutes) * 60 + seconds) * 1000000 + micros)) where
  takes := Pattern.takes_zoneText h negative hours hm hs micros
  solid := isBlank_of_mem_zoneText h negative hours minutes seconds micros
  worth := zoneMicros_zoneText h negative hh hm hs hu

end Transcoding.Timestamp
