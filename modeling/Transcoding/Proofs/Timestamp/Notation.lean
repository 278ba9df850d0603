import Transcoding.Proofs.Timestamp.Zone

/-!
Moments in the notation `YYYY-MM-DD HH:MM:SS` are read back with every zone that is worth their
offset: in hours and minutes, and to the microsecond.
-/

namespace Transcoding.Timestamp

open Text Numeral

theorem daysIn_le (year month : Nat) : daysIn year month ≤ 31 := by
  rw [daysIn]
  repeat' split
  all_goals decide

/-- The first way to split the text of a moment is into its fields. -/
theorem match?_moment (date : Date) (time : TimeOfDay) {zone : List Char} {micros : Int}
    (h : IsZone zone micros) :
    Fields.match? (dateText date ++ ' ' :: (timeText time ++ ' ' :: zone)) =
      some (⟨padded date.year 4, twoDigits date.month, twoDigits date.day, twoDigits time.hour,
        twoDigits time.minute, twoDigits time.second, zone⟩, []) := by
  have hday : 1 ≤ date.day ∧ date.day ≤ 31 :=
    ⟨date.day_range.1, date.day_range.2.trans (daysIn_le _ _)⟩
  have blankBeforeHour (rest : List Char) :
      Pattern.blanks.Takes [' '] (twoDigits time.hour ++ rest) :=
    Pattern.takes_blanks (isBlank_digitChar _ (Nat.mod_lt _ (by decide))) _
  have blankBeforeZone : Pattern.blanks.Takes [' '] (zone ++ ([] ++ [])) := by
    obtain ⟨c, rest, rfl⟩ := List.exists_cons_of_ne_nil h.ne_nil
    exact Pattern.takes_blanks (h.solid c List.mem_cons_self) _
  have text : dateText date ++ ' ' :: (timeText time ++ ' ' :: zone) =
      padded date.year 4 ++ (['-'] ++ (twoDigits date.month ++ (['-'] ++ (twoDigits date.day ++
        ([' '] ++ (twoDigits time.hour ++ ([':'] ++ (twoDigits time.minute ++ ([':'] ++
          (twoDigits time.second ++ ([' '] ++ (zone ++ ([] ++ []))))))))))))) := by
    simp [dateText, timeText]
  have last : (Pattern.split [] []).head? = some ([], []) := rfl
  have first := Pattern.head?_split (Pattern.takes_year date.year _) (Pattern.takes_char '-' _) <|
    Pattern.head?_split (Pattern.takes_month date.month_range _) (Pattern.takes_char '-' _) <|
    Pattern.head?_split (Pattern.takes_day hday _) (blankBeforeHour _) <|
    Pattern.head?_split (Pattern.takes_hour time.hour_lt _) (Pattern.takes_char ':' _) <|
    Pattern.head?_split (Pattern.takes_minute time.minute_lt _) (Pattern.takes_char ':' _) <|
    Pattern.head?_split (Pattern.takes_second time.second_lt _) blankBeforeZone <|
    Pattern.head?_split h.takes (Pattern.takes_nothing []) last
  rw [Fields.match?, text, Pattern.timestamp, first]

theorem worth_map {ds : List Nat} (h : ∀ d ∈ ds, d < 10) :
    worth (ds.map digitChar) = worthOf 0 ds := by
  have go (value : Nat) : (ds.map digitChar).foldl (fun n c => n * 10 + (digit? c).getD 0) value =
      worthOf value ds := by
    induction ds generalizing value with
    | nil => rfl
    | cons d ds ih =>
        obtain ⟨hd, hds⟩ := List.forall_mem_cons.1 h
        rw [List.map_cons, List.foldl_cons, digit?_digitChar hd, ih hds]
        rfl
  exact go 0

theorem worth_twoDigits {n : Nat} (h : n < 100) : worth (twoDigits n) = n := by
  have digits : ∀ d ∈ [n / 10 % 10, n % 10], d < 10 := by simp; omega
  refine (worth_map digits).trans ?_
  simp only [worthOf, List.foldl_cons, List.foldl_nil]
  omega

theorem worth_year {n : Nat} (h : n ≤ 9999) : worth (padded n 4) = n := by
  have digits : ∀ d ∈ [n / 1000 % 10, n / 100 % 10, n / 10 % 10, n / 1 % 10], d < 10 := by
    simp; omega
  refine (worth_map digits).trans ?_
  simp only [worthOf, List.foldl_cons, List.foldl_nil]
  omega

theorem dateOf_eq {f : Fields} {date : Date} (hyear : worth f.year = date.year)
    (hmonth : worth f.month = date.month) (hday : worth f.day = date.day) :
    dateOf f = .ok date := by
  rw [dateOf]
  simp only [hyear, hmonth, hday]
  rw [dif_pos date.year_range, dif_pos date.month_range, dif_pos date.day_range]

theorem timeOf_eq {f : Fields} {time : TimeOfDay} (hhour : worth f.hour = time.hour)
    (hminute : worth f.minute = time.minute) (hsecond : worth f.second = time.second) :
    timeOf f = .ok time := by
  rw [timeOf]
  simp only [hhour, hminute, hsecond]
  rw [dif_pos ⟨time.hour_lt, time.minute_lt, time.second_lt⟩]

theorem offsetOf_micros (offset : Offset) : offsetOf offset.micros = .ok offset :=
  dif_pos offset.range

/-- A text with nothing after its fields is the moment that they make. -/
theorem parse_of_fields {text : List Char} {f : Fields} {t : Timestamp}
    (hmatch : Fields.match? text = some (f, [])) (hzone : zoneMicros f.zone = .ok t.offset.micros)
    (hdate : dateOf f = .ok t.date) (htime : timeOf f = .ok t.time) : parse text = .ok t := by
  rw [parse, hmatch]
  simp only [hzone, hdate, htime, offsetOf_micros, bind, Except.bind]
  rfl

/-- A moment is read from its date, its time and a zone that is worth its offset. -/
theorem parse_moment {t : Timestamp} {zone : List Char} (h : IsZone zone t.offset.micros) :
    parse (dateText t.date ++ ' ' :: (timeText t.time ++ ' ' :: zone)) = .ok t := by
  have hday : t.date.day < 100 :=
    Nat.lt_of_le_of_lt (t.date.day_range.2.trans (daysIn_le _ _)) (by decide)
  have hmonth : t.date.month < 100 := Nat.lt_of_le_of_lt t.date.month_range.2 (by decide)
  have hhour : t.time.hour < 100 := t.time.hour_lt.trans (by decide)
  have hminute : t.time.minute < 100 := t.time.minute_lt.trans (by decide)
  have hsecond : t.time.second < 100 := t.time.second_lt.trans (by decide)
  refine parse_of_fields (match?_moment t.date t.time h) h.worth ?_ ?_
  · exact dateOf_eq (worth_year t.date.year_range.2) (worth_twoDigits hmonth)
      (worth_twoDigits hday)
  · exact timeOf_eq (worth_twoDigits hhour) (worth_twoDigits hminute) (worth_twoDigits hsecond)

theorem isTrimmed_moment (t : Timestamp) {zone : List Char} {micros : Int}
    (h : IsZone zone micros) :
    IsTrimmed (dateText t.date ++ ' ' :: (timeText t.time ++ ' ' :: zone)) := by
  have digit : isBlank (digitChar (t.date.year / Nat.pow 10 3 % 10)) = false :=
    isBlank_digitChar _ (Nat.mod_lt _ (by decide))
  constructor
  · rintro c ⟨⟩
    exact digit
  · obtain ⟨c, rest, rfl⟩ := List.exists_cons_of_ne_nil h.ne_nil
    intro d hd
    refine h.solid d (List.mem_of_mem_getLast? ?_)
    simpa [List.getLast?_append, List.getLast?_cons] using hd

/-- The moment that a text writes between blanks. -/
theorem read_moment {t : Timestamp} {zone before after : List Char}
    (h : IsZone zone t.offset.micros) (hbefore : ∀ c ∈ before, isBlank c = true)
    (hafter : ∀ c ∈ after, isBlank c = true) :
    read (before ++ (dateText t.date ++ ' ' :: (timeText t.time ++ ' ' :: zone) ++ after)) =
      .ok (some t) := by
  rw [read, (isTrimmed_moment t h).trim_eq hbefore hafter]
  split
  · next hnil => exact nomatch hnil
  · rw [parse_moment h]
    rfl

/-- The zones `±HHMM` of an offset of whole minutes; an offset of zero has both signs. -/
def WritesZone (offset : Offset) (text : List Char) : Prop :=
  ∃ negative hours minutes, hours < 24 ∧ minutes < 60 ∧
    offset.micros = signed negative ((hours * 60 + minutes) * 60000000) ∧
    text = (if negative then '-' else '+') :: (twoDigits hours ++ twoDigits minutes)

/-- The texts `YYYY-MM-DD HH:MM:SS ±HHMM` of a moment. -/
def Writes (t : Timestamp) (text : List Char) : Prop :=
  ∃ zone, WritesZone t.offset zone ∧
    text = dateText t.date ++ ' ' :: (timeText t.time ++ ' ' :: zone)

theorem WritesZone.isZone {offset : Offset} {text : List Char} (h : WritesZone offset text) :
    IsZone text offset.micros := by
  obtain ⟨negative, hours, minutes, hh, hm, hoffset, rfl⟩ := h
  have none : 0 < 60 ∧ 0 < 1000000 := by decide
  have zone := isZone_zoneText (.inl rfl) negative hh hm none.1 none.2
  have micros : ((hours * 60 + minutes) * 60 + 0) * 1000000 + 0 =
      (hours * 60 + minutes) * 60000000 := by omega
  rwa [micros, ← hoffset] at zone

theorem isTrimmed_of_writes {t : Timestamp} {text : List Char} (h : t.Writes text) :
    IsTrimmed text := by
  obtain ⟨_, hzone, rfl⟩ := h
  exact isTrimmed_moment t hzone.isZone

theorem read_of_writes {t : Timestamp} {text before after : List Char} (h : t.Writes text)
    (hbefore : ∀ c ∈ before, isBlank c = true) (hafter : ∀ c ∈ after, isBlank c = true) :
    read (before ++ (text ++ after)) = .ok (some t) := by
  obtain ⟨_, hzone, rfl⟩ := h
  exact read_moment hzone.isZone hbefore hafter

/-- A moment in the notation; what its offset has beyond whole minutes is left out. -/
def plainText (t : Timestamp) : List Char :=
  let minutes := t.offset.micros.natAbs / 60000000
  dateText t.date ++ ' ' :: (timeText t.time ++ ' ' ::
    signChar t.offset.micros :: (twoDigits (minutes / 60) ++ twoDigits (minutes % 60)))

theorem writes_plainText {t : Timestamp} (h : 60000000 ∣ t.offset.micros) :
    t.Writes t.plainText := by
  let minutes := t.offset.micros.natAbs / 60000000
  have range := t.offset.range
  simp only [microsPerDay, microsPerSecond] at range
  have whole : (minutes / 60 * 60 + minutes % 60) * 60000000 = t.offset.micros.natAbs := by
    rw [Nat.div_add_mod']
    exact Nat.div_mul_cancel (Int.natCast_dvd.1 h)
  refine ⟨_, ⟨decide (t.offset.micros < 0), minutes / 60, minutes % 60, by omega,
    Nat.mod_lt _ (by decide), ?_, rfl⟩, ?_⟩
  · rw [whole, signed]
    by_cases negative : t.offset.micros < 0
    · rw [if_pos (decide_eq_true negative)]
      omega
    · rw [if_neg (by simpa using negative)]
      omega
  · simp only [plainText, signChar, decide_eq_true_eq]
    rfl

/-- A test that holds of the marks of the notation and the ten digits holds of every character of
it. -/
theorem forall_mem_plainText {p : Char → Prop} (marks : p ' ' ∧ p ':' ∧ p '+' ∧ p '-')
    (digit : ∀ d < 10, p (digitChar d)) (t : Timestamp) : ∀ c ∈ t.plainText, p c := by
  obtain ⟨space, colon, plus, minus⟩ := marks
  have digits (n : Nat) : p (digitChar (n % 10)) := digit _ (Nat.mod_lt n (by decide))
  have sign : p (signChar t.offset.micros) := by
    rw [signChar]
    split
    · exact minus
    · exact plus
  simp [plainText, dateText, timeText, padded, twoDigits, or_imp, forall_and, *]

/-- The zone of an offset, in the shortest form that is exact: `±HHMM`, `±HHMMSS` or
`±HHMMSS.ffffff`, or one of these with colons. -/
def offsetText (colon : List Char) (o : Offset) : List Char :=
  let micros := o.micros.natAbs
  let seconds := micros / 1000000
  zoneText colon (o.micros < 0) (seconds / 3600) (seconds / 60 % 60) (seconds % 60)
    (micros % 1000000)

theorem isZone_offsetText {colon : List Char} (h : IsColon colon) (o : Offset) :
    IsZone (offsetText colon o) o.micros := by
  let micros := o.micros.natAbs
  let seconds := micros / 1000000
  have range := o.range
  simp only [microsPerDay, microsPerSecond] at range
  have hours : seconds / 3600 < 24 := by omega
  have minutes : seconds / 60 % 60 < 60 := Nat.mod_lt _ (by decide)
  have rest : seconds % 60 < 60 := Nat.mod_lt _ (by decide)
  have fraction : micros % 1000000 < 1000000 := Nat.mod_lt _ (by decide)
  have zone := isZone_zoneText h (o.micros < 0) hours minutes rest fraction
  have whole : ((seconds / 3600 * 60 + seconds / 60 % 60) * 60 + seconds % 60) * 1000000 +
      micros % 1000000 = micros := by omega
  have sign : signed (o.micros < 0) micros = o.micros := by
    simp only [signed, decide_eq_true_eq]
    omega
  rwa [whole, sign] at zone

/-- Every moment is read from its text between blanks, to the microsecond of its offset, whether the
zone has colons or not. -/
theorem read_written (t : Timestamp) {before after : List Char}
    (hbefore : ∀ c ∈ before, isBlank c = true) (hafter : ∀ c ∈ after, isBlank c = true) :
    read (before ++ (dateText t.date ++ ' ' :: (timeText t.time ++ ' ' ::
        offsetText [] t.offset) ++ after)) = .ok (some t) ∧
      read (before ++ (dateText t.date ++ ' ' :: (timeText t.time ++ ' ' ::
        offsetText [':'] t.offset) ++ after)) = .ok (some t) :=
  ⟨read_moment (isZone_offsetText (.inl rfl) t.offset) hbefore hafter,
    read_moment (isZone_offsetText (.inr rfl) t.offset) hbefore hafter⟩

/-- The last second of a leap day, almost a day behind universal time. -/
def leapDay : Timestamp where
  date := ⟨4, 2, 29, by decide, by decide, by decide⟩
  time := ⟨23, 59, 59, by decide, by decide, by decide⟩
  offset := ⟨-86399999999, by decide⟩

theorem read_written_leapDay :
    read "\t\u2003 0004-02-29 23:59:59 -235959.999999\n".toList = .ok (some leapDay) ∧
      read "\t\u2003 0004-02-29 23:59:59 -23:59:59.999999\n".toList = .ok (some leapDay) := by
  let zoned (colon : List Char) : List Char :=
    "\t\u2003 ".toList ++ (dateText leapDay.date ++ ' ' :: (timeText leapDay.time ++ ' ' ::
      offsetText colon leapDay.offset) ++ ['\n'])
  have before : ∀ c ∈ "\t\u2003 ".toList, isBlank c = true := forall_of_all (by decide +kernel)
  have after : ∀ c ∈ ['\n'], isBlank c = true := List.forall_mem_singleton.2 rfl
  have plain : "\t\u2003 0004-02-29 23:59:59 -235959.999999\n".toList = zoned [] := by
    decide +kernel
  have colons : "\t\u2003 0004-02-29 23:59:59 -23:59:59.999999\n".toList = zoned [':'] := by
    decide +kernel
  rw [plain, colons]
  exact read_written leapDay before after

end Transcoding.Timestamp
