import CookieConsent.Proofs.Text.Reading
import CookieConsent.Time.MailDate

/-!
# HTTP dates are mail dates

An HTTP date is read as a mail date. When its year has four digits, the reader finds the instant
that clocks showed when it was written, to the second; any other year is written with a sign, and the
reader takes no year with a sign.

* `ofInstant_floor`: the civil time of an instant to the second.
* `mailDate?_httpDate`: what is found in an HTTP date.
* `isShown_of_mailDate?`: what is found in any mail date.
* `dates_survive`: what is lost on the way.
* `leap_second_dated_as_next`: a leap second that does not survive.
-/

namespace CookieConsent.Time

open Text (Reader isBlank IsTrimmed)
open Text.Decimal (padded)
open Text.Reader (bind_of_eq bind_of_none exists_of_bind pure_run)

/-! ## Civil times to the second -/

theorem Instant.nanos_floor (t : Instant) :
    t.floor.nanos = if t.isLeap then 1000000000 else 0 := rfl

@[simp] theorem Instant.seconds_floor (t : Instant) : t.floor.seconds = t.seconds := rfl

/-- A leap second stays one without its fraction. -/
theorem Instant.isLeap_floor (t : Instant) : t.floor.isLeap = t.isLeap := by
  rw [isLeap, nanos_floor]
  cases t.isLeap <;> rfl

/-- Clocks show the second of an instant as the second of what they show. -/
theorem Instant.floor_shown (t : Instant) : t.floor.shown = t.shown.floor := by
  have leap := t.isLeap_floor
  by_cases h : t.IsShown
  · have floor : t.floor.IsShown := by rwa [IsShown, leap, seconds_floor]
    rw [shown_of_isShown h, shown_of_isShown floor]
  · have floor : ¬ t.floor.IsShown := by rwa [IsShown, leap, seconds_floor]
    obtain ⟨seconds, nanos⟩ := shown_of_not_isShown h
    obtain ⟨seconds', nanos'⟩ := shown_of_not_isShown floor
    have lt := t.nanos_lt
    -- the next second begins where the leap second does
    apply eq_of_parts
    · rw [seconds', seconds_floor, seconds_floor, seconds]
    · rw [nanos', nanos_floor, nanos_floor, isLeap, isLeap, nanos]
      simp only [decide_eq_true_eq]
      split <;> split <;> omega

/-- Without the fraction of a second, a clock shows the same time but for the fraction. -/
theorem Civil.ofInstant_floor (t : Instant) :
    Civil.ofInstant t.floor = { Civil.ofInstant t with nanos := 0 } := by
  have lt := t.nanos_lt
  have parts : t.floor.nanos / 1000000000 = t.nanos / 1000000000 ∧
      t.floor.nanos % 1000000000 = 0 := by
    rw [Instant.nanos_floor, Instant.isLeap]
    simp only [decide_eq_true_eq]
    split <;> omega
  simp only [Civil.ofInstant, Instant.seconds_floor, parts]

def Instant.year (t : Instant) : Int := (Civil.ofInstant t).date.year

/-- What the parts of a civil time are bounded by. -/
theorem Civil.bounds_ofInstant (t : Instant) :
    (Civil.ofInstant t).hour < 24 ∧ (Civil.ofInstant t).minute < 60 ∧
      (Civil.ofInstant t).second ≤ 60 ∧ 1 ≤ (Civil.ofInstant t).date.month ∧
      (Civil.ofInstant t).date.month ≤ 12 ∧ (Civil.ofInstant t).date.day ≤ 31 := by
  obtain ⟨⟨month_pos, month_le, -, inMonth⟩, -, -, hour, minute, second, -⟩ :=
    Civil.isValid_ofInstant t
  refine ⟨hour, minute, second, month_pos, month_le, ?_⟩
  apply Nat.le_trans inMonth
  have longest : ∀ length ∈ monthLengths (Civil.ofInstant t).date.year, length ≤ 31 := by
    unfold monthLengths
    split <;> decide
  rw [List.getD_eq_getElem?_getD]
  cases h : (monthLengths (Civil.ofInstant t).date.year)[(Civil.ofInstant t).date.month - 1]? with
  | none => exact Nat.zero_le _
  | some length => exact longest length (List.mem_of_getElem? h)

/-! ## The names in a date -/

/-- The name of a weekday is read as its number. -/
theorem name3_weekday {i : Nat} (h : i < 7) (s : List Char) :
    Reader.name3 weekdayNames ((weekdayNames.getD i "").toList ++ s) = some (i, s) := by
  match i, h with
  | 0, _ | 1, _ | 2, _ | 3, _ | 4, _ | 5, _ | 6, _ => rfl

/-- The name of a month is read as its number. -/
theorem name3_month {i : Nat} (h : i < 12) (s : List Char) :
    Reader.name3 monthNames ((monthNames.getD i "").toList ++ s) = some (i, s) := by
  match i, h with
  | 0, _ | 1, _ | 2, _ | 3, _ | 4, _ | 5, _ | 6, _ | 7, _ | 8, _ | 9, _ | 10, _ | 11, _ => rfl

theorem isBlank_of_mem_head?_weekday {i : Nat} (h : i < 7) {s : List Char} {c : Char}
    (hc : c ∈ ((weekdayNames.getD i "").toList ++ s).head?) : isBlank c = false := by
  match i, h with
  | 0, _ | 1, _ | 2, _ | 3, _ | 4, _ | 5, _ | 6, _ =>
    obtain rfl := Option.some.inj hc
    decide

theorem isBlank_of_mem_head?_month {i : Nat} (h : i < 12) {s : List Char} {c : Char}
    (hc : c ∈ ((monthNames.getD i "").toList ++ s).head?) : isBlank c = false := by
  match i, h with
  | 0, _ | 1, _ | 2, _ | 3, _ | 4, _ | 5, _ | 6, _ | 7, _ | 8, _ | 9, _ | 10, _ | 11, _ =>
    obtain rfl := Option.some.inj hc
    decide

theorem weekdayOf_lt (number : Int) : weekdayOf number < 7 := by
  unfold weekdayOf
  omega

/-! ## The text of a date -/

/-- The characters of an HTTP date, from its first part to its last. -/
theorem toList_httpDate (t : Instant) :
    (httpDate t).toList = (weekdayNames.getD (weekdayOf (t.seconds / 86400)) "").toList ++
      ',' :: ' ' :: (padded 2 (Civil.ofInstant t).date.day ++
      ' ' :: ((monthNames.getD ((Civil.ofInstant t).date.month - 1) "").toList ++
      ' ' :: (yearText t.year ++
      ' ' :: (padded 2 (Civil.ofInstant t).hour ++
      ':' :: (padded 2 (Civil.ofInstant t).minute ++
      ':' :: (padded 2 (Civil.ofInstant t).second ++ ' ' :: "GMT".toList)))))) := by
  simp [httpDate, clockText, Instant.year]

/-- No blank stands at either end of an HTTP date. -/
theorem isTrimmed_httpDate (t : Instant) : IsTrimmed (httpDate t).toList := by
  rw [toList_httpDate]
  refine ⟨fun c hc => isBlank_of_mem_head?_weekday (weekdayOf_lt _) hc, ?_⟩
  intro c hc
  simp only [List.getLast?_append, List.getLast?_cons, Option.some_or] at hc
  obtain rfl := Option.some.inj hc
  decide

/-- The separator of attributes does not stand in an HTTP date. -/
theorem separator_not_mem_httpDate (t : Instant) : ';' ∉ (httpDate t).toList := by
  have month_le := (Civil.bounds_ofInstant t).2.2.2.2.1
  have weekday : ∀ i < 7, ';' ∉ (weekdayNames.getD i "").toList := by decide
  have month : ∀ i < 12, ';' ∉ (monthNames.getD i "").toList := by decide
  have number (width n : Nat) : ';' ∉ padded width n := fun h =>
    absurd (Text.Decimal.isDigit_of_mem_padded h) (by decide)
  have year : ';' ∉ yearText t.year := by
    unfold yearText
    split
    · exact number 4 _
    · split <;> simp [number]
  have weekday := weekday _ (weekdayOf_lt (t.seconds / 86400))
  have month := month ((Civil.ofInstant t).date.month - 1) (by omega)
  rw [toList_httpDate]
  simp only [List.mem_append, List.mem_cons, weekday, month, number, year]
  decide

/-! ## Reading it back -/

/-- A weekday is read with the comma behind it. -/
theorem mailWeekday_eq {i : Nat} (h : i < 7) (s : List Char) :
    mailWeekday ((weekdayNames.getD i "").toList ++ ',' :: s) = some (some i, s) := by
  rw [mailWeekday, name3_weekday h]
  rfl

/-- A year of four digits is read as itself. -/
theorem mailYear_padded {n : Nat} (h : n < 10000) : mailYear (padded 4 n) = n := by
  have length := Text.Decimal.length_padded (Text.Decimal.length_toDigits_le_four h)
  simp [mailYear, length]

/-- A year of four digits is read to its last one. -/
theorem digits_yearText {year : Int} (low : 0 ≤ year) (high : year ≤ 9999) (s : List Char) :
    Reader.digits 2 none (yearText year ++ ' ' :: s) =
      some (padded 4 year.toNat, ' ' :: s) := by
  have fits : year.toNat < 10000 := by omega
  have length := Text.Decimal.length_padded (Text.Decimal.length_toDigits_le_four fits)
  rw [yearText, if_pos ⟨low, high⟩]
  apply Reader.digits_eq
  · intro c hc
    exact Text.Decimal.isDigit_of_mem_padded hc
  · omega
  · intro c hc
    obtain rfl := Option.some.inj hc
    rfl

/-- No digits stand at the front of a year with a sign. -/
theorem digits_yearText_of_sign {year : Int} (h : year < 0 ∨ 9999 < year) (s : List Char) :
    Reader.digits 2 none (yearText year ++ s) = none := by
  rw [yearText, if_neg (by omega)]
  have minus : '-'.isDigit = false := rfl
  have plus : '+'.isDigit = false := rfl
  split <;> simp [Reader.digits, minus, plus]

/-- Seconds are read behind their colon. -/
theorem mailSecond_eq {n : Nat} (h : n < 100) (s : List Char) :
    mailSecond (':' :: (padded 2 n ++ s)) = some (n, s) := by
  have start : Text.trimStart (':' :: (padded 2 n ++ s)) = ':' :: (padded 2 n ++ s) :=
    Text.trimStart_of_head rfl
  rw [mailSecond, start]
  exact Reader.number_padded_two h (Nat.le_refl 2)

/-- What a text without a blank, a digit or a bracket in front starts with. -/
theorem isBlank_of_mem_head?_cons {c d : Char} {s : List Char} (h : isBlank c = false)
    (hd : d ∈ (c :: s).head?) : isBlank d = false := by
  obtain rfl := Option.some.inj hd
  exact h

theorem isBlank_of_mem_head?_yearText {year : Int} {s : List Char} {c : Char}
    (h : c ∈ (yearText year ++ s).head?) : isBlank c = false := by
  unfold yearText at h
  split at h
  · exact Text.Decimal.isBlank_of_mem_head?_padded h
  · split at h
    · exact isBlank_of_mem_head?_cons rfl h
    · exact isBlank_of_mem_head?_cons rfl h

/-- The parts of an HTTP date are those that were written, if its year has four digits. At a year
with a sign the reader stops. -/
theorem mailDateParts_httpDate (t : Instant) :
    mailDateParts (httpDate t).toList =
      if 0 ≤ t.year ∧ t.year ≤ 9999 then
        some ((some (weekdayOf (t.seconds / 86400)), Civil.ofInstant t.floor, 0), [])
      else none := by
  obtain ⟨hour, minute, second, month_pos, month_le, day⟩ := Civil.bounds_ofInstant t
  have weekday := weekdayOf_lt (t.seconds / 86400)
  have month : (Civil.ofInstant t).date.month - 1 < 12 := by omega
  -- up to the year all dates are read alike
  rw [toList_httpDate, mailDateParts,
    bind_of_eq (Reader.blanks_of_head fun c hc => isBlank_of_mem_head?_weekday weekday hc),
    bind_of_eq (mailWeekday_eq weekday _),
    bind_of_eq (Reader.blanks_space_padded 2 _ _),
    bind_of_eq (Reader.number_padded_two (by omega) (Nat.le_succ 1)),
    bind_of_eq (Reader.someBlanks_space fun c hc => isBlank_of_mem_head?_month month hc),
    bind_of_eq (name3_month month _),
    bind_of_eq (Reader.someBlanks_space fun c hc => isBlank_of_mem_head?_yearText hc)]
  by_cases dated : 0 ≤ t.year ∧ t.year ≤ 9999
  · obtain ⟨low, high⟩ := dated
    have year : mailYear (padded 4 t.year.toNat) = t.year := by
      rw [mailYear_padded (by omega)]
      omega
    have gmt : ∀ c ∈ "GMT".toList.head?, isBlank c = false := fun c hc =>
      @isBlank_of_mem_head?_cons 'G' c ['M', 'T'] rfl hc
    have zone : mailZone "GMT".toList = some (0, []) := rfl
    rw [if_pos ⟨low, high⟩, bind_of_eq (digits_yearText low high _),
      bind_of_eq (Reader.someBlanks_space_padded 2 _ _),
      bind_of_eq (Reader.number_padded_two (by omega) (Nat.le_refl 2)),
      bind_of_eq (Reader.blanks_cons rfl _),
      bind_of_eq (Reader.char_cons ':' _),
      bind_of_eq (Reader.blanks_padded 2 _ _),
      bind_of_eq (Reader.number_padded_two (by omega) (Nat.le_refl 2)),
      bind_of_eq (mailSecond_eq (by omega) _),
      bind_of_eq (Reader.someBlanks_space gmt), bind_of_eq zone, pure_run, year,
      Nat.sub_add_cancel month_pos, Civil.ofInstant_floor]
    rfl
  · have sign : t.year < 0 ∨ 9999 < t.year := by omega
    rw [if_neg dated, bind_of_none (digits_yearText_of_sign sign _)]

/-- What is found in an HTTP date: the instant that clocks showed, to the second, if its year has four
digits, and nothing otherwise. -/
theorem mailDate?_httpDate (t : Instant) :
    mailDate? (httpDate t) =
      if 0 ≤ t.year ∧ t.year ≤ 9999 then some t.shown.floor else none := by
  rw [mailDate?, Text.trim_eq_self (isTrimmed_httpDate t)]
  by_cases h : 0 ≤ t.year ∧ t.year ≤ 9999
  · have day : (Civil.ofInstant t.floor).date.dayNumber = t.seconds / 86400 :=
      (Date.dayNumber_ofDayNumber _).1
    rw [if_pos h, mailDateParts_httpDate, if_pos h]
    simp [isCommentsFrom, day, Civil.toInstant?_ofInstant, Instant.floor_shown]
  · rw [if_neg h, mailDateParts_httpDate, if_neg h]

/-! ## What any date names -/

/-- An offset of hours and minutes is one of whole minutes. -/
theorem numericOffset_mod {signs : List (Char × Int)} {between : Reader Unit} {s rest : List Char}
    {offset : Int} (h : numericOffset signs between s = some (offset, rest)) : offset % 60 = 0 := by
  obtain ⟨sign, s₁, -, h⟩ := exists_of_bind h
  obtain ⟨hours, s₂, -, h⟩ := exists_of_bind h
  obtain ⟨_, s₃, -, h⟩ := exists_of_bind h
  obtain ⟨minutes, s₄, -, h⟩ := exists_of_bind h
  split at h
  · obtain ⟨rfl, rfl⟩ := Prod.mk.inj (Option.some.inj h)
    generalize (signs.lookup sign).getD 1 = direction
    rw [Int.natCast_mul, ← Int.mul_assoc]
    exact Int.mul_emod_left _ _
  · cases h

/-- The zone of a mail date is ahead by whole minutes. -/
theorem mailZone_mod {s rest : List Char} {offset : Int} (h : mailZone s = some (offset, rest)) :
    offset % 60 = 0 := by
  unfold mailZone at h
  dsimp only at h
  split at h
  · exact numericOffset_mod h
  · obtain ⟨named, found, h⟩ := Option.map_eq_some_iff.1 h
    obtain ⟨rfl, rfl⟩ := Prod.mk.inj h
    unfold zoneOfName? at found
    dsimp only at found
    split at found
    · obtain rfl := Option.some.inj found
      omega
    · split at found
      · obtain rfl := Option.some.inj found
        rfl
      · cases found

/-- A mail date names an instant that clocks show. -/
theorem isShown_of_mailDate? {text : String} {t : Instant} (h : mailDate? text = some t) :
    t.IsShown := by
  unfold mailDate? at h
  split at h
  · next weekday civil offset rest parts =>
    obtain ⟨-, named⟩ := Option.ite_none_right_eq_some.1 h
    -- the zone is the last of the parts
    iterate 16 obtain ⟨_, _, -, parts⟩ := exists_of_bind parts
    obtain ⟨_, _, zone, parts⟩ := exists_of_bind parts
    obtain ⟨eq, -⟩ := Prod.mk.inj (Option.some.inj parts)
    obtain rfl := (Prod.mk.inj (Prod.mk.inj eq).2).2
    exact Civil.isShown_of_toInstant? (mailZone_mod zone) named
  · cases h

/-! ## What survives -/

/-- The fraction of a second does not show in a date. -/
theorem httpDate_floor (t : Instant) : httpDate t.floor = httpDate t := by
  rw [httpDate, httpDate, Civil.ofInstant_floor]
  rfl

/-- An instant has the date of the one that clocks show. -/
theorem httpDate_shown (t : Instant) : httpDate t.shown = httpDate t := by
  rw [httpDate, httpDate, Civil.ofInstant_shown, Instant.day_shown]

/-- **Expiry dates survive exactly when they can.** In the date of an instant, the instant that clocks
show is read, without its fraction of a second, if its year has four digits, and nothing otherwise.
Clocks show the instant itself, unless it lies in a leap second within a minute: then they show the
next second. A leap second that they show stays one: the instant that is read shows on the same day
at the same time, and its date is the same. -/
theorem dates_survive (t : Instant) :
    mailDate? (httpDate t) =
      (if 0 ≤ t.year ∧ t.year ≤ 9999 then some t.shown.floor else none) ∧
    (t.shown = t ∨ t.isLeap = true ∧ t.seconds % 60 ≠ 59 ∧
      t.shown.isLeap = false ∧ t.shown.seconds = t.seconds + 1) ∧
    t.shown.floor.isLeap = t.shown.isLeap ∧
    Civil.ofInstant t.shown.floor = { Civil.ofInstant t with nanos := 0 } ∧
    httpDate t.shown.floor = httpDate t := by
  refine ⟨mailDate?_httpDate t, ?_, Instant.isLeap_floor t.shown, ?_, ?_⟩
  · by_cases h : t.IsShown
    · exact .inl (Instant.shown_of_isShown h)
    · obtain ⟨leap, within⟩ := Instant.not_isShown_iff.1 h
      exact .inr ⟨leap, within, Instant.isLeap_shown h, (Instant.shown_of_not_isShown h).1⟩
  · rw [Civil.ofInstant_floor, Civil.ofInstant_shown]
  · rw [httpDate_floor, httpDate_shown]

/-- The leap second behind 00:00:04 has the date of the second that is called 00:00:05, and is read as
that second. -/
theorem leap_second_dated_as_next :
    let t : Instant := ⟨4, 1333333333, by decide, by decide, by decide⟩
    let next : Instant := ⟨5, 0, by decide, by decide, by decide⟩
    (0 ≤ t.year ∧ t.year ≤ 9999) ∧ httpDate t = httpDate next ∧
      mailDate? (httpDate t) = some next ∧ next ≠ t.floor := by
  intro t next
  have year : 0 ≤ t.year ∧ t.year ≤ 9999 := by decide
  have read : t.shown.floor = next := by decide
  refine ⟨year, ?_, ?_, by decide⟩
  · rw [← read, httpDate_floor, httpDate_shown]
  · rw [mailDate?_httpDate, if_pos year, read]

end CookieConsent.Time
