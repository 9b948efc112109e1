/-!
# The calendar

Dates of the Gregorian calendar, extended to all years: year 0 is the year before year 1. A date is
counted by its day number, the days that passed between 1 January 1970 and the date.

The years of a 400-year period have 146097 days, so the year of a day is found to within one year
by a division and then put right; the month is found by counting through the lengths of the
months.

* `daysBeforeYear_add_one`: a year is as long as its days before the next one say.
* `yearOfDay_eq_iff`: the year of a day is the one year that the day lies in.
* `Date.ofDayNumber_dayNumber`, `Date.dayNumber_ofDayNumber`: dates and day numbers correspond one
  to one.
-/

namespace CookieConsent.Time

/-- A day of the calendar. Months and days are counted from one. -/
structure Date where
  year : Int
  month : Nat
  day : Nat
deriving DecidableEq, Repr

def isLeapYear (year : Int) : Bool := year % 4 = 0 && (year % 100 ≠ 0 || year % 400 = 0)

def monthLengths (year : Int) : List Nat :=
  [31, if isLeapYear year then 29 else 28, 31, 30, 31, 30, 31, 31, 30, 31, 30, 31]

/-- The days that months of the given lengths have together. -/
def totalDays : List Nat → Nat
  | [] => 0
  | length :: lengths => length + totalDays lengths

theorem totalDays_append (first second : List Nat) :
    totalDays (first ++ second) = totalDays first + totalDays second := by
  induction first with
  | nil => simp [totalDays]
  | cons length lengths ih => simp only [List.cons_append, totalDays, ih, Nat.add_assoc]

/-- The days between 1 January of year 0 and 1 January of `year`. -/
def daysBeforeYear (year : Int) : Int :=
  365 * year + (year + 3) / 4 - (year + 99) / 100 + (year + 399) / 400

/-- The days between 1 January of year 0 and 1 January 1970. -/
def epochDay : Int := 719528

theorem epochDay_eq : epochDay = daysBeforeYear 1970 := by decide

/-- A year has 365 days, and one more if it is a leap year. -/
theorem daysBeforeYear_add_one (year : Int) :
    daysBeforeYear (year + 1) = daysBeforeYear year + (if isLeapYear year then 366 else 365) := by
  unfold daysBeforeYear isLeapYear
  split <;> rename_i h <;> simp at h <;> omega

/-- The months of a year make up the year. -/
theorem totalDays_monthLengths (year : Int) :
    totalDays (monthLengths year) = if isLeapYear year then 366 else 365 := by
  unfold monthLengths
  split <;> rfl

/-! ## From a date to its day number -/

/-- Whether the date is a day of its month. -/
def Date.IsValid (date : Date) : Prop :=
  1 ≤ date.month ∧ date.month ≤ 12 ∧ 1 ≤ date.day ∧
    date.day ≤ (monthLengths date.year).getD (date.month - 1) 0

instance (date : Date) : Decidable date.IsValid :=
  inferInstanceAs (Decidable (_ ∧ _ ∧ _ ∧ _))

/-- The days of the year that passed before the date. -/
def Date.dayOfYear (date : Date) : Nat :=
  totalDays ((monthLengths date.year).take (date.month - 1)) + (date.day - 1)

/-- The days between 1 January 1970 and the date. -/
def Date.dayNumber (date : Date) : Int :=
  daysBeforeYear date.year + date.dayOfYear - epochDay

/-! ## From a day number to its date -/

/-- The year in which the day lies that comes `days` days after 1 January of year 0. -/
def yearOfDay (days : Int) : Int :=
  let guess := 400 * days / 146097
  if days < daysBeforeYear guess then guess - 1
  else if daysBeforeYear (guess + 1) ≤ days then guess + 1
  else guess

/-- Counts through months of the given lengths: the month in which the `days`-th day lies, counted
from zero, and the days of that month that passed before it. -/
def locate : List Nat → Nat → Nat × Nat
  | [], days => (0, days)
  | length :: lengths, days =>
    if days < length then (0, days)
    else
      let place := locate lengths (days - length)
      (place.1 + 1, place.2)

/-- The date with a day number. -/
def Date.ofDayNumber (number : Int) : Date :=
  let days := number + epochDay
  let year := yearOfDay days
  let place := locate (monthLengths year) (days - daysBeforeYear year).toNat
  ⟨year, place.1 + 1, place.2 + 1⟩

/-- The day of the week, counted from Monday as zero. 1 January 1970 was a Thursday. -/
def weekdayOf (number : Int) : Nat := ((number + 3) % 7).toNat

/-- Later years begin on later days. -/
theorem daysBeforeYear_lt {a b : Int} (h : a < b) : daysBeforeYear a < daysBeforeYear b := by
  unfold daysBeforeYear
  omega

theorem daysBeforeYear_le {a b : Int} (h : a ≤ b) : daysBeforeYear a ≤ daysBeforeYear b := by
  rcases Int.lt_or_eq_of_le h with h | rfl
  · exact Int.le_of_lt (daysBeforeYear_lt h)
  · exact Int.le_refl _

/-- The year of a day is the one year that the day lies in. -/
theorem yearOfDay_eq_iff {days year : Int} :
    yearOfDay days = year ↔ daysBeforeYear year ≤ days ∧ days < daysBeforeYear (year + 1) := by
  -- the year is first guessed by its mean length, and put right by one
  have bounds : daysBeforeYear (yearOfDay days) ≤ days ∧
      days < daysBeforeYear (yearOfDay days + 1) := by
    unfold yearOfDay
    simp only
    split
    · simp only [Int.sub_add_cancel, daysBeforeYear] at *
      omega
    · split
      · simp only [daysBeforeYear] at *
        omega
      · simp only [daysBeforeYear] at *
        omega
  constructor
  · rintro rfl
    exact bounds
  · rintro ⟨low, high⟩
    -- the days of different years do not overlap
    rcases Int.lt_trichotomy (yearOfDay days) year with h | h | h
    · have := daysBeforeYear_le (show yearOfDay days + 1 ≤ year by omega)
      omega
    · exact h
    · have := daysBeforeYear_le (show year + 1 ≤ yearOfDay days by omega)
      omega

/-! ## Dates and day numbers correspond -/

/-- A day of the year is located in its month, behind the days of the months before. -/
theorem locate_take {lengths : List Nat} {month day : Nat} (h : day < lengths.getD month 0) :
    locate lengths (totalDays (lengths.take month) + day) = (month, day) := by
  induction lengths generalizing month with
  | nil => simp at h
  | cons length lengths ih =>
    cases month with
    | zero => simpa [locate, totalDays] using h
    | succ month =>
      have step : length + totalDays (lengths.take month) + day - length =
          totalDays (lengths.take month) + day := by omega
      rw [List.take_succ_cons, totalDays, locate, if_neg (by omega), step,
        ih (by simpa using h)]

/-- The month and the place in it that are found for a day of the year are those of that day. -/
theorem totalDays_take_locate {lengths : List Nat} {days : Nat} (h : days < totalDays lengths) :
    totalDays (lengths.take (locate lengths days).1) + (locate lengths days).2 = days ∧
      (locate lengths days).1 < lengths.length ∧
      (locate lengths days).2 < lengths.getD (locate lengths days).1 0 := by
  induction lengths generalizing days with
  | nil => exact absurd h (Nat.not_lt_zero _)
  | cons length lengths ih =>
    unfold locate
    split
    · simpa [totalDays]
    · rw [totalDays] at h
      have := @ih (days - length) (by omega)
      simp only [List.take_succ_cons, totalDays, List.length_cons, List.getD_cons_succ]
      omega

theorem length_monthLengths (year : Int) : (monthLengths year).length = 12 := rfl

/-- A date lies in its year. -/
theorem Date.dayOfYear_lt {date : Date} (h : date.IsValid) :
    date.dayOfYear < totalDays (monthLengths date.year) := by
  obtain ⟨_, _, _, inMonth⟩ := h
  have cut := List.take_append_drop (date.month - 1) (monthLengths date.year)
  have hlt : date.month - 1 < (monthLengths date.year).length := by
    rw [length_monthLengths]; omega
  rw [List.drop_eq_getElem_cons hlt] at cut
  have sum := congrArg totalDays cut
  rw [totalDays_append, totalDays] at sum
  rw [List.getD_eq_getElem?_getD, List.getElem?_eq_getElem hlt, Option.getD_some] at inMonth
  unfold Date.dayOfYear
  omega

/-- The date of a date's day number is that date. -/
theorem Date.ofDayNumber_dayNumber {date : Date} (h : date.IsValid) :
    Date.ofDayNumber date.dayNumber = date := by
  have lt := Date.dayOfYear_lt h
  rw [totalDays_monthLengths, ← Int.ofNat_lt] at lt
  obtain ⟨_, _, _, inMonth⟩ := h
  have year : yearOfDay (date.dayNumber + epochDay) = date.year := by
    rw [yearOfDay_eq_iff, daysBeforeYear_add_one]
    unfold Date.dayNumber
    split at lt
    · next leap => rw [if_pos leap]; omega
    · next leap => rw [if_neg leap]; omega
  unfold Date.ofDayNumber
  simp only [year]
  -- what is left of the days behind the beginning of the year is located in its months
  have days : (date.dayNumber + epochDay - daysBeforeYear date.year).toNat = date.dayOfYear := by
    unfold Date.dayNumber
    omega
  rw [days, Date.dayOfYear, locate_take (by omega)]
  simp only
  cases date
  simp_all

/-- The day number of the date of a day number is that number, and the date is a valid one. -/
theorem Date.dayNumber_ofDayNumber (number : Int) :
    (Date.ofDayNumber number).dayNumber = number ∧ (Date.ofDayNumber number).IsValid := by
  obtain ⟨low, high⟩ := yearOfDay_eq_iff.1 (Eq.refl (yearOfDay (number + epochDay)))
  rw [daysBeforeYear_add_one] at high
  have lt : (number + epochDay - daysBeforeYear (yearOfDay (number + epochDay))).toNat <
      totalDays (monthLengths (yearOfDay (number + epochDay))) := by
    rw [totalDays_monthLengths]
    split at high
    · next leap => rw [if_pos leap]; omega
    · next leap => rw [if_neg leap]; omega
  obtain ⟨sum, month, day⟩ := totalDays_take_locate lt
  rw [length_monthLengths] at month
  constructor
  · simp only [Date.ofDayNumber, Date.dayNumber, Date.dayOfYear, Nat.add_sub_cancel, sum]
    omega
  · simp only [Date.IsValid, Date.ofDayNumber, Nat.add_sub_cancel]
    omega

end CookieConsent.Time
