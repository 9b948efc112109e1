import CookieConsent.Time.Instant

/-!
# Civil time

An instant as calendars and clocks show it: a date, an hour, a minute and a second, which is 60 in
a leap second at the end of a minute. In any other leap second clocks show the second behind it
already, so its civil time names that second.

* `Instant.shown`: the instant that clocks show, and `Instant.shown_eq_self_iff`.
* `toInstant?_ofInstant`: the instant that a civil time names at offset zero.
* `isShown_of_toInstant?`: only instants that clocks show are named.
-/

namespace CookieConsent.Time

/-- A date and a time of day. -/
structure Civil where
  date : Date
  hour : Nat
  minute : Nat
  second : Nat
  nanos : Nat
deriving DecidableEq, Repr

namespace Civil

/-- The civil time of an instant, in universal time. -/
def ofInstant (t : Instant) : Civil :=
  let clock := (t.seconds % 86400).toNat
  { date := Date.ofDayNumber (t.seconds / 86400)
    hour := clock / 3600
    minute := clock / 60 % 60
    second := clock % 60 + t.nanos / 1000000000
    nanos := t.nanos % 1000000000 }

/-- Whether some clock shows the time: a date in range, an hour, a minute and a second, of which
the last may be a leap second. -/
def IsValid (c : Civil) : Prop :=
  c.date.IsValid ∧ -262143 ≤ c.date.year ∧ c.date.year ≤ 262142 ∧
    c.hour < 24 ∧ c.minute < 60 ∧ c.second ≤ 60 ∧ c.nanos < 1000000000

instance (c : Civil) : Decidable c.IsValid :=
  inferInstanceAs (Decidable (_ ∧ _ ∧ _ ∧ _ ∧ _ ∧ _ ∧ _))

/-- The instant at which a clock shows the time that is `offset` seconds ahead of universal time,
if there is one. An offset is less than a day. -/
def toInstant? (c : Civil) (offset : Int) : Option Instant :=
  if c.IsValid ∧ -86400 < offset ∧ offset < 86400 then
    let second := min c.second 59
    let clock := c.date.dayNumber * 86400 + (c.hour * 3600 + c.minute * 60 + second : Nat)
    Instant.ofParts? (clock - offset) ((c.second - second) * 1000000000 + c.nanos)
  else none

end Civil

/-! ## From an instant and back -/

/-- The year of an instant is in range. -/
theorem year_in_range {t : Instant} :
    -262143 ≤ (Date.ofDayNumber (t.seconds / 86400)).year ∧
      (Date.ofDayNumber (t.seconds / 86400)).year ≤ 262142 := by
  have low := t.first_le
  have high := t.le_last
  obtain ⟨before, after⟩ :=
    yearOfDay_eq_iff.1 (Eq.refl (yearOfDay (t.seconds / 86400 + epochDay)))
  rw [firstSecond] at low
  rw [lastSecond] at high
  rw [epochDay] at before after
  change -262143 ≤ yearOfDay (t.seconds / 86400 + 719528) ∧
    yearOfDay (t.seconds / 86400 + 719528) ≤ 262142
  generalize yearOfDay (t.seconds / 86400 + 719528) = year at before after
  constructor
  · -- a year further back would begin before the first second
    rcases Decidable.em (year < -262143) with h | h
    · have := daysBeforeYear_le (show year + 1 ≤ -262143 by omega)
      rw [show daysBeforeYear (-262143) = -95745764 from by decide] at this
      omega
    · omega
  · -- and a later year behind the last one
    rcases Decidable.em (262142 < year) with h | h
    · have := daysBeforeYear_le (show 262143 ≤ year by omega)
      rw [show daysBeforeYear 262143 = 95745765 from by decide] at this
      omega
    · omega

namespace Civil

/-- Every instant has a civil time that some clock shows. -/
theorem isValid_ofInstant (t : Instant) : (ofInstant t).IsValid := by
  have nanos := t.nanos_lt
  refine ⟨(Date.dayNumber_ofDayNumber _).2, year_in_range.1, year_in_range.2, ?_⟩
  simp only [ofInstant]
  omega

end Civil

/-! ## What clocks show -/

namespace Instant

/-- Whether clocks show the instant as none other: outside leap seconds, and in those at the end of a
minute. -/
def IsShown (t : Instant) : Prop := t.isLeap → t.seconds % 60 = 59

instance (t : Instant) : Decidable t.IsShown := inferInstanceAs (Decidable (_ → _))

/-- What clocks do not show as itself lies in a leap second within a minute. -/
theorem not_isShown_iff {t : Instant} : ¬ t.IsShown ↔ t.isLeap = true ∧ t.seconds % 60 ≠ 59 :=
  Decidable.not_imp_iff_and_not

/-- The instant that clocks show at `t`: in a leap second within a minute, one of the next second. -/
def shown (t : Instant) : Instant :=
  if h : t.IsShown then t
  else
    have leap : t.isLeap ∧ t.seconds % 60 ≠ 59 := Decidable.not_imp_iff_and_not.1 h
    have lt : t.seconds < lastSecond := by
      have le := t.le_last
      rw [lastSecond] at le ⊢
      omega
    ⟨t.seconds + 1, t.nanos - 1000000000, Int.le_trans t.first_le (by omega), by omega,
      Nat.lt_of_le_of_lt (Nat.sub_le _ _) t.nanos_lt⟩

/-- Only leap seconds can be shown as another second. -/
theorem isShown_of_isLeap_eq_false {t : Instant} (h : t.isLeap = false) : t.IsShown := by
  intro leap
  cases h.symm.trans leap

theorem shown_of_isShown {t : Instant} (h : t.IsShown) : t.shown = t := dif_pos h

/-- What clocks show in a leap second within a minute. -/
theorem shown_of_not_isShown {t : Instant} (h : ¬ t.IsShown) :
    t.shown.seconds = t.seconds + 1 ∧ t.shown.nanos = t.nanos - 1000000000 := by
  rw [shown, dif_neg h]
  exact ⟨rfl, rfl⟩

/-- What clocks show in place of a leap second within a minute is no leap second. -/
theorem isLeap_shown {t : Instant} (h : ¬ t.IsShown) : t.shown.isLeap = false := by
  have nanos := t.nanos_lt
  rw [isLeap_eq_false, (shown_of_not_isShown h).2]
  omega

/-- What clocks show is outside leap seconds within a minute. -/
theorem isShown_shown (t : Instant) : t.shown.IsShown := by
  by_cases h : t.IsShown
  · rwa [shown_of_isShown h]
  · exact isShown_of_isLeap_eq_false (isLeap_shown h)

/-- Clocks never show an earlier second. -/
theorem seconds_le_shown (t : Instant) : t.seconds ≤ t.shown.seconds := by
  by_cases h : t.IsShown
  · exact Int.le_of_eq (congrArg seconds (shown_of_isShown h).symm)
  · rw [(shown_of_not_isShown h).1]
    omega

/-- Clocks show an instant on its day, as no minute goes on into the next day. -/
theorem day_shown (t : Instant) : t.shown.seconds / 86400 = t.seconds / 86400 := by
  by_cases h : t.IsShown
  · rw [shown_of_isShown h]
  · have within := (not_isShown_iff.1 h).2
    rw [(shown_of_not_isShown h).1]
    omega

/-- Clocks show an instant as itself unless it lies in a leap second within a minute. -/
theorem shown_eq_self_iff {t : Instant} : t.shown = t ↔ t.IsShown :=
  ⟨fun same => same ▸ isShown_shown t, shown_of_isShown⟩

end Instant

namespace Civil

/-- An instant has the civil time of the one that clocks show. -/
theorem ofInstant_shown (t : Instant) : ofInstant t.shown = ofInstant t := by
  by_cases h : t.IsShown
  · rw [Instant.shown_of_isShown h]
  · obtain ⟨leap, within⟩ := Instant.not_isShown_iff.1 h
    obtain ⟨seconds, nanos⟩ := Instant.shown_of_not_isShown h
    have lt := t.nanos_lt
    rw [Instant.isLeap, decide_eq_true_eq] at leap
    have day := t.day_shown
    rw [seconds] at day
    -- the next second is in the same minute
    have clock : ((t.seconds + 1) % 86400).toNat = (t.seconds % 86400).toNat + 1 := by omega
    simp only [ofInstant, seconds, nanos, day, clock, Civil.mk.injEq, true_and]
    omega

/-- The civil time of an instant, at offset zero, names the instant that clocks show. -/
theorem toInstant?_ofInstant (t : Instant) : (ofInstant t).toInstant? 0 = some t.shown := by
  rw [← ofInstant_shown]
  have named := Instant.isShown_shown t
  generalize t.shown = t at named
  have nanos := t.nanos_lt
  simp only [Instant.IsShown, Instant.isLeap, decide_eq_true_eq] at named
  rw [toInstant?, if_pos ⟨isValid_ofInstant t, by decide, by decide⟩, Instant.ofParts?_eq_some_iff]
  simp only [ofInstant, (Date.dayNumber_ofDayNumber _).1]
  omega

/-- A civil time names an instant that clocks show, when clocks differ by whole minutes. -/
theorem isShown_of_toInstant? {c : Civil} {offset : Int} (minutes : offset % 60 = 0) {t : Instant}
    (h : c.toInstant? offset = some t) : t.IsShown := by
  obtain ⟨⟨valid, -⟩, h⟩ := Option.ite_none_right_eq_some.1 h
  obtain ⟨seconds, nanos⟩ := Instant.ofParts?_eq_some_iff.1 h
  obtain ⟨-, -, -, -, -, -, lt⟩ := valid
  rw [Instant.IsShown, Instant.isLeap, decide_eq_true_eq]
  omega

end Civil

end CookieConsent.Time
