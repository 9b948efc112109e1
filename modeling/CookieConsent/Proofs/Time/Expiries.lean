import CookieConsent.Proofs.Time.Dates
import CookieConsent.Time.Expiry

/-!
# How long a cookie is kept

A cookie that is written for some days states its expiry as an HTTP date, and what is kept is the
instant that is read in that date. Before the latest expiry it always lies ahead of the time of
writing. From the beginning of the year 0 on, and outside leap seconds, it is known to the second:
the days are added to the second of writing, up to the latest expiry.

* `lt_keptUntil`: no cookie has expired when it is written.
* `count_expiryAfter`: the expiry that is written.
* `keptUntil_eq_floor`, `keptUntil_eq`: until when it is kept.
-/

namespace CookieConsent.Time

/-- Until when a cookie is kept that is written `now` for some days: the date that is read in the
date that was written. -/
def keptUntil (now : Instant) (days : UInt32) : Option Instant :=
  (expiryAfter now days).bind fun t => mailDate? (httpDate t)

/-- The beginning of a second. -/
def Instant.ofSecond (seconds : Int) (first_le : firstSecond ≤ seconds)
    (le_last : seconds ≤ lastSecond) : Instant :=
  ⟨seconds, 0, first_le, le_last, Nat.succ_pos _⟩

def Instant.epoch : Instant := .ofSecond 0 (by decide) (by decide)

def firstDated : Instant := .ofSecond (-62167219200) (by decide) (by decide)

/-- The year 0 begins there. -/
theorem firstDated_eq : firstDated.seconds = (Date.mk 0 1 1).dayNumber * 86400 := by decide

/-- The year 9999 ends with it. -/
theorem latestExpiry_eq : latestExpiry.seconds = (Date.mk 10000 1 1).dayNumber * 86400 - 1 := by
  decide

/-! ## Years -/

/-- A day lies in a year or behind it when it does not come before the first day of that year. -/
theorem le_yearOfDay_iff {year days : Int} : year ≤ yearOfDay days ↔ daysBeforeYear year ≤ days := by
  obtain ⟨low, high⟩ := yearOfDay_eq_iff.1 (Eq.refl (yearOfDay days))
  constructor
  · intro h
    exact Int.le_trans (daysBeforeYear_le h) low
  · intro h
    apply Int.not_lt.1
    intro lt
    have := daysBeforeYear_le (show yearOfDay days + 1 ≤ year by omega)
    omega

theorem Instant.year_eq (t : Instant) : t.year = yearOfDay (t.seconds / 86400 + epochDay) := rfl

/-- The years with four digits reach from `firstDated` to `latestExpiry`. -/
theorem Instant.year_four_digits {t : Instant} :
    (0 ≤ t.year ∧ t.year ≤ 9999) ↔
      firstDated.seconds ≤ t.seconds ∧ t.seconds ≤ latestExpiry.seconds := by
  -- counted from 1970, the days at which the years 0 and 10000 begin
  have low : 0 ≤ t.year ↔ -719528 ≤ t.seconds / 86400 := by
    rw [Instant.year_eq, le_yearOfDay_iff, show daysBeforeYear 0 = 0 from by decide, epochDay]
    omega
  have high : 10000 ≤ t.year ↔ 2932897 ≤ t.seconds / 86400 := by
    rw [Instant.year_eq, le_yearOfDay_iff, show daysBeforeYear 10000 = 3652425 from by decide,
      epochDay]
    omega
  rw [show firstDated.seconds = -62167219200 from rfl,
    show latestExpiry.seconds = 253402300799 from rfl]
  omega

/-! ## Adding days -/

/-- One day is the shortest lifetime other than none. -/
theorem nanos_ofDays_pos {days : UInt32} (h : days ≠ 0) :
    86400000000000 ≤ (Duration.ofDays days.toNat).nanos := by
  have pos : days.toNat ≠ 0 := fun eq => h (UInt32.toNat_inj.1 eq)
  rw [Duration.nanos_ofDays]
  omega

/-- Days that are added lead to a later second, also from a leap second. -/
theorem seconds_lt_of_afterDays? {now t : Instant} {days : UInt32} (h : days ≠ 0)
    (ht : afterDays? now days = some t) : now.seconds < t.seconds := by
  have day := nanos_ofDays_pos h
  have nanos := t.nanos_lt
  rw [afterDays?, Instant.add?] at ht
  generalize (Duration.ofDays days.toNat).nanos = d at day ht
  split at ht
  · rw [if_neg (by rw [nanosPerSecond]; omega), if_pos (by omega)] at ht
    have count := (Instant.ofCount?_eq_some_iff.1 ht).2
    rw [Instant.count_def, Instant.count_def, nanosPerSecond] at count
    omega
  · have count := (Instant.ofCount?_eq_some_iff.1 ht).2
    rw [Instant.count_def, Instant.count_def] at count
    omega

/-- The count of the instant that lies some days after `now`, in range or not. -/
def countAfterDays (now : Instant) (days : UInt32) : Int :=
  now.count + 86400 * days.toNat * nanosPerSecond

theorem count_latestExpiry : latestExpiry.count = latestExpiry.seconds * 1000000000 := by decide

/-- Outside leap seconds, the instant some days later has the count that it should have. -/
theorem count_of_afterDays? {now t : Instant} {days : UInt32} (hnow : now.isLeap = false)
    (ht : afterDays? now days = some t) :
    t.isLeap = false ∧ t.count = countAfterDays now days :=
  (Instant.add?_eq_some_iff hnow).1 ht

/-- Where days lead out of range, they lead beyond the latest expiry. -/
theorem lt_of_afterDays?_eq_none {now : Instant} {days : UInt32} (hnow : now.isLeap = false)
    (h : afterDays? now days = none) : latestExpiry.count < countAfterDays now days := by
  have first := now.first_le
  rw [afterDays?, Instant.add?_eq_none_iff hnow, Instant.count_def, Duration.nanos_ofDays] at h
  rw [firstSecond] at first h
  rw [lastSecond] at h
  rw [count_latestExpiry, show latestExpiry.seconds = 253402300799 from rfl, countAfterDays,
    nanosPerSecond, Instant.count_def]
  omega

/-! ## What is kept -/

/-- With at least one day, a cookie is kept until the date that is read in the capped sum. -/
theorem keptUntil_def {now : Instant} {days : UInt32} (h : days ≠ 0) :
    keptUntil now days =
      mailDate? (httpDate (min ((afterDays? now days).getD latestExpiry) latestExpiry)) := by
  rw [keptUntil, expiryAfter, if_neg h, Option.bind_some]

/-- The earlier of two instants is one of them. -/
theorem Instant.min_cases (a b : Instant) : min a b = a ∧ a ≤ b ∨ min a b = b ∧ b < a := by
  rw [Instant.min_def]
  split
  · exact .inl ⟨rfl, by assumption⟩
  · exact .inr ⟨rfl, Instant.not_le.1 (by assumption)⟩

/-- No cookie has expired when it is written, as long as there is time for it. -/
theorem lt_keptUntil {now t : Instant} {days : UInt32} (h : now < latestExpiry)
    (ht : keptUntil now days = some t) : now < t := by
  by_cases days_ne : days = 0
  · subst days_ne
    cases ht
  rw [keptUntil_def days_ne, mailDate?_httpDate] at ht
  split at ht
  · obtain rfl := Option.some.inj ht
    rcases Instant.min_cases ((afterDays? now days).getD latestExpiry) latestExpiry with
      ⟨eq, -⟩ | ⟨eq, -⟩
    · rw [eq]
      cases after : afterDays? now days with
      | none => exact h
      | some u =>
        -- the fraction is lost in the date, but a day later is a later second
        have later : now.seconds < u.seconds := seconds_lt_of_afterDays? days_ne after
        exact .inl (Int.lt_of_lt_of_le later u.seconds_le_shown)
    · rw [eq]
      exact h
  · cases ht

/-- The expiry that is written: the days later, in numbers without a bound, and not beyond the
latest expiry. -/
theorem count_expiryAfter {now : Instant} {days : UInt32} (h : days ≠ 0)
    (hnow : now.isLeap = false) :
    ∃ t, expiryAfter now days = some t ∧ t.isLeap = false ∧
      t.count = min (countAfterDays now days) latestExpiry.count := by
  refine ⟨_, if_neg h, ?_⟩
  -- a sum out of range lies behind the latest expiry, as days only lead ahead
  cases after : afterDays? now days with
  | none =>
    have beyond := lt_of_afterDays?_eq_none hnow after
    rw [Option.getD_none, Instant.min_def, if_pos (Instant.le_refl latestExpiry)]
    exact ⟨rfl, by omega⟩
  | some u =>
    obtain ⟨leap, count⟩ := count_of_afterDays? hnow after
    rw [Option.getD_some, ← count]
    rcases Instant.min_cases u latestExpiry with ⟨eq, le⟩ | ⟨eq, lt⟩
    · rw [Instant.le_iff_count_le leap rfl] at le
      rw [eq]
      exact ⟨leap, by omega⟩
    · rw [← Instant.not_le, Instant.le_iff_count_le leap rfl] at lt
      rw [eq]
      exact ⟨rfl, by omega⟩

/-- The second of the expiry that is written. -/
theorem expiryAfter_eq {now : Instant} {days : UInt32} (h : days ≠ 0)
    (hnow : now.isLeap = false) :
    ∃ t, expiryAfter now days = some t ∧ t.isLeap = false ∧
      t.seconds = min (now.seconds + 86400 * days.toNat) latestExpiry.seconds := by
  obtain ⟨t, eq, leap, count⟩ := count_expiryAfter h hnow
  refine ⟨t, eq, leap, ?_⟩
  rw [Instant.isLeap_eq_false] at leap hnow
  rw [count_latestExpiry, countAfterDays, nanosPerSecond, Instant.count_def, Instant.count_def]
    at count
  omega

/-- Outside leap seconds, no expiry lies in one. -/
theorem isLeap_of_expiryAfter {now t : Instant} {days : UInt32} (hnow : now.isLeap = false)
    (ht : expiryAfter now days = some t) : t.isLeap = false := by
  by_cases h : days = 0
  · subst h
    cases ht
  · obtain ⟨u, eq, leap, -⟩ := expiryAfter_eq h hnow
    obtain rfl := Option.some.inj (eq.symm.trans ht)
    exact leap

/-- What is kept of an expiry: all but its fraction of a second. -/
theorem keptUntil_eq_floor {now : Instant} (days : UInt32) (hnow : now.isLeap = false)
    (dated : firstDated ≤ now) : keptUntil now days = (expiryAfter now days).map Instant.floor := by
  by_cases h : days = 0
  · subst h
    rfl
  have first : firstDated.seconds ≤ now.seconds := by
    rcases dated with lt | ⟨eq, -⟩ <;> omega
  obtain ⟨t, eq, leap, seconds⟩ := expiryAfter_eq h hnow
  have four : 0 ≤ t.year ∧ t.year ≤ 9999 := by
    rw [Instant.year_four_digits, seconds]
    have : firstDated.seconds ≤ latestExpiry.seconds := by decide
    omega
  rw [keptUntil, eq, Option.bind_some, mailDate?_httpDate, if_pos four, Option.map_some,
    Instant.shown_of_isShown (Instant.isShown_of_isLeap_eq_false leap)]

/-- What is kept of an expiry is an instant that clocks show. -/
theorem isShown_of_keptUntil {now t : Instant} {days : UInt32} (ht : keptUntil now days = some t) :
    t.IsShown := by
  obtain ⟨u, -, read⟩ := Option.bind_eq_some_iff.1 ht
  exact isShown_of_mailDate? read

/-- Until when a cookie is kept: to the second, and not beyond the latest expiry. -/
theorem keptUntil_eq {now : Instant} {days : UInt32} (h : days ≠ 0) (hnow : now.isLeap = false)
    (dated : firstDated ≤ now) :
    ∃ t, keptUntil now days = some t ∧ t.nanos = 0 ∧
      t.seconds = min (now.seconds + 86400 * days.toNat) latestExpiry.seconds := by
  obtain ⟨t, eq, leap, seconds⟩ := expiryAfter_eq h hnow
  refine ⟨t.floor, ?_, ?_, ?_⟩
  · rw [keptUntil_eq_floor days hnow dated, eq, Option.map_some]
  · rw [Instant.nanos_floor, leap]
    rfl
  · rw [Instant.seconds_floor, seconds]

end CookieConsent.Time
