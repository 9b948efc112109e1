import CookieConsent.Time.Instant

/-!
# Expiry

A cookie is kept for some days. The date on which it expires is written with a year of four
digits, so no expiry lies beyond the year 9999; a lifetime of zero days means that the cookie ends
with the browser's session and has no expiry.
-/

namespace CookieConsent.Time

/-- The last second that a date with a year of four digits can name. -/
def latestExpiry : Instant := ⟨253402300799, 0, by decide, by decide, by decide⟩

/-- The instant `days` days after `now`, if it is in range. -/
def afterDays? (now : Instant) (days : UInt32) : Option Instant :=
  now.add? (.ofDays days.toNat)

/-- When a cookie written `now` for some days expires: never later than `latestExpiry`, and not at
all when the days are zero. -/
def expiryAfter (now : Instant) (days : UInt32) : Option Instant :=
  if days = 0 then none
  else some (min ((afterDays? now days).getD latestExpiry) latestExpiry)

/-- Whether the days from `now` end by `latestExpiry`. -/
def expiryInRange (now : Instant) (days : UInt32) : Bool :=
  match afterDays? now days with
  | some t => t ≤ latestExpiry
  | none => false

@[simp] theorem expiryAfter_zero (now : Instant) : expiryAfter now 0 = none := rfl

/-- The cap on expiries holds. -/
theorem min_latestExpiry_le (t : Instant) : min t latestExpiry ≤ latestExpiry := by
  rw [Instant.min_def]
  split
  · assumption
  · exact Instant.le_refl _

/-- No expiry is later than the last second of the year 9999. -/
theorem le_latestExpiry {now t : Instant} {days : UInt32} (h : expiryAfter now days = some t) :
    t ≤ latestExpiry := by
  unfold expiryAfter at h
  split at h
  · cases h
  · obtain rfl := Option.some.inj h
    exact min_latestExpiry_le _

end CookieConsent.Time
