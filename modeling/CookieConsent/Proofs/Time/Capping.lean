import CookieConsent.Proofs.Time.Expiries

/-!
# The cap on expiries

Days are added to the time of writing, and what comes out is capped at the latest expiry. Outside
leap seconds this is exact: where the days lead out of the range of instants they lead beyond the
latest expiry, so what is given up there would have been capped anyway. The check that days are in
range tells from the same numbers whether there is anything to cap.

* `expiryInRange_iff`: when days are in range.
* `expiryAfter_mono`: later writing and more days.
* `expiry_is_capped`: the expiry, the check, and when the expiry lies ahead.
-/

namespace CookieConsent.Time

variable {now t : Instant} {days : UInt32}

/-- Days are in range when they lead no further than the latest expiry. -/
theorem expiryInRange_iff (plain : now.isLeap = false) (days : UInt32) :
    expiryInRange now days = true ↔ countAfterDays now days ≤ latestExpiry.count := by
  rw [expiryInRange]
  cases after : afterDays? now days with
  | none =>
    have beyond := lt_of_afterDays?_eq_none plain after
    exact iff_of_false Bool.false_ne_true (by omega)
  | some u =>
    obtain ⟨plainU, count⟩ := count_of_afterDays? plain after
    rw [decide_eq_true_iff, Instant.le_iff_count_le plainU rfl, count]

/-- Without its fraction of a second, an expiry lies ahead when there is time until the latest one.
-/
theorem lt_floor_expiryAfter_iff (plain : now.isLeap = false) (h : days ≠ 0)
    (ht : expiryAfter now days = some t) : now < t.floor ↔ now < latestExpiry := by
  obtain ⟨u, eq, leap, seconds⟩ := expiryAfter_eq h plain
  obtain rfl : u = t := Option.some.inj (eq.symm.trans ht)
  have pos : days.toNat ≠ 0 := fun zero => h (UInt32.toNat_inj.1 zero)
  have nanos : u.floor.nanos = 0 := by rw [Instant.nanos_floor, leap]; rfl
  have latest : latestExpiry.nanos = 0 := rfl
  rw [Instant.lt_def, Instant.lt_def, nanos, latest, Instant.seconds_floor]
  omega

/-- Later writing and more days never make an expiry earlier. -/
theorem expiryAfter_mono {later : Instant} {more : UInt32} (plain : now.isLeap = false)
    (plain' : later.isLeap = false) (h : days ≠ 0) (le : now ≤ later) (le' : days ≤ more)
    (ht : expiryAfter now days = some t) : ∃ u, expiryAfter later more = some u ∧ t ≤ u := by
  have more_ne : more ≠ 0 := by
    rintro rfl
    exact h (UInt32.le_antisymm le' UInt32.zero_le)
  obtain ⟨_, eq, plainT, countT⟩ := count_expiryAfter h plain
  obtain rfl := Option.some.inj (eq.symm.trans ht)
  obtain ⟨u, hu, plainU, countU⟩ := count_expiryAfter more_ne plain'
  refine ⟨u, hu, ?_⟩
  rw [Instant.le_iff_count_le plain plain'] at le
  rw [UInt32.le_iff_toNat_le] at le'
  rw [Instant.le_iff_count_le plainT plainU, countT, countU, countAfterDays, countAfterDays,
    nanosPerSecond]
  omega

/-- **Expiries are capped sums.** Outside leap seconds and for days that are not zero, the expiry is
the instant whose count is that of the instant of writing and the nanoseconds of the days together,
or that of the latest expiry if it is less, also where the sum leaves the range of instants. So it
is never later than the latest expiry; and without its fraction of a second it lies ahead if and
only if the latest expiry does. Days are in range if and only if the sum is at most the latest
expiry, which is if and only if the expiry is the sum. Later writing and more days never make the
expiry earlier. -/
theorem expiry_is_capped (now : Instant) (plain : now.isLeap = false) (days : UInt32)
    (days_ne : days ≠ 0) :
    let sum := now.count + 86400 * days.toNat * nanosPerSecond
    ∃ t, expiryAfter now days = some t ∧
      t.isLeap = false ∧ t.count = min sum latestExpiry.count ∧
      t ≤ latestExpiry ∧
      (now < t.floor ↔ now < latestExpiry) ∧
      (expiryInRange now days = true ↔ sum ≤ latestExpiry.count) ∧
      (expiryInRange now days = true ↔ t.count = sum) ∧
      ∀ later more, later.isLeap = false → now ≤ later → days ≤ more →
        ∃ u, expiryAfter later more = some u ∧ t ≤ u := by
  intro sum
  obtain ⟨t, ht, plainT, count⟩ := count_expiryAfter days_ne plain
  have inRange : expiryInRange now days = true ↔ sum ≤ latestExpiry.count :=
    expiryInRange_iff plain days
  have capped : t.count = min sum latestExpiry.count := count
  refine ⟨t, ht, plainT, capped, le_latestExpiry ht, lt_floor_expiryAfter_iff plain days_ne ht,
    inRange, ?_, ?_⟩
  · rw [inRange, capped]
    omega
  · intro later more plain' le le'
    exact expiryAfter_mono plain plain' days_ne le le' ht

/-- Shortly before the last instant, the most days lead out of range, and what would come out is
capped. -/
theorem expiry_is_capped_out_of_range :
    let now : Instant :=
      ⟨lastSecond - 86400, 500000000, by decide, by decide, by decide⟩
    now.isLeap = false ∧ (4294967295 : UInt32) ≠ 0 ∧ afterDays? now 4294967295 = none ∧
      ∃ t, expiryAfter now 4294967295 = some t ∧ t.count = latestExpiry.count ∧
        expiryInRange now 4294967295 = false := by
  intro now
  obtain ⟨t, ht, -, count, -, -, inRange, -⟩ :=
    expiry_is_capped now (by decide) 4294967295 (by decide)
  refine ⟨by decide, by decide, by decide, t, ht, count.trans (by decide), ?_⟩
  rw [← Bool.not_eq_true, inRange]
  decide

end CookieConsent.Time
