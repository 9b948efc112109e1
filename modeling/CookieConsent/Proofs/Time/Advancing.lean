import CookieConsent.Time.Instant

/-!
# Going on in time

Time goes by in durations that are added to it; where a sum is out of range, time is the last
instant. Only the leap second that could follow it lies behind the last instant, and from there time
that should go on falls back. From everywhere else it does not.

A longer duration leads at least as far as a shorter one, as long as the sums are in range. As sums
in front of the first instant lead to the last one as well, time that should go back by too much
goes on instead.

* `le_last_iff`: the instants up to the last one.
* `add?_cases`, `add?_eq_none_iff_leads`: what sums there are, and where there is none.
* `add?_mono`, `advanced_le_advanced_iff`: the order of sums, and of times that go on.
* `le_advanced`, `advanced_le`, `advanced_le_last`: time that goes on or back.
* `count_advanced`: away from leap seconds, sums that lie ahead are cut off at the last instant.
-/

namespace CookieConsent.Time.Instant

/-- The leap second that could follow the last instant. -/
def lastLeap : Instant :=
  ⟨lastSecond, 1000000000, last.first_le, last.le_last, by decide⟩

/-- The time after a duration has gone by. -/
def advanced (t : Instant) (d : Duration) : Instant := (t.add? d).getD last

variable {t u v : Instant} {d e : Duration}

/-- Only a leap second can lie behind the last instant. -/
theorem le_last_iff : t ≤ last ↔ (t.isLeap = true → t.seconds < lastSecond) := by
  have seconds : last.seconds = lastSecond := rfl
  have nanos : last.nanos = 999999999 := rfl
  have inRange := t.le_last
  rw [le_def, seconds, nanos, isLeap, decide_eq_true_eq]
  omega

/-- Only leap seconds lie behind the last instant. -/
theorem le_last_of_isLeap_eq_false (h : t.isLeap = false) : t ≤ last := by
  rw [le_last_iff, h]
  exact nofun

/-! ## Sums -/

/-- How a sum comes about. Away from leap seconds the counts are added. From a leap second the sum
stays in the two seconds with its number, or it leads on over both of them, or back. -/
theorem add?_cases (h : t.add? d = some u) :
    t.isLeap = false ∧ u.isLeap = false ∧ u.count = t.count + d.nanos ∨
    t.isLeap = true ∧ u.seconds = t.seconds ∧ (u.nanos : Int) = t.nanos + d.nanos ∨
    t.isLeap = true ∧ u.isLeap = false ∧
      (2 * nanosPerSecond ≤ t.nanos + d.nanos ∧ u.count = t.count - nanosPerSecond + d.nanos ∨
        d.nanos ≤ -nanosPerSecond ∧ u.count = t.count + d.nanos) := by
  have low := t.nanos_lt
  unfold add? at h
  -- a leap second is not counted, so only elsewhere the sum is one of counts
  cases leap : t.isLeap with
  | false =>
    rw [leap, if_neg Bool.false_ne_true, ofCount?_eq_some_iff] at h
    exact .inl ⟨rfl, h⟩
  | true =>
    have high : 1000000000 ≤ t.nanos := of_decide_eq_true leap
    rw [if_pos leap] at h
    split at h
    · next within =>
      obtain ⟨seconds, nanos⟩ := ofParts?_eq_some_iff.1 h
      rw [nanosPerSecond] at within
      exact .inr (.inl ⟨rfl, seconds, by omega⟩)
    · next beyond =>
      obtain ⟨plain, sum⟩ := ofCount?_eq_some_iff.1 h
      refine .inr (.inr ⟨rfl, plain, ?_⟩)
      rw [nanosPerSecond] at beyond sum ⊢
      split at sum <;> omega

/-- Adding leads out of leap seconds, or stays in the second. -/
theorem isLeap_or_seconds_of_add? (h : t.add? d = some u) :
    u.isLeap = false ∨ t.isLeap = true ∧ u.seconds = t.seconds := by
  rcases add?_cases h with ⟨-, plain, -⟩ | ⟨leap, same, -⟩ | ⟨-, plain, -⟩
  · exact .inl plain
  · exact .inr ⟨leap, same⟩
  · exact .inl plain

/-- Whether the sum of an instant and a duration lies before the first instant. -/
def leadsBeforeFirst (t : Instant) (d : Duration) : Bool :=
  t.count + d.nanos < firstSecond * nanosPerSecond

/-- Whether the sum of an instant and a duration lies behind the last instant. The rest of a leap
second is gone through in addition. -/
def leadsBehindLast (t : Instant) (d : Duration) : Bool :=
  (lastSecond + 1) * nanosPerSecond + (if t.isLeap then nanosPerSecond else 0) ≤ t.count + d.nanos

/-- A duration leads before the first instant when the sum of counts does. -/
theorem leadsBeforeFirst_eq_true :
    t.leadsBeforeFirst d = true ↔ t.count + d.nanos < firstSecond * 1000000000 :=
  decide_eq_true_iff

/-- A duration leads behind the last instant when the sum of counts does; from a leap second it may
lead one second further. -/
theorem leadsBehindLast_eq_true :
    t.leadsBehindLast d = true ↔
      (lastSecond + 1) * 1000000000 + (if t.isLeap then 1000000000 else 0) ≤ t.count + d.nanos :=
  decide_eq_true_iff

/-- There is no sum exactly where it leaves the range. -/
theorem add?_eq_none_iff_leads :
    t.add? d = none ↔ t.leadsBeforeFirst d = true ∨ t.leadsBehindLast d = true := by
  have first := t.first_le
  have inRange := t.le_last
  rw [leadsBeforeFirst_eq_true, leadsBehindLast_eq_true]
  cases leap : t.isLeap with
  | false => rw [add?_eq_none_iff leap, if_neg Bool.false_ne_true, Int.add_zero]
  | true =>
    have high : 1000000000 ≤ t.nanos := of_decide_eq_true leap
    have low := t.nanos_lt
    rw [if_pos rfl, add?, if_pos leap, nanosPerSecond, count_def]
    split
    · -- in the two seconds with one number there is always a sum
      rw [ofParts?, dif_pos ⟨first, inRange, by omega⟩]
      simp only [reduceCtorEq, false_iff]
      omega
    · rw [ofCount?_eq_none_iff]
      split <;> omega

/-! ## The order of sums -/

/-- A longer duration leads at least as far. -/
theorem add?_mono (shorter : d ≤ e) (hu : t.add? d = some u) (hv : t.add? e = some v) : u ≤ v := by
  have low := t.nanos_lt
  have lowV := v.nanos_lt
  rw [Duration.le_def] at shorter
  -- two sums from one instant: neither starts in a leap second, or both do
  rcases add?_cases hu with ⟨plain, plainU, sumU⟩ | ⟨leap, secondsU, nanosU⟩ | ⟨leap, plainU, sumU⟩
  · obtain ⟨plainV, sumV⟩ := (add?_eq_some_iff plain).1 hv
    rw [le_iff_count_le plainU plainV]
    omega
  · rcases add?_cases hv with ⟨plain, -⟩ | ⟨-, secondsV, nanosV⟩ | ⟨-, plainV, sumV⟩
    · exact absurd leap (by simp [plain])
    · rw [le_def]
      omega
    · rw [isLeap, decide_eq_true_eq] at leap
      rw [isLeap_eq_false] at plainV
      rw [nanosPerSecond, count_def, count_def] at sumV
      rw [le_def]
      omega
  · rw [isLeap_eq_false] at plainU
    rw [nanosPerSecond, count_def, count_def] at sumU
    rcases add?_cases hv with ⟨plain, -⟩ | ⟨-, secondsV, nanosV⟩ | ⟨-, plainV, sumV⟩
    · exact absurd leap (by simp [plain])
    · rw [le_def]
      omega
    · rw [isLeap_eq_false] at plainV
      rw [nanosPerSecond, count_def, count_def] at sumV
      rw [le_def]
      omega

theorem add?_zero (t : Instant) : t.add? (.ofSeconds 0) = some t := by
  have low := t.nanos_lt
  cases leap : t.isLeap with
  | false =>
    rw [add?_eq_some_iff leap]
    exact ⟨leap, (Int.add_zero _).symm⟩
  | true =>
    rw [add?, if_pos leap, if_pos (by rw [nanosPerSecond, Duration.nanos_ofSeconds]; omega),
      ofParts?_eq_some_iff]
    exact ⟨rfl, by simp⟩

/-- Adding what is not negative does not go back. -/
theorem le_of_add?_eq_some (forward : 0 ≤ d.nanos) (h : t.add? d = some u) : t ≤ u :=
  add?_mono forward (add?_zero t) h

/-! ## Time that goes on -/

/-- Time does not get behind the last instant. -/
theorem advanced_le_last (h : t ≤ last) (d : Duration) : t.advanced d ≤ last := by
  rw [advanced]
  cases sum : t.add? d with
  | none => exact le_refl last
  | some u =>
    rcases isLeap_or_seconds_of_add? sum with plain | ⟨leap, same⟩
    · exact le_last_of_isLeap_eq_false plain
    · rw [Option.getD_some, le_last_iff, same]
      exact fun _ => le_last_iff.1 h leap

/-- Up to the last instant, time that goes on does not go back. -/
theorem le_advanced (h : t ≤ last) (forward : 0 ≤ d.nanos) : t ≤ t.advanced d := by
  rw [advanced]
  cases sum : t.add? d with
  | none => exact h
  | some u => exact le_of_add?_eq_some forward sum

/-- Time that goes back does so, unless it would have to go back beyond the first instant. -/
theorem advanced_le (back : d.nanos ≤ 0) (inRange : t.leadsBeforeFirst d = false) :
    t.advanced d ≤ t := by
  rw [advanced]
  cases sum : t.add? d with
  | none =>
    -- there would be a sum, as back from `t` none lies behind the last instant
    have low := t.nanos_lt
    have le := t.le_last
    rw [add?_eq_none_iff_leads, inRange, leadsBehindLast_eq_true, count_def, isLeap] at sum
    exfalso
    rcases sum with before | behind
    · exact Bool.false_ne_true before
    · simp only [decide_eq_true_eq] at behind
      split at behind <;> omega
  | some u => exact add?_mono back sum (add?_zero t)

/-- Where there is no sum, time is the last instant. -/
theorem advanced_of_leads (h : t.leadsBeforeFirst d = true ∨ t.leadsBehindLast d = true) :
    t.advanced d = last := by
  rw [advanced, add?_eq_none_iff_leads.2 h, Option.getD_none]

/-- A longer duration leads time at least as far, unless the last instant is taken for the one sum
or the other although the sum is not cut off there: the shorter duration leads to before the first
instant, or both start in the leap second behind the last one. -/
theorem advanced_le_advanced_iff (shorter : d ≤ e) :
    t.advanced d ≤ t.advanced e ↔
      (t.leadsBeforeFirst d = true → last ≤ t.advanced e) ∧
      (t.leadsBehindLast e = true → t.advanced d ≤ last) := by
  rw [Duration.le_def] at shorter
  by_cases before : t.leadsBeforeFirst d = true
  · rw [advanced_of_leads (.inl before)]
    exact ⟨fun le => ⟨fun _ => le, fun _ => le_refl last⟩, fun both => both.1 before⟩
  · by_cases behind : t.leadsBehindLast e = true
    · rw [advanced_of_leads (.inr behind)]
      exact ⟨fun le => ⟨fun _ => le_refl last, fun _ => le⟩, fun both => both.2 behind⟩
    · -- with neither of the two, both sums are in range
      have short : t.add? d ≠ none := by
        rw [ne_eq, add?_eq_none_iff_leads, not_or]
        refine ⟨before, fun early => behind ?_⟩
        rw [leadsBehindLast_eq_true] at early ⊢
        omega
      have long : t.add? e ≠ none := by
        rw [ne_eq, add?_eq_none_iff_leads, not_or]
        refine ⟨fun early => before ?_, behind⟩
        rw [leadsBeforeFirst_eq_true] at early ⊢
        omega
      obtain ⟨u, hu⟩ := Option.ne_none_iff_exists'.1 short
      obtain ⟨v, hv⟩ := Option.ne_none_iff_exists'.1 long
      rw [advanced, advanced, hu, hv]
      exact iff_of_true (add?_mono shorter hu hv)
        ⟨fun h => absurd h before, fun h => absurd h behind⟩

/-- Away from leap seconds, a sum that lies ahead is cut off at the last instant. -/
theorem count_advanced (plain : t.isLeap = false) (forward : 0 ≤ d.nanos) :
    (t.advanced d).isLeap = false ∧ (t.advanced d).count = min (t.count + d.nanos) last.count := by
  have first := t.first_le
  have bound : last.count = lastSecond * 1000000000 + 999999999 := rfl
  rw [advanced]
  cases sum : t.add? d with
  | none =>
    rw [add?_eq_none_iff plain, count_def] at sum
    refine ⟨rfl, ?_⟩
    rw [Option.getD_none, bound, count_def]
    omega
  | some u =>
    obtain ⟨plainU, counts⟩ := (add?_eq_some_iff plain).1 sum
    have inRange := u.le_last
    refine ⟨plainU, ?_⟩
    rw [isLeap_eq_false] at plainU
    rw [Option.getD_some, ← counts, bound, count_def]
    omega

end CookieConsent.Time.Instant
