import CookieConsent.Proofs.Jar.Reachable
import CookieConsent.Proofs.Time.Advancing
import CookieConsent.Proofs.Time.Expiries

/-!
# Moving the clock

A jar is told how far its clock is to go on, or back. What has expired stays so while the clock goes
on, so of two durations the longer one leaves fewer cookies to be seen. But a clock that is told to
go back to before the first instant goes on to the last one instead, and then the cookies that were
to expire are gone.

* `any_le_of_le`, `visible_setClock_sublist`: what is seen later is seen earlier.
* `clock_in_order_unless_before_first`: which moves of the clock are in order.
-/

namespace CookieConsent.Jar

open Time (Duration Instant)

variable {now later : Instant}

/-- What has expired stays so. -/
theorem any_le_of_le (h : now ≤ later) {expires : Option Instant}
    (past : expires.any (· ≤ now) = true) : expires.any (· ≤ later) = true := by
  rw [Option.any_eq_true] at past ⊢
  obtain ⟨t, stored, le⟩ := past
  exact ⟨t, stored, decide_eq_true (Instant.le_trans (of_decide_eq_true le) h)⟩

/-- The cookies that are seen later are among those that are seen earlier, in the same order. -/
theorem visible_setClock_sublist (h : now ≤ later) (jar : Jar) :
    (jar.setClock later).visible.Sublist (jar.setClock now).visible := by
  have earlier (c : Cookie) (alive : (!c.isExpired later) = true) : (!c.isExpired now) = true := by
    rw [Bool.not_eq_true'] at alive ⊢
    rw [Bool.eq_false_iff] at alive ⊢
    exact fun past => alive (any_le_of_le h past)
  change (jar.cookies.filter fun c => !c.isExpired later).Sublist
    (jar.cookies.filter fun c => !c.isExpired now)
  rw [filter_eq_filter_filter fun c _ => earlier c]
  exact List.filter_sublist

/-- The clock of a jar moves as instants do. -/
theorem clock_advance (jar : Jar) (d : Duration) :
    (jar.advance d).clock = jar.clock.advanced d := rfl

/-- **The clock moves as it is told, except back beyond the first instant.** Take two durations of
either sign, the first at most as long as the second. After the first the clock shows at most the
time that it shows after the second, and all cookies that are seen after the second are seen after
the first, in the same order, as long as the first does not lead to before the first instant; and a
negative duration then does not move the clock forward and makes no cookie that is seen expire.

A duration that leads to before the first instant moves the clock to the last one. So the clock is in
order exactly if in this case it is at the last instant after the second duration as well. (There is
one more exception, in the leap second that could follow the last instant: from there a duration that
leads out of range moves the clock back to the last instant.) -/
theorem clock_in_order_unless_before_first (jar : Jar) :
    (∀ d e, d ≤ e → jar.clock ≤ Instant.last → jar.clock.leadsBeforeFirst d = false →
      (jar.advance d).clock ≤ (jar.advance e).clock ∧
      (jar.advance e).visible.Sublist (jar.advance d).visible) ∧
    (∀ d, d.nanos ≤ 0 → jar.clock.leadsBeforeFirst d = false →
      (jar.advance d).clock ≤ jar.clock ∧ jar.visible.Sublist (jar.advance d).visible) ∧
    (∀ d, jar.clock.leadsBeforeFirst d = true → (jar.advance d).clock = Instant.last) ∧
    ∀ d e, d ≤ e →
      ((jar.advance d).clock ≤ (jar.advance e).clock ↔
        (jar.clock.leadsBeforeFirst d = true → Instant.last ≤ (jar.advance e).clock) ∧
        (jar.clock.leadsBehindLast e = true → (jar.advance d).clock ≤ Instant.last)) ∧
      ((jar.advance d).clock ≤ (jar.advance e).clock →
        (jar.advance e).visible.Sublist (jar.advance d).visible) := by
  refine ⟨?_, ?_, ?_, ?_⟩
  · intro d e shorter time inRange
    have order : (jar.advance d).clock ≤ (jar.advance e).clock := by
      rw [clock_advance, clock_advance, Instant.advanced_le_advanced_iff shorter]
      -- within range only the sum that lies too far ahead is cut off, and at the last instant
      refine ⟨fun before => ?_, fun _ => Instant.advanced_le_last time d⟩
      exact absurd before (by simp [inRange])
    exact ⟨order, visible_setClock_sublist order jar⟩
  · intro d back inRange
    have earlier : (jar.advance d).clock ≤ jar.clock := Instant.advanced_le back inRange
    exact ⟨earlier, visible_setClock_sublist earlier jar⟩
  · exact fun d before => Instant.advanced_of_leads (.inl before)
  · intro d e shorter
    exact ⟨Instant.advanced_le_advanced_iff shorter, fun order => visible_setClock_sublist order jar⟩

/-- A minute is within range of the lifetime of a cookie, and a day back loses nothing. -/
theorem clock_in_order_unless_before_first_for_a_minute :
    let jar := (empty Instant.epoch).assign "n=1; max-age=60"
    let d := Duration.ofDays (-1)
    let e := Duration.ofSeconds 59
    d ≤ e ∧ jar.clock ≤ Instant.last ∧ jar.clock.leadsBeforeFirst d = false ∧ d.nanos ≤ 0 ∧
      (jar.advance e).visible.Sublist (jar.advance d).visible ∧
      (jar.advance d).clock ≤ jar.clock ∧ (jar.advance e).header = "n=1" := by
  intro jar d e
  obtain ⟨order, back, -⟩ := clock_in_order_unless_before_first jar
  have shorter : d ≤ e := by decide
  have time : jar.clock ≤ Instant.last := by decide
  have inRange : jar.clock.leadsBeforeFirst d = false := by decide
  have negative : d.nanos ≤ 0 := by decide
  exact ⟨shorter, time, inRange, negative, (order d e shorter time inRange).2,
    (back d negative inRange).1, by decide⟩

/-- A cookie that is seen expires as the clock is told to go back. -/
theorem cookie_expires_on_going_back :
    let jar := (empty Instant.epoch).assign "n=1; max-age=60"
    let d := Duration.ofSeconds (-9000000000000)
    jar.Reachable ∧ d.nanos ≤ 0 ∧ ¬ (jar.advance d).clock ≤ jar.clock ∧
      jar.header = "n=1" ∧ (jar.advance d).header = "" :=
  ⟨.assign _ (.empty _), by decide, by decide, by decide, by decide⟩

end CookieConsent.Jar
