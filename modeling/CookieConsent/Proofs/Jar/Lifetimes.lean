import CookieConsent.Proofs.Cookie.Attributes
import CookieConsent.Proofs.Jar.Table
import CookieConsent.Proofs.Time.Advancing

/-!
# Lifetimes in seconds

An assignment can give a cookie a lifetime of any number of seconds that 64 bits can hold. If it is
positive, the cookie is kept for exactly so long, or until the last instant; and as there is time
left until then, it is kept at all. If it is not positive the cookie is deleted, also where the
seconds lead to before the first instant.

* `count_expiryOfAge`, `expiryOfAge_le_iff`: when a cookie with a lifetime expires.
* `ofAssignment?_of_maxAge`: the cookie that is set.
* `lifetime_exact`: the jar afterwards.
-/

namespace CookieConsent

open Time (Instant nanosPerSecond)

/-! ## The end of a lifetime -/

namespace Cookie

variable {now : Instant} {seconds : Int}

/-- A lifetime that leads out of range ends with the last instant, as an advance of the clock does.
-/
theorem expiryOfAge_of_pos (positive : 0 < seconds) (now : Instant) :
    expiryOfAge now seconds = now.advanced (.ofSeconds seconds) := by
  rw [expiryOfAge, if_pos positive]
  rfl

/-- A positive lifetime ends after its seconds, or with the last instant. -/
theorem count_expiryOfAge (plain : now.isLeap = false) (positive : 0 < seconds) :
    (expiryOfAge now seconds).isLeap = false ∧
      (expiryOfAge now seconds).count =
        min (now.count + seconds * nanosPerSecond) Instant.last.count := by
  have forward : 0 ≤ (Time.Duration.ofSeconds seconds).nanos := by
    rw [Time.Duration.nanos_ofSeconds]
    omega
  rw [expiryOfAge_of_pos positive]
  exact Instant.count_advanced plain forward

/-- A lifetime is over at once exactly if it is not positive, as long as there is time left. -/
theorem expiryOfAge_le_iff (plain : now.isLeap = false) (time : now < Instant.last) :
    expiryOfAge now seconds ≤ now ↔ seconds ≤ 0 := by
  by_cases positive : 0 < seconds
  · obtain ⟨plain', count⟩ := count_expiryOfAge plain positive
    rw [← Instant.not_le, Instant.le_iff_count_le rfl plain] at time
    rw [Instant.le_iff_count_le plain' plain, count, nanosPerSecond]
    omega
  · refine iff_of_true ?_ (by omega)
    rw [expiryOfAge, if_neg positive]
    cases sum : now.add? (.ofSeconds seconds) with
    | none => exact Instant.le_refl now
    | some t =>
      have back : Time.Duration.ofSeconds seconds ≤ .ofSeconds 0 := by
        rw [Time.Duration.le_def, Time.Duration.nanos_ofSeconds, Time.Duration.nanos_ofSeconds]
        omega
      exact Instant.add?_mono back sum now.add?_zero

/-- The cookie that is set by an assignment whose last `max-age` is a number. -/
theorem ofAssignment?_of_maxAge {text name value : String} {digits : List Char}
    (pair : pair? (Counted.ofText text).pair = some (name, value))
    (last : (Counted.ofText text).maxAge = some digits)
    (number : Text.Decimal.int64? (Text.trim digits) = some seconds) (now : Instant) :
    ofAssignment? now text =
      some ⟨name, value, String.ofList (Counted.ofText text).said.path,
        some (expiryOfAge now seconds)⟩ := by
  have age : (Counted.ofText text).said.maxAge = some seconds := by
    rw [Counted.said, last, Option.bind_some, number]
  rw [ofAssignment?_eq, Counted.cookie?, pair, Option.map_some, Attributes.expiry, age]

end Cookie

/-! ## Writing with a lifetime -/

namespace Jar

open Cookie (Counted pair?)

variable {jar : Jar}

/-- **Lifetimes are exact.** Assign to any jar that there can be, at a time outside leap seconds and
before the last instant, a text with a valid name and a value whose last `max-age` spells a number of
64 bits, with whatever dates under `expires`. If the number is positive, there is then one cookie
with the name and the path that the text gives; it holds the value, and it expires so many seconds
later, in numbers without a bound, or at the last instant if that is earlier. If the number is not
positive, there is none. So such a cookie is seen exactly if the number is positive. All other
cookies stay as they are, in their order, and so does the time. -/
theorem lifetime_exact (reachable : jar.Reachable) (plain : jar.clock.isLeap = false)
    (time : jar.clock < Instant.last) {text name value : String} {digits : List Char}
    {seconds : Int} (pair : pair? (Counted.ofText text).pair = some (name, value))
    (last : (Counted.ofText text).maxAge = some digits)
    (number : Text.Decimal.int64? (Text.trim digits) = some seconds) :
    let path := String.ofList (Counted.ofText text).said.path
    let after := jar.assign text
    (0 < seconds → ∃ t,
      after.cookies.filter (·.key = (name, path)) = [⟨name, value, path, some t⟩] ∧
      t.isLeap = false ∧
      t.count = min (jar.clock.count + seconds * nanosPerSecond) Instant.last.count) ∧
    (seconds ≤ 0 → after.cookies.filter (·.key = (name, path)) = []) ∧
    ((∃ c ∈ after.visible, c.key = (name, path)) ↔ 0 < seconds) ∧
    after.cookies.filter (·.key ≠ (name, path)) = jar.cookies.filter (·.key ≠ (name, path)) ∧
    after.clock = jar.clock := by
  intro path after
  let cookie : Cookie := ⟨name, value, path, some (Cookie.expiryOfAge jar.clock seconds)⟩
  have keys := reachable.isWellFormed.keys
  have written : after = jar.write cookie :=
    assign_of_eq_some (Cookie.ofAssignment?_of_maxAge pair last number jar.clock)
  have expired : cookie.isExpired jar.clock = true ↔ seconds ≤ 0 :=
    decide_eq_true_iff.trans (Cookie.expiryOfAge_le_iff plain time)
  have clock : after.clock = jar.clock := by rw [written, clock_write]
  -- the sign of the seconds decides whether the cookie is kept or only deletes
  have stored (positive : 0 < seconds) :
      after.cookies.filter (·.key = (name, path)) = [cookie] := by
    have alive : cookie.isExpired jar.clock = false := by
      rw [← Bool.not_eq_true, expired]
      omega
    rw [written, write_of_not_isExpired alive]
    exact @filter_key_eq_put cookie _ keys
  have deleted (spent : seconds ≤ 0) : after.cookies.filter (·.key = (name, path)) = [] := by
    rw [written, cookies_write keys, if_pos (expired.2 spent), List.filter_eq_nil_iff]
    intro c mem same
    exact of_decide_eq_true (List.mem_filter.1 mem).2 (of_decide_eq_true same)
  refine ⟨fun positive => ⟨_, stored positive, Cookie.count_expiryOfAge plain positive⟩, deleted,
    ⟨?_, ?_⟩, ?_, clock⟩
  · rintro ⟨c, seen, same⟩
    by_contra spent
    have mem : c ∈ after.cookies.filter (·.key = (name, path)) :=
      List.mem_filter.2 ⟨(List.mem_filter.1 seen).1, decide_eq_true same⟩
    rw [deleted (by omega)] at mem
    exact List.not_mem_nil mem
  · intro positive
    have mem : cookie ∈ after.cookies.filter (·.key = (name, path)) := by
      rw [stored positive]
      exact List.mem_singleton_self cookie
    have alive : cookie.isExpired after.clock = false := by
      rw [clock, ← Bool.not_eq_true, expired]
      omega
    exact ⟨cookie, List.mem_filter.2 ⟨(List.mem_filter.1 mem).1, by rw [alive]; rfl⟩, rfl⟩
  · rw [written]
    exact filter_key_write jar cookie

/-- The longest lifetime, in the face of a date that is past, and the one that lies furthest back. -/
theorem lifetime_exact_extremes :
    let jar := (empty Instant.epoch).assign "n=0; path=/x"
    let long := jar.assign "n=1; max-age=9223372036854775807; path=/x; expires=1 Jan 1970 00:00:00 Z"
    let short := jar.assign "n=1; max-age=-9223372036854775808; path=/x"
    (∃ t, long.cookies.filter (·.key = ("n", "/x")) = [⟨"n", "1", "/x", some t⟩] ∧
        t.isLeap = false ∧ t.count = Instant.last.count) ∧
      short.cookies.filter (·.key = ("n", "/x")) = [] := by
  intro jar long short
  have reachable : jar.Reachable := .assign _ (.empty _)
  obtain ⟨kept, -⟩ := @lifetime_exact jar reachable (by decide) (by decide)
    "n=1; max-age=9223372036854775807; path=/x; expires=1 Jan 1970 00:00:00 Z" "n" "1"
    "9223372036854775807".toList 9223372036854775807 (by decide) (by decide) (by decide)
  obtain ⟨-, gone, -⟩ := @lifetime_exact jar reachable (by decide) (by decide)
    "n=1; max-age=-9223372036854775808; path=/x" "n" "1"
    "-9223372036854775808".toList (-9223372036854775808) (by decide) (by decide) (by decide)
  obtain ⟨t, only, leap, count⟩ := kept (by decide)
  exact ⟨⟨t, only, leap, count.trans (by decide)⟩, gone (by decide)⟩

end Jar

end CookieConsent
