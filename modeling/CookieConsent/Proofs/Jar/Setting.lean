import CookieConsent.Proofs.Jar.Reachable
import CookieConsent.Proofs.Time.Expiries

/-!
# What storing a value does

A value is stored by assigning a text that is made from it. As the value is escaped there, it cannot
end its own part of the text, so the text that is read says what was to be stored: the escaped
value, the path of the whole site and the expiry to the second. One cookie is written in this way,
and it has not expired, since its expiry lies ahead.

* `set_eq_write`: storing a value writes one cookie.
* `set_exact`: the jar afterwards.
-/

namespace CookieConsent

open Time (Instant)

/-! ## The cookie that is stored -/

namespace Cookie

/-- The cookie in which a value is stored `now` under a name for some days. -/
def stored (name value : String) (now : Instant) (days : UInt32) : Cookie :=
  ⟨name, Text.escape value, "/", Time.keptUntil now days⟩

/-- The assignment that is made for a value sets the cookie in which it is stored. -/
theorem ofAssignment?_assignmentFor {name : String} (h : isValidName name) (value : String)
    (now : Instant) (days : UInt32) :
    ofAssignment? now (assignmentFor name value now days) = some (stored name value now days) :=
  ofAssignment?_assignment h now value (Time.expiryAfter now days)

/-- A cookie has not expired when a value is stored in it. -/
theorem isExpired_stored (name value : String) {now : Instant} (days : UInt32)
    (h : now < Time.latestExpiry) : (stored name value now days).isExpired now = false := by
  rw [isExpired, stored]
  cases kept : Time.keptUntil now days with
  | none => rfl
  | some t => simpa using Instant.not_le.2 (Time.lt_keptUntil h kept)

end Cookie

/-! ## Storing -/

namespace Jar

variable {jar : Jar} {name : String}

/-- To store a value is to write the cookie that holds its escaped form. -/
theorem set_eq_write (h : Cookie.isValidName name) (jar : Jar) (value : String) (days : UInt32) :
    jar.set name value days = jar.write (Cookie.stored name value jar.clock days) :=
  assign_of_eq_some (Cookie.ofAssignment?_assignmentFor h value jar.clock days)

/-- **What storing a value does.** In every jar that there can be, at a time outside leap seconds
from the year 0 on and before the latest expiry, for a valid name and any text: under the name and
the path of the whole site there is one cookie afterwards. It holds the escaped text, from which the
text is read back; it has no expiry if the days are zero, and otherwise that of the days without its
fraction of a second; and it has not expired. The cookies with other names or paths stay as they
are, in their order, and so does the time. -/
theorem set_exact (reachable : jar.Reachable) (leap : jar.clock.isLeap = false)
    (dated : Time.firstDated ≤ jar.clock) (time : jar.clock < Time.latestExpiry)
    (valid : Cookie.isValidName name) (value : String) (days : UInt32) :
    let after := jar.set name value days
    let expires := (Time.expiryAfter jar.clock days).map Instant.floor
    let cookie : Cookie := ⟨name, Text.escape value, "/", expires⟩
    after.cookies.filter (·.key = (name, "/")) = [cookie] ∧
    Text.unescape cookie.value = value ∧
    (expires = none ↔ days = 0) ∧ (∀ t ∈ expires, t.nanos = 0) ∧
    cookie.isExpired after.clock = false ∧
    after.cookies.filter (·.key ≠ (name, "/")) = jar.cookies.filter (·.key ≠ (name, "/")) ∧
    after.clock = jar.clock := by
  intro after expires cookie
  -- the text of the assignment is read as this cookie: the date keeps the whole seconds
  have stored : Cookie.stored name value jar.clock days = cookie :=
    congrArg (Cookie.mk name (Text.escape value) "/") (Time.keptUntil_eq_floor days leap dated)
  have alive : cookie.isExpired jar.clock = false := by
    rw [← stored]
    exact Cookie.isExpired_stored name value days time
  have written : after = jar.write cookie := by
    rw [← stored]
    exact set_eq_write valid jar value days
  have clock : after.clock = jar.clock := by rw [written, clock_write]
  refine ⟨?_, Text.unescape_escape value, ?_, ?_, ?_, ?_, clock⟩
  · rw [written, write_of_not_isExpired alive]
    exact @filter_key_eq_put cookie _ reachable.isWellFormed.keys
  · rw [Option.map_eq_none_iff, Time.expiryAfter]
    split <;> simp [*]
  · intro t mem
    obtain ⟨u, states, rfl⟩ := Option.map_eq_some_iff.1 mem
    have notLeap : u.isLeap = false := Time.isLeap_of_expiryAfter leap states
    rw [Instant.nanos_floor, notLeap]
    rfl
  · rw [clock]
    exact alive
  · rw [written]
    exact filter_key_write jar cookie

/-- A text that looks like attributes is stored as it is, and the expiry without half a second. -/
theorem set_exact_attributes :
    let now : Instant := ⟨43200, 500000000, by decide, by decide, by decide⟩
    let jar := (empty now).assign "n=1; path=/x"
    let text := "a; path=/x; max-age=0"
    let after := jar.set "n" text 1
    after.cookies.filter (·.key = ("n", "/")) =
      [⟨"n", "a%3B%20path%3D/x%3B%20max-age%3D0", "/",
        some (.ofSecond 129600 (by decide) (by decide))⟩] ∧
    after.cookies.filter (·.key ≠ ("n", "/")) = [⟨"n", "1", "/x", none⟩] ∧
    Text.unescape "a%3B%20path%3D/x%3B%20max-age%3D0" = text := by
  intro now jar text after
  have reachable : jar.Reachable := .assign _ (.empty now)
  have escaped : Text.escape text = "a%3B%20path%3D/x%3B%20max-age%3D0" := by decide
  obtain ⟨alone, read, -, -, -, others, -⟩ :=
    @set_exact jar "n" reachable (by decide) (by decide) (by decide) (by decide) text 1
  exact ⟨alone.trans (by decide), others.trans (by decide), escaped ▸ read⟩

end Jar

end CookieConsent
