import CookieConsent.Banner.Basic
import CookieConsent.Proofs.Jar.Header
import CookieConsent.Proofs.Jar.Setting

/-!
# What recording a decision does

A decision is recorded in one cookie, under the name that the settings give and the path of the
whole site. Before the latest expiry that cookie has not expired when it is written, so it is put
into the jar; all other cookies stay.

A page reads under the name alone. It reads the decision unless another cookie of that name stands
in front: one with another path, which the jar keeps apart.

* `jar_record`: recording writes one cookie.
* `record_exact`: the jar afterwards, how many cookies have the name, and what is read under it.
-/

namespace CookieConsent

open Time (Instant)

/-! ## The cookie of a decision -/

namespace Decision

/-- The cookie in which a decision is stored that is made `now` and holds for some days. -/
def cookie (decision : Decision) (name : String) (days : UInt32) (now : Instant) : Cookie :=
  ⟨name, decision.cookieValue, "/", Time.keptUntil now days⟩

/-- The words of decisions need no escapes, so a decision is found in a header as it is written. -/
theorem escape_cookieValue (decision : Decision) :
    Text.escape decision.cookieValue = decision.cookieValue := by
  cases decision <;> decide

theorem unescape_cookieValue (decision : Decision) :
    Text.unescape decision.cookieValue = decision.cookieValue := by
  rw [← escape_cookieValue, Text.unescape_escape, escape_cookieValue]

/-- The cookie of a decision is the one in which its value is stored. -/
theorem cookie_eq_stored (decision : Decision) (name : String) (days : UInt32) (now : Instant) :
    decision.cookie name days now = Cookie.stored name decision.cookieValue now days := by
  rw [Cookie.stored, escape_cookieValue]
  rfl

/-- The assignment that is made for a decision sets its cookie. -/
theorem ofAssignment?_made (decision : Decision) {name : String} (h : Cookie.isValidName name)
    (days : UInt32) (now : Instant) :
    Cookie.ofAssignment? now ((RecordedDecision.make decision days now).assignment name) =
      some (decision.cookie name days now) := by
  rw [cookie_eq_stored]
  exact Cookie.ofAssignment?_assignmentFor h decision.cookieValue now days

/-- The cookie of a decision can be found in a header. -/
theorem isWellFormed_cookie (decision : Decision) {name : String} (h : Cookie.isValidName name)
    (days : UInt32) (now : Instant) : (decision.cookie name days now).IsWellFormed :=
  Cookie.isWellFormed_of_ofAssignment? (decision.ofAssignment?_made h days now)

/-- The cookie of a decision has not expired when it is written. -/
theorem isExpired_cookie (decision : Decision) (name : String) (days : UInt32) {now : Instant}
    (h : now < Time.latestExpiry) : (decision.cookie name days now).isExpired now = false := by
  rw [cookie_eq_stored]
  exact Cookie.isExpired_stored name decision.cookieValue days h

end Decision

/-! ## Recording -/

namespace Banner

/-- Settings that can be used name a cookie that can be set. -/
theorem Settings.isValidName_of_check {settings : Settings} {checked : Instant}
    (h : settings.check checked = .ok ()) : Cookie.isValidName settings.cookieName := by
  unfold check at h
  split at h
  · cases h
  · next valid => simpa using valid

/-- The settings of a site that decides nothing can be used. -/
theorem Settings.check_default : ({} : Settings).check Instant.epoch = .ok () := rfl

variable {banner : Banner} {decision : Decision} {days : UInt32}

/-- Recording a decision writes its cookie. -/
theorem jar_record (h : Cookie.isValidName banner.settings.cookieName) (decision : Decision)
    (days : UInt32) :
    (banner.record decision days).jar =
      banner.jar.write (decision.cookie banner.settings.cookieName days banner.jar.clock) := by
  have set := decision.ofAssignment?_made h days banner.jar.clock
  rw [record]
  simp only [Jar.assign, set]

/-- The value that is read after a decision has been recorded. -/
theorem read?_record (h : Cookie.isValidName banner.settings.cookieName)
    (whole : banner.jar.IsWellFormed) (time : banner.jar.clock < Time.latestExpiry) :
    (banner.record decision days).read? banner.settings.cookieName =
      some (((banner.jar.shadow? banner.settings.cookieName "/").map
        fun c => Text.unescape c.value).getD decision.cookieValue) := by
  have written : (banner.record decision days).jar.IsWellFormed := whole.assign _
  have alive := decision.isExpired_cookie banner.settings.cookieName days time
  have seen : (banner.jar.write
      (decision.cookie banner.settings.cookieName days banner.jar.clock)).get?
        banner.settings.cookieName =
      some ((banner.jar.shadow? banner.settings.cookieName "/").getD
        (decision.cookie banner.settings.cookieName days banner.jar.clock)) := Jar.get?_write alive
  rw [read?, Jar.read?_eq written h, jar_record h, seen, Option.map_some]
  cases banner.jar.shadow? banner.settings.cookieName "/" with
  | none => exact congrArg some decision.unescape_cookieValue
  | some c => rfl

/-- Where no cookie is seen under the name, the decision is read after it has been recorded. -/
theorem read?_record_of_absent (h : Cookie.isValidName banner.settings.cookieName)
    (whole : banner.jar.IsWellFormed) (time : banner.jar.clock < Time.latestExpiry)
    (alone : banner.jar.shadow? banner.settings.cookieName "/" = none) :
    (banner.record decision days).read? banner.settings.cookieName = some decision.cookieValue := by
  rw [read?_record h whole time, alone, Option.map_none, Option.getD_none]

/-- **What recording does.** With settings that can be used, in every jar that there can be and
before the latest expiry: under the name and the path of the whole site there is the cookie of the
decision and no other, and it has not expired; all other cookies and the time stay. Under the name
one cookie more is seen than there were with other paths, so that it is one alone exactly when there
was none of those. The decision is read back, unless one of those stands before the cookie of the
decision; then the value of the first of them is read. -/
theorem record_exact {checked : Instant} (usable : banner.settings.check checked = .ok ())
    (reachable : banner.jar.Reachable) (time : banner.jar.clock < Time.latestExpiry)
    (decision : Decision) (days : UInt32) :
    let name := banner.settings.cookieName
    let cookie := decision.cookie name days banner.jar.clock
    let after := banner.record decision days
    (after.jar.cookies.filter (·.key = (name, "/")) = [cookie] ∧
      cookie.isExpired after.jar.clock = false) ∧
    (after.jar.cookies.filter (·.key ≠ (name, "/")) =
        banner.jar.cookies.filter (·.key ≠ (name, "/")) ∧
      after.jar.clock = banner.jar.clock) ∧
    after.jar.visible.countP (·.name = name) =
      banner.jar.visible.countP (fun c => c.name = name ∧ c.path ≠ "/") + 1 ∧
    (after.jar.visible.countP (·.name = name) = 1 ↔
      ∀ c ∈ banner.jar.visible, c.name = name → c.path = "/") ∧
    ((∀ c ∈ banner.jar.visible, c.name = name → c.path = "/") →
      banner.jar.shadow? name "/" = none) ∧
    (banner.jar.shadow? name "/" = none →
      after.read? name = some decision.cookieValue ∧ after.state.decision? = some decision) ∧
    ∀ c, banner.jar.shadow? name "/" = some c → after.read? name = some (Text.unescape c.value) := by
  intro name cookie after
  have valid := Settings.isValidName_of_check usable
  have whole := reachable.isWellFormed
  have alive : cookie.isExpired banner.jar.clock = false := decision.isExpired_cookie name days time
  have written : after.jar = banner.jar.write cookie := jar_record valid decision days
  have clock : after.jar.clock = banner.jar.clock := by rw [written, Jar.clock_write]
  have count : after.jar.visible.countP (·.name = name) =
      banner.jar.visible.countP (fun c => c.name = name ∧ c.path ≠ "/") + 1 := by
    rw [written]
    exact Jar.countP_visible_write whole.keys alive
  refine ⟨⟨?_, ?_⟩, ⟨?_, clock⟩, count, ?_, Jar.shadow?_eq_none, ?_, ?_⟩
  · rw [written, Jar.write_of_not_isExpired alive]
    exact @Jar.filter_key_eq_put cookie _ whole.keys
  · rw [clock]
    exact alive
  · rw [written]
    exact Jar.filter_key_write banner.jar cookie
  · -- one more than those with other paths is one exactly if none has another path
    rw [count, Nat.add_eq_right, List.countP_eq_zero]
    apply forall_congr'
    intro c
    apply imp_congr_right
    intro _
    simp
  · intro alone
    have read : after.read? name = some decision.cookieValue :=
      read?_record_of_absent valid whole time alone
    refine ⟨read, ?_⟩
    change (ConsentState.ofValue (after.read? name)).decision? = some decision
    rw [read, ConsentState.ofValue_cookieValue]
  · intro c shadow
    have read := @read?_record banner decision days valid whole time
    rw [shadow] at read
    exact read

/-- A cookie with the key has expired, and cookies with its name and other paths stand in front of it
and behind it. If the one in front is seen, it is what is read; if it has expired too, the decision
is, although the one behind is seen. -/
theorem record_exact_between_paths :
    let settings : Settings :=
      { cookieName := "consent", expiryDays := 30, containerClass := "bar" }
    let page : Page := ⟨[.text "Welcome"]⟩
    let jar (front : String) : Jar := (Jar.empty Instant.epoch).run
      [.assign front, .assign "lang=en", .assign "consent=false; max-age=5",
        .assign "consent=maybe; path=/y", .advance (.ofSeconds 60)]
    let seen : Jar := jar "consent=f%61lse; path=/x"
    let expired : Jar := jar "consent=f%61lse; path=/x; max-age=5"
    let afterSeen := Banner.record ⟨settings, seen, page⟩ .accepted 7
    let afterExpired := Banner.record ⟨settings, expired, page⟩ .accepted 7
    (settings.check Instant.epoch = .ok () ∧ seen.Reachable ∧ expired.Reachable) ∧
    (seen.header = "consent=f%61lse; lang=en; consent=maybe" ∧
      afterSeen.jar.header = "consent=f%61lse; lang=en; consent=true; consent=maybe" ∧
      afterSeen.read? "consent" = some "false" ∧
      afterSeen.jar.visible.countP (·.name = "consent") = 3) ∧
    (expired.header = "lang=en; consent=maybe" ∧
      afterExpired.jar.header = "lang=en; consent=true; consent=maybe" ∧
      afterExpired.read? "consent" = some "true" ∧ afterExpired.state.decision? = some .accepted ∧
      afterExpired.jar.visible.countP (·.name = "consent") = 2) := by
  intro settings page jar seen expired afterSeen afterExpired
  have usable : settings.check Instant.epoch = .ok () := by
    rw [Settings.check, if_neg (by decide), if_neg (by decide), if_neg (by decide)]
  have reachable (front : String) : (jar front).Reachable :=
    Jar.Reachable.run (.empty Instant.epoch) _
  obtain ⟨-, -, three, -, -, -, shadowed⟩ :=
    @record_exact ⟨settings, seen, page⟩ Instant.epoch usable (reachable _) (by decide) .accepted 7
  obtain ⟨-, -, two, -, -, alone, -⟩ :=
    @record_exact ⟨settings, expired, page⟩ Instant.epoch usable (reachable _) (by decide) .accepted 7
  refine ⟨⟨usable, reachable _, reachable _⟩, ⟨by decide +kernel, by decide +kernel, ?_, ?_⟩,
    by decide +kernel, by decide +kernel, ?_, ?_, ?_⟩
  · exact (shadowed ⟨"consent", "f%61lse", "/x", none⟩ (by decide +kernel)).trans (by decide +kernel)
  · exact three.trans (by decide +kernel)
  · exact (alone (by decide +kernel)).1
  · exact (alone (by decide +kernel)).2
  · exact two.trans (by decide +kernel)

/-- A cookie of the same name with another path stays, and stands in front: what is read is not the
decision that was recorded, and two cookies of the name are seen. -/
theorem record_behind_other_path :
    let jar := (Jar.empty Instant.epoch).assign "_accept_cookies=false; path=/x"
    let after := Banner.record ⟨{}, jar, {}⟩ .accepted 1
    jar.Reachable ∧ jar.clock < Time.latestExpiry ∧
      ({} : Settings).check Instant.epoch = .ok () ∧
      after.read? "_accept_cookies" = some "false" ∧ after.state.decision? = some .refused ∧
      after.jar.visible.countP (·.name = "_accept_cookies") = 2 := by
  intro jar after
  refine ⟨.assign _ (.empty _), by decide, rfl, ?_⟩
  decide +kernel

end Banner

end CookieConsent
