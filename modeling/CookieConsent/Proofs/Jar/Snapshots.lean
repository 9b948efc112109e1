import CookieConsent.Jar.Snapshot
import CookieConsent.Proofs.Cookie.Assignments
import CookieConsent.Proofs.Json.RoundTrip
import CookieConsent.Proofs.Time.Timestamps

/-!
# Snapshots are read back

The stored form of a jar keeps all of its cookies, in order, with every character of their texts
and every nanosecond of their expiries as clocks show them, whether it is written on one line or on
many. So nothing is lost if clocks show the expiries as they are.

* `ofJson?_toJson`: what is read back of a cookie from its stored form.
* `ofText?_snapshot`, `ofText?_indented`: what is read back of a jar, at any time.
* `map_shown_eq_self`: cookies of which nothing is lost.
-/

namespace CookieConsent

open Time (Instant)

@[simp] theorem Json.text?_ofText (text : String) : (Json.ofText text).text? = some text := rfl

theorem Json.nullable?_ofText {α : Type} (decode : Json → Option α) (text : String) :
    (Json.ofText text).nullable? decode = (decode (.ofText text)).map some := rfl

/-- The expiry that clocks show is read back from the stored form of an expiry. -/
theorem Cookie.nullable?_instant? (expires : Option Instant) :
    (Json.ofOption (fun t => .ofText (Time.timestamp t)) expires).nullable? Cookie.instant? =
      some (expires.map Instant.shown) := by
  cases expires with
  | none => rfl
  | some t =>
    have found : Cookie.instant? (.ofText (Time.timestamp t)) = some t.shown := by
      rw [Cookie.instant?, Json.text?_ofText, Option.bind_some, Time.ofTimestamp?_timestamp]
    rw [Json.ofOption, Json.nullable?_ofText, found, Option.map_some, Option.map_some]

/-- Expiries are as clocks show them if all of them are shown. -/
theorem map_shown_eq_self_iff {expires : Option Instant} :
    expires.map Instant.shown = expires ↔ ∀ t ∈ expires, t.IsShown := by
  cases expires with
  | none => exact iff_of_true rfl fun t given => absurd given (Option.not_mem_none t)
  | some t => simp [Instant.shown_eq_self_iff]

namespace Cookie

/-- The cookie with the expiry that clocks show. -/
def shown (c : Cookie) : Cookie := { c with expires := c.expires.map Instant.shown }

/-- A cookie is shown as it is when clocks show its expiry. -/
theorem shown_eq_self_iff {c : Cookie} : c.shown = c ↔ c.IsShown := by
  obtain ⟨name, value, path, expires⟩ := c
  simp only [shown, mk.injEq, true_and]
  exact map_shown_eq_self_iff

/-- A cookie is read back from its stored form with the expiry that clocks show. -/
theorem ofJson?_toJson (c : Cookie) : ofJson? c.toJson = some c.shown := by
  have fields : c.toJson.fields? ["name", "value", "path", "expires"] 4 =
      some [some (.ofText c.name), some (.ofText c.value), some (.ofText c.path),
        some (.ofOption (fun t => .ofText (Time.timestamp t)) c.expires)] := rfl
  rw [ofJson?, fields]
  simp [nullable?_instant?, shown]

end Cookie

namespace Jar

/-- Whether the cookies of a jar expire at instants that clocks show. -/
def IsShown (jar : Jar) : Prop := ∀ c ∈ jar.cookies, c.IsShown

/-- Of such cookies nothing is lost. -/
theorem map_shown_eq_self {jar : Jar} (h : jar.IsShown) :
    jar.cookies.map Cookie.shown = jar.cookies :=
  (List.map_congr_left fun c hc => Cookie.shown_eq_self_iff.2 (h c hc)).trans
    (List.map_id jar.cookies)

/-- The cookies of a jar are read back from its stored form. -/
theorem cookiesOfJson?_toJson (jar : Jar) :
    cookiesOfJson? jar.toJson = some (jar.cookies.map Cookie.shown) := by
  have fields : jar.toJson.fields? ["cookies"] 1 =
      some [some (.array (jar.cookies.map Cookie.toJson))] := rfl
  have all : (jar.cookies.map Cookie.toJson).mapM Cookie.ofJson? =
      some (jar.cookies.map Cookie.shown) := by
    induction jar.cookies with
    | nil => rfl
    | cons c cookies ih => simp [Cookie.ofJson?_toJson, ih]
  rw [cookiesOfJson?, fields]
  exact all

/-- What is read back of a jar from its text on one line, at any time. -/
theorem ofText?_snapshot (now : Instant) (jar : Jar) :
    ofText? now jar.snapshot = some ⟨jar.cookies.map Cookie.shown, now⟩ := by
  rw [ofText?, snapshot, Json.parse?_compact, Option.bind_some, ofJson?, cookiesOfJson?_toJson]
  rfl

/-- What is read back of a jar from its text on many lines, at any time. -/
theorem ofText?_indented (now : Instant) (jar : Jar) :
    ofText? now jar.toJson.indented = some ⟨jar.cookies.map Cookie.shown, now⟩ := by
  rw [ofText?, Json.parse?_indented, Option.bind_some, ofJson?, cookiesOfJson?_toJson]
  rfl

end Jar

end CookieConsent
