import CookieConsent.Cookie.Basic
import CookieConsent.Cookie.Entry
import CookieConsent.Decision

/-!
# Recorded decisions

A decision and the instant until which it holds.
-/

namespace CookieConsent

open Time (Instant)

/-- A decision together with its expiry. -/
structure RecordedDecision where
  decision : Decision
  /-- When the record expires; `none` if it ends with the browser's session. -/
  expires : Option Instant
deriving DecidableEq, Repr

namespace RecordedDecision

/-- The record of a decision that is made `now` and holds for some days. -/
def make (decision : Decision) (days : UInt32) (now : Instant) : RecordedDecision :=
  ⟨decision, Time.expiryAfter now days⟩

/-- The assignment that stores the record in a cookie. -/
def assignment (r : RecordedDecision) (name : String) : String :=
  Cookie.assignment name r.decision.cookieValue r.expires

def toJson (r : RecordedDecision) : Json :=
  .record [("decision", r.decision.toJson),
    ("expires", .ofOption (fun t => .ofText (Time.timestamp t)) r.expires)]

def ofJson? (value : Json) : Option RecordedDecision := do
  match ← value.fields? ["decision", "expires"] 2 with
  | [some decision, expires] =>
    return { decision := ← Decision.ofJson? decision
             expires := ← (expires.getD .null).nullable? Cookie.instant? }
  | _ => none

end RecordedDecision

end CookieConsent
