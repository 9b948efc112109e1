import CookieConsent.Json.Shape
import CookieConsent.Time.Timestamp

/-!
# Cookies

A cookie as it is kept: its value still escaped, and the instant at which it expires. A cookie is
told from others by its name and its path.
-/

namespace CookieConsent

open Time (Instant)

/-- A cookie that is kept. -/
structure Cookie where
  name : String
  /-- The value as it was written, still escaped. -/
  value : String
  path : String
  /-- When the cookie expires; `none` if it ends with the browser's session. -/
  expires : Option Instant
deriving DecidableEq, Repr

namespace Cookie

/-- What tells a cookie from others. -/
def key (c : Cookie) : String × String := (c.name, c.path)

def isExpired (c : Cookie) (now : Instant) : Bool := c.expires.any (· ≤ now)

/-! ## Stored form -/

def toJson (c : Cookie) : Json :=
  .record [("name", .ofText c.name), ("value", .ofText c.value), ("path", .ofText c.path),
    ("expires", .ofOption (fun t => .ofText (Time.timestamp t)) c.expires)]

def instant? (value : Json) : Option Instant := value.text?.bind Time.ofTimestamp?

def ofJson? (value : Json) : Option Cookie := do
  match ← value.fields? ["name", "value", "path", "expires"] 4 with
  | [some name, some val, some path, expires] =>
    return { name := ← name.text?, value := ← val.text?, path := ← path.text?
             expires := ← (expires.getD .null).nullable? instant? }
  | _ => none

end Cookie

end CookieConsent
