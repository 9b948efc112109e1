import CookieConsent.Jar.Basic
import CookieConsent.Json.Reader
import CookieConsent.Json.Writer

/-!
# Snapshots

The stored form of a jar: its cookies, without the time.
-/

namespace CookieConsent.Jar

open Time (Instant)

def toJson (jar : Jar) : Json := .record [("cookies", .array (jar.cookies.map Cookie.toJson))]

/-- The cookies of the jar that a value stores. -/
def cookiesOfJson? (value : Json) : Option (List Cookie) := do
  match ← value.fields? ["cookies"] 1 with
  | [some cookies] => cookies.list? Cookie.ofJson?
  | _ => none

/-- The jar, at a time, that a value stores. -/
def ofJson? (now : Instant) (value : Json) : Option Jar :=
  (cookiesOfJson? value).map fun cookies => ⟨cookies, now⟩

/-- The text of a jar on one line. -/
def snapshot (jar : Jar) : String := jar.toJson.compact

/-- The jar, at a time, that a text stores. -/
def ofText? (now : Instant) (text : String) : Option Jar :=
  (Json.parse? text).bind (ofJson? now)

end CookieConsent.Jar
