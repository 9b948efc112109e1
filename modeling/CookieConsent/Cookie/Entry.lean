import CookieConsent.Text.Blank
import CookieConsent.Text.Cut
import CookieConsent.Text.Escape
import CookieConsent.Time.Expiry
import CookieConsent.Time.HttpDate

/-!
# Entries

The two texts in which cookies travel. A page sets a cookie by assigning `name=value; expires=date;
path=/;`, and it sees all of its cookies as one header, `name=value; name=value`. Values are
escaped in both.
-/

namespace CookieConsent.Cookie

open Time (Instant)

/-- The assignment that sets a cookie for the whole site. -/
def assignment (name value : String) (expires : Option Instant) : String :=
  match expires with
  | some t => name ++ "=" ++ Text.escape value ++ "; expires=" ++ Time.httpDate t ++ "; path=/;"
  | none => name ++ "=" ++ Text.escape value ++ "; path=/;"

/-- The assignment that sets a cookie `now` for some days. -/
def assignmentFor (name value : String) (now : Instant) (days : UInt32) : String :=
  assignment name value (Time.expiryAfter now days)

/-- The escaped value of an entry of a header, if it has this name. -/
def entryValue? (name entry : List Char) : Option (List Char) :=
  Text.afterBeginning (name ++ ['=']) (Text.trim entry)

/-- The value that a header gives to a name: that of the first entry with the name, whatever blanks
stand around the entries. -/
def read? (header name : String) : Option String :=
  ((header.toList.splitOn ';').findSome? (entryValue? name.toList)).map fun value =>
    String.ofList (Text.unescapeChars value)

end CookieConsent.Cookie
