import CookieConsent.Cookie.Basic
import CookieConsent.Cookie.Name
import CookieConsent.Text.Blank
import CookieConsent.Text.Cut
import CookieConsent.Text.Decimal
import CookieConsent.Time.MailDate

/-!
# Reading assignments

A page sets a cookie by assigning a text: a name and a value with `=` between, then attributes,
each behind a `;`. Three attributes count, their keys in any case: `expires` with a date, `max-age`
with a number of seconds and `path` with a path. Of several attributes with the same key the last
one counts, also when its value cannot be read; then it is as if the key had not been given. A path
that does not begin with `/` is passed over instead. A `max-age` outdoes any `expires`.
-/

namespace CookieConsent.Cookie

open Time (Instant)

/-- What the attributes of an assignment say. -/
structure Attributes where
  path : List Char
  expires : Option Instant
  maxAge : Option Int
deriving DecidableEq, Repr

def Attributes.none : Attributes := ⟨['/'], Option.none, Option.none⟩

/-- The key and the value of an attribute. The key is in lower case; a value that is left out is
empty. -/
def attributePair (segment : List Char) : List Char × List Char :=
  let (key, value) := (Text.cut '=' segment).getD (segment, [])
  ((Text.trim key).map Char.toLower, value)

/-- Takes in one more attribute. -/
def Attributes.add (attributes : Attributes) (segment : List Char) : Attributes :=
  let (key, value) := attributePair (Text.trim segment)
  if key = "expires".toList then
    { attributes with expires := Time.mailDate? (String.ofList value) }
  else if key = "max-age".toList then
    { attributes with maxAge := Text.Decimal.int64? (Text.trim value) }
  else if key = "path".toList ∧ value.head? = some '/' then
    { attributes with path := Text.trim value }
  else attributes

/-- When a cookie written `now` with a lifetime of some seconds expires. A lifetime that leaves the
range of instants ends with it, or, if it is not positive, at once. -/
def expiryOfAge (now : Instant) (seconds : Int) : Instant :=
  (now.add? (.ofSeconds seconds)).getD (if 0 < seconds then Instant.last else now)

/-- When a cookie written `now` with these attributes expires. -/
def Attributes.expiry (attributes : Attributes) (now : Instant) : Option Instant :=
  match attributes.maxAge with
  | some seconds => some (expiryOfAge now seconds)
  | Option.none => attributes.expires

/-- The name and the value that the first part of an assignment gives, if the name is valid. -/
def pair? (text : List Char) : Option (String × String) :=
  match Text.cut '=' (Text.trim text) with
  | some (name, value) =>
    let name := String.ofList (Text.trim name)
    if isValidName name then some (name, String.ofList (Text.trim value)) else Option.none
  | Option.none => Option.none

/-- The cookie that an assignment sets `now`, if it sets one. -/
def ofAssignment? (now : Instant) (text : String) : Option Cookie :=
  match text.toList.splitOn ';' with
  | [] => Option.none
  | pair :: attributes =>
    (pair? pair).map fun (name, value) =>
      let said := attributes.foldl Attributes.add Attributes.none
      { name, value, path := String.ofList said.path, expires := said.expiry now }

end CookieConsent.Cookie
