import CookieConsent.Text.Decimal
import CookieConsent.Time.Civil

/-!
# HTTP dates

The form in which a cookie states its expiry: `Tue, 05 Jan 2027 23:04:09 GMT`. A year has four
digits; a year before 0 or after 9999 has a sign and at least four.
-/

namespace CookieConsent.Time

open Text.Decimal (padded)

/-- The names of the days of the week, from Monday. -/
def weekdayNames : List String := ["Mon", "Tue", "Wed", "Thu", "Fri", "Sat", "Sun"]

def monthNames : List String :=
  ["Jan", "Feb", "Mar", "Apr", "May", "Jun", "Jul", "Aug", "Sep", "Oct", "Nov", "Dec"]

/-- The text of a year: four digits from 0 to 9999, otherwise a sign and at least four digits. -/
def yearText (year : Int) : List Char :=
  if 0 ≤ year ∧ year ≤ 9999 then padded 4 year.toNat
  else (if year < 0 then '-' else '+') :: padded 4 year.natAbs

def clockText (c : Civil) : List Char :=
  padded 2 c.hour ++ ':' :: padded 2 c.minute ++ ':' :: padded 2 c.second

/-- The date as HTTP writes it. A fraction of a second is left out. -/
def httpDate (t : Instant) : String :=
  let c := Civil.ofInstant t
  let weekday := weekdayNames.getD (weekdayOf (t.seconds / 86400)) ""
  let month := monthNames.getD (c.date.month - 1) ""
  String.ofList <|
    weekday.toList ++ ", ".toList ++ padded 2 c.date.day ++ ' ' :: month.toList ++
      ' ' :: yearText c.date.year ++ ' ' :: clockText c ++ " GMT".toList

end CookieConsent.Time
