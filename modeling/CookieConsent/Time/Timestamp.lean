import CookieConsent.Time.HttpDate
import CookieConsent.Time.Zone

/-!
# Timestamps

The form in which instants are stored: `2027-01-05T23:04:09.123Z`, with no fraction or with one of
three, six or nine digits. Reading accepts more: blanks around the parts, numbers without padding,
a space for the `T`, a fraction of any length, of which nine digits count, and any zone.
-/

namespace CookieConsent.Time

open Text (Reader)
open Text.Decimal (padded)

/-! ## Writing -/

/-- The text of a fraction of a second: none for zero, otherwise as many groups of three digits as
it takes. -/
def fractionText (nanos : Nat) : List Char :=
  if nanos = 0 then []
  else if nanos % 1000000 = 0 then '.' :: padded 3 (nanos / 1000000)
  else if nanos % 1000 = 0 then '.' :: padded 6 (nanos / 1000)
  else '.' :: padded 9 nanos

def timestamp (t : Instant) : String :=
  let c := Civil.ofInstant t
  String.ofList <|
    yearText c.date.year ++ '-' :: padded 2 c.date.month ++ '-' :: padded 2 c.date.day ++
      'T' :: clockText c ++ fractionText c.nanos ++ ['Z']

/-! ## Reading -/

/-- Reads a year: four digits at most, or any number of them behind a sign. -/
def timestampYear : Reader Int
  | '-' :: s => (Reader.digits 1 none s).map fun found =>
      (-(Nat.ofDigitChars 10 found.1 0 : Int), found.2)
  | '+' :: s => (Reader.digits 1 none s).map fun found =>
      ((Nat.ofDigitChars 10 found.1 0 : Int), found.2)
  | s => (Reader.number 1 4 s).map fun found => ((found.1 : Int), found.2)

/-- Reads a point and the digits behind it, if there are any: the nanoseconds they mean. -/
def timestampFraction : Reader Nat
  | '.' :: s => (Reader.digits 1 none s).map fun found =>
      (Nat.ofDigitChars 10 ((found.1.take 9).rightpad 9 '0') 0, found.2)
  | s => some (0, s)

/-- Reads `c` and blanks on both sides of it. -/
def spaced (c : Char) : Reader Unit := do
  Reader.blanks
  Reader.char c
  Reader.blanks

/-- Reads a timestamp: the civil time and the offset of its zone. -/
def timestampParts : Reader (Civil × Int) := do
  Reader.blanks
  let year ← timestampYear
  spaced '-'
  let month ← Reader.number 1 2
  spaced '-'
  let day ← Reader.number 1 2
  let _ ← Reader.oneOf ['T', 't', ' ']
  Reader.blanks
  let hour ← Reader.number 1 2
  spaced ':'
  let minute ← Reader.number 1 2
  spaced ':'
  let second ← Reader.number 1 2
  let nanos ← timestampFraction
  Reader.blanks
  let offset ← timestampZone
  Reader.blanks
  return (⟨⟨year, month, day⟩, hour, minute, second, nanos⟩, offset)

def ofTimestamp? (text : String) : Option Instant := do
  let (civil, offset) ← Reader.whole timestampParts text.toList
  civil.toInstant? offset

end CookieConsent.Time
