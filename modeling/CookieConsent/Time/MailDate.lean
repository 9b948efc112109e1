import CookieConsent.Time.HttpDate
import CookieConsent.Time.Zone

/-!
# Mail dates

The dates of Internet mail, of which HTTP dates are a special case: `[weekday ","] day month year
hour ":" minute [":" second] zone`, with blanks between the parts and comments in parentheses
behind them. A weekday has to be that of the date. A year of two digits lies between 1950 and 2049,
and a year of three digits counts from 1900.
-/

namespace CookieConsent.Time

open Text (Reader)

/-- Reads a weekday with a comma right behind it, if there is one: its place in the week. -/
def mailWeekday : Reader (Option Nat)
  | s =>
    match Reader.name3 weekdayNames s with
    | some (weekday, ',' :: rest) => some (some weekday, rest)
    | some _ => none
    | none => some (none, s)

/-- The year that some digits mean: those of two or three digits are short for later ones. -/
def mailYear (digits : List Char) : Int :=
  let year : Int := Nat.ofDigitChars 10 digits 0
  if digits.length = 2 then if year < 50 then year + 2000 else year + 1900
  else if digits.length = 3 then year + 1900
  else year

/-- Reads a colon and the second behind it, if there is one, and zero otherwise. -/
def mailSecond : Reader Nat
  | s =>
    match Text.trimStart s with
    | ':' :: rest => Reader.number 2 2 rest
    | _ => some (0, s)

/-- Whether a text holds blanks and comments only. Comments are nested `depth` deep so far, and a
backslash takes the meaning from the character behind it. -/
def isCommentsFrom : Nat → Bool → List Char → Bool
  | 0, _, [] => true
  | _ + 1, _, [] => false
  | 0, _, c :: s =>
    if c = '(' then isCommentsFrom 1 false s else Text.isBlank c && isCommentsFrom 0 false s
  | depth + 1, true, _ :: s => isCommentsFrom (depth + 1) false s
  | depth + 1, false, c :: s =>
    if c = '\\' then isCommentsFrom (depth + 1) true s
    else if c = '(' then isCommentsFrom (depth + 2) false s
    else if c = ')' then isCommentsFrom depth false s
    else isCommentsFrom (depth + 1) false s

/-- Reads a date: the weekday that it names, the civil time and the offset of its zone. -/
def mailDateParts : Reader (Option Nat × Civil × Int) := do
  Reader.blanks
  let weekday ← mailWeekday
  Reader.blanks
  let day ← Reader.number 1 2
  Reader.someBlanks
  let month ← Reader.name3 monthNames
  Reader.someBlanks
  let year ← Reader.digits 2 none
  Reader.someBlanks
  let hour ← Reader.number 2 2
  Reader.blanks
  Reader.char ':'
  Reader.blanks
  let minute ← Reader.number 2 2
  let second ← mailSecond
  Reader.someBlanks
  let offset ← mailZone
  return (weekday, ⟨⟨mailYear year, month + 1, day⟩, hour, minute, second, 0⟩, offset)

def mailDate? (text : String) : Option Instant :=
  match mailDateParts (Text.trim text.toList) with
  | some ((weekday, civil, offset), rest) =>
    if isCommentsFrom 0 false rest ∧ weekday.all (· = weekdayOf civil.date.dayNumber) then
      civil.toInstant? offset
    else none
  | none => none

end CookieConsent.Time
