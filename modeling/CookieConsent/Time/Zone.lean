import CookieConsent.Text.Reader

/-!
# Zone offsets

A zone is written as the time that its clocks are ahead of universal time, in hours and minutes
behind a sign, or as a name.
-/

namespace CookieConsent.Time

open Text (Reader)

/-- Reads a sign, two digits of hours, what `between` reads, and two digits of minutes: the offset
in seconds. Each character that may be the sign is given with the direction it stands for. -/
def numericOffset (signs : List (Char × Int)) (between : Reader Unit) : Reader Int := do
  let sign ← Reader.oneOf (signs.map (·.1))
  let hours ← Reader.number 2 2
  between
  let minutes ← Reader.number 2 2
  if minutes < 60 then
    return (signs.lookup sign).getD 1 * ((hours * 60 + minutes) * 60 : Nat)
  else failure

/-- The hours by which the zones with a name are ahead of universal time. -/
def namedZones : List (String × Int) :=
  [("gmt", 0), ("ut", 0), ("z", 0), ("edt", -4), ("est", -5), ("cdt", -5), ("cst", -6),
   ("mdt", -6), ("mst", -7), ("pdt", -7), ("pst", -8)]

/-- The offset of a zone with a name, in any case. The single letters of military zones count as
universal time; `j` is none of them. -/
def zoneOfName? (name : List Char) : Option Int :=
  let name := name.map Char.toLower
  match namedZones.lookup (String.ofList name) with
  | some hours => some (hours * 3600)
  | none => if name.length = 1 ∧ name ≠ ['j'] then some 0 else none

/-- Reads the zone of a mail date: a name, or four digits behind a sign. -/
def mailZone : Reader Int
  | s =>
    let name := s.takeWhile Char.isAlpha
    if name = [] then numericOffset [('+', 1), ('-', -1)] (Reader.skip fun _ => false) s
    else (zoneOfName? name).map (·, s.drop name.length)

/-- Reads the zone of a timestamp: `Z`, `UTC`, or an offset in which colons and blanks may stand
between the hours and the minutes. -/
def timestampZone : Reader Int
  | s =>
    if (s.take 3).map Char.toLower = "utc".toList then some (0, s.drop 3)
    else match s with
      | 'Z' :: rest => some (0, rest)
      | 'z' :: rest => some (0, rest)
      | _ =>
        numericOffset [('+', 1), ('-', -1), ('\u2212', -1)]
          (Reader.skip fun c => c = ':' || Text.isBlank c) s

end CookieConsent.Time
