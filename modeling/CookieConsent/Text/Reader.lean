import CookieConsent.Text.Blank

/-!
# Readers

A reader looks at the front of a text. It finds a value there and leaves the rest, or it fails.
Readers compose with `do`; the ones here read single characters, blanks, numbers and names.
-/

namespace CookieConsent.Text

/-- What stands at the front of a text, and what follows it. -/
abbrev Reader (α : Type) := StateT (List Char) Option α

namespace Reader

def char (c : Char) : Reader Unit
  | [] => none
  | d :: s => if d = c then some ((), s) else none

/-- Reads one of the characters `cs`. -/
def oneOf (cs : List Char) : Reader Char
  | [] => none
  | d :: s => if cs.contains d then some (d, s) else none

/-- Skips the characters that satisfy `p`. -/
def skip (p : Char → Bool) : Reader Unit
  | s => some ((), s.dropWhile p)

def blanks : Reader Unit := skip isBlank

def someBlanks : Reader Unit
  | [] => none
  | c :: s => if isBlank c then some ((), trimStart s) else none

/-- Reads a number of at least `least` digits, and of no more than `most` if that is given: the
digits themselves. -/
def digits (least : Nat) (most : Option Nat) : Reader (List Char)
  | s =>
    let window := match most with
      | some n => s.take n
      | none => s
    let found := window.takeWhile Char.isDigit
    if least ≤ found.length then some (found, s.drop found.length) else none

/-- Reads a number of at least `least` and at most `most` digits. -/
def number (least most : Nat) : Reader Nat := do
  return Nat.ofDigitChars 10 (← digits least (some most)) 0

/-- Reads one of some names of three letters, in any case: its place in the list. -/
def name3 (names : List String) : Reader Nat
  | s =>
    let word := (s.take 3).map Char.toLower
    (names.findIdx? fun name => name.toList.map Char.toLower = word).map (·, s.drop 3)

/-- The value that a reader finds in a text, if nothing is left. -/
def whole {α : Type} (reader : Reader α) (s : List Char) : Option α :=
  match reader s with
  | some (value, []) => some value
  | _ => none

end Reader

end CookieConsent.Text
