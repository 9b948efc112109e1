import CookieConsent.Json.Basic
import CookieConsent.Text.Hex
import CookieConsent.Text.Reader
import CookieConsent.Text.Utf16

/-!
# Reading JSON

The grammar of JSON and nothing beside it: no blanks other than the four it names, no leading
zeros, no commas behind the last item, and nothing after the value.

A string is first read as a sequence of characters and code units, as its escapes name them; it has
a text when every surrogate is one half of a pair.
-/

namespace CookieConsent.Json

open Text (Reader)

/-! ## Strings -/

/-- Whether the character may stand between tokens. -/
def isSpace (c : Char) : Bool := c = ' ' || c = '\n' || c = '\r' || c = '\t'

/-- Skips what may stand between tokens. -/
def spaces : Reader Unit := Reader.skip isSpace

/-- The character that a backslash and a letter stand for. -/
def shortEscape? (c : Char) : Option Char :=
  [('"', '"'), ('\\', '\\'), ('/', '/'), ('b', '\x08'), ('f', '\x0c'), ('n', '\n'), ('r', '\r'),
    ('t', '\t')].lookup c

/-- Reads the inside of a string and the quote behind it: the UTF-16 code units that it spells. -/
def stringUnits : Reader (List Nat)
  | [] => none
  | '"' :: s => some ([], s)
  | '\\' :: 'u' :: a :: b :: c :: d :: s => do
    let unit ← Text.Hex.value4? a b c d
    let (units, rest) ← stringUnits s
    return (unit :: units, rest)
  | '\\' :: c :: s => do
    let c ← shortEscape? c
    let (units, rest) ← stringUnits s
    return (Text.Utf16.encodeChar c ++ units, rest)
  | c :: s =>
    if c.toNat < 0x20 then none
    else do
      let (units, rest) ← stringUnits s
      return (Text.Utf16.encodeChar c ++ units, rest)

/-- Reads the inside of a string and the quote behind it: its text, if it has one. -/
def readString : Reader (Option String) := do
  return (Text.Utf16.decode? (← stringUnits)).map String.ofList

/-! ## Numbers -/

def readMinus : Reader Bool
  | '-' :: s => some (true, s)
  | s => some (false, s)

/-- Reads a whole number without leading zeros. -/
def readWhole : Reader Nat
  | '0' :: s => some (0, s)
  | s => do
    let (found, rest) ← Reader.digits 1 none s
    return (Nat.ofDigitChars 10 found 0, rest)

/-- Reads a point and the digits behind it, if there are any. -/
def readFraction : Reader (List (Fin 10))
  | '.' :: s => do
    let (found, rest) ← Reader.digits 1 none s
    return (found.map fun c => Fin.ofNat 10 (c.toNat - 48), rest)
  | s => some ([], s)

/-- Reads the digits of an exponent behind an optional sign. -/
def readExponentValue : Reader Int
  | s => do
    let (negative, s) := match s with
      | '-' :: rest => (true, rest)
      | '+' :: rest => (false, rest)
      | s => (false, s)
    let (found, rest) ← Reader.digits 1 none s
    let n : Int := Nat.ofDigitChars 10 found 0
    return (if negative then -n else n, rest)

def readExponent : Reader (Option Int)
  | 'e' :: s => do
    let (n, rest) ← readExponentValue s
    return (some n, rest)
  | 'E' :: s => do
    let (n, rest) ← readExponentValue s
    return (some n, rest)
  | s => some (none, s)

def readNumber : Reader Number := do
  return { negative := ← readMinus, whole := ← readWhole, fraction := ← readFraction,
           exponent := ← readExponent }

/-! ## Values -/

/-- Reads what `item` reads, one or more times with commas between, and the bracket `close`. The
fuel bounds the number of items. -/
def readSeparated {α : Type} (item : Reader α) (close : Char) : Nat → Reader (List α)
  | 0 => failure
  | fuel + 1 => do
    let first ← item
    spaces
    match ← Reader.oneOf [',', close] with
    | ',' => return first :: (← readSeparated item close fuel)
    | _ => return [first]

/-- Reads any number of items with commas between, and the bracket `close`. -/
def readSequence {α : Type} (item : Reader α) (close : Char) : Reader (List α)
  | s =>
    match s.dropWhile isSpace with
    | [] => none
    | c :: rest => if c = close then some ([], rest) else readSeparated item close s.length s

/-- Reads a key, a colon and what `item` reads. -/
def readMember {α : Type} (item : Reader α) : Reader (Option String × α) := do
  spaces
  Reader.char '"'
  let key ← readString
  spaces
  Reader.char ':'
  return (key, ← item)

/-- Reads the characters of a word. -/
def readWord : List Char → Reader Unit
  | [] => pure ()
  | c :: cs => do
    Reader.char c
    readWord cs

/-- Reads a value in which fewer than `depth` brackets are open at a time. -/
def readValue : Nat → Reader Json
  | 0 => failure
  | depth + 1 => do
    spaces
    fun
      | '"' :: s => (Json.string <$> readString).run s
      | '[' :: s => (Json.array <$> readSequence (readValue depth) ']').run s
      | '{' :: s => (Json.object <$> readSequence (readMember (readValue depth)) '}').run s
      | 'n' :: s => ((fun _ => Json.null) <$> readWord ['u', 'l', 'l']).run s
      | 't' :: s => ((fun _ => Json.bool true) <$> readWord ['r', 'u', 'e']).run s
      | 'f' :: s => ((fun _ => Json.bool false) <$> readWord ['a', 'l', 's', 'e']).run s
      | s => (Json.number <$> readNumber).run s

/-- The value that a text spells. -/
def parse? (text : String) : Option Json :=
  Reader.whole (do let v ← readValue (text.toList.length + 1); spaces; return v) text.toList

end CookieConsent.Json
