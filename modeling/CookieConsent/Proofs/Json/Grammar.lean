import CookieConsent.Json.Reader
import CookieConsent.Proofs.Text.Spellings

/-!
# The grammar of JSON

Which texts spell which values, said without a reader. Blanks may stand on either side of every
token, a character of a string may be escaped or not, and an exponent may have a sign, zeros in front
and a letter of either case. So a value has many spellings, while a text spells one value at most
(`eq_of_isTextOf`, which follows from its being read).

Sequences are described for items of any form, so that arrays and objects share them.

* `SpellsValue`: the spellings of a value, from its first character to its last.
* `IsTextOf`: the texts that spell a value and nothing else.
-/

namespace CookieConsent.Json

open Text (IsHexDigit)

/-- Whether a text may stand between tokens. -/
def IsGap (s : List Char) : Prop := ∀ c ∈ s, isSpace c

theorem isGap_nil : IsGap [] := by simp [IsGap]

/-! ## Strings -/

/-- The spellings of UTF-16 units inside a string. A character stands for itself unless it is a
control character, a quote or a backslash; behind a backslash, a letter names a character, and `u`
with four hexadecimal digits a unit. -/
inductive SpellsUnits : List Char → List Nat → Prop
  | nil : SpellsUnits [] []
  | char {c : Char} {s : List Char} {units : List Nat} :
      0x20 ≤ c.toNat → c ≠ '"' → c ≠ '\\' → SpellsUnits s units →
      SpellsUnits (c :: s) (Text.Utf16.encodeChar c ++ units)
  | short {letter c : Char} {s : List Char} {units : List Nat} :
      shortEscape? letter = some c → SpellsUnits s units →
      SpellsUnits ('\\' :: letter :: s) (Text.Utf16.encodeChar c ++ units)
  | unit {unit : Nat} {a b c d : Char} {s : List Char} {units : List Nat} :
      IsHexDigit (unit / 4096) a → IsHexDigit (unit / 256 % 16) b →
      IsHexDigit (unit / 16 % 16) c → IsHexDigit (unit % 16) d → SpellsUnits s units →
      SpellsUnits ('\\' :: 'u' :: a :: b :: c :: d :: s) (unit :: units)

/-- Whether units are those of a text; with `none`, whether there is no text that they are those
of. -/
def HasText (units : List Nat) (text : Option String) : Prop :=
  ∀ t : String, text = some t ↔ Text.Utf16.encode t.toList = units

/-- The spellings of a string, with its quotes. -/
inductive SpellsString : List Char → Option String → Prop
  | quoted {s : List Char} {units : List Nat} {text : Option String} :
      SpellsUnits s units → HasText units text → SpellsString ('"' :: (s ++ ['"'])) text

/-! ## Numbers -/

/-- Whether a text is a run of digits, of one at least. -/
def IsDigits (s : List Char) : Prop := s ≠ [] ∧ ∀ c ∈ s, c.isDigit

/-- The minus sign of a number, or nothing. -/
inductive SpellsMinus : List Char → Bool → Prop
  | absent : SpellsMinus [] false
  | present : SpellsMinus ['-'] true

/-- The whole part of a number, without leading zeros. -/
inductive SpellsWhole : List Char → Nat → Prop
  | zero : SpellsWhole ['0'] 0
  | digits {s : List Char} : IsDigits s → s.head? ≠ some '0' →
      SpellsWhole s (Nat.ofDigitChars 10 s 0)

/-- The fraction of a number with its point, or nothing. -/
inductive SpellsFraction : List Char → List (Fin 10) → Prop
  | absent : SpellsFraction [] []
  | present {digits : List (Fin 10)} : digits ≠ [] →
      SpellsFraction ('.' :: digits.map fun d => d.val.digitChar) digits

/-- An exponent behind its letter. -/
inductive SpellsPower : List Char → Int → Prop
  | bare {s : List Char} : IsDigits s → SpellsPower s (Nat.ofDigitChars 10 s 0)
  | plus {s : List Char} : IsDigits s → SpellsPower ('+' :: s) (Nat.ofDigitChars 10 s 0)
  | minus {s : List Char} : IsDigits s → SpellsPower ('-' :: s) (-Nat.ofDigitChars 10 s 0)

/-- The exponent of a number with its letter, or nothing. -/
inductive SpellsExponent : List Char → Option Int → Prop
  | absent : SpellsExponent [] none
  | lower {s : List Char} {n : Int} : SpellsPower s n → SpellsExponent ('e' :: s) (some n)
  | upper {s : List Char} {n : Int} : SpellsPower s n → SpellsExponent ('E' :: s) (some n)

inductive SpellsNumber : List Char → Number → Prop
  | parts {minus whole fraction exponent : List Char} {n : Number} :
      SpellsMinus minus n.negative → SpellsWhole whole n.whole →
      SpellsFraction fraction n.fraction → SpellsExponent exponent n.exponent →
      SpellsNumber (minus ++ (whole ++ (fraction ++ exponent))) n

/-! ## Sequences -/

section Sequences

variable {α : Type}

/-- A gap, and an item in its form. -/
inductive Spaced (form : List Char → α → Prop) : List Char → α → Prop
  | behind {gap s : List Char} {a : α} : IsGap gap → form s a → Spaced form (gap ++ s) a

/-- No gap is a gap as well. -/
theorem Spaced.of_form {form : List Char → α → Prop} {s : List Char} {a : α} (h : form s a) :
    Spaced form s a := .behind isGap_nil h

/-- Items in a form each, one at least, with a gap behind every item and commas between them. -/
inductive Separated (form : List Char → α → Prop) : List Char → List α → Prop
  | last {s gap : List Char} {a : α} : form s a → IsGap gap → Separated form (s ++ gap) [a]
  | more {s gap t : List Char} {a : α} {as : List α} :
      form s a → IsGap gap → Separated form t as →
      Separated form (s ++ (gap ++ ',' :: t)) (a :: as)

/-- What stands between two brackets: any number of items in a form each. -/
inductive Listed (form : List Char → α → Prop) : List Char → List α → Prop
  | empty {gap : List Char} : IsGap gap → Listed form gap []
  | items {as : List α} {s : List Char} : Separated form s as → Listed form s as

end Sequences

/-! ## Values -/

/-- A key, a colon and a value in its form. -/
inductive SpellsMember (form : List Char → Json → Prop) : List Char → Option String × Json → Prop
  | pair {k gap s : List Char} {key : Option String} {value : Json} :
      SpellsString k key → IsGap gap → form s value →
      SpellsMember form (k ++ (gap ++ ':' :: s)) (key, value)

/-- The spellings of a value, without gaps around them. -/
inductive SpellsValue : List Char → Json → Prop
  | null : SpellsValue ['n', 'u', 'l', 'l'] .null
  | true : SpellsValue ['t', 'r', 'u', 'e'] (.bool true)
  | false : SpellsValue ['f', 'a', 'l', 's', 'e'] (.bool false)
  | number {s : List Char} {n : Number} : SpellsNumber s n → SpellsValue s (.number n)
  | string {s : List Char} {text : Option String} : SpellsString s text →
      SpellsValue s (.string text)
  | array {s : List Char} {items : List Json} : Listed (Spaced SpellsValue) s items →
      SpellsValue ('[' :: (s ++ [']'])) (.array items)
  | object {s : List Char} {members : List (Option String × Json)} :
      Listed (Spaced (SpellsMember (Spaced SpellsValue))) s members →
      SpellsValue ('\x7b' :: (s ++ ['\x7d'])) (.object members)

/-- The texts that spell a value, with gaps around it and nothing else. -/
inductive IsTextOf : List Char → Json → Prop
  | whole {s gap : List Char} {value : Json} : Spaced SpellsValue s value → IsGap gap →
      IsTextOf (s ++ gap) value

end CookieConsent.Json
