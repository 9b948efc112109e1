/-!
# Decimal numbers

Numbers written with a least width, and the integers of 64 bits that a text can spell.

* `ofDigitChars_padded`: padding does not change the number that is read back.
-/

namespace CookieConsent.Text.Decimal

/-- The decimal digits of `n`, padded with zeros to at least `width`. -/
def padded (width n : Nat) : List Char := (Nat.toDigits 10 n).leftpad width '0'

/-- Zeros in front of a number do not change it. -/
@[simp] theorem ofDigitChars_padded (width n : Nat) :
    Nat.ofDigitChars 10 (padded width n) 0 = n := by
  simp [padded, List.leftpad, Nat.ofDigitChars_append]

theorem isDigit_of_mem_padded {width n : Nat} {c : Char} (h : c ∈ padded width n) :
    c.isDigit := by
  simp only [padded, List.leftpad, List.mem_append, List.mem_replicate] at h
  rcases h with ⟨_, rfl⟩ | h
  · decide
  · exact Nat.isDigit_of_mem_toDigits (by decide) (by decide) h

/-- A number whose digits fit has exactly the width asked for. -/
theorem length_padded {width n : Nat} (h : (Nat.toDigits 10 n).length ≤ width) :
    (padded width n).length = width := by
  simp only [padded, List.leftpad, List.length_append, List.length_replicate]
  omega

/-- The number that a text of digits spells, if it is one and holds at least one digit. -/
def nat? (s : List Char) : Option Nat :=
  if s ≠ [] ∧ s.all Char.isDigit then some (Nat.ofDigitChars 10 s 0) else none

/-- The integer of 64 bits that a text spells: digits behind an optional sign. -/
def int64? (s : List Char) : Option Int :=
  let value : Option Int := match s with
    | '-' :: digits => (nat? digits).map fun n => -(n : Int)
    | '+' :: digits => (nat? digits).map fun n => (n : Int)
    | digits => (nat? digits).map fun n => (n : Int)
  value.filter fun n => -9223372036854775808 ≤ n ∧ n < 9223372036854775808

end CookieConsent.Text.Decimal
