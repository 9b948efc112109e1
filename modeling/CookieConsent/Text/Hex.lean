/-!
# Hexadecimal digits

* `value?_digitChar`: a digit is read back as its value, whichever case it is written in.
-/

namespace CookieConsent.Text.Hex

/-- The value of a hexadecimal digit of either case. -/
def value? (c : Char) : Option Nat :=
  if '0' ≤ c ∧ c ≤ '9' then some (c.toNat - 48)
  else if 'a' ≤ c ∧ c ≤ 'f' then some (c.toNat - 87)
  else if 'A' ≤ c ∧ c ≤ 'F' then some (c.toNat - 55)
  else none

def value4? (a b c d : Char) : Option Nat := do
  return (((← value? a) * 16 + (← value? b)) * 16 + (← value? c)) * 16 + (← value? d)

/-- A digit has its value in either case. -/
theorem value?_digitChar {n : Nat} (h : n < 16) :
    value? n.digitChar = some n ∧ value? n.digitChar.toUpper = some n := by
  have all : ∀ n < 16, value? n.digitChar = some n ∧ value? n.digitChar.toUpper = some n := by
    decide
  exact all n h

end CookieConsent.Text.Hex
