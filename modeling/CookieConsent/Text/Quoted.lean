import CookieConsent.Text.Visible

/-!
# Quoted texts

The form in which an error shows a text: between double quotes, on one line, with an escape for
every character that would not be seen or would be taken for something else.
-/

namespace CookieConsent.Text

/-- The form of one character in a quoted text. -/
def quotedChar (c : Char) : List Char :=
  if c = '\x00' then ['\\', '0']
  else if c = '\t' then ['\\', 't']
  else if c = '\n' then ['\\', 'n']
  else if c = '\r' then ['\\', 'r']
  else if c = '"' || c = '\\' then ['\\', c]
  else if isVisible c then [c]
  else ['\\', 'u', '{'] ++ Nat.toDigits 16 c.toNat ++ ['}']

def quoted (text : String) : String :=
  String.ofList ('"' :: text.toList.flatMap quotedChar ++ ['"'])

end CookieConsent.Text
