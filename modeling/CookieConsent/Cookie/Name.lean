/-!
# Cookie names

A name is a token: visible ASCII characters without those that would end it or start a quoted text.
-/

namespace CookieConsent.Cookie

def isNameChar (c : Char) : Bool :=
  '!' ≤ c && c ≤ '~' && !(['=', ';', ',', '"', '\\'].contains c)

/-- Whether a cookie can have the name. -/
def isValidName (name : String) : Bool := name.toList ≠ [] && name.toList.all isNameChar

/-- The name of the cookie that stores consent, unless the settings give another. -/
def consentName : String := "_accept_cookies"

theorem isValidName_consentName : isValidName consentName := by decide

end CookieConsent.Cookie
