import CookieConsent.Cookie.Name
import CookieConsent.Error
import CookieConsent.Json.Reader
import CookieConsent.Json.Writer
import CookieConsent.Text.Blank
import CookieConsent.Time.Expiry
import CookieConsent.Time.HttpDate

/-!
# Settings of the banner

What the site decides about the banner: the cookie and its lifetime, the texts, and the class by
which the banner is found on a page. Settings are checked before they are used.
-/

namespace CookieConsent.Banner

open Time (Instant)

/-- What a site decides about the banner. -/
structure Settings where
  cookieName : String := Cookie.consentName
  /-- How many days a decision holds; with zero, it ends with the browser's session. -/
  expiryDays : UInt32 := 365
  privacyUrl : String := "/privacy"
  message : String := "This site uses cookies for anonymous web statistics."
  linkText : String := "Find out more on how we use cookies and how you can opt-out"
  acceptLabel : String := "I accept"
  refuseLabel : String := "I refuse cookies"
  /-- The class of the banner. Every element that carries it goes when a decision is made. -/
  containerClass : String := "cookie-consent"
deriving DecidableEq, Repr

namespace Settings

/-! ## Checking -/

/-- Whether a text is one word, apart from blanks around it. -/
def isOneWord (text : String) : Bool :=
  let word := Text.trim text.toList
  word ≠ [] && word.all fun c => !Text.isBlank c

/-- Why settings cannot be used at an instant, if they cannot: the first of their faults. -/
def check (settings : Settings) (now : Instant) : Except ConsentError Unit :=
  if !Cookie.isValidName settings.cookieName then
    .error (.invalidCookieName settings.cookieName)
  else if !Time.expiryInRange now settings.expiryDays then
    .error (.settings ("expiry of " ++ settings.expiryDays.toNat.repr ++ " days runs past " ++
      Time.httpDate Time.latestExpiry))
  else if !isOneWord settings.containerClass then
    .error (.settings ("container class must be a single class name, got " ++
      Text.quoted settings.containerClass))
  else .ok ()

/-! ## Stored form -/

def toJson (settings : Settings) : Json :=
  .record [("cookie_name", .ofText settings.cookieName),
    ("expiry_days", .ofNat settings.expiryDays.toNat),
    ("privacy_url", .ofText settings.privacyUrl), ("message", .ofText settings.message),
    ("link_text", .ofText settings.linkText), ("accept_label", .ofText settings.acceptLabel),
    ("refuse_label", .ofText settings.refuseLabel),
    ("container_class", .ofText settings.containerClass)]

/-- What a field gives, or the default if the field is left out. -/
def fieldOr {α : Type} (decode : Json → Option α) (default : α) : Option Json → Option α
  | some value => decode value
  | none => some default

/-- The settings that a value stores. Fields that are left out have their defaults. -/
def ofJson? (value : Json) : Option Settings := do
  let default : Settings := {}
  match ← value.fields? ["cookie_name", "expiry_days", "privacy_url", "message", "link_text",
    "accept_label", "refuse_label", "container_class"] 0 with
  | [name, days, url, message, link, accept, refuse, container] =>
    return { cookieName := ← fieldOr Json.text? default.cookieName name
             expiryDays := ← fieldOr Json.uint32? default.expiryDays days
             privacyUrl := ← fieldOr Json.text? default.privacyUrl url
             message := ← fieldOr Json.text? default.message message
             linkText := ← fieldOr Json.text? default.linkText link
             acceptLabel := ← fieldOr Json.text? default.acceptLabel accept
             refuseLabel := ← fieldOr Json.text? default.refuseLabel refuse
             containerClass := ← fieldOr Json.text? default.containerClass container }
  | _ => none

/-- The reason for which a text that stores no settings is turned down. -/
def notStored : String := "the text stores no settings"

/-- The settings that a text stores, if they can be used at an instant. -/
def ofText (now : Instant) (text : String) : Except ConsentError Settings :=
  match (Json.parse? text).bind ofJson? with
  | some settings => (settings.check now).map fun _ => settings
  | none => .error (.settings notStored)

end Settings

end CookieConsent.Banner
