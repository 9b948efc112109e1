import CookieConsent.Cookie.Name
import CookieConsent.Error
import CookieConsent.Text.Blank

/-!
# Settings of the tracker

Where the tracker of page views is, which site it counts for, and which cookie tells it what the
visitor decided.
-/

namespace CookieConsent.Tracker

/-- What a site decides about the tracker. -/
structure Settings where
  /-- The address of the tracker, with or without a scheme. -/
  baseUrl : String
  siteId : String
  cookieName : String := Cookie.consentName
deriving DecidableEq, Repr

namespace Settings

def isBlankText (text : String) : Bool := Text.trim text.toList = []

/-- Why settings cannot be used, if they cannot: the first of their faults. -/
def check (settings : Settings) : Except ConsentError Unit :=
  if isBlankText settings.baseUrl then .error (.settings "tracker base url is empty")
  else if isBlankText settings.siteId then .error (.settings "tracker site id is empty")
  else if !Cookie.isValidName settings.cookieName then
    .error (.invalidCookieName settings.cookieName)
  else .ok ()

/-- The address of a file of the tracker. -/
def assetUrl (settings : Settings) (file : String) : String :=
  if settings.baseUrl.toList.getLast? = some '/' then settings.baseUrl ++ file
  else settings.baseUrl ++ "/" ++ file

/-- The address to which page views are reported. -/
def trackerUrl (settings : Settings) : String := settings.assetUrl "matomo.php"

def scriptUrl (settings : Settings) : String := settings.assetUrl "matomo.js"

def toJson (settings : Settings) : Json :=
  .record [("base_url", .ofText settings.baseUrl), ("site_id", .ofText settings.siteId),
    ("cookie_name", .ofText settings.cookieName)]

def ofJson? (value : Json) : Option Settings := do
  match ← value.fields? ["base_url", "site_id", "cookie_name"] 2 with
  | [some url, some site, name] =>
    return { baseUrl := ← url.text?
             siteId := ← site.text?
             cookieName := ← (name.getD (.ofText Cookie.consentName)).text? }
  | _ => none

end Settings

end CookieConsent.Tracker
