import CookieConsent.Banner.Markup
import CookieConsent.Cookie.Record
import CookieConsent.Jar.Basic

/-!
# The banner on a page

The banner asks the visitor once: it is shown if no decision is stored, and the answer is stored in
a cookie and takes the banner away.
-/

namespace CookieConsent

open Time (Instant)

/-- A page, the visitor's cookies and the settings of the banner. -/
structure Banner where
  settings : Banner.Settings
  jar : Jar
  page : Page
deriving DecidableEq, Repr

namespace Banner

/-- The banner for a page, if the settings can be used. -/
def make (now : Instant) (settings : Settings) (jar : Jar) (page : Page) :
    Except ConsentError Banner :=
  (settings.check now).map fun _ => { settings, jar, page }

/-- The value that the page reads under a name. -/
def read? (banner : Banner) (name : String) : Option String := banner.jar.read? name

def state (banner : Banner) : ConsentState :=
  .ofValue (banner.read? banner.settings.cookieName)

def isShown (banner : Banner) : Bool := 0 < banner.page.count banner.settings.containerClass

/-- Shows the banner once the page is ready, unless the visitor has been asked; and whether it was
shown. -/
def welcome (banner : Banner) : Banner × Bool :=
  let (page, shown) := carryOut (plan banner.state banner.settings) banner.page
  ({ banner with page }, shown)

/-- Stores a decision for some days. -/
def record (banner : Banner) (decision : Decision) (days : UInt32) : Banner :=
  let made := RecordedDecision.make decision days banner.jar.clock
  { banner with jar := banner.jar.assign (made.assignment banner.settings.cookieName) }

/-- Stores a decision and takes the banner away. -/
def answer (banner : Banner) (decision : Decision) : Banner :=
  let recorded := banner.record decision banner.settings.expiryDays
  { recorded with page := recorded.page.remove banner.settings.containerClass }

/-- Does what a control of the banner does. -/
def act (banner : Banner) (action : Action) : Banner := banner.answer action.decision

end Banner

end CookieConsent
