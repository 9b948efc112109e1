import CookieConsent.Cookie.Entry
import CookieConsent.Decision
import CookieConsent.Tracker.Settings

/-!
# Commands to the tracker

The tracker takes its orders from a queue. A visitor who refused cookies is still counted, but the
tracker is told to set no cookies before it is told to count.
-/

namespace CookieConsent.Tracker

/-- An order to the tracker. -/
inductive Command where
  | setDoNotTrack (on : Bool)
  | disableCookies
  | trackPageView
  | enableLinkTracking
  | setTrackerUrl (url : String)
  | setSiteId (id : String)
deriving DecidableEq, Repr

/-- The order as the tracker expects it: a name and arguments. -/
def Command.toJson : Command → Json
  | .setDoNotTrack on => .array [.ofText "setDoNotTrack", .bool on]
  | .disableCookies => .array [.ofText "disableCookies"]
  | .trackPageView => .array [.ofText "trackPageView"]
  | .enableLinkTracking => .array [.ofText "enableLinkTracking"]
  | .setTrackerUrl url => .array [.ofText "setTrackerUrl", .ofText url]
  | .setSiteId id => .array [.ofText "setSiteId", .ofText id]

/-- Whether the cookies of a page tell the tracker to set none: only when the visitor refused. -/
def cookiesDisabled (header cookieName : String) : Bool :=
  Cookie.read? header cookieName = some Decision.refused.cookieValue

/-- The orders for one view of a page whose cookies are given, in the order in which the tracker
takes them. -/
def commands (settings : Settings) (header : String) : List Command :=
  .setDoNotTrack true ::
    (if cookiesDisabled header settings.cookieName then [.disableCookies] else []) ++
    [.trackPageView, .enableLinkTracking, .setTrackerUrl settings.trackerUrl,
      .setSiteId settings.siteId]

end CookieConsent.Tracker
