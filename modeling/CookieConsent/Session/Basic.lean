import CookieConsent.Banner.Basic
import CookieConsent.Session.Queue
import CookieConsent.Storage.Basic

/-!
# Page sessions

One page load: a banner, storage, and the events of the page. Events are dealt with in order until
the page goes away or no more can come. The document is ready once; a click counts as long as the
banner is on the page, and after each that counts the cookies are saved. A save that fails is
reported and changes nothing else.
-/

namespace CookieConsent

open Time (Instant)

namespace Session

/-- What came of some events. -/
structure Report where
  /-- Whether the banner was shown. -/
  shown : Bool := false
  /-- The decision that the cookies hold after the last click that counted. -/
  decision : Option Decision := none
  handled : Nat := 0
  ignored : Nat := 0
  /-- What went wrong with saving, in words. -/
  storageErrors : List String := []
deriving DecidableEq, Repr

/-- What becomes of an event that is sent to a page. -/
inductive Delivery where
  | queued
  /-- There was no room for it. -/
  | full
  /-- No events are taken any more. -/
  | closed
deriving DecidableEq, Repr

/-- Why a session cannot be opened. -/
inductive OpenError where
  | consent (error : ConsentError)
  /-- There is no room for a single event. -/
  | noCapacity
deriving DecidableEq, Repr

end Session

/-- One page load. -/
structure Session (σ : Type) where
  banner : Banner
  storage : σ
  /-- The events that wait; `none` once no more are taken. -/
  queue : Option Session.Queue
  /-- Whether the document is ready. -/
  isReady : Bool

namespace Session

variable {σ : Type} [Storage σ]

def make (banner : Banner) (storage : σ) (capacity : Nat) : Except OpenError (Session σ) :=
  match Queue.ofCapacity? capacity with
  | some queue => .ok { banner, storage, queue := some queue, isReady := false }
  | none => .error .noCapacity

/-- Opens a session with the cookies that the storage keeps. -/
def start (now : Instant) (settings : Banner.Settings) (page : Page) (storage : σ)
    (capacity : Nat) : Except OpenError (Session σ) :=
  match Storage.load storage now with
  | .error reason => .error (.consent (.failed "LoadJar" reason))
  | .ok jar =>
    match Banner.make now settings jar page with
    | .error e => .error (.consent e)
    | .ok banner => make banner storage capacity

def dispatch (session : Session σ) (event : Event) : Session σ × Delivery :=
  match session.queue with
  | none => (session, .closed)
  | some queue =>
    match queue.push? event with
    | some queue => ({ session with queue := some queue }, .queued)
    | none => (session, .full)

/-- Saves the cookies: the session afterwards, and what went wrong. -/
def save (session : Session σ) : Session σ × List String :=
  match Storage.save session.storage session.banner.jar with
  | (.ok _, storage) => ({ session with storage }, [])
  | (.error reason, storage) =>
    ({ session with storage }, [(ConsentError.failed "SaveJar" reason).message])

def handle (session : Session σ) (report : Report) : Event → Session σ × Report
  | .ready =>
    if session.isReady then (session, { report with ignored := report.ignored + 1 })
    else
      let (banner, shown) := session.banner.welcome
      ({ session with banner, isReady := true },
        { report with shown := report.shown || shown, handled := report.handled + 1 })
  | .click action =>
    if session.banner.isShown then
      let (saved, errors) := { session with banner := session.banner.act action }.save
      (saved,
        { report with
          decision := saved.banner.state.decision?
          handled := report.handled + 1
          storageErrors := report.storageErrors ++ errors })
    else (session, { report with ignored := report.ignored + 1 })
  | .unload => (session, { report with handled := report.handled + 1 })

/-- Deals with events in order, up to the first with which the page goes away. -/
def consume (session : Session σ) (report : Report) : List Event → Session σ × Report
  | [] => (session, report)
  | event :: events =>
    let (session, report) := session.handle report event
    if event = .unload then (session, report) else session.consume report events

/-- Takes no more events, and deals with those of a queue. -/
def runOn (session : Session σ) (events : List Event) : Session σ × Report :=
  { session with queue := none }.consume {} events

/-- Takes no more events, and deals with those that wait. -/
def run (session : Session σ) : Session σ × Report :=
  session.runOn (session.queue.elim [] (·.events))

end Session

end CookieConsent
