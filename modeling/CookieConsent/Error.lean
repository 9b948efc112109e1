import CookieConsent.Json.Shape
import CookieConsent.Text.Quoted

/-!
# Errors

What can go wrong: a cookie name that no cookie can have, settings that cannot be used, and storage
that fails. A failure of storage costs no more than asking the visitor again, so the program
recovers from it; the others are mistakes in the settings.
-/

namespace CookieConsent

/-- What an error is about. -/
inductive ErrorCategory where
  | settings
  | storage
deriving DecidableEq, Repr

/-- Why something cannot be done. -/
inductive ConsentError where
  /-- No cookie can have this name. -/
  | invalidCookieName (name : String)
  /-- Settings that cannot be used, and the reason. -/
  | settings (reason : String)
  /-- Cookies that were not loaded or saved, and the reason. -/
  | storage (reason : String)
deriving DecidableEq, Repr

namespace ConsentError

def category : ConsentError → ErrorCategory
  | .invalidCookieName _ | .settings _ => .settings
  | .storage _ => .storage

/-- Whether the program can go on. -/
def isRecoverable (e : ConsentError) : Bool := e.category = .storage

def message : ConsentError → String
  | .invalidCookieName name => "invalid cookie name: " ++ Text.quoted name
  | .settings reason => "invalid configuration: " ++ reason
  | .storage reason => "storage failure: " ++ reason

/-- The failure of an action on storage. -/
def failed (action reason : String) : ConsentError := .storage (action ++ " failed: " ++ reason)

end ConsentError

/-! ## Stored form -/

namespace ErrorCategory

/-- The name under which a category is stored. -/
def name : ErrorCategory → String
  | .settings => "Config"
  | .storage => "Storage"

def toJson (category : ErrorCategory) : Json := .ofText category.name

def ofJson? (value : Json) : Option ErrorCategory := do
  match ← value.plainChoice? with
  | "Config" => some .settings
  | "Storage" => some .storage
  | _ => none

end ErrorCategory

end CookieConsent
