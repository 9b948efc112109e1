import CookieConsent.Storage.Basic

/-!
# Storage in memory

Keeps the jar that was saved last as it is, time included. Nothing fails.
-/

namespace CookieConsent

/-- The jar that was saved last, if there is one. -/
structure MemoryStorage where
  saved : Option Jar
deriving DecidableEq, Repr

instance : Storage MemoryStorage where
  load storage now := .ok (storage.saved.getD (Jar.empty now))
  save _ jar := (.ok (), ⟨some jar⟩)

end CookieConsent
