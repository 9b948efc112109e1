import CookieConsent.Jar.Basic

/-!
# Storage

What keeps a jar between page loads. Loading and saving can each fail with a reason; a failure
leaves the jar that is kept as it was.
-/

namespace CookieConsent

open Time (Instant)

/-- A kind of storage. -/
class Storage (σ : Type) where
  /-- The jar that is kept. A jar that was kept without its time is at `now`. -/
  load : σ → Instant → Except String Jar
  /-- The outcome of keeping a jar, and the storage afterwards. -/
  save : σ → Jar → Except String Unit × σ

end CookieConsent
