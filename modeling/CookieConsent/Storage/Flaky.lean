import CookieConsent.Storage.Basic

/-!
# Storage that fails

Storage around another one, in which loading fails for a given reason and saving by a schedule, to
see what becomes of a page when it does.
-/

namespace CookieConsent

/-- Storage with failures to come. -/
structure FlakyStorage (σ : Type) where
  base : σ
  /-- The reason for which loading fails, if it does. -/
  loadFault : Option String
  /-- For each of the next saves the reason for which it fails, if it does; all saves behind them
  go through. -/
  saveFaults : List (Option String)

instance {σ : Type} [Storage σ] : Storage (FlakyStorage σ) where
  load storage now :=
    match storage.loadFault with
    | some reason => .error reason
    | none => Storage.load storage.base now
  save storage jar :=
    let later := { storage with saveFaults := storage.saveFaults.tail }
    match storage.saveFaults.head?.join with
    | some reason => (.error reason, later)
    | none =>
      let (outcome, base) := Storage.save storage.base jar
      (outcome, { later with base })

end CookieConsent
