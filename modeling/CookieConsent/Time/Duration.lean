/-!
# Durations

Lengths of time, to the nanosecond. A negative one reaches back.
-/

namespace CookieConsent.Time

def nanosPerSecond : Int := 1000000000

/-- A length of time. -/
structure Duration where
  nanos : Int
deriving DecidableEq, Repr

namespace Duration

def ofSeconds (seconds : Int) : Duration := ⟨seconds * nanosPerSecond⟩

def ofDays (days : Int) : Duration := ofSeconds (86400 * days)

instance : LE Duration where
  le a b := a.nanos ≤ b.nanos

/-- Durations are in order when their nanoseconds are. -/
theorem le_def {a b : Duration} : a ≤ b ↔ a.nanos ≤ b.nanos := Iff.rfl

instance (a b : Duration) : Decidable (a ≤ b) := decidable_of_iff _ le_def.symm

@[simp] theorem nanos_ofSeconds (seconds : Int) :
    (ofSeconds seconds).nanos = seconds * 1000000000 := rfl

@[simp] theorem nanos_ofDays (days : Int) :
    (ofDays days).nanos = 86400 * days * 1000000000 := rfl

end Duration

end CookieConsent.Time
