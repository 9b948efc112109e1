import CookieConsent.Time.Calendar
import CookieConsent.Time.Duration

/-!
# Instants

A point in time, to the nanosecond, in universal time. It is counted in seconds since the beginning
of 1970, as if every day had 86400 of them. A leap second shares its number with the second before
it and is told apart by its nanoseconds, which go on from one billion; so instants are in order
when their seconds are, and their nanoseconds among equal seconds. There is room for a leap second
behind every second, not only behind the last one of a minute.

Instants reach from the beginning of the year -262143 to the end of the year 262142.

* `le_total`, `le_trans`, `le_antisymm`: the order is total.
* `add?_eq_some_iff`, `add?_eq_none_iff`: away from leap seconds, adding is exact and fails only
  out of range.
-/

namespace CookieConsent.Time

def firstSecond : Int := -8334601228800

def lastSecond : Int := 8210266876799

/-- Instants begin with the year -262143. -/
theorem firstSecond_eq : firstSecond = (Date.mk (-262143) 1 1).dayNumber * 86400 := by decide

/-- Instants end with the year 262142. -/
theorem lastSecond_eq : lastSecond = (Date.mk 262143 1 1).dayNumber * 86400 - 1 := by decide

/-- A point in time. -/
structure Instant where
  /-- Seconds since the beginning of 1970, leap seconds not counted. -/
  seconds : Int
  /-- Nanoseconds of the second; from one billion on, those of a leap second behind it. -/
  nanos : Nat
  first_le : firstSecond ≤ seconds
  le_last : seconds ≤ lastSecond
  nanos_lt : nanos < 2000000000
deriving DecidableEq, Repr

namespace Instant

/-- The instant with these seconds and nanoseconds, if there is one. -/
def ofParts? (seconds : Int) (nanos : Nat) : Option Instant :=
  if h : firstSecond ≤ seconds ∧ seconds ≤ lastSecond ∧ nanos < 2000000000 then
    some ⟨seconds, nanos, h.1, h.2.1, h.2.2⟩
  else none

/-- An instant is made of its own parts and no others; its proofs that they are in range are what
`ofParts?` asks for. -/
theorem ofParts?_eq_some_iff {seconds : Int} {nanos : Nat} {t : Instant} :
    ofParts? seconds nanos = some t ↔ t.seconds = seconds ∧ t.nanos = nanos := by
  unfold ofParts?
  constructor
  · intro h
    split at h
    · obtain rfl := Option.some.inj h
      exact ⟨rfl, rfl⟩
    · cases h
  · rintro ⟨rfl, rfl⟩
    rw [dif_pos ⟨t.first_le, t.le_last, t.nanos_lt⟩]

/-- The last nanosecond of the last second. -/
def last : Instant := ⟨lastSecond, 999999999, by decide, by decide, by decide⟩

def isLeap (t : Instant) : Bool := 1000000000 ≤ t.nanos

/-- The instant without its fraction of a second; a leap second stays one. -/
def floor (t : Instant) : Instant :=
  ⟨t.seconds, if t.isLeap then 1000000000 else 0, t.first_le, t.le_last, by split <;> omega⟩

/-! ## Order -/

instance : LE Instant where
  le a b := a.seconds < b.seconds ∨ a.seconds = b.seconds ∧ a.nanos ≤ b.nanos

instance : LT Instant where
  lt a b := a.seconds < b.seconds ∨ a.seconds = b.seconds ∧ a.nanos < b.nanos

theorem le_def {a b : Instant} :
    a ≤ b ↔ a.seconds < b.seconds ∨ a.seconds = b.seconds ∧ a.nanos ≤ b.nanos := Iff.rfl

theorem lt_def {a b : Instant} :
    a < b ↔ a.seconds < b.seconds ∨ a.seconds = b.seconds ∧ a.nanos < b.nanos := Iff.rfl

instance (a b : Instant) : Decidable (a ≤ b) := decidable_of_iff _ le_def.symm

instance (a b : Instant) : Decidable (a < b) := decidable_of_iff _ lt_def.symm

instance : Min Instant where
  min a b := if a ≤ b then a else b

theorem min_def {a b : Instant} : min a b = if a ≤ b then a else b := rfl

theorem le_refl (a : Instant) : a ≤ a := by simp [le_def]

theorem le_trans {a b c : Instant} (h : a ≤ b) (h' : b ≤ c) : a ≤ c := by
  rw [le_def] at *; omega

theorem le_total (a b : Instant) : a ≤ b ∨ b ≤ a := by
  simp only [le_def]; omega

/-- Instants with the same seconds and nanoseconds are equal, whatever their proofs. -/
theorem eq_of_parts {a b : Instant} (hs : a.seconds = b.seconds) (hn : a.nanos = b.nanos) :
    a = b := by
  cases a; cases b; simp_all

theorem le_antisymm {a b : Instant} (h : a ≤ b) (h' : b ≤ a) : a = b := by
  rw [le_def] at *
  exact eq_of_parts (by omega) (by omega)

/-- As the order is total, what does not come before or with another instant comes behind it. -/
theorem not_le {a b : Instant} : ¬ a ≤ b ↔ b < a := by
  simp only [le_def, lt_def]; omega

/-! ## Adding durations -/

/-- The nanoseconds since the beginning of 1970. Those of a leap second are counted like those of
the second behind it. -/
def count (t : Instant) : Int := t.seconds * nanosPerSecond + t.nanos

/-- The instant outside leap seconds with a count, if it is in range. -/
def ofCount? (count : Int) : Option Instant :=
  ofParts? (count / nanosPerSecond) (count % nanosPerSecond).toNat

/-- The instant that lies a duration after `t`, or before it when the duration is negative, if it
is in range. Time runs on from a leap second as if from the second before it, and back from it as
if from the second behind it; within the two seconds that share its number it runs through. -/
def add? (t : Instant) (d : Duration) : Option Instant :=
  if t.isLeap then
    if -nanosPerSecond < d.nanos ∧ t.nanos + d.nanos < 2 * nanosPerSecond then
      ofParts? t.seconds (t.nanos + d.nanos).toNat
    else ofCount? (if 0 < d.nanos then t.count - nanosPerSecond + d.nanos else t.count + d.nanos)
  else ofCount? (t.count + d.nanos)

theorem count_def (t : Instant) : t.count = t.seconds * 1000000000 + t.nanos := rfl

/-- Outside leap seconds the nanoseconds are below one billion. -/
theorem isLeap_eq_false {t : Instant} : t.isLeap = false ↔ t.nanos < 1000000000 := by
  simp [isLeap]

/-- A count is that of one instant outside leap seconds. -/
theorem ofCount?_eq_some_iff {count : Int} {t : Instant} :
    ofCount? count = some t ↔ t.isLeap = false ∧ t.count = count := by
  rw [ofCount?, ofParts?_eq_some_iff, isLeap_eq_false, count_def, nanosPerSecond]
  omega

/-- A count is out of range when it lies before the first second or behind the last. -/
theorem ofCount?_eq_none_iff {count : Int} :
    ofCount? count = none ↔
      count < firstSecond * 1000000000 ∨ (lastSecond + 1) * 1000000000 ≤ count := by
  unfold ofCount? ofParts? nanosPerSecond
  split <;> simp <;> omega

/-- Away from leap seconds, adding is exact. -/
theorem add?_eq_some_iff {t u : Instant} {d : Duration} (h : t.isLeap = false) :
    t.add? d = some u ↔ u.isLeap = false ∧ u.count = t.count + d.nanos := by
  rw [add?, if_neg (by simp [h]), ofCount?_eq_some_iff]

/-- Away from leap seconds, adding fails only where the sum leaves the range. -/
theorem add?_eq_none_iff {t : Instant} {d : Duration} (h : t.isLeap = false) :
    t.add? d = none ↔ t.count + d.nanos < firstSecond * 1000000000 ∨
      (lastSecond + 1) * 1000000000 ≤ t.count + d.nanos := by
  rw [add?, if_neg (by simp [h]), ofCount?_eq_none_iff]

/-- Away from leap seconds, instants are in order when their counts are. -/
theorem le_iff_count_le {a b : Instant} (ha : a.isLeap = false) (hb : b.isLeap = false) :
    a ≤ b ↔ a.count ≤ b.count := by
  rw [isLeap_eq_false] at ha hb
  rw [le_def, count_def, count_def]
  omega

end Instant

end CookieConsent.Time
