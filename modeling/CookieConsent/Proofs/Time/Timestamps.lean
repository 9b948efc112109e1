import CookieConsent.Proofs.Time.Dates
import CookieConsent.Time.Timestamp

/-!
# Timestamps are read back

The timestamp of an instant is read as the instant that clocks show, to the nanosecond: in any year,
with a fraction of any length, and also in a leap second at the end of a minute.

* `ofTimestamp?_timestamp`: the instant that is found in a timestamp.
-/

namespace CookieConsent.Time

open Text (Reader isBlank)
open Text.Decimal (padded)
open Text.Reader (bind_of_eq pure_run)

/-- The characters of a timestamp, from its first part to its last. -/
theorem toList_timestamp (t : Instant) :
    (timestamp t).toList = yearText t.year ++ '-' :: (padded 2 (Civil.ofInstant t).date.month ++
      '-' :: (padded 2 (Civil.ofInstant t).date.day ++
      'T' :: (padded 2 (Civil.ofInstant t).hour ++
      ':' :: (padded 2 (Civil.ofInstant t).minute ++
      ':' :: (padded 2 (Civil.ofInstant t).second ++
      (fractionText (Civil.ofInstant t).nanos ++ ['Z'])))))) := by
  simp [timestamp, clockText, Instant.year]

/-! ## The parts of a timestamp -/

theorem isDigit_of_mem_head?_cons {c d : Char} {s : List Char} (h : c.isDigit = false)
    (hd : d ∈ (c :: s).head?) : d.isDigit = false := by
  obtain rfl := Option.some.inj hd
  exact h

/-- A year is read back, with a sign or without one. -/
theorem timestampYear_yearText (year : Int) (s : List Char) :
    timestampYear (yearText year ++ '-' :: s) = some (year, '-' :: s) := by
  have digits (n : Nat) : Reader.digits 1 none (padded 4 n ++ '-' :: s) =
      some (padded 4 n, '-' :: s) := by
    apply Reader.digits_eq
    · intro c hc
      exact Text.Decimal.isDigit_of_mem_padded hc
    · exact List.length_pos_iff.2 (Text.Decimal.padded_ne_nil 4 n)
    · intro c hc
      exact isDigit_of_mem_head?_cons rfl hc
  by_cases four : 0 ≤ year ∧ year ≤ 9999
  · -- without a sign the first character is a digit, and the reader takes four of them
    have found : Reader.number 1 4 (padded 4 year.toNat ++ '-' :: s) =
        some (year.toNat, '-' :: s) := by
      have fits : year.toNat < 10000 := by omega
      exact Reader.number_padded (Text.Decimal.length_toDigits_le_four fits) (Nat.le_add_left 1 3)
    have first := @Text.Decimal.isDigit_of_mem_head?_padded 4 year.toNat ('-' :: s)
    rw [yearText, if_pos four]
    cases text : padded 4 year.toNat ++ '-' :: s with
    | nil => simp at text
    | cons c rest =>
      rw [text] at found first
      have isDigit : c.isDigit := first rfl
      unfold timestampYear
      split
      · next heq =>
        cases heq
        cases isDigit
      · next heq =>
        cases heq
        cases isDigit
      · rw [found, Option.map_some, Int.toNat_of_nonneg four.1]
  · rw [yearText, if_neg four]
    by_cases negative : year < 0
    · rw [if_pos negative, List.cons_append, timestampYear, digits, Option.map_some,
        Text.Decimal.ofDigitChars_padded, Int.ofNat_natAbs_of_nonpos (by omega), Int.neg_neg]
    · rw [if_neg negative, List.cons_append, timestampYear, digits, Option.map_some,
        Text.Decimal.ofDigitChars_padded, Int.natAbs_of_nonneg (by omega)]

/-- The digits of a fraction are read, and zeros for the places that they leave. -/
theorem timestampFraction_padded {width n : Nat} (hpos : 1 ≤ width) (hwidth : width ≤ 9)
    (fits : (Nat.toDigits 10 n).length ≤ width) (s : List Char)
    (hs : ∀ c ∈ s.head?, c.isDigit = false) :
    timestampFraction ('.' :: (padded width n ++ s)) =
      some (Nat.ofDigitChars 10 (List.replicate (9 - width) '0') n, s) := by
  have length := Text.Decimal.length_padded fits
  have digits := @Reader.digits_eq 1 _ s
    (fun c hc => @Text.Decimal.isDigit_of_mem_padded width n c hc) (by omega) hs
  have short : (padded width n).length ≤ 9 := by omega
  rw [timestampFraction, digits, Option.map_some, List.take_of_length_le short, List.rightpad,
    Nat.ofDigitChars_append, Text.Decimal.ofDigitChars_padded, length]

/-- A fraction is read back, whichever number of digits it takes. -/
theorem timestampFraction_fractionText {nanos : Nat} (h : nanos < 1000000000) (s : List Char) :
    timestampFraction (fractionText nanos ++ 'Z' :: s) = some (nanos, 'Z' :: s) := by
  have zone : ∀ c ∈ ('Z' :: s).head?, c.isDigit = false :=
    fun c hc => isDigit_of_mem_head?_cons rfl hc
  -- none, three, six or nine digits are written, whichever are enough
  unfold fractionText
  split
  · next zero =>
    rw [zero]
    rfl
  split
  · next millis =>
    have fits : (Nat.toDigits 10 (nanos / 1000000)).length ≤ 3 :=
      (Nat.length_toDigits_le_iff (by decide) (by decide)).2 (by omega)
    rw [List.cons_append, timestampFraction_padded (by decide) (by decide) fits _ zone,
      Nat.ofDigitChars_replicate_zero]
    congr 2
    omega
  split
  · next micros =>
    have fits : (Nat.toDigits 10 (nanos / 1000)).length ≤ 6 :=
      (Nat.length_toDigits_le_iff (by decide) (by decide)).2 (by omega)
    rw [List.cons_append, timestampFraction_padded (by decide) (by decide) fits _ zone,
      Nat.ofDigitChars_replicate_zero]
    congr 2
    omega
  · have fits : (Nat.toDigits 10 nanos).length ≤ 9 :=
      (Nat.length_toDigits_le_iff (by decide) (by decide)).2 (by omega)
    rw [List.cons_append, timestampFraction_padded (by decide) (by decide) fits _ zone,
      Nat.ofDigitChars_replicate_zero]
    congr 2
    omega

/-- A separator without blanks around it is read in front of a number. -/
theorem spaced_padded {c : Char} (hc : isBlank c = false) (width n : Nat) (s : List Char) :
    spaced c (c :: (padded width n ++ s)) = some ((), padded width n ++ s) := by
  rw [spaced, bind_of_eq (Reader.blanks_cons hc _), bind_of_eq (Reader.char_cons c _),
    Reader.blanks_padded]

/-! ## The whole -/

/-- The parts of a timestamp are those that were written. -/
theorem timestampParts_timestamp (t : Instant) :
    timestampParts (timestamp t).toList = some ((Civil.ofInstant t, 0), []) := by
  obtain ⟨hour, minute, second, -, month, day⟩ := Civil.bounds_ofInstant t
  have nanos : (Civil.ofInstant t).nanos < 1000000000 := (Civil.isValid_ofInstant t).2.2.2.2.2.2
  have letter (s : List Char) : Reader.oneOf ['T', 't', ' '] ('T' :: s) = some ('T', s) := rfl
  have zone : timestampZone ['Z'] = some (0, []) := rfl
  -- one reader after the other takes the part that was written for it
  rw [toList_timestamp, timestampParts,
    bind_of_eq (Reader.blanks_of_head fun c hc => isBlank_of_mem_head?_yearText hc),
    bind_of_eq (timestampYear_yearText _ _),
    bind_of_eq (spaced_padded rfl 2 _ _),
    bind_of_eq (Reader.number_padded_two (by omega) (Nat.le_succ 1)),
    bind_of_eq (spaced_padded rfl 2 _ _),
    bind_of_eq (Reader.number_padded_two (by omega) (Nat.le_succ 1)),
    bind_of_eq (letter _),
    bind_of_eq (Reader.blanks_padded 2 _ _),
    bind_of_eq (Reader.number_padded_two (by omega) (Nat.le_succ 1)),
    bind_of_eq (spaced_padded rfl 2 _ _),
    bind_of_eq (Reader.number_padded_two (by omega) (Nat.le_succ 1)),
    bind_of_eq (spaced_padded rfl 2 _ _),
    bind_of_eq (Reader.number_padded_two (by omega) (Nat.le_succ 1)),
    bind_of_eq (timestampFraction_fractionText nanos _),
    bind_of_eq (Reader.blanks_cons rfl _),
    bind_of_eq zone,
    bind_of_eq (Reader.blanks_of_head (by simp)), pure_run]
  rfl

/-- The instant that is found in the timestamp of an instant is the one that clocks show. -/
theorem ofTimestamp?_timestamp (t : Instant) : ofTimestamp? (timestamp t) = some t.shown := by
  have parts : Reader.whole timestampParts (timestamp t).toList = some (Civil.ofInstant t, 0) := by
    rw [Reader.whole, timestampParts_timestamp]
  rw [ofTimestamp?, parts]
  exact Civil.toInstant?_ofInstant t

end CookieConsent.Time
