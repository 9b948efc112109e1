import CookieConsent.Text.Hex
import CookieConsent.Text.Utf8
import CookieConsent.Text.Utf16

/-!
# Escaped values

A value travels inside a cookie as ASCII text. Letters, digits and `@*_+-./` stand for themselves;
every other octet of the value's UTF-8 form is written `%XX`.

Reading is more generous than writing. Besides `%XX`, which names an octet, it knows `%uXXXX`,
which names a UTF-16 code unit; what is neither stays as it is. A run of code units is read as
UTF-16 and the text between two such runs as UTF-8, so reading never fails.
-/

namespace CookieConsent.Text

/-! ## Writing -/

/-- Whether a character stands for itself in an escaped value. -/
def isPlain (c : Char) : Bool := c.isAlphanum || "@*_+-./".toList.contains c

/-- The escape of one octet: `%` and two upper-case hexadecimal digits. -/
def percent (octet : UInt8) : List Char :=
  ['%', (octet.toNat / 16).digitChar.toUpper, (octet.toNat % 16).digitChar.toUpper]

def escapeChar (c : Char) : List Char :=
  if isPlain c then [c] else (String.utf8EncodeChar c).flatMap percent

def escape (value : String) : String := String.ofList (value.toList.flatMap escapeChar)

/-! ## Reading -/

/-- The octets of a text in which each `%XX` stands for the octet it names. -/
def percentDecode : List Char → List UInt8
  | [] => []
  | '%' :: a :: b :: s =>
    match Hex.value? a, Hex.value? b with
    | some high, some low => UInt8.ofNat (high * 16 + low) :: percentDecode s
    | _, _ => 0x25 :: percentDecode (a :: b :: s)
  | c :: s => String.utf8EncodeChar c ++ percentDecode s

/-- The code unit that a text names with `%uXXXX` at its start, and what follows. -/
def unit? : List Char → Option (Nat × List Char)
  | '%' :: 'u' :: a :: b :: c :: d :: s => (Hex.value4? a b c d).map (·, s)
  | _ => none

/-- A code unit that is named takes characters off the text, so reading units comes to an end. -/
theorem length_of_unit? {s rest : List Char} {unit : Nat} (h : unit? s = some (unit, rest)) :
    rest.length < s.length := by
  unfold unit? at h
  split at h
  · obtain ⟨_, _, heq⟩ := Option.map_eq_some_iff.1 h
    obtain ⟨_, rfl⟩ := Prod.mk.inj heq
    simp only [List.length_cons]
    omega
  · cases h

/-- The code units that a text names one after another at its start, and what follows. -/
def units (s : List Char) : List Nat × List Char :=
  match h : unit? s with
  | some (unit, rest) =>
    have := length_of_unit? h
    let (more, rest) := units rest
    (unit :: more, rest)
  | none => ([], s)
termination_by s.length

theorem units_of_some {s rest : List Char} {unit : Nat} (h : unit? s = some (unit, rest)) :
    units s = (unit :: (units rest).1, (units rest).2) := by
  rw [units]
  split
  · next found =>
    obtain ⟨rfl, rfl⟩ := Prod.mk.inj (Option.some.inj (found.symm.trans h))
    rfl
  · next found => cases found.symm.trans h

theorem units_of_none {s : List Char} (h : unit? s = none) : units s = ([], s) := by
  rw [units]
  split
  · next found => cases found.symm.trans h
  · rfl

/-- Splits a text before its first `%u`. -/
def beforeUnits : List Char → List Char × List Char
  | [] => ([], [])
  | c :: s =>
    if c = '%' ∧ s.head? = some 'u' then ([], c :: s)
    else
      let (plain, tail) := beforeUnits s
      (c :: plain, tail)

/-- Splitting a text before its first `%u` loses nothing. -/
theorem beforeUnits_append (s : List Char) : (beforeUnits s).1 ++ (beforeUnits s).2 = s := by
  induction s with
  | nil => rfl
  | cons c s ih =>
    unfold beforeUnits
    split
    · rfl
    · simp [ih]

/-- No unit puts anything back. -/
theorem length_units_le (s : List Char) : (units s).2.length ≤ s.length := by
  fun_induction units s with
  | case1 s unit rest h hlt more rest' heq ih =>
    rw [heq] at ih
    exact Nat.le_trans ih (Nat.le_of_lt hlt)
  | case2 => simp

/-- A run of code units that is not empty leaves less than it started with. -/
theorem length_units_lt {s : List Char} (h : (units s).1 ≠ []) :
    (units s).2.length < s.length := by
  unfold units at h ⊢
  split at h
  · next unit rest hunit =>
    simp only
    exact Nat.lt_of_le_of_lt (length_units_le rest) (length_of_unit? hunit)
  · exact absurd rfl h

/-- The value of an escaped text. A `%u` without four hexadecimal digits stays as it is. -/
def unescapeChars (s : List Char) : List Char :=
  let plain := (beforeUnits s).1
  let tail := (beforeUnits s).2
  Utf8.decode (percentDecode plain) ++
    if tail = [] then []
    else if (units tail).1 = [] then '%' :: 'u' :: unescapeChars (tail.drop 2)
    else Utf16.decode (units tail).1 ++ unescapeChars (units tail).2
termination_by s.length
decreasing_by
  · have := congrArg List.length (beforeUnits_append s)
    simp only [List.length_append] at this
    have : (beforeUnits s).2.length ≠ 0 := by simpa using ‹_›
    simp only [List.length_drop]
    omega
  · have := congrArg List.length (beforeUnits_append s)
    simp only [List.length_append] at this
    have := length_units_lt (s := (beforeUnits s).2) ‹_›
    omega

def unescape (value : String) : String := String.ofList (unescapeChars value.toList)

/-! ## Characters other than `%` -/

theorem ne_percent_of_isPlain {c : Char} (h : isPlain c) : c ≠ '%' := by
  rintro rfl
  revert h
  decide

/-- A character other than `%` is read as its octets. -/
theorem percentDecode_cons {c : Char} (h : c ≠ '%') (s : List Char) :
    percentDecode (c :: s) = String.utf8EncodeChar c ++ percentDecode s := by
  rw [percentDecode]
  rintro a b rest rfl
  exact absurd rfl h

/-- A character other than `%` stands before the first `%u`. -/
theorem beforeUnits_cons {c : Char} (h : c ≠ '%') (s : List Char) :
    beforeUnits (c :: s) = (c :: (beforeUnits s).1, (beforeUnits s).2) := by
  simp [beforeUnits, h]

end CookieConsent.Text
