/-!
# Reading UTF-16

A code unit outside the surrogate ranges is a character; a high surrogate and the low surrogate
behind it are one; any other surrogate is read as the replacement character.

* `decode_encode`, `decode?_encode`: a text is read back from its units.
* `decode?_eq_some_iff`: units have the text that they are the units of.
-/

namespace CookieConsent.Text.Utf16

/-- Whether the unit is the first half of a pair. -/
def isHigh (unit : Nat) : Bool := 0xD800 ≤ unit && unit < 0xDC00

/-- Whether the unit is the second half of a pair. -/
def isLow (unit : Nat) : Bool := 0xDC00 ≤ unit && unit < 0xE000

/-- The character that a high and a low surrogate spell together. -/
def pair (high low : Nat) : Char :=
  Char.ofNat (0x10000 + (high - 0xD800) * 0x400 + (low - 0xDC00))

/-- The text that the units spell, each unpaired surrogate replaced by U+FFFD. -/
def decode : List Nat → List Char
  | [] => []
  | [unit] => [if isHigh unit || isLow unit then '\uFFFD' else Char.ofNat unit]
  | high :: low :: units =>
    if isHigh high && isLow low then pair high low :: decode units
    else (if isHigh high || isLow high then '\uFFFD' else Char.ofNat high) :: decode (low :: units)

/-- The text that the units spell, if every surrogate is one half of a pair. -/
def decode? : List Nat → Option (List Char)
  | [] => some []
  | [unit] => if isHigh unit || isLow unit then none else some [Char.ofNat unit]
  | high :: low :: units =>
    if isHigh high && isLow low then (decode? units).map (pair high low :: ·)
    else if isHigh high || isLow high then none
    else (decode? (low :: units)).map (Char.ofNat high :: ·)

def encodeChar (c : Char) : List Nat :=
  if c.toNat < 0x10000 then [c.toNat]
  else [0xD800 + (c.toNat - 0x10000) / 0x400, 0xDC00 + (c.toNat - 0x10000) % 0x400]

def encode (s : List Char) : List Nat := s.flatMap encodeChar

/-! ## Reading what was written -/

/-- No character is a surrogate. -/
theorem not_surrogate (c : Char) : isHigh c.toNat = false ∧ isLow c.toNat = false := by
  have valid : c.toNat < 0xD800 ∨ 0xDFFF < c.toNat ∧ c.toNat < 0x110000 := c.valid
  simp only [isHigh, isLow, Bool.and_eq_false_iff, decide_eq_false_iff_not]
  omega

/-- The units of a character beyond U+FFFF are a pair, and spell it. -/
theorem pair_encodeChar {c : Char} (h : 0x10000 ≤ c.toNat) :
    isHigh (0xD800 + (c.toNat - 0x10000) / 0x400) ∧
      isLow (0xDC00 + (c.toNat - 0x10000) % 0x400) ∧
      pair (0xD800 + (c.toNat - 0x10000) / 0x400) (0xDC00 + (c.toNat - 0x10000) % 0x400) = c := by
  have valid : c.toNat < 0xD800 ∨ 0xDFFF < c.toNat ∧ c.toNat < 0x110000 := c.valid
  have whole : 0x10000 + (0xD800 + (c.toNat - 0x10000) / 0x400 - 0xD800) * 0x400 +
      (0xDC00 + (c.toNat - 0x10000) % 0x400 - 0xDC00) = c.toNat := by omega
  refine ⟨?_, ?_, ?_⟩
  · simp only [isHigh, Bool.and_eq_true, decide_eq_true_eq]
    omega
  · simp only [isLow, Bool.and_eq_true, decide_eq_true_eq]
    omega
  · rw [pair, whole, Char.ofNat_toNat]

/-- Units in front of others are read as the character that they spell. -/
theorem decode_encodeChar (c : Char) (units : List Nat) :
    decode (encodeChar c ++ units) = c :: decode units := by
  obtain ⟨notHigh, notLow⟩ := not_surrogate c
  by_cases h : c.toNat < 0x10000
  · cases units <;> simp [encodeChar, h, decode, notHigh, notLow, Char.ofNat_toNat]
  · obtain ⟨high, low, spelled⟩ := pair_encodeChar (Nat.not_lt.1 h)
    simp [encodeChar, h, decode, high, low, spelled]

/-- Units in front of others are read as the character that they spell, and leave the rest to be
judged by itself. -/
theorem decode?_encodeChar (c : Char) (units : List Nat) :
    decode? (encodeChar c ++ units) = (decode? units).map (c :: ·) := by
  obtain ⟨notHigh, notLow⟩ := not_surrogate c
  by_cases h : c.toNat < 0x10000
  · cases units <;> simp [encodeChar, h, decode?, notHigh, notLow, Char.ofNat_toNat]
  · obtain ⟨high, low, spelled⟩ := pair_encodeChar (Nat.not_lt.1 h)
    simp [encodeChar, h, decode?, high, low, spelled]

/-- A text is read back from its units. -/
@[simp] theorem decode_encode (s : List Char) : decode (encode s) = s := by
  induction s with
  | nil => rfl
  | cons c s ih => rw [encode, List.flatMap_cons, decode_encodeChar]; exact congrArg _ ih

/-- A text is read back from its units, none of which is unpaired. -/
@[simp] theorem decode?_encode (s : List Char) : decode? (encode s) = some s := by
  induction s with
  | nil => rfl
  | cons c s ih =>
    rw [encode, List.flatMap_cons, decode?_encodeChar]
    exact congrArg _ ih

/-! ## Units that have a text -/

/-- The number of a character is the number that it is made from. -/
theorem toNat_ofNat {n : Nat} (h : n.isValidChar) : (Char.ofNat n).toNat = n := by
  have made : Char.ofNat n = Char.ofNatAux n h := dif_pos h
  rw [made]
  rfl

/-- The units of a pair are those of its character. -/
theorem encodeChar_pair {high low : Nat} (h : isHigh high && isLow low) :
    encodeChar (pair high low) = [high, low] := by
  simp only [isHigh, isLow, Bool.and_eq_true, decide_eq_true_eq] at h
  have toNat : (pair high low).toNat = 0x10000 + (high - 0xD800) * 0x400 + (low - 0xDC00) :=
    toNat_ofNat (.inr (by omega))
  have first : 0xD800 + ((pair high low).toNat - 0x10000) / 0x400 = high := by omega
  have second : 0xDC00 + ((pair high low).toNat - 0x10000) % 0x400 = low := by omega
  rw [encodeChar, if_neg (by omega), first, second]

/-- A unit of 16 bits that is no surrogate is that of its character. -/
theorem encodeChar_ofNat {unit : Nat} (lt : unit < 0x10000) (h : ¬ (isHigh unit || isLow unit)) :
    encodeChar (Char.ofNat unit) = [unit] := by
  simp only [isHigh, isLow, Bool.or_eq_true, Bool.and_eq_true, decide_eq_true_eq] at h
  have valid : unit.isValidChar := by
    unfold Nat.isValidChar
    omega
  rw [encodeChar, toNat_ofNat valid, if_pos lt]

/-- Units of 16 bits that have a text are those of the text. -/
theorem encode_of_decode? {units : List Nat} (h : ∀ unit ∈ units, unit < 0x10000) {s : List Char}
    (hs : decode? units = some s) : encode s = units := by
  fun_induction decode? units generalizing s with
  | case1 =>
    obtain rfl := Option.some.inj hs
    rfl
  | case2 => cases hs
  | case3 unit plain =>
    obtain rfl := Option.some.inj hs
    rw [encode, List.flatMap_singleton, encodeChar_ofNat (h unit List.mem_cons_self) plain]
  | case4 high low units surrogates ih =>
    obtain ⟨rest, found, rfl⟩ := Option.map_eq_some_iff.1 hs
    have others := ih (fun unit mem => h unit (by simp [mem])) found
    -- a pair of surrogates is the one character of which it is the units
    rw [encode, List.flatMap_cons, encodeChar_pair surrogates, ← encode, others]
    rfl
  | case5 => cases hs
  | case6 high low units _ plain ih =>
    obtain ⟨rest, found, rfl⟩ := Option.map_eq_some_iff.1 hs
    have others := ih (fun unit mem => h unit (List.mem_cons_of_mem high mem)) found
    rw [encode, List.flatMap_cons, encodeChar_ofNat (h high List.mem_cons_self) plain, ← encode,
      others]
    rfl

/-- Units of 16 bits have the text that they are the units of. -/
theorem decode?_eq_some_iff {units : List Nat} (h : ∀ unit ∈ units, unit < 0x10000)
    {s : List Char} : decode? units = some s ↔ encode s = units :=
  ⟨encode_of_decode? h, fun eq => by rw [← eq, decode?_encode]⟩

/-- Code units have 16 bits. -/
theorem lt_of_mem_encodeChar {c : Char} {unit : Nat} (h : unit ∈ encodeChar c) :
    unit < 0x10000 := by
  have valid : c.toNat < 0xD800 ∨ 0xDFFF < c.toNat ∧ c.toNat < 0x110000 := c.valid
  unfold encodeChar at h
  split at h
  · obtain rfl := List.mem_singleton.1 h
    assumption
  · simp only [List.mem_cons, List.not_mem_nil, or_false] at h
    omega

end CookieConsent.Text.Utf16
