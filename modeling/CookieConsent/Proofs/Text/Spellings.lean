import CookieConsent.Text.Escape

/-!
# Values are read back however they are spelled

There are many ways to escape a value. A character other than `%` can stand for itself. Any
character can be given by the octets of its UTF-8 form, each as `%XX`, or by its UTF-16 units, each
as `%uXXXX`, with digits in either case. However a value is spelled, it is read back, and the text
behind it is read as if it stood alone: no escape, no octet and no unit of a character is left open
at the end of a spelling.

* `unescapeChars_append`: a spelling in front of any text.
* `unescape_escape`: the escaped form of a value is one of its spellings.
* `every_spelling_decodes`: reading undoes every way of writing, and what escaping writes.
-/

namespace CookieConsent.Text

/-! ## Spellings -/

/-- A text that spells some items one behind another, each in one of its forms. -/
inductive Spells {α : Type} (form : α → List Char → Prop) : List α → List Char → Prop
  | nil : Spells form [] []
  | cons {a : α} {as : List α} {s t : List Char} :
      form a s → Spells form as t → Spells form (a :: as) (s ++ t)

/-- The hexadecimal digit of a number, in either case. -/
def IsHexDigit (n : Nat) (c : Char) : Prop :=
  n < 16 ∧ (c = n.digitChar ∨ c = n.digitChar.toUpper)

instance (n : Nat) (c : Char) : Decidable (IsHexDigit n c) :=
  inferInstanceAs (Decidable (_ ∧ _))

/-- The escape of an octet. -/
inductive SpellsOctet (octet : UInt8) : List Char → Prop
  | escape {a b : Char} : IsHexDigit (octet.toNat / 16) a → IsHexDigit (octet.toNat % 16) b →
      SpellsOctet octet ['%', a, b]

/-- The escape of a UTF-16 unit. -/
inductive SpellsUnit (unit : Nat) : List Char → Prop
  | escape {a b c d : Char} : IsHexDigit (unit / 4096) a → IsHexDigit (unit / 256 % 16) b →
      IsHexDigit (unit / 16 % 16) c → IsHexDigit (unit % 16) d →
      SpellsUnit unit ['%', 'u', a, b, c, d]

/-- The spellings of a character: itself, its octets or its units. -/
inductive SpellsChar (c : Char) : List Char → Prop
  | itself : c ≠ '%' → SpellsChar c [c]
  | octets {s : List Char} : Spells SpellsOctet (String.utf8EncodeChar c) s → SpellsChar c s
  | units {s : List Char} : Spells SpellsUnit (Utf16.encodeChar c) s → SpellsChar c s

/-- Whether a text spells a value, each character in a way of its own. -/
def IsSpelling (value text : String) : Prop := Spells SpellsChar value.toList text.toList

/-- Items that are written in one of their forms each are spelled. -/
theorem Spells.flatMap {α : Type} {form : α → List Char → Prop} {write : α → List Char}
    (h : ∀ a, form a (write a)) (as : List α) : Spells form as (as.flatMap write) := by
  induction as with
  | nil => exact .nil
  | cons a as ih => exact .cons (h a) ih

/-! ## Digits -/

namespace IsHexDigit

variable {n : Nat} {c : Char}

/-- A digit has its value in either case. -/
theorem value?_eq (h : IsHexDigit n c) : Hex.value? c = some n := by
  obtain ⟨lt, rfl | rfl⟩ := h
  · exact (Hex.value?_digitChar lt).1
  · exact (Hex.value?_digitChar lt).2

/-- A digit does not begin an escape. -/
theorem ne (h : IsHexDigit n c) : c ≠ '%' ∧ c ≠ 'u' := by
  constructor <;> rintro rfl <;> cases h.value?_eq

/-- A digit that has a value is one of the two digits of it. -/
theorem of_value? (h : Hex.value? c = some n) : IsHexDigit n c := by
  have all : ∀ m < 128, (Hex.value? (Char.ofNat m)).all fun n => IsHexDigit n (Char.ofNat m) := by
    decide
  have ascii : c.toNat < 128 := by
    unfold Hex.value? at h
    split at h
    · next range => exact Nat.lt_of_le_of_lt range.2 (by decide)
    split at h
    · next range => exact Nat.lt_of_le_of_lt range.2 (by decide)
    split at h
    · next range => exact Nat.lt_of_le_of_lt range.2 (by decide)
    · cases h
  have found := all c.toNat ascii
  rw [Char.ofNat_toNat, h] at found
  simpa using found

end IsHexDigit

/-- Four digits spell a number when each is a digit of its place. -/
theorem value4?_eq_some_iff {a b c d : Char} {n : Nat} :
    Hex.value4? a b c d = some n ↔
      IsHexDigit (n / 4096) a ∧ IsHexDigit (n / 256 % 16) b ∧ IsHexDigit (n / 16 % 16) c ∧
        IsHexDigit (n % 16) d := by
  constructor
  · intro h
    obtain ⟨w, hw, h⟩ := Option.bind_eq_some_iff.1 h
    obtain ⟨x, hx, h⟩ := Option.bind_eq_some_iff.1 h
    obtain ⟨y, hy, h⟩ := Option.bind_eq_some_iff.1 h
    obtain ⟨z, hz, h⟩ := Option.bind_eq_some_iff.1 h
    obtain rfl := Option.some.inj h
    have first := IsHexDigit.of_value? hw
    have second := IsHexDigit.of_value? hx
    have third := IsHexDigit.of_value? hy
    have fourth := IsHexDigit.of_value? hz
    -- four digits below 16 are those of one number
    have bounds := And.intro second.1 (And.intro third.1 fourth.1)
    refine ⟨?_, ?_, ?_, ?_⟩
    · rwa [show (((w * 16 + x) * 16 + y) * 16 + z) / 4096 = w by omega]
    · rwa [show (((w * 16 + x) * 16 + y) * 16 + z) / 256 % 16 = x by omega]
    · rwa [show (((w * 16 + x) * 16 + y) * 16 + z) / 16 % 16 = y by omega]
    · rwa [show (((w * 16 + x) * 16 + y) * 16 + z) % 16 = z by omega]
  · rintro ⟨ha, hb, hc, hd⟩
    have lt := ha.1
    have whole : ((n / 4096 * 16 + n / 256 % 16) * 16 + n / 16 % 16) * 16 + n % 16 = n := by omega
    simp [Hex.value4?, ha.value?_eq, hb.value?_eq, hc.value?_eq, hd.value?_eq, whole]

/-! ## Octets -/

/-- An escaped octet is read as that octet. -/
theorem percentDecode_octet {octet : UInt8} {s : List Char} (h : SpellsOctet octet s)
    (rest : List Char) : percentDecode (s ++ rest) = octet :: percentDecode rest := by
  obtain ⟨high, low⟩ := h
  have whole : octet.toNat / 16 * 16 + octet.toNat % 16 = octet.toNat := by omega
  simp [percentDecode, high.value?_eq, low.value?_eq, whole]

/-- Escaped octets are read one by one, and nothing of the rest with them. -/
theorem percentDecode_octets {octets : List UInt8} {s : List Char}
    (h : Spells SpellsOctet octets s) (rest : List Char) :
    percentDecode (s ++ rest) = octets ++ percentDecode rest := by
  induction h with
  | nil => rfl
  | cons first _ ih => rw [List.append_assoc, percentDecode_octet first, ih, List.cons_append]

/-- The escape of an octet does not begin with `%u`. -/
theorem beforeUnits_octet {octet : UInt8} {s : List Char} (h : SpellsOctet octet s)
    (rest : List Char) :
    beforeUnits (s ++ rest) = (s ++ (beforeUnits rest).1, (beforeUnits rest).2) := by
  obtain ⟨high, low⟩ := h
  simp [beforeUnits, high.ne, low.ne]

/-- No code unit begins in escaped octets. -/
theorem beforeUnits_octets {octets : List UInt8} {s : List Char}
    (h : Spells SpellsOctet octets s) (rest : List Char) :
    beforeUnits (s ++ rest) = (s ++ (beforeUnits rest).1, (beforeUnits rest).2) := by
  induction h with
  | nil => rfl
  | cons first _ ih => simp only [List.append_assoc, beforeUnits_octet first, ih]

/-! ## Units -/

/-- A code unit is found at the front of its escape. -/
theorem unit?_of_spells {unit : Nat} {s : List Char} (h : SpellsUnit unit s) (rest : List Char) :
    unit? (s ++ rest) = some (unit, rest) := by
  obtain ⟨ha, hb, hc, hd⟩ := h
  simp [unit?, value4?_eq_some_iff.2 ⟨ha, hb, hc, hd⟩]

/-- A run of units goes on with the units that stand behind it. -/
theorem units_append {spelled : List Nat} {s : List Char} (h : Spells SpellsUnit spelled s)
    (rest : List Char) : units (s ++ rest) = (spelled ++ (units rest).1, (units rest).2) := by
  induction h with
  | nil => rfl
  | cons first _ ih =>
    rw [List.append_assoc, units_of_some (unit?_of_spells first _), ih, List.cons_append]

/-- A text that begins with a unit begins with `%u`. -/
theorem exists_eq_of_unit? {s : List Char} {found : Nat × List Char} (h : unit? s = some found) :
    ∃ t, s = '%' :: 'u' :: t := by
  unfold unit? at h
  split at h
  · exact ⟨_, rfl⟩
  · cases h

/-- The units that a text begins with are read apart from what stands behind them. -/
theorem unescapeChars_units (s : List Char) :
    unescapeChars s = Utf16.decode (units s).1 ++ unescapeChars (units s).2 := by
  cases first : unit? s with
  | none => simp [units_of_none first, Utf16.decode]
  | some found =>
    obtain ⟨t, rfl⟩ := exists_eq_of_unit? first
    -- nothing stands before the first unit
    have begins : beforeUnits ('%' :: 'u' :: t) = ([], '%' :: 'u' :: t) := by simp [beforeUnits]
    have some_unit : (units ('%' :: 'u' :: t)).1 ≠ [] := by simp [units_of_some first]
    rw [unescapeChars, begins, if_neg (List.cons_ne_nil _ _), if_neg some_unit]
    rfl

/-! ## Characters -/

/-- A spelling without units goes on with the text before the first unit behind it. -/
theorem unescapeChars_octets {c : Char} {s : List Char}
    (octets : ∀ rest, percentDecode (s ++ rest) = String.utf8EncodeChar c ++ percentDecode rest)
    (before : ∀ rest, beforeUnits (s ++ rest) = (s ++ (beforeUnits rest).1, (beforeUnits rest).2))
    (rest : List Char) : unescapeChars (s ++ rest) = c :: unescapeChars rest := by
  rw [unescapeChars, before, octets, Utf8.decode_encodeChar, List.cons_append, ← unescapeChars]

/-- A spelled character is read back, and what stands behind it is read as if it stood alone. -/
theorem unescapeChars_char {c : Char} {s : List Char} (h : SpellsChar c s) (rest : List Char) :
    unescapeChars (s ++ rest) = c :: unescapeChars rest := by
  cases h with
  | itself plain =>
    exact unescapeChars_octets (percentDecode_cons plain) (beforeUnits_cons plain) rest
  | octets spelled =>
    exact unescapeChars_octets (percentDecode_octets spelled) (beforeUnits_octets spelled) rest
  | units spelled =>
    -- the run may go on behind the character, so both texts are read with their run taken off
    rw [unescapeChars_units, units_append spelled, Utf16.decode_encodeChar, List.cons_append,
      ← unescapeChars_units]

/-- A spelled text is read back, and what stands behind it is read as if it stood alone. -/
theorem unescapeChars_append {value s : List Char} (h : Spells SpellsChar value s)
    (rest : List Char) : unescapeChars (s ++ rest) = value ++ unescapeChars rest := by
  induction h with
  | nil => rfl
  | cons first _ ih => rw [List.append_assoc, unescapeChars_char first, ih, List.cons_append]

/-- A spelled value is read back, and the text behind it is read as if it stood alone. -/
theorem unescape_append {value text : String} (h : IsSpelling value text) (rest : String) :
    unescape (text ++ rest) = value ++ unescape rest := by
  rw [unescape, String.toList_append, unescapeChars_append h, String.ofList_append,
    String.ofList_toList, ← unescape]

theorem unescape_empty : unescape "" = "" := by
  rw [unescape, String.toList_empty, unescapeChars]
  rfl

/-! ## The escaped form -/

/-- The escaped form of a character is one of its spellings. -/
theorem spells_escapeChar (c : Char) : SpellsChar c (escapeChar c) := by
  have digit {n : Nat} (h : n < 16) : IsHexDigit n n.digitChar.toUpper := ⟨h, .inr rfl⟩
  unfold escapeChar
  split
  · next plain => exact .itself (ne_percent_of_isPlain plain)
  · refine .octets (Spells.flatMap (fun octet => ?_) _)
    have lt := octet.toNat_lt
    exact .escape (digit (by omega)) (digit (by omega))

/-- The escaped form of a value is one of its spellings. -/
theorem isSpelling_escape (value : String) : IsSpelling value (escape value) := by
  rw [IsSpelling, escape, String.toList_ofList]
  exact Spells.flatMap spells_escapeChar value.toList

/-- A value is read back from its escaped form. -/
@[simp] theorem unescape_escape (value : String) : unescape (escape value) = value := by
  have read := unescape_append (isSpelling_escape value) ""
  rwa [String.append_empty, unescape_empty, String.append_empty] at read

/-- A text that holds letters and digits of ASCII, `@*_+-./`, and escapes of octets with digits in
upper case. -/
inductive IsEscaped : List Char → Prop
  | nil : IsEscaped []
  | plain {c : Char} {s : List Char} : c.isAlphanum ∨ c ∈ "@*_+-./".toList → IsEscaped s →
      IsEscaped (c :: s)
  | octet {a b : Char} {s : List Char} : a ∈ "0123456789ABCDEF".toList →
      b ∈ "0123456789ABCDEF".toList → IsEscaped s → IsEscaped ('%' :: a :: b :: s)

/-- Octets in front of an escaped text can be escaped with it. -/
theorem isEscaped_percents (octets : List UInt8) {s : List Char} (h : IsEscaped s) :
    IsEscaped (octets.flatMap percent ++ s) := by
  have digit : ∀ n < 16, n.digitChar.toUpper ∈ "0123456789ABCDEF".toList := by decide
  induction octets with
  | nil => exact h
  | cons octet octets ih =>
    have lt := octet.toNat_lt
    exact .octet (digit _ (by omega)) (digit _ (by omega)) ih

/-- Escaping writes nothing else. -/
theorem isEscaped_escape (value : String) : IsEscaped (escape value).toList := by
  rw [escape, String.toList_ofList]
  induction value.toList with
  | nil => exact .nil
  | cons c s ih =>
    rw [List.flatMap_cons, escapeChar]
    split
    · next plain =>
      rw [isPlain, Bool.or_eq_true, List.contains_iff_mem] at plain
      exact .plain plain ih
    · exact isEscaped_percents _ ih

/-- **Reading undoes every way of writing.** Whichever way each character of a value is spelled, the
value is read back, and the text behind it, whatever it is, is read as if it stood alone. So a value
is read back from its escaped form, and an escaped form is written again for what is read in it.
Escaping writes letters and digits of ASCII, `@*_+-./`, and `%` before two digits in upper case. -/
theorem every_spelling_decodes :
    (∀ value text, IsSpelling value text → ∀ rest,
      unescape (text ++ rest) = value ++ unescape rest) ∧
    (∀ value, unescape (escape value) = value) ∧
    (∀ text, (∃ value, escape value = text) → escape (unescape text) = text) ∧
    ∀ value, IsEscaped (escape value).toList := by
  refine ⟨fun value text h rest => unescape_append h rest, unescape_escape, ?_, isEscaped_escape⟩
  rintro text ⟨value, rfl⟩
  rw [unescape_escape]

/-- A letter, the octets of the next character and the pair of units of the last one, in front of a
text that no more than looks like a unit; and an escaped form with a blank in it. -/
theorem every_spelling_decodes_mixed :
    IsSpelling "aé😀" "a%c3%A9%uD83D%ude00" ∧
      unescape ("a%c3%A9%uD83D%ude00" ++ "%u12") = "aé😀" ++ unescape "%u12" ∧
      escape " b" = "%20b" ∧ escape (unescape "%20b") = "%20b" := by
  have letter : SpellsChar 'a' ['a'] := .itself (by decide)
  have octets : SpellsChar 'é' ['%', 'c', '3', '%', 'A', '9'] :=
    .octets (.cons (SpellsOctet.escape (by decide) (by decide))
      (.cons (SpellsOctet.escape (by decide) (by decide)) .nil))
  have units : SpellsChar '😀' ['%', 'u', 'D', '8', '3', 'D', '%', 'u', 'd', 'e', '0', '0'] :=
    .units (.cons (SpellsUnit.escape (by decide) (by decide) (by decide) (by decide))
      (.cons (SpellsUnit.escape (by decide) (by decide) (by decide) (by decide)) .nil))
  have spelled : IsSpelling "aé😀" "a%c3%A9%uD83D%ude00" :=
    .cons letter (.cons octets (.cons units .nil))
  have escaped : escape " b" = "%20b" := by decide
  exact ⟨spelled, every_spelling_decodes.1 _ _ spelled _, escaped,
    every_spelling_decodes.2.2.1 _ ⟨" b", escaped⟩⟩

end CookieConsent.Text
