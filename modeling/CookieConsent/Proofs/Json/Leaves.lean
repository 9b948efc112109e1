import CookieConsent.Proofs.Json.Grammar
import CookieConsent.Proofs.Text.Reading

/-!
# JSON strings and numbers are read as what they spell

The leaves of a JSON text, with any other text behind them. What is found is always spelled at the
front. Conversely, what is spelled is found: a string ends at its quote, so anything may follow; a
number goes on as far as it can, so what follows must not go on with it.

* `readString_append`, `exists_of_readString`: the string behind an opening quote.
* `readNumber_append`, `exists_of_readNumber`: the number in front of a text that does not go on with
  it.
-/

namespace CookieConsent.Json

open Text (Reader)
open Text.Reader (bind_of_eq exists_of_bind pure_run)

/-! ## Strings -/

/-- The units of a string are found up to its quote. -/
theorem stringUnits_append {s : List Char} {units : List Nat} (h : SpellsUnits s units)
    (rest : List Char) : stringUnits (s ++ '"' :: rest) = some (units, rest) := by
  induction h with
  | nil => rw [List.nil_append, stringUnits]
  | char printed quote backslash _ ih =>
    rw [List.cons_append, stringUnits, if_neg (Nat.not_lt.2 printed), ih]
    · rfl
    · exact quote
    · intro a b c d s h
      exact absurd h backslash
    · intro c s h
      exact absurd h backslash
  | short letter _ ih =>
    rw [List.cons_append, List.cons_append, stringUnits, letter, ih]
    · rfl
    -- the letter of an escape is not the `u` of a unit
    · rintro a b c d s rfl
      cases letter
  | unit ha hb hc hd _ ih =>
    simp only [List.cons_append]
    rw [stringUnits, Text.value4?_eq_some_iff.2 ⟨ha, hb, hc, hd⟩, ih]
    rfl

/-- The units that are found are spelled up to a quote. -/
theorem exists_of_stringUnits {s rest : List Char} {units : List Nat}
    (h : stringUnits s = some (units, rest)) : ∃ t, SpellsUnits t units ∧ s = t ++ '"' :: rest := by
  fun_induction stringUnits s generalizing units with
  | case1 => cases h
  | case2 s =>
    obtain ⟨rfl, rfl⟩ := Prod.mk.inj (Option.some.inj h)
    exact ⟨[], .nil, rfl⟩
  | case3 a b c d s ih =>
    obtain ⟨unit, value, h⟩ := Option.bind_eq_some_iff.1 h
    obtain ⟨⟨others, behind⟩, found, h⟩ := Option.bind_eq_some_iff.1 h
    obtain ⟨rfl, rfl⟩ := Prod.mk.inj (Option.some.inj h)
    obtain ⟨t, spelled, rfl⟩ := ih found
    obtain ⟨ha, hb, hc, hd⟩ := Text.value4?_eq_some_iff.1 value
    exact ⟨_, .unit ha hb hc hd spelled, rfl⟩
  | case4 letter s _ ih =>
    obtain ⟨c, value, h⟩ := Option.bind_eq_some_iff.1 h
    obtain ⟨⟨others, behind⟩, found, h⟩ := Option.bind_eq_some_iff.1 h
    obtain ⟨rfl, rfl⟩ := Prod.mk.inj (Option.some.inj h)
    obtain ⟨t, spelled, rfl⟩ := ih found
    exact ⟨_, .short value spelled, rfl⟩
  | case5 => cases h
  | case6 c s quote _ backslash printed ih =>
    obtain ⟨⟨others, behind⟩, found, h⟩ := Option.bind_eq_some_iff.1 h
    obtain ⟨rfl, rfl⟩ := Prod.mk.inj (Option.some.inj h)
    obtain ⟨t, spelled, rfl⟩ := ih found
    refine ⟨c :: t, .char (Nat.not_lt.1 printed) quote ?_ spelled, rfl⟩
    -- a backslash has a character behind it, at least the quote, and is an escape with it
    rintro rfl
    cases t with
    | nil => exact backslash _ _ rfl rfl
    | cons d t => exact backslash _ _ rfl rfl

/-- What a string spells are units of 16 bits. -/
theorem SpellsUnits.lt {s : List Char} {units : List Nat} (h : SpellsUnits s units) :
    ∀ unit ∈ units, unit < 0x10000 := by
  induction h with
  | nil => simp
  | char _ _ _ _ ih | short _ _ ih =>
    exact List.forall_mem_append.2 ⟨fun unit mem => Text.Utf16.lt_of_mem_encodeChar mem, ih⟩
  | unit ha _ _ _ _ ih =>
    have lt := ha.1
    exact List.forall_mem_cons.2 ⟨by omega, ih⟩

/-- The text of units of 16 bits is the one that they are decoded to. -/
theorem hasText_iff {units : List Nat} (h : ∀ unit ∈ units, unit < 0x10000)
    {text : Option String} :
    HasText units text ↔ text = (Text.Utf16.decode? units).map String.ofList := by
  have found (t : String) : Text.Utf16.encode t.toList = units ↔
      (Text.Utf16.decode? units).map String.ofList = some t := by
    rw [← Text.Utf16.decode?_eq_some_iff h, Option.map_eq_some_iff]
    constructor
    · exact fun eq => ⟨_, eq, String.ofList_toList⟩
    · rintro ⟨s, eq, rfl⟩
      rw [eq, String.toList_ofList]
  simp only [HasText, found]
  exact ⟨fun same => Option.ext same, fun eq t => by rw [eq]⟩

/-- The text that units of a string are decoded to is spelled with quotes around it. -/
theorem SpellsUnits.spellsString {s : List Char} {units : List Nat} (h : SpellsUnits s units)
    {text : Option String} (decoded : (Text.Utf16.decode? units).map String.ofList = text) :
    SpellsString ('"' :: (s ++ ['"'])) text :=
  .quoted h ((hasText_iff h.lt).2 decoded.symm)

/-- A string is found behind its opening quote. -/
theorem readString_append {s : List Char} {text : Option String} (h : SpellsString s text)
    (rest : List Char) : ∃ t, s = '"' :: t ∧ readString (t ++ rest) = some (text, rest) := by
  obtain @⟨s, units, _, spelled, hasText⟩ := h
  refine ⟨s ++ ['"'], rfl, ?_⟩
  rw [List.append_assoc, List.singleton_append, readString,
    bind_of_eq (stringUnits_append spelled rest), pure_run, (hasText_iff spelled.lt).1 hasText]

/-- What is found behind an opening quote is spelled with it. -/
theorem exists_of_readString {s rest : List Char} {text : Option String}
    (h : readString s = some (text, rest)) : ∃ t, SpellsString ('"' :: t) text ∧ s = t ++ rest := by
  obtain ⟨units, behind, found, h⟩ := exists_of_bind h
  obtain ⟨rfl, rfl⟩ := Prod.mk.inj (Option.some.inj h)
  obtain ⟨t, spelled, rfl⟩ := exists_of_stringUnits found
  exact ⟨t ++ ['"'], spelled.spellsString rfl, by simp⟩

/-! ## Numbers -/

/-- A text that does not go on with a number in front of it. -/
def EndsNumber (s : List Char) : Prop :=
  ∀ c ∈ s.head?, c.isDigit = false ∧ c ≠ '.' ∧ c ≠ 'e' ∧ c ≠ 'E'

theorem endsNumber_nil : EndsNumber [] := by simp [EndsNumber]

theorem endsNumber_cons {c : Char} (s : List Char)
    (h : c.isDigit = false ∧ c ≠ '.' ∧ c ≠ 'e' ∧ c ≠ 'E') : EndsNumber (c :: s) := by
  intro d hd
  obtain rfl := Option.some.inj hd
  exact h

/-- The first of some digits. -/
theorem IsDigits.exists_cons {s : List Char} (h : IsDigits s) : ∃ d ds, s = d :: ds ∧ d.isDigit := by
  obtain ⟨d, ds, rfl⟩ := List.exists_cons_of_ne_nil h.1
  exact ⟨d, ds, rfl, h.2 d List.mem_cons_self⟩

/-- Digits are read up to the first character that is none. -/
theorem digits_append {s : List Char} (h : IsDigits s) {rest : List Char}
    (hrest : ∀ c ∈ rest.head?, c.isDigit = false) :
    Reader.digits 1 none (s ++ rest) = some (s, rest) :=
  Reader.digits_eq h.2 (List.length_pos_iff.2 h.1) hrest

/-- What is read as digits are digits, and nothing is lost. -/
theorem exists_of_digits {s found rest : List Char}
    (h : Reader.digits 1 none s = some (found, rest)) : IsDigits found ∧ s = found ++ rest := by
  obtain ⟨long, h⟩ := Option.ite_none_right_eq_some.1 h
  obtain ⟨rfl, rfl⟩ := Prod.mk.inj (Option.some.inj h)
  exact ⟨⟨List.length_pos_iff.1 long, List.all_eq_true.1 List.all_takeWhile⟩,
    (List.prefix_iff_eq_append.1 (List.takeWhile_prefix _)).symm⟩

/-- A sign is read where there is one, and its absence where another character stands. -/
theorem readMinus_append {s : List Char} {negative : Bool} (h : SpellsMinus s negative)
    {rest : List Char} (hrest : rest.head? ≠ some '-') :
    readMinus (s ++ rest) = some (negative, rest) := by
  cases h with
  | present => rfl
  | absent =>
    rw [List.nil_append]
    unfold readMinus
    split
    · exact absurd rfl hrest
    · rfl

theorem exists_of_readMinus {s rest : List Char} {negative : Bool}
    (h : readMinus s = some (negative, rest)) : ∃ t, SpellsMinus t negative ∧ s = t ++ rest := by
  unfold readMinus at h
  split at h
  · obtain ⟨rfl, rfl⟩ := Prod.mk.inj (Option.some.inj h)
    exact ⟨_, .present, rfl⟩
  · obtain ⟨rfl, rfl⟩ := Prod.mk.inj (Option.some.inj h)
    exact ⟨_, .absent, rfl⟩

/-- A whole part is read, where no digit goes on with it. -/
theorem readWhole_append {s : List Char} {n : Nat} (h : SpellsWhole s n) {rest : List Char}
    (hrest : ∀ c ∈ rest.head?, c.isDigit = false) : readWhole (s ++ rest) = some (n, rest) := by
  cases h with
  | zero => rfl
  | digits isDigits nonzero =>
    have found := digits_append isDigits hrest
    obtain ⟨d, ds, rfl, -⟩ := isDigits.exists_cons
    unfold readWhole
    split
    · next heq => exact absurd (congrArg some (List.cons.inj heq).1) nonzero
    · rw [found]
      rfl

/-- What is read as a whole part has no leading zeros. -/
theorem exists_of_readWhole {s rest : List Char} {n : Nat} (h : readWhole s = some (n, rest)) :
    ∃ t, SpellsWhole t n ∧ s = t ++ rest := by
  unfold readWhole at h
  split at h
  · obtain ⟨rfl, rfl⟩ := Prod.mk.inj (Option.some.inj h)
    exact ⟨_, .zero, rfl⟩
  · next nonzero =>
    obtain ⟨⟨found, behind⟩, digits, h⟩ := Option.bind_eq_some_iff.1 h
    obtain ⟨rfl, rfl⟩ := Prod.mk.inj (Option.some.inj h)
    obtain ⟨isDigits, rfl⟩ := exists_of_digits digits
    refine ⟨found, .digits isDigits fun zero => ?_, rfl⟩
    obtain ⟨d, ds, rfl, -⟩ := isDigits.exists_cons
    obtain rfl := Option.some.inj zero
    exact nonzero _ rfl

def digitValue (c : Char) : Fin 10 := ⟨(c.toNat - 48) % 10, Nat.mod_lt _ (by decide)⟩

/-- A digit is the one that its value is written with. -/
theorem digitValue_digitChar (d : Fin 10) : digitValue d.val.digitChar = d := by
  have all : ∀ d : Fin 10, digitValue d.val.digitChar = d := by decide
  exact all d

/-- The value of a digit is written as that digit. -/
theorem digitChar_digitValue {c : Char} (h : c.isDigit) : (digitValue c).val.digitChar = c := by
  have all : ∀ n < 58, 48 ≤ n → (digitValue (Char.ofNat n)).val.digitChar = Char.ofNat n := by
    decide
  simp only [Char.isDigit, Bool.and_eq_true, decide_eq_true_eq] at h
  have low : 48 ≤ c.toNat := h.1
  have high : c.toNat ≤ 57 := h.2
  have found := all c.toNat (by omega) low
  rwa [Char.ofNat_toNat] at found

theorem isDigit_digitChar (d : Fin 10) : d.val.digitChar.isDigit := by
  have all : ∀ d : Fin 10, d.val.digitChar.isDigit := by decide
  exact all d

/-- A fraction is read to its last digit. Without one, a point must not follow. -/
theorem readFraction_append {s : List Char} {digits : List (Fin 10)} (h : SpellsFraction s digits)
    {rest : List Char} (hrest : ∀ c ∈ rest.head?, c.isDigit = false ∧ c ≠ '.') :
    readFraction (s ++ rest) = some (digits, rest) := by
  cases h with
  | absent =>
    rw [List.nil_append]
    unfold readFraction
    split
    · exact absurd rfl (hrest '.' rfl).2
    · rfl
  | present filled =>
    have isDigits : IsDigits (digits.map fun d => d.val.digitChar) := by
      refine ⟨by simpa using filled, fun c mem => ?_⟩
      obtain ⟨d, -, rfl⟩ := List.mem_map.1 mem
      exact isDigit_digitChar d
    -- the digits are read as what they were written for
    have back : (digits.map fun d => d.val.digitChar).map digitValue = digits := by
      rw [List.map_map]
      exact List.map_id'' digitValue_digitChar digits
    rw [List.cons_append, readFraction, digits_append isDigits fun c hc => (hrest c hc).1]
    exact congrArg (fun found => some (found, rest)) back

/-- What is read as a fraction has a digit behind its point. -/
theorem exists_of_readFraction {s rest : List Char} {digits : List (Fin 10)}
    (h : readFraction s = some (digits, rest)) : ∃ t, SpellsFraction t digits ∧ s = t ++ rest := by
  unfold readFraction at h
  split at h
  · obtain ⟨⟨found, behind⟩, digits, h⟩ := Option.bind_eq_some_iff.1 h
    obtain ⟨rfl, rfl⟩ := Prod.mk.inj (Option.some.inj h)
    obtain ⟨⟨filled, isDigit⟩, rfl⟩ := exists_of_digits digits
    have back : (found.map digitValue).map (fun d => d.val.digitChar) = found := by
      rw [List.map_map]
      exact (List.map_congr_left fun c mem => digitChar_digitValue (isDigit c mem)).trans
        (List.map_id found)
    have spelled := @SpellsFraction.present (found.map digitValue) (by simpa using filled)
    rw [back] at spelled
    exact ⟨_, spelled, rfl⟩
  · obtain ⟨rfl, rfl⟩ := Prod.mk.inj (Option.some.inj h)
    exact ⟨_, .absent, rfl⟩

/-- The value of an exponent is read with its sign, whether it is written or not. -/
theorem readExponentValue_append {s : List Char} {n : Int} (h : SpellsPower s n) {rest : List Char}
    (hrest : ∀ c ∈ rest.head?, c.isDigit = false) :
    readExponentValue (s ++ rest) = some (n, rest) := by
  cases h with
  | bare isDigits =>
    have found := digits_append isDigits hrest
    -- the first character is a digit, so it is no sign
    obtain ⟨d, ds, rfl, digit⟩ := isDigits.exists_cons
    unfold readExponentValue
    dsimp only
    split
    · next heq => exact absurd digit (by rw [(List.cons.inj heq).1]; decide)
    · next heq => exact absurd digit (by rw [(List.cons.inj heq).1]; decide)
    · rw [found]
      rfl
  | plus isDigits =>
    rw [List.cons_append, readExponentValue]
    dsimp only
    rw [digits_append isDigits hrest]
    rfl
  | minus isDigits =>
    rw [List.cons_append, readExponentValue]
    dsimp only
    rw [digits_append isDigits hrest]
    rfl

/-- What is read behind the letter of an exponent is one of its three spellings. -/
theorem exists_of_readExponentValue {s rest : List Char} {n : Int}
    (h : readExponentValue s = some (n, rest)) : ∃ t, SpellsPower t n ∧ s = t ++ rest := by
  unfold readExponentValue at h
  dsimp only at h
  split at h
  all_goals
    obtain ⟨⟨found, behind⟩, digits, h⟩ := Option.bind_eq_some_iff.1 h
    obtain ⟨rfl, rfl⟩ := Prod.mk.inj (Option.some.inj h)
    obtain ⟨isDigits, rfl⟩ := exists_of_digits digits
  · exact ⟨_, .minus isDigits, rfl⟩
  · exact ⟨_, .plus isDigits, rfl⟩
  · exact ⟨_, .bare isDigits, rfl⟩

/-- An exponent is read with its letter in either case. Without one, no letter must follow that
would begin one. -/
theorem readExponent_append {s : List Char} {exponent : Option Int} (h : SpellsExponent s exponent)
    {rest : List Char} (hrest : EndsNumber rest) :
    readExponent (s ++ rest) = some (exponent, rest) := by
  have noDigit : ∀ c ∈ rest.head?, c.isDigit = false := fun c hc => (hrest c hc).1
  cases h with
  | absent =>
    rw [List.nil_append]
    unfold readExponent
    split
    · exact absurd rfl (hrest 'e' rfl).2.2.1
    · exact absurd rfl (hrest 'E' rfl).2.2.2
    · rfl
  | lower power | upper power =>
    rw [List.cons_append, readExponent, readExponentValue_append power noDigit]
    rfl

/-- What is read as an exponent spells it. -/
theorem exists_of_readExponent {s rest : List Char} {exponent : Option Int}
    (h : readExponent s = some (exponent, rest)) :
    ∃ t, SpellsExponent t exponent ∧ s = t ++ rest := by
  unfold readExponent at h
  split at h
  · obtain ⟨⟨n, behind⟩, found, h⟩ := Option.bind_eq_some_iff.1 h
    obtain ⟨rfl, rfl⟩ := Prod.mk.inj (Option.some.inj h)
    obtain ⟨t, spelled, rfl⟩ := exists_of_readExponentValue found
    exact ⟨_, .lower spelled, rfl⟩
  · obtain ⟨⟨n, behind⟩, found, h⟩ := Option.bind_eq_some_iff.1 h
    obtain ⟨rfl, rfl⟩ := Prod.mk.inj (Option.some.inj h)
    obtain ⟨t, spelled, rfl⟩ := exists_of_readExponentValue found
    exact ⟨_, .upper spelled, rfl⟩
  · obtain ⟨rfl, rfl⟩ := Prod.mk.inj (Option.some.inj h)
    exact ⟨_, .absent, rfl⟩

/-- What follows the fraction of a number does not go on with it. -/
theorem SpellsExponent.of_mem_head? {s : List Char} {exponent : Option Int}
    (h : SpellsExponent s exponent) {rest : List Char} (hrest : EndsNumber rest) {c : Char}
    (hc : c ∈ (s ++ rest).head?) : c.isDigit = false ∧ c ≠ '.' := by
  cases h with
  | absent => exact ⟨(hrest c hc).1, (hrest c hc).2.1⟩
  | lower | upper =>
    obtain rfl := Option.some.inj hc
    decide

/-- What follows the whole part of a number does not go on with it. -/
theorem SpellsFraction.isDigit_of_mem_head? {s : List Char} {digits : List (Fin 10)}
    (h : SpellsFraction s digits) {rest : List Char} (hrest : ∀ c ∈ rest.head?, c.isDigit = false)
    {c : Char} (hc : c ∈ (s ++ rest).head?) : c.isDigit = false := by
  cases h with
  | absent => exact hrest c hc
  | present =>
    obtain rfl := Option.some.inj hc
    decide

/-- The whole part of a number starts with a digit. -/
theorem SpellsWhole.exists_cons {s : List Char} {n : Nat} (h : SpellsWhole s n) :
    ∃ d ds, s = d :: ds ∧ d.isDigit := by
  cases h with
  | zero => exact ⟨'0', [], rfl, rfl⟩
  | digits isDigits => exact isDigits.exists_cons

/-- A number is found in front of a text that does not go on with it. -/
theorem readNumber_append {s : List Char} {n : Number} (h : SpellsNumber s n) {rest : List Char}
    (hrest : EndsNumber rest) : readNumber (s ++ rest) = some (n, rest) := by
  obtain @⟨minus, whole, fraction, exponent, _, hminus, hwhole, hfraction, hexponent⟩ := h
  have noSign : (whole ++ (fraction ++ (exponent ++ rest))).head? ≠ some '-' := by
    obtain ⟨d, ds, rfl, digit⟩ := hwhole.exists_cons
    intro eq
    obtain rfl := Option.some.inj eq
    cases digit
  have behindFraction : ∀ c ∈ (exponent ++ rest).head?, c.isDigit = false ∧ c ≠ '.' :=
    fun c hc => hexponent.of_mem_head? hrest hc
  have behindWhole : ∀ c ∈ (fraction ++ (exponent ++ rest)).head?, c.isDigit = false :=
    fun c hc => hfraction.isDigit_of_mem_head? (fun c hc => (behindFraction c hc).1) hc
  rw [List.append_assoc, List.append_assoc, List.append_assoc, readNumber,
    bind_of_eq (readMinus_append hminus noSign), bind_of_eq (readWhole_append hwhole behindWhole),
    bind_of_eq (readFraction_append hfraction behindFraction),
    bind_of_eq (readExponent_append hexponent hrest), pure_run]

/-- A number that is found is spelled at the front. -/
theorem exists_of_readNumber {s rest : List Char} {n : Number}
    (h : readNumber s = some (n, rest)) : ∃ t, SpellsNumber t n ∧ s = t ++ rest := by
  obtain ⟨negative, s₁, h₁, h⟩ := exists_of_bind h
  obtain ⟨whole, s₂, h₂, h⟩ := exists_of_bind h
  obtain ⟨fraction, s₃, h₃, h⟩ := exists_of_bind h
  obtain ⟨exponent, s₄, h₄, h⟩ := exists_of_bind h
  obtain ⟨rfl, rfl⟩ := Prod.mk.inj (Option.some.inj h)
  obtain ⟨t₁, spelled₁, rfl⟩ := exists_of_readMinus h₁
  obtain ⟨t₂, spelled₂, rfl⟩ := exists_of_readWhole h₂
  obtain ⟨t₃, spelled₃, rfl⟩ := exists_of_readFraction h₃
  obtain ⟨t₄, spelled₄, rfl⟩ := exists_of_readExponent h₄
  exact ⟨_, .parts spelled₁ spelled₂ spelled₃ spelled₄, by simp⟩

/-- A number starts with a digit or a minus sign. -/
theorem SpellsNumber.exists_cons {s : List Char} {n : Number} (h : SpellsNumber s n) :
    ∃ c t, s = c :: t ∧ (c.isDigit ∨ c = '-') := by
  obtain ⟨hminus, hwhole, -, -⟩ := h
  generalize n.negative = negative at hminus
  cases hminus with
  | present => exact ⟨'-', _, rfl, .inr rfl⟩
  | absent =>
    obtain ⟨d, ds, rfl, digit⟩ := hwhole.exists_cons
    exact ⟨d, _, rfl, .inl digit⟩

end CookieConsent.Json
