import CookieConsent.Proofs.Text.Spellings
import Mathlib.Data.List.SplitBy

/-!
# Escaped texts as tokens

An escaped text is made of code units, octets, and characters that stand for themselves. It is taken
apart into these tokens from left to right, and what it says is what its maximal runs of one kind
say, one behind another: code units as UTF-16, and all other tokens as UTF-8.

* `unit?_eq_some_iff`, `octet?_eq_some_iff`: a text names what is spelled at its start.
* `decodeRuns_append`: a run is read apart from what stands behind it.
* `decodeRuns_append_ascii`: so is a character of ASCII, although its run goes on.
-/

namespace CookieConsent.Text

/-! ## Tokens and runs -/

/-- What an escaped text is made of: code units, octets, and characters that stand for
themselves. -/
inductive Token where
  | unit (value : Nat)
  | octet (value : UInt8)
  | char (c : Char)
deriving DecidableEq, Repr

namespace Token

/-- Whether the token is a code unit. -/
def isUnit : Token → Bool
  | .unit _ => true
  | .octet _ => false
  | .char _ => false

/-- The code unit that the token is, if it is one. -/
def unit? : Token → Option Nat
  | .unit value => some value
  | .octet _ => none
  | .char _ => none

/-- The octets that the token stands for, if it is no code unit. -/
def octets : Token → List UInt8
  | .unit _ => []
  | .octet value => [value]
  | .char c => String.utf8EncodeChar c

end Token

/-- The octet that a text names with `%XX` at its start, and what follows. -/
def octet? : List Char → Option (UInt8 × List Char)
  | '%' :: a :: b :: s => do
    let high ← Hex.value? a
    let low ← Hex.value? b
    return (UInt8.ofNat (high * 16 + low), s)
  | _ => none

/-- An octet that is named takes characters off the text. -/
theorem length_of_octet? {s rest : List Char} {octet : UInt8} (h : octet? s = some (octet, rest)) :
    rest.length < s.length := by
  unfold octet? at h
  split at h
  · obtain ⟨_, -, h⟩ := Option.bind_eq_some_iff.1 h
    obtain ⟨_, -, h⟩ := Option.bind_eq_some_iff.1 h
    obtain ⟨-, rfl⟩ := Prod.mk.inj (Option.some.inj h)
    simp only [List.length_cons]
    omega
  · cases h

/-- The tokens of a text, from left to right: a code unit where one is named, otherwise an octet
where one is named, and otherwise the next character. -/
def tokens : List Char → List Token
  | [] => []
  | c :: s =>
    match hunit : unit? (c :: s) with
    | some (unit, rest) =>
      have := length_of_unit? hunit
      .unit unit :: tokens rest
    | none =>
      match hoctet : octet? (c :: s) with
      | some (octet, rest) =>
        have := length_of_octet? hoctet
        .octet octet :: tokens rest
      | none => .char c :: tokens s
termination_by s => s.length
decreasing_by
  · exact this
  · exact this
  · exact Nat.lt_succ_self s.length

/-- The text of a run of tokens of one kind. -/
def decodeRun (run : List Token) : List Char :=
  if run.all Token.isUnit then Utf16.decode (run.filterMap Token.unit?)
  else Utf8.decode (run.flatMap Token.octets)

/-- Whether both tokens are code units, or neither is. -/
def Token.sameKind (a b : Token) : Bool := a.isUnit == b.isUnit

/-- The text of some tokens: that of their maximal runs of one kind. -/
def decodeRuns (tokens : List Token) : List Char :=
  (tokens.splitBy Token.sameKind).flatMap decodeRun

/-! ## Taking a text apart -/

@[simp] theorem tokens_nil : tokens [] = [] := by rw [tokens]

/-- A code unit that is named is the first token. -/
theorem tokens_of_unit? {s rest : List Char} {unit : Nat} (h : unit? s = some (unit, rest)) :
    tokens s = .unit unit :: tokens rest := by
  cases s with
  | nil => cases h
  | cons c s =>
    rw [tokens]
    split
    · next found =>
      obtain ⟨rfl, rfl⟩ := Prod.mk.inj (Option.some.inj (found.symm.trans h))
      rfl
    · next found => cases found.symm.trans h

/-- Where no code unit is named, an octet that is named is the first token. -/
theorem tokens_of_octet? {s rest : List Char} {octet : UInt8} (no_unit : unit? s = none)
    (h : octet? s = some (octet, rest)) : tokens s = .octet octet :: tokens rest := by
  cases s with
  | nil => cases h
  | cons c s =>
    rw [tokens]
    split
    · next found => cases found.symm.trans no_unit
    · split
      · next found =>
        obtain ⟨rfl, rfl⟩ := Prod.mk.inj (Option.some.inj (found.symm.trans h))
        rfl
      · next found => cases found.symm.trans h

/-- Where neither is named, the first character is the first token. -/
theorem tokens_of_char {c : Char} {s : List Char} (no_unit : unit? (c :: s) = none)
    (no_octet : octet? (c :: s) = none) : tokens (c :: s) = .char c :: tokens s := by
  rw [tokens]
  split
  · next found => cases found.symm.trans no_unit
  · split
    · next found => cases found.symm.trans no_octet
    · rfl

/-- The units at the front of a text are its first tokens. -/
theorem tokens_units (s : List Char) :
    tokens s = (units s).1.map Token.unit ++ tokens (units s).2 ∧ unit? (units s).2 = none := by
  fun_induction units s with
  | case1 s unit rest found _ more behind eq ih =>
    rw [eq] at ih
    rw [tokens_of_unit? found, ih.1]
    exact ⟨rfl, ih.2⟩
  | case2 s found => exact ⟨rfl, found⟩

/-- The first token of a text that names no code unit is none. -/
theorem isUnit_of_mem_head?_tokens {s : List Char} (h : unit? s = none) {t : Token}
    (ht : t ∈ (tokens s).head?) : t.isUnit = false := by
  match s with
  | [] => simp at ht
  | c :: s =>
    cases found : octet? (c :: s) with
    | some found_octet =>
      rw [tokens_of_octet? h found] at ht
      obtain rfl := Option.some.inj ht
      rfl
    | none =>
      rw [tokens_of_char h found] at ht
      obtain rfl := Option.some.inj ht
      rfl

/-! ## What an escape spells -/

/-- The octet that a text names is the one that is spelled at its start. -/
theorem octet?_eq_some_iff {s rest : List Char} {octet : UInt8} :
    octet? s = some (octet, rest) ↔ ∃ front, SpellsOctet octet front ∧ s = front ++ rest := by
  constructor
  · intro h
    unfold octet? at h
    split at h
    · next a b s =>
      obtain ⟨high, hhigh, h⟩ := Option.bind_eq_some_iff.1 h
      obtain ⟨low, hlow, h⟩ := Option.bind_eq_some_iff.1 h
      obtain ⟨rfl, rfl⟩ := Prod.mk.inj (Option.some.inj h)
      have digit := IsHexDigit.of_value? hhigh
      have digit' := IsHexDigit.of_value? hlow
      have value : (UInt8.ofNat (high * 16 + low)).toNat = high * 16 + low :=
        Utf8.toNat_octet (by have := digit.1; have := digit'.1; omega)
      refine ⟨['%', a, b], .escape ?_ ?_, rfl⟩
      · rwa [value, show (high * 16 + low) / 16 = high by have := digit'.1; omega]
      · rwa [value, show (high * 16 + low) % 16 = low by have := digit'.1; omega]
    · cases h
  · rintro ⟨front, ⟨high, low⟩, rfl⟩
    have whole : octet.toNat / 16 * 16 + octet.toNat % 16 = octet.toNat := by omega
    simp only [List.cons_append, List.nil_append, octet?, high.value?_eq, low.value?_eq,
      Option.bind_eq_bind, Option.bind_some, Option.pure_def, whole, UInt8.ofNat_toNat]

/-- The code unit that a text names is the one that is spelled at its start. -/
theorem unit?_eq_some_iff {s rest : List Char} {unit : Nat} :
    unit? s = some (unit, rest) ↔ ∃ front, SpellsUnit unit front ∧ s = front ++ rest := by
  constructor
  · intro h
    unfold unit? at h
    split at h
    · next a b c d s =>
      obtain ⟨value, found, h⟩ := Option.map_eq_some_iff.1 h
      obtain ⟨rfl, rfl⟩ := Prod.mk.inj h
      obtain ⟨ha, hb, hc, hd⟩ := value4?_eq_some_iff.1 found
      exact ⟨['%', 'u', a, b, c, d], .escape ha hb hc hd, rfl⟩
    · cases h
  · rintro ⟨front, spelled, rfl⟩
    exact unit?_of_spells spelled rest

/-! ## Octets of ASCII -/

namespace Utf8

theorem decodeFrom_cons (pending : Option Pending) (octet : UInt8) (octets : List UInt8) :
    decodeFrom pending (octet :: octets) =
      (step pending octet).1 ++ decodeFrom (step pending octet).2 octets := by
  cases pending <;> rfl

/-- An octet that goes on with a character is none of ASCII. -/
theorem low_of_mem_start {octet : UInt8} {p : Pending} (h : p ∈ (start octet).2) :
    0x80 ≤ p.low := by
  grind [start]

/-- Nor is one that goes on behind others. -/
theorem low_of_mem_step {pending : Option Pending} {octet : UInt8} {p : Pending}
    (h : p ∈ (step pending octet).2) : 0x80 ≤ p.low := by
  cases pending with
  | none => exact low_of_mem_start h
  | some q =>
    rw [step] at h
    split at h
    · dsimp only at h
      split at h
      · cases h
      · obtain rfl := Option.some.inj h
        exact Nat.le_refl 0x80
    · exact low_of_mem_start h

/-- An octet of ASCII ends what stands before it, and is a character. -/
theorem decodeFrom_append_ascii {octet : UInt8} (ascii : octet.toNat < 0x80)
    {pending : Option Pending} (low : ∀ p ∈ pending, 0x80 ≤ p.low) (octets rest : List UInt8) :
    decodeFrom pending (octets ++ octet :: rest) =
      decodeFrom pending octets ++ Char.ofNat octet.toNat :: decode rest := by
  induction octets generalizing pending with
  | nil =>
    have first : start octet = ([Char.ofNat octet.toNat], none) := by rw [start, if_pos ascii]
    cases pending with
    | none => rw [List.nil_append, decodeFrom_start, first]; rfl
    | some p =>
      have outside : ¬ (p.low ≤ octet.toNat ∧ octet.toNat ≤ p.high) := by
        have := low p rfl
        omega
      rw [List.nil_append, decodeFrom_cons, step, if_neg outside, first]
      rfl
  | cons o octets ih =>
    rw [List.cons_append, decodeFrom_cons, decodeFrom_cons, ih fun p hp => low_of_mem_step hp,
      List.append_assoc]

theorem decode_append_ascii {octet : UInt8} (ascii : octet.toNat < 0x80)
    (octets rest : List UInt8) :
    decode (octets ++ octet :: rest) = decode octets ++ Char.ofNat octet.toNat :: decode rest :=
  decodeFrom_append_ascii ascii (by simp) octets rest

end Utf8

/-! ## Reading run by run -/

/-- A run that does not go on is read apart from what stands behind it. -/
theorem decodeRuns_append {kind : Bool} {run rest : List Token} (kinds : ∀ t ∈ run, t.isUnit = kind)
    (ends : ∀ t ∈ rest.head?, t.isUnit = !kind) :
    decodeRuns (run ++ rest) = decodeRun run ++ decodeRuns rest := by
  by_cases empty : run = []
  · subst empty
    rfl
  have joined : run.IsChain fun a b => Token.sameKind a b := by
    apply List.Pairwise.isChain
    rw [List.pairwise_iff_forall_sublist]
    intro a b pair
    have ha := kinds a (pair.subset List.mem_cons_self)
    have hb := kinds b (pair.subset (List.mem_cons_of_mem _ List.mem_cons_self))
    simp [Token.sameKind, ha, hb]
  -- the run ends where the kind of the tokens changes
  have apart : ∀ a ∈ run.getLast?, ∀ b ∈ rest.head?, Token.sameKind a b = false := by
    intro a ha b hb
    simp [Token.sameKind, kinds a (List.mem_of_getLast? ha), ends b hb]
  rw [decodeRuns, List.splitBy_append apart, List.splitBy_of_isChain empty joined,
    List.singleton_append, List.flatMap_cons, ← decodeRuns]

/-- One run is read as a whole. -/
theorem decodeRuns_eq_decodeRun {kind : Bool} {run : List Token}
    (kinds : ∀ t ∈ run, t.isUnit = kind) : decodeRuns run = decodeRun run := by
  have whole := @decodeRuns_append kind run [] kinds (by simp)
  rw [List.append_nil] at whole
  exact whole.trans (List.append_nil _)

/-- A run without code units is read as UTF-8. -/
theorem decodeRun_octets {run : List Token} (kinds : ∀ t ∈ run, t.isUnit = false) :
    decodeRun run = Utf8.decode (run.flatMap Token.octets) := by
  cases run with
  | nil => rfl
  | cons t run => rw [decodeRun, if_neg (by simp [kinds t List.mem_cons_self])]

/-- A run of code units is read as UTF-16. -/
theorem decodeRun_units (units : List Nat) :
    decodeRun (units.map Token.unit) = Utf16.decode units := by
  have kinds : (units.map Token.unit).all Token.isUnit := by simp [Token.isUnit]
  have values : (units.map Token.unit).filterMap Token.unit? = units := by
    rw [List.filterMap_map]
    exact List.filterMap_some
  rw [decodeRun, if_pos kinds, values]

/-- Tokens begin with a run that holds no code units and does not go on. -/
theorem exists_run (tokens : List Token) :
    ∃ run rest, tokens = run ++ rest ∧ (∀ t ∈ run, t.isUnit = false) ∧
      ∀ t ∈ rest.head?, t.isUnit = !false := by
  refine ⟨tokens.takeWhile fun t => !t.isUnit, tokens.dropWhile fun t => !t.isUnit,
    List.takeWhile_append_dropWhile.symm, ?_, ?_⟩
  · intro t ht
    simpa using List.all_eq_true.mp List.all_takeWhile t ht
  · intro t ht
    have first := List.head?_dropWhile_not (fun t : Token => !t.isUnit) tokens
    rw [Option.mem_def.1 ht] at first
    simpa using first

/-- A character of ASCII can be read apart from the run that it stands in. -/
theorem decodeRuns_append_ascii {c : Char} (ascii : c.toNat < 0x80) {run : List Token}
    (kinds : ∀ t ∈ run, t.isUnit = false) (rest : List Token) :
    decodeRuns (run ++ .char c :: rest) = decodeRun run ++ c :: decodeRuns rest := by
  have encoded : String.utf8EncodeChar c = [UInt8.ofNat c.toNat] := by
    rw [String.utf8EncodeChar, if_pos (show c.val.toNat ≤ 127 from Nat.le_of_lt_succ ascii)]
    rfl
  have value : (UInt8.ofNat c.toNat).toNat = c.toNat := Utf8.toNat_octet (by omega)
  -- what stands behind the character up to the next code unit is of the same run
  obtain ⟨more, behind, rfl, kinds', ends⟩ := exists_run rest
  have whole : ∀ t ∈ run ++ .char c :: more, t.isUnit = false := by
    intro t ht
    rcases List.mem_append.1 ht with ht | ht
    · exact kinds t ht
    · rcases List.mem_cons.1 ht with rfl | ht
      · rfl
      · exact kinds' t ht
  calc decodeRuns (run ++ .char c :: (more ++ behind))
      = decodeRun (run ++ .char c :: more) ++ decodeRuns behind := by
        rw [← decodeRuns_append whole ends, List.append_assoc, List.cons_append]
    _ = decodeRun run ++ c :: (decodeRun more ++ decodeRuns behind) := by
        rw [decodeRun_octets whole, List.flatMap_append, List.flatMap_cons, Token.octets, encoded,
          List.singleton_append, Utf8.decode_append_ascii (by omega), value, Char.ofNat_toNat,
          decodeRun_octets kinds, decodeRun_octets kinds', List.append_assoc, List.cons_append]
    _ = decodeRun run ++ c :: decodeRuns (more ++ behind) := by
        rw [decodeRuns_append kinds' ends]

/-- A character of ASCII at the front is read by itself. -/
theorem decodeRuns_cons_ascii {c : Char} (ascii : c.toNat < 0x80) (rest : List Token) :
    decodeRuns (.char c :: rest) = c :: decodeRuns rest :=
  @decodeRuns_append_ascii c ascii [] (by simp) rest

/-- Characters that stand for themselves are read as themselves. -/
theorem decodeRuns_map_char (s : List Char) : decodeRuns (s.map Token.char) = s := by
  have kinds : ∀ t ∈ s.map Token.char, t.isUnit = false := by
    intro t ht
    obtain ⟨c, -, rfl⟩ := List.mem_map.1 ht
    rfl
  have octets : (s.map Token.char).flatMap Token.octets = Utf8.encode s := by
    rw [List.flatMap_map]
    rfl
  rw [decodeRuns_eq_decodeRun kinds, decodeRun_octets kinds, octets, Utf8.decode_encode]

/-- A text that names neither code units nor octets is taken apart into its characters. -/
theorem tokens_of_forall_char {s : List Char} (h : ∀ t ∈ tokens s, ∃ c, t = .char c) :
    tokens s = s.map Token.char := by
  fun_induction tokens s with
  | case1 => rfl
  | case2 c s unit rest found _ ih =>
    obtain ⟨_, eq⟩ := h _ List.mem_cons_self
    cases eq
  | case3 c s no_unit octet rest found _ ih =>
    obtain ⟨_, eq⟩ := h _ List.mem_cons_self
    cases eq
  | case4 c s no_unit no_octet ih =>
    rw [ih fun t ht => h t (List.mem_cons_of_mem _ ht), List.map_cons]

end CookieConsent.Text
