import CookieConsent.Proofs.Text.Replacing
import CookieConsent.Proofs.Text.Tokens

/-!
# Escaped values are read in one pass

An escaped value is read in rounds. Each of them looks for the next `%u`, reads what stands before
it, and then the run of code units that begins there, or the `%u` itself if none does. The same is
found in one pass, which takes the text apart into tokens and reads their runs.

The text is cut by octets, `%u` being two of them and `%uXXXX` six. No cut falls inside a character,
and every round leaves less of the text than it found.

* `tokens_beforeUnits`: what stands before the next `%u` is taken apart by itself.
* `exists_round`: what one round does.
* `rounds?_eq`, `unescapeChars_eq_decodeRuns`: what all rounds do.
* `isRunReading_iff`: the one text that a run says, with U+FFFD for what is no character.
-/

namespace CookieConsent.Text

/-! ## Rounds with their cuts checked -/

/-- The text behind the first `n` octets of a text, if a character ends there. -/
def behindOctets? : Nat → List Char → Option (List Char)
  | 0, s => some s
  | _ + 1, [] => none
  | n + 1, c :: s => if c.utf8Size ≤ n + 1 then behindOctets? (n + 1 - c.utf8Size) s else none

/-- The code units that a text names one after another at its start, and what follows when six
octets are cut off for each. -/
def cutUnits? (s : List Char) : Option (List Nat × List Char) :=
  match unit? s with
  | none => some ([], s)
  | some (unit, _) =>
    match behindOctets? 6 s with
    | none => none
    | some rest =>
      if rest.length < s.length then
        (cutUnits? rest).map fun found => (unit :: found.1, found.2)
      else none
termination_by s.length

/-- One round of reading: the text that it finds, and what it leaves to the next round. Where no
code unit is named behind the next `%u`, the `%u` itself is cut off. -/
def round? (s : List Char) : Option (List Char × List Char) := do
  let plain := Utf8.decode (percentDecode (beforeUnits s).1)
  let (named, rest) ← cutUnits? (beforeUnits s).2
  if named = [] then
    let rest ← behindOctets? 2 (beforeUnits s).2
    return (plain ++ ['%', 'u'], rest)
  else return (plain ++ Utf16.decode named, rest)

/-- What the rounds of reading find, as long as there is a `%u`, and what is read behind the last
one. Reading fails if a cut falls inside a character, or if a round leaves no less than it found. -/
def rounds? (s : List Char) : Option (List Char) :=
  if (beforeUnits s).2 = [] then some (Utf8.decode (percentDecode s))
  else
    match round? s with
    | none => none
    | some (read, rest) =>
      if rest.length < s.length then (rounds? rest).map (read ++ ·) else none
termination_by s.length

/-! ## What stands before a unit -/

/-- A character that begins no octet is read as itself. -/
theorem percentDecode_of_char {c : Char} {s : List Char} (no_octet : octet? (c :: s) = none) :
    percentDecode (c :: s) = String.utf8EncodeChar c ++ percentDecode s := by
  -- only behind a `%` can an octet be named
  by_cases h : c = '%'
  · subst h
    match s with
    | [] => rfl
    | [a] => rfl
    | a :: b :: s =>
      rw [percentDecode]
      split
      · next high low hhigh hlow => simp [octet?, hhigh, hlow] at no_octet
      · rfl
  · exact percentDecode_cons h s

/-- A text that names no octet does not come to name one when its end is cut off. -/
theorem octet?_eq_none_of_append {s tail : List Char} (h : octet? (s ++ tail) = none) :
    octet? s = none := by
  rw [Option.eq_none_iff_forall_ne_some] at h ⊢
  rintro ⟨octet, rest⟩ found
  obtain ⟨front, spelled, rfl⟩ := octet?_eq_some_iff.1 found
  exact h (octet, rest ++ tail) (octet?_eq_some_iff.2 ⟨front, spelled, List.append_assoc ..⟩)

/-- What stands before the next `%u` is taken apart by itself. Its tokens are no code units, and
stand for the octets that are read in it. -/
theorem tokens_beforeUnits (s : List Char) :
    ∃ front, tokens s = front ++ tokens (beforeUnits s).2 ∧ (∀ t ∈ front, t.isUnit = false) ∧
      front.flatMap Token.octets = percentDecode (beforeUnits s).1 := by
  have nothing {s : List Char} (h : beforeUnits s = ([], s)) :
      ∃ front, tokens s = front ++ tokens (beforeUnits s).2 ∧ (∀ t ∈ front, t.isUnit = false) ∧
        front.flatMap Token.octets = percentDecode (beforeUnits s).1 :=
    ⟨[], by rw [h, List.nil_append], by simp, by rw [h, percentDecode]; rfl⟩
  -- induction on the length, as an octet takes three characters off at once
  induction h : s.length using Nat.strongRecOn generalizing s with
  | ind n ih =>
    subst h
    cases s with
    | nil => exact nothing rfl
    | cons c s =>
      -- a `%u` ends the part in any case, even where no unit is spelled
      by_cases begins : c = '%' ∧ s.head? = some 'u'
      · exact nothing (by rw [beforeUnits, if_pos begins])
      have no_unit : unit? (c :: s) = none := by
        rw [Option.eq_none_iff_forall_ne_some]
        intro found h
        obtain ⟨t, h⟩ := exists_eq_of_unit? h
        obtain ⟨rfl, rfl⟩ := List.cons.inj h
        exact begins ⟨rfl, rfl⟩
      have before : beforeUnits (c :: s) = (c :: (beforeUnits s).1, (beforeUnits s).2) := by
        rw [beforeUnits, if_neg begins]
      cases found : octet? (c :: s) with
      | some found_octet =>
        obtain ⟨octet, rest⟩ := found_octet
        obtain ⟨front, tokens_rest, kinds, octets⟩ := ih _ (length_of_octet? found) rest rfl
        obtain ⟨spelling, spelled, whole⟩ := octet?_eq_some_iff.1 found
        refine ⟨.octet octet :: front, ?_, ?_, ?_⟩
        · rw [tokens_of_octet? no_unit found, whole, beforeUnits_octet spelled, tokens_rest,
            List.cons_append]
        · simpa [Token.isUnit] using kinds
        · rw [whole, beforeUnits_octet spelled, percentDecode_octet spelled, ← octets,
            List.flatMap_cons, Token.octets, List.singleton_append]
      | none =>
        obtain ⟨front, tokens_rest, kinds, octets⟩ := ih _ (Nat.lt_succ_self _) s rfl
        refine ⟨.char c :: front, ?_, ?_, ?_⟩
        · rw [tokens_of_char no_unit found, before, tokens_rest, List.cons_append]
        · simpa [Token.isUnit] using kinds
        · have whole : c :: s = (c :: (beforeUnits s).1) ++ (beforeUnits s).2 := by
            rw [List.cons_append, beforeUnits_append]
          rw [whole] at found
          rw [before, percentDecode_of_char (octet?_eq_none_of_append found), ← octets,
            List.flatMap_cons, Token.octets]

/-- Where a text goes on behind what stands before its next `%u`, it goes on with that. -/
theorem exists_eq_of_beforeUnits {s : List Char} (h : (beforeUnits s).2 ≠ []) :
    ∃ t, (beforeUnits s).2 = '%' :: 'u' :: t := by
  induction s with
  | nil => exact absurd rfl h
  | cons c s ih =>
    rw [beforeUnits] at h ⊢
    split
    · next begins =>
      obtain ⟨rfl, next⟩ := begins
      cases s with
      | nil => cases next
      | cons d s =>
        obtain rfl := Option.some.inj next
        exact ⟨s, rfl⟩
    · next other =>
      rw [if_neg other] at h
      exact ih h

/-! ## What one round does -/

/-- Characters of one octet each are cut off by their number. -/
theorem behindOctets?_append (front : List Char) (h : ∀ c ∈ front, c.utf8Size = 1)
    (rest : List Char) : behindOctets? front.length (front ++ rest) = some rest := by
  induction front with
  | nil => cases rest <;> rfl
  | cons c front ih =>
    have one := h c List.mem_cons_self
    rw [List.length_cons, List.cons_append, behindOctets?, one, if_pos (Nat.le_add_left 1 _)]
    exact ih fun d hd => h d (List.mem_cons_of_mem c hd)

/-- Hexadecimal digits are characters of one octet. -/
theorem IsHexDigit.utf8Size {n : Nat} {c : Char} (h : IsHexDigit n c) : c.utf8Size = 1 := by
  have all : ∀ n < 16, n.digitChar.utf8Size = 1 ∧ n.digitChar.toUpper.utf8Size = 1 := by decide
  obtain ⟨lt, rfl | rfl⟩ := h
  · exact (all n lt).1
  · exact (all n lt).2

/-- A code unit is named by six octets. -/
theorem behindOctets?_unit {unit : Nat} {spelling : List Char} (h : SpellsUnit unit spelling)
    (rest : List Char) : behindOctets? 6 (spelling ++ rest) = some rest := by
  obtain ⟨ha, hb, hc, hd⟩ := h
  apply behindOctets?_append ['%', 'u', _, _, _, _]
  simp only [List.mem_cons, List.not_mem_nil, or_false, forall_eq_or_imp, forall_eq, ha.utf8Size,
    hb.utf8Size, hc.utf8Size, hd.utf8Size]
  decide

/-- No cut behind a code unit falls inside a character. -/
theorem cutUnits?_eq (s : List Char) : cutUnits? s = some (units s) := by
  induction h : s.length using Nat.strongRecOn generalizing s with
  | ind n ih =>
    subst h
    rw [cutUnits?]
    cases found : unit? s with
    | none => rw [units_of_none found]
    | some named =>
      obtain ⟨unit, rest⟩ := named
      have shorter := length_of_unit? found
      obtain ⟨spelling, spelled, rfl⟩ := unit?_eq_some_iff.1 found
      simp only [behindOctets?_unit spelled, if_pos shorter, ih _ shorter rest rfl, Option.map_some,
        units_of_some found]

/-- A `%u` that names no code unit is two characters. -/
theorem tokens_of_unnamed {t : List Char} (h : unit? ('%' :: 'u' :: t) = none) :
    tokens ('%' :: 'u' :: t) = .char '%' :: .char 'u' :: tokens t := by
  have no_octet : octet? ('%' :: 'u' :: t) = none := by
    cases t <;> rfl
  rw [tokens_of_char h no_octet, tokens_of_char rfl rfl]

/-- What one round does: the `%u` that it looks for is not split, less of the text is left, and what
is found is what both ways of reading begin with. -/
theorem exists_round {s : List Char} (h : (beforeUnits s).2 ≠ []) :
    ∃ read rest, round? s = some (read, rest) ∧ rest.length < s.length ∧
      unescapeChars s = read ++ unescapeChars rest ∧
      decodeRuns (tokens s) = read ++ decodeRuns (tokens rest) := by
  obtain ⟨front, tokens_s, kinds, octets⟩ := tokens_beforeUnits s
  have plain : decodeRun front = Utf8.decode (percentDecode (beforeUnits s).1) := by
    rw [decodeRun_octets kinds, octets]
  have length : (beforeUnits s).2.length ≤ s.length := by
    have := congrArg List.length (beforeUnits_append s)
    rw [List.length_append] at this
    omega
  rw [round?, cutUnits?_eq, unescapeChars, if_neg h, tokens_s, ← plain]
  obtain ⟨t, tail⟩ := exists_eq_of_beforeUnits h
  rw [tail] at length ⊢
  cases named : unit? ('%' :: 'u' :: t) with
  | none =>
    -- no unit is read: the round takes the two characters as they stand
    have sizes : ∀ c ∈ ['%', 'u'], c.utf8Size = 1 :=
      List.forall_mem_cons.2 ⟨rfl, List.forall_mem_singleton.2 rfl⟩
    have cut : behindOctets? 2 ('%' :: 'u' :: t) = some t :=
      behindOctets?_append ['%', 'u'] sizes t
    refine ⟨decodeRun front ++ ['%', 'u'], t, ?_, ?_, ?_, ?_⟩
    · simp [units_of_none named, cut]
    · rw [List.length_cons, List.length_cons] at length
      omega
    · simp [units_of_none named]
    · -- the two characters are of ASCII, so they can be read apart from the run that they stand in
      rw [tokens_of_unnamed named, decodeRuns_append_ascii (by decide) kinds,
        decodeRuns_cons_ascii (by decide), List.append_assoc]
      rfl
  | some found =>
    -- the round takes the whole run of units at once
    obtain ⟨unit, rest⟩ := found
    obtain ⟨tokens_tail, ends⟩ := tokens_units ('%' :: 'u' :: t)
    have some_named : (units ('%' :: 'u' :: t)).1 ≠ [] := by simp [units_of_some named]
    have shorter := length_units_lt some_named
    generalize units ('%' :: 'u' :: t) = read at tokens_tail ends some_named shorter ⊢
    have goes_on : ∀ u ∈ (read.1.map Token.unit).head?, u.isUnit = !false := by
      intro u hu
      obtain ⟨unit, -, rfl⟩ := List.mem_map.1 (List.mem_of_mem_head? hu)
      rfl
    have kinds_units : ∀ u ∈ read.1.map Token.unit, u.isUnit = true := by
      intro u hu
      obtain ⟨unit, -, rfl⟩ := List.mem_map.1 hu
      rfl
    refine ⟨decodeRun front ++ Utf16.decode read.1, read.2, ?_, by omega, ?_, ?_⟩
    · simp [some_named]
    · simp [some_named]
    · rw [tokens_tail, decodeRuns_append kinds, decodeRuns_append kinds_units, decodeRun_units,
        List.append_assoc]
      · exact fun u hu => isUnit_of_mem_head?_tokens ends hu
      · rw [List.head?_append_of_ne_nil _ (by simpa using some_named)]
        exact goes_on

/-! ## What all rounds do -/

/-- **Rounds and runs come to the same.** -/
theorem unescapeChars_eq_decodeRuns (s : List Char) : unescapeChars s = decodeRuns (tokens s) := by
  induction h : s.length using Nat.strongRecOn generalizing s with
  | ind n ih =>
    subst h
    by_cases last : (beforeUnits s).2 = []
    · obtain ⟨front, tokens_s, kinds, octets⟩ := tokens_beforeUnits s
      rw [unescapeChars, if_pos last, tokens_s, last, tokens_nil, List.append_nil, List.append_nil,
        decodeRuns_eq_decodeRun kinds, decodeRun_octets kinds, octets]
    · obtain ⟨read, rest, -, shorter, rounds, runs⟩ := exists_round last
      rw [rounds, runs, ih _ shorter rest rfl]

/-- The rounds with their cuts checked come to an end, and find what is read. -/
theorem rounds?_eq (s : List Char) : rounds? s = some (unescapeChars s) := by
  induction h : s.length using Nat.strongRecOn generalizing s with
  | ind n ih =>
    subst h
    rw [rounds?]
    by_cases last : (beforeUnits s).2 = []
    · have whole := beforeUnits_append s
      rw [last, List.append_nil] at whole
      rw [if_pos last, unescapeChars, if_pos last, whole, List.append_nil]
    · obtain ⟨read, rest, round, shorter, rounds, -⟩ := exists_round last
      rw [if_neg last, round]
      simp only [if_pos shorter, ih _ shorter rest rfl, Option.map_some, rounds]

/-! ## What the runs say -/

/-- Whether a text is what a run of tokens of one kind says: it is spelled by code units as UTF-16
and by all other tokens as UTF-8, with U+FFFD in place of what is no character. -/
def IsRunReading (run : List Token) (s : List Char) : Prop :=
  if run.all Token.isUnit then Utf16.IsReading (run.filterMap Token.unit?) s
  else Utf8.IsReading (run.flatMap Token.octets) s

/-- Code units are named by four digits, so they have 16 bits. -/
theorem lt_of_unit?_eq_some {s rest : List Char} {unit : Nat} (h : unit? s = some (unit, rest)) :
    unit < 0x10000 := by
  obtain ⟨_, ⟨first, -, -, -⟩, -⟩ := unit?_eq_some_iff.1 h
  have := first.1
  omega

/-- So have those that a text is taken apart into. -/
theorem lt_of_mem_tokens {s : List Char} {unit : Nat} (h : .unit unit ∈ tokens s) :
    unit < 0x10000 := by
  fun_induction tokens s with
  | case1 => cases h
  | case2 c s first rest found _ ih =>
    obtain eq | h := List.mem_cons.1 h
    · obtain rfl := Token.unit.inj eq
      exact lt_of_unit?_eq_some found
    · exact ih h
  | case3 c s _ octet rest _ _ ih =>
    obtain eq | h := List.mem_cons.1 h
    · cases eq
    · exact ih h
  | case4 c s _ _ ih =>
    obtain eq | h := List.mem_cons.1 h
    · cases eq
    · exact ih h

/-- A run says one text, and it is what is decoded. -/
theorem isRunReading_iff {run : List Token} (lt : ∀ unit, .unit unit ∈ run → unit < 0x10000)
    {s : List Char} : IsRunReading run s ↔ decodeRun run = s := by
  unfold IsRunReading decodeRun
  split
  · refine Utf16.isReading_iff fun unit mem => lt unit ?_
    obtain ⟨t, ht, value⟩ := List.mem_filterMap.1 mem
    cases t with
    | unit =>
      obtain rfl := Option.some.inj value
      exact ht
    | octet => cases value
    | char => cases value
  · exact Utf8.isReading_iff

/-- Some runs say one text each. -/
theorem forall₂_isRunReading_iff {runs : List (List Token)}
    (lt : ∀ run ∈ runs, ∀ unit, .unit unit ∈ run → unit < 0x10000) {parts : List (List Char)} :
    List.Forall₂ IsRunReading runs parts ↔ runs.map decodeRun = parts := by
  induction runs generalizing parts with
  | nil => simp [eq_comm]
  | cons run runs ih =>
    cases parts with
    | nil => simp
    | cons s parts =>
      rw [List.forall₂_cons, isRunReading_iff (lt run List.mem_cons_self),
        ih fun other mem => lt other (List.mem_cons_of_mem run mem), List.map_cons, List.cons.injEq]

/-- **Escaped values are read in one pass.** Reading in rounds comes to an end for every text: no
cut falls inside a character, and every round leaves less than it found. It finds what is found by
taking the text apart from left to right and reading each maximal run of code units as UTF-16 and
each maximal run of octets and other characters as UTF-8: the texts of the runs, one behind another,
have U+FFFD where a surrogate has no partner, and once for every invalid part. So a text that names
neither a code unit nor an octet is read as itself, whatever escapes it comes close to; and an
escaped `%` begins no escape with what stands behind it. -/
theorem read_in_one_pass (text : String) :
    rounds? text.toList = some (unescape text).toList ∧
    (unescape text).toList = decodeRuns (tokens text.toList) ∧
    (∀ value : String, unescape text = value ↔
      ∃ parts, List.Forall₂ IsRunReading ((tokens text.toList).splitBy Token.sameKind) parts ∧
        value.toList = parts.flatten) ∧
    ((∀ t ∈ tokens text.toList, ∃ c, t = .char c) → unescape text = text) ∧
    ∀ sign, IsSpelling "%" sign → unescape (sign ++ text) = "%" ++ unescape text := by
  have whole : (unescape text).toList = unescapeChars text.toList := String.toList_ofList
  have runs : (unescape text).toList = decodeRuns (tokens text.toList) :=
    whole ▸ unescapeChars_eq_decodeRuns _
  -- four digits name no number that is too large for a code unit
  have lt : ∀ run ∈ (tokens text.toList).splitBy Token.sameKind, ∀ unit, .unit unit ∈ run →
      unit < 0x10000 := fun run hrun unit hunit => by
    have mem := List.mem_flatten_of_mem hrun hunit
    rw [List.flatten_splitBy] at mem
    exact lt_of_mem_tokens mem
  refine ⟨whole ▸ rounds?_eq _, runs, fun value => ?_, fun plain => ?_,
    fun sign spelled => unescape_append spelled text⟩
  · simp only [forall₂_isRunReading_iff lt, exists_eq_left', ← String.toList_inj, runs, decodeRuns,
      List.flatMap_def]
    exact eq_comm
  · rw [unescape, unescapeChars_eq_decodeRuns, tokens_of_forall_char plain, decodeRuns_map_char,
      String.ofList_toList]

/-- Escapes that are cut short or hold no digits, by themselves and behind an escaped `%` that would
make one more with the digits in front; and a character that is cut short by another, with a
surrogate that has no partner in front of a pair. -/
theorem read_in_one_pass_malformed :
    (tokens "41%u12%zz%".toList = "41%u12%zz%".toList.map Token.char ∧
      unescape "41%u12%zz%" = "41%u12%zz%" ∧
      IsSpelling "%" "%25" ∧ unescape ("%25" ++ "41%u12%zz%") = "%" ++ unescape "41%u12%zz%") ∧
    ((tokens "%E2%82A%uD800%uD834%uDD1E".toList).splitBy Token.sameKind =
        [[.octet 0xE2, .octet 0x82, .char 'A'], [.unit 0xD800, .unit 0xD834, .unit 0xDD1E]] ∧
      IsRunReading [.octet 0xE2, .octet 0x82, .char 'A'] ['\uFFFD', 'A'] ∧
      IsRunReading [.unit 0xD800, .unit 0xD834, .unit 0xDD1E] ['\uFFFD', '𝄞'] ∧
      unescape "%E2%82A%uD800%uD834%uDD1E" = "\uFFFDA\uFFFD𝄞") := by
  have taken_apart : tokens "41%u12%zz%".toList = "41%u12%zz%".toList.map Token.char := by
    decide +kernel
  have plain : ∀ t ∈ tokens "41%u12%zz%".toList, ∃ c, t = .char c := by
    intro t ht
    rw [taken_apart] at ht
    obtain ⟨c, -, rfl⟩ := List.mem_map.1 ht
    exact ⟨c, rfl⟩
  have sign : SpellsChar '%' ['%', '2', '5'] :=
    .octets (.cons (SpellsOctet.escape (by decide) (by decide)) .nil)
  have spelled : IsSpelling "%" "%25" := .cons sign .nil
  have runs : (tokens "%E2%82A%uD800%uD834%uDD1E".toList).splitBy Token.sameKind =
      [[.octet 0xE2, .octet 0x82, .char 'A'], [.unit 0xD800, .unit 0xD834, .unit 0xDD1E]] := by
    decide +kernel
  have cut_short : IsRunReading [.octet 0xE2, .octet 0x82, .char 'A'] ['\uFFFD', 'A'] :=
    Utf8.isReading_iff.2 (by decide +kernel)
  have unpaired : IsRunReading [.unit 0xD800, .unit 0xD834, .unit 0xDD1E] ['\uFFFD', '𝄞'] :=
    (Utf16.isReading_iff (by decide)).2 (by decide +kernel)
  refine ⟨⟨taken_apart, (read_in_one_pass _).2.2.2.1 plain, spelled,
    (read_in_one_pass _).2.2.2.2 _ spelled⟩, runs, cut_short, unpaired, ?_⟩
  refine ((read_in_one_pass _).2.2.1 _).2 ⟨[['\uFFFD', 'A'], ['\uFFFD', '𝄞']], ?_, by decide⟩
  rw [runs]
  exact .cons cut_short (.cons unpaired .nil)

end CookieConsent.Text
