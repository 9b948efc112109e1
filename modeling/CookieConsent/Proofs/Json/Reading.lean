import CookieConsent.Proofs.Json.Leaves

/-!
# JSON texts are read as what they spell

The reader finds a value in a text exactly when the text spells it: no spelling is refused, and
nothing else is taken for a value. Both directions go by induction on the number of brackets that may
be open: a text without its outer brackets is shorter, so the reader, which allows for as many as the
text has characters, never runs out.

* `readSequence_append`, `exists_of_readSequence`: sequences, for items of any form.
* `readValue_append`, `exists_of_readValue`: a value with the gap in front of it.
* `parse?_eq_some_iff`, `eq_of_isTextOf`: whole texts.
-/

namespace CookieConsent.Json

open Text (Reader)
open Text.Reader (bind_of_eq exists_of_bind pure_run map_run)

/-! ## What stands between tokens -/

/-- Skips a gap in front of a token. -/
theorem spaces_gap {gap s : List Char} (hgap : IsGap gap)
    (hs : ∀ c ∈ s.head?, isSpace c = false) : spaces (gap ++ s) = some ((), s) := by
  have rest : s.dropWhile isSpace = s := by
    cases s with
    | nil => rfl
    | cons c s => simp [hs c rfl]
  simp [spaces, Reader.skip, List.dropWhile_append_of_pos hgap, rest]

/-- What is passed over as blanks is a gap. -/
theorem exists_of_spaces {s rest : List Char} (h : spaces s = some ((), rest)) :
    ∃ gap, IsGap gap ∧ s = gap ++ rest := by
  obtain rfl := (Prod.mk.inj (Option.some.inj h)).2
  exact ⟨s.takeWhile isSpace, List.all_eq_true.1 List.all_takeWhile,
    List.takeWhile_append_dropWhile.symm⟩

theorem exists_of_char {c : Char} {s rest : List Char} (h : Reader.char c s = some ((), rest)) :
    s = c :: rest := by
  cases s with
  | nil => cases h
  | cons d s =>
    obtain ⟨rfl, found⟩ := Option.ite_none_right_eq_some.1 h
    rw [(Prod.mk.inj (Option.some.inj found)).2]

theorem exists_of_oneOf {cs s rest : List Char} {c : Char} (h : Reader.oneOf cs s = some (c, rest)) :
    c ∈ cs ∧ s = c :: rest := by
  cases s with
  | nil => cases h
  | cons d s =>
    obtain ⟨mem, h⟩ := Option.ite_none_right_eq_some.1 h
    obtain ⟨rfl, rfl⟩ := Prod.mk.inj (Option.some.inj h)
    exact ⟨by simpa using mem, rfl⟩

/-- A word is read where it stands. -/
theorem exists_of_readWord {word s rest : List Char} (h : readWord word s = some ((), rest)) :
    s = word ++ rest := by
  induction word generalizing s with
  | nil => exact (Prod.mk.inj (Option.some.inj h)).2
  | cons c word ih =>
    obtain ⟨_, behind, found, h⟩ := exists_of_bind h
    rw [exists_of_char found, ih h, List.cons_append]

/-- A text that starts with no blank and no bracket that closes, and so can be told from the end of a
sequence. -/
def StartsToken (s : List Char) : Prop :=
  ∃ c rest, s = c :: rest ∧ isSpace c = false ∧ c ≠ ']' ∧ c ≠ '\x7d'

/-- A token does not begin in the gap before it. -/
theorem StartsToken.isSpace_head {s : List Char} (h : StartsToken s) (rest : List Char) :
    ∀ c ∈ (s ++ rest).head?, isSpace c = false := by
  obtain ⟨c, s, rfl, hc, -⟩ := h
  intro d hd
  obtain rfl := Option.some.inj hd
  exact hc

/-- A gap does not go on with a number. -/
theorem EndsNumber.append_gap {gap s : List Char} (hgap : IsGap gap) (hs : EndsNumber s) :
    EndsNumber (gap ++ s) := by
  cases gap with
  | nil => exact hs
  | cons c gap =>
    have blank := hgap c List.mem_cons_self
    simp only [isSpace, Bool.or_eq_true, decide_eq_true_eq] at blank
    rcases blank with ((rfl | rfl) | rfl) | rfl <;> exact endsNumber_cons _ (by decide)

/-! ## Sequences -/

section Sequences

variable {α : Type} {form : List Char → α → Prop} {item : Reader α} {close : Char}

/-- Items with commas between and a bracket behind are found one by one, when each is found in front
of a text that does not go on with it. -/
theorem readSeparated_append (hclose : close = ']' ∨ close = '\x7d') {bound : Nat}
    (reads : ∀ t a, form t a → t.length ≤ bound → ∀ rest, EndsNumber rest →
      item (t ++ rest) = some (a, rest))
    {s : List Char} {items : List α} (h : Separated form s items) (hs : s.length ≤ bound)
    {fuel : Nat} (hfuel : items.length ≤ fuel) (rest : List Char) :
    readSeparated item close fuel (s ++ close :: rest) = some (items, rest) := by
  induction h generalizing fuel with
  | @last s gap a spelled hgap =>
    obtain ⟨fuel, rfl⟩ := Nat.exists_eq_add_of_le' (show 1 ≤ fuel from hfuel)
    rw [List.length_append] at hs
    have ends : EndsNumber (close :: rest) := by
      rcases hclose with rfl | rfl <;> exact endsNumber_cons _ (by decide)
    have first := reads s a spelled (by omega) _ (ends.append_gap hgap)
    have closed : ∀ c ∈ (close :: rest).head?, isSpace c = false := by
      intro c hc
      obtain rfl := Option.some.inj hc
      rcases hclose with rfl | rfl <;> decide
    have bracket : Reader.oneOf [',', close] (close :: rest) = some (close, rest) := by
      simp [Reader.oneOf]
    rw [List.append_assoc, readSeparated, bind_of_eq first, bind_of_eq (spaces_gap hgap closed),
      bind_of_eq bracket]
    -- the bracket is not a comma, so the reader stops
    rcases hclose with rfl | rfl <;> rfl
  | @more s gap t a as spelled hgap _ ih =>
    obtain ⟨fuel, rfl⟩ := Nat.exists_eq_add_of_le' (Nat.le_trans (Nat.le_add_left 1 _) hfuel)
    rw [List.length_append, List.length_append, List.length_cons] at hs
    have ends : EndsNumber (',' :: (t ++ close :: rest)) := endsNumber_cons _ (by decide)
    have first := reads s a spelled (by omega) _ (ends.append_gap hgap)
    have comma (rest : List Char) : Reader.oneOf [',', close] (',' :: rest) = some (',', rest) := by
      simp [Reader.oneOf]
    have others := ih (by omega) (Nat.le_of_succ_le_succ hfuel)
    rw [List.append_assoc, List.append_assoc, List.cons_append, readSeparated, bind_of_eq first,
      bind_of_eq (spaces_gap hgap (by simp [isSpace])), bind_of_eq (comma _)]
    change (readSeparated item close fuel >>= fun found => pure (a :: found)) _ = _
    rw [bind_of_eq others, pure_run]

/-- Items that are found are spelled, with commas between and a bracket behind. -/
theorem exists_of_readSeparated
    (reads : ∀ s a rest, item s = some (a, rest) → ∃ t, form t a ∧ s = t ++ rest)
    {fuel : Nat} {s rest : List Char} {items : List α}
    (h : readSeparated item close fuel s = some (items, rest)) :
    ∃ t, Separated form t items ∧ s = t ++ close :: rest := by
  -- the reader goes round once for each item, and each round uses up fuel
  induction fuel generalizing s items with
  | zero => cases h
  | succ fuel ih =>
    rw [readSeparated] at h
    obtain ⟨a, s₁, first, h₁⟩ := exists_of_bind h
    obtain ⟨_, s₂, gap, h₂⟩ := exists_of_bind h₁
    obtain ⟨c, s₃, token, h₃⟩ := exists_of_bind h₂
    obtain ⟨t, spelled, rfl⟩ := reads s a s₁ first
    obtain ⟨gap, hgap, rfl⟩ := exists_of_spaces gap
    obtain ⟨mem, rfl⟩ := exists_of_oneOf token
    split at h₃
    · obtain ⟨as, s₄, others, h₄⟩ := exists_of_bind h₃
      obtain ⟨rfl, rfl⟩ := Prod.mk.inj (Option.some.inj h₄)
      obtain ⟨t', spelled', rfl⟩ := ih others
      exact ⟨_, .more spelled hgap spelled', by simp⟩
    · next noComma =>
      obtain ⟨rfl, rfl⟩ := Prod.mk.inj (Option.some.inj h₃)
      obtain rfl : c = close := by
        rcases List.mem_cons.1 mem with comma | mem
        · exact absurd comma noComma
        · exact List.mem_singleton.1 mem
      exact ⟨_, .last spelled hgap, by simp⟩

/-- There are no more items than characters in their text and the bracket behind it. -/
theorem Separated.length_le {s : List Char} {items : List α} (h : Separated form s items) :
    items.length ≤ s.length + 1 := by
  induction h with
  | last => simp
  | more _ _ _ ih =>
    simp only [List.length_cons, List.length_append]
    omega

/-- Items behind gaps start with the token of the first one. -/
theorem Separated.dropWhile_isSpace (starts : ∀ t a, form t a → StartsToken t) {s : List Char}
    {items : List α} (h : Separated (Spaced form) s items) (rest : List Char) :
    ∃ c t, (s ++ rest).dropWhile isSpace = c :: t ∧ c ≠ ']' ∧ c ≠ '\x7d' := by
  have first {s : List Char} {a : α} (h : Spaced form s a) (rest : List Char) :
      ∃ c t, (s ++ rest).dropWhile isSpace = c :: t ∧ c ≠ ']' ∧ c ≠ '\x7d' := by
    obtain ⟨hgap, spelled⟩ := h
    obtain ⟨c, t, rfl, space, brackets⟩ := starts _ _ spelled
    refine ⟨c, t ++ rest, ?_, brackets⟩
    rw [List.append_assoc, List.dropWhile_append_of_pos hgap, List.cons_append,
      List.dropWhile_cons_of_neg (by simp [space])]
  cases h with
  | last spelled | more spelled =>
    rw [List.append_assoc]
    exact first spelled _

/-- A sequence is found in front of the bracket that closes it. -/
theorem readSequence_append (hclose : close = ']' ∨ close = '\x7d')
    (starts : ∀ t a, form t a → StartsToken t) {s : List Char} {items : List α}
    (h : Listed (Spaced form) s items)
    (reads : ∀ t a, Spaced form t a → t.length ≤ s.length → ∀ rest, EndsNumber rest →
      item (t ++ rest) = some (a, rest)) (rest : List Char) :
    readSequence item close (s ++ close :: rest) = some (items, rest) := by
  cases h with
  | empty hgap =>
    have dropped : (s ++ close :: rest).dropWhile isSpace = close :: rest := by
      rw [List.dropWhile_append_of_pos hgap, List.dropWhile_cons_of_neg]
      rcases hclose with rfl | rfl <;> decide
    rw [readSequence, dropped]
    exact if_pos rfl
  | items separated =>
    obtain ⟨c, t, dropped, square, curly⟩ := separated.dropWhile_isSpace starts (close :: rest)
    -- the first character of an item tells the sequence from an empty one
    have notClosed : c ≠ close := by
      rcases hclose with rfl | rfl
      · exact square
      · exact curly
    have fuel : items.length ≤ (s ++ close :: rest).length := by
      have := separated.length_le
      rw [List.length_append, List.length_cons]
      omega
    rw [readSequence, dropped]
    exact (if_neg notClosed).trans
      (readSeparated_append hclose reads separated (Nat.le_refl _) fuel rest)

/-- A sequence that is found is spelled in front of the bracket that closes it. -/
theorem exists_of_readSequence
    (reads : ∀ s a rest, item s = some (a, rest) → ∃ t, form t a ∧ s = t ++ rest)
    {s rest : List Char} {items : List α} (h : readSequence item close s = some (items, rest)) :
    ∃ t, Listed form t items ∧ s = t ++ close :: rest := by
  unfold readSequence at h
  dsimp only at h
  split at h
  · cases h
  · next c t dropped =>
    split at h
    · next closed =>
      obtain ⟨rfl, rfl⟩ := Prod.mk.inj (Option.some.inj h)
      refine ⟨s.takeWhile isSpace, .empty (List.all_eq_true.1 List.all_takeWhile), ?_⟩
      rw [← closed, ← dropped, List.takeWhile_append_dropWhile]
    · obtain ⟨t, separated, eq⟩ := exists_of_readSeparated reads h
      exact ⟨t, .items separated, eq⟩

end Sequences

/-! ## Values -/

/-- A number begins with no blank. -/
theorem isSpace_of_isDigit {c : Char} (h : c.isDigit) : isSpace c = false := by
  rw [Bool.eq_false_iff]
  intro space
  simp only [isSpace, Bool.or_eq_true, decide_eq_true_eq] at space
  rcases space with ((rfl | rfl) | rfl) | rfl <;> cases h

/-- A string begins with its quote. -/
theorem SpellsString.startsToken {s : List Char} {text : Option String} (h : SpellsString s text) :
    StartsToken s := by
  obtain ⟨⟩ := h
  exact ⟨_, _, rfl, by decide⟩

/-- A number begins with its sign or its first digit. -/
theorem SpellsNumber.startsToken {s : List Char} {n : Number} (h : SpellsNumber s n) :
    StartsToken s := by
  obtain ⟨c, t, rfl, digit | rfl⟩ := h.exists_cons
  · refine ⟨c, t, rfl, isSpace_of_isDigit digit, ?_, ?_⟩
    · rintro rfl
      cases digit
    · rintro rfl
      cases digit
  · exact ⟨'-', t, rfl, by decide⟩

/-- A value starts as a value. -/
theorem SpellsValue.startsToken {s : List Char} {value : Json} (h : SpellsValue s value) :
    StartsToken s := by
  cases h with
  | number spelled => exact spelled.startsToken
  | string spelled => exact spelled.startsToken
  | null | true | false | array | object => exact ⟨_, _, rfl, by decide⟩

/-- A member begins with the quote of its key. -/
theorem SpellsMember.startsToken {form : List Char → Json → Prop} {s : List Char}
    {member : Option String × Json} (h : SpellsMember form s member) : StartsToken s := by
  obtain ⟨key, -, -⟩ := h
  obtain ⟨c, t, rfl, first⟩ := key.startsToken
  exact ⟨c, _, rfl, first⟩

/-- A member is found when its value is. -/
theorem readMember_append {form : List Char → Json → Prop} {item : Reader Json} {s rest : List Char}
    {member : Option String × Json} (h : Spaced (SpellsMember form) s member)
    (reads : ∀ t, form t member.2 → t.length ≤ s.length →
      item (t ++ rest) = some (member.2, rest)) :
    readMember item (s ++ rest) = some (member, rest) := by
  obtain @⟨gap, s, _, hgap, spelled⟩ := h
  have token := spelled.startsToken.isSpace_head rest
  obtain @⟨k, gap', v, key, value, hkey, hgap', hvalue⟩ := spelled
  have found := reads v hvalue (by simp only [List.length_append, List.length_cons]; omega)
  have colon : ∀ c ∈ (':' :: (v ++ rest)).head?, isSpace c = false := by simp [isSpace]
  rw [List.append_assoc, readMember, bind_of_eq (spaces_gap hgap token), List.append_assoc,
    List.append_assoc, List.cons_append]
  obtain ⟨t, rfl, text⟩ := readString_append hkey (gap' ++ ':' :: (v ++ rest))
  rw [List.cons_append, bind_of_eq (Reader.char_cons _ _), bind_of_eq text,
    bind_of_eq (spaces_gap hgap' colon), bind_of_eq (Reader.char_cons _ _), bind_of_eq found,
    pure_run]

/-- A member that is found is spelled. -/
theorem exists_of_readMember {form : List Char → Json → Prop} {item : Reader Json}
    (reads : ∀ s value rest, item s = some (value, rest) → ∃ t, form t value ∧ s = t ++ rest)
    {s rest : List Char} {member : Option String × Json}
    (h : readMember item s = some (member, rest)) :
    ∃ t, Spaced (SpellsMember form) t member ∧ s = t ++ rest := by
  obtain ⟨_, s₁, gap, h⟩ := exists_of_bind h
  obtain ⟨_, s₂, quote, h⟩ := exists_of_bind h
  obtain ⟨key, s₃, text, h⟩ := exists_of_bind h
  obtain ⟨_, s₄, gap', h⟩ := exists_of_bind h
  obtain ⟨_, s₅, colon, h⟩ := exists_of_bind h
  obtain ⟨value, s₆, found, h⟩ := exists_of_bind h
  obtain ⟨rfl, rfl⟩ := Prod.mk.inj (Option.some.inj h)
  obtain ⟨gap, hgap, rfl⟩ := exists_of_spaces gap
  obtain rfl := exists_of_char quote
  obtain ⟨k, hkey, rfl⟩ := exists_of_readString text
  obtain ⟨gap', hgap', rfl⟩ := exists_of_spaces gap'
  obtain rfl := exists_of_char colon
  obtain ⟨v, hvalue, rfl⟩ := reads _ _ _ found
  exact ⟨_, .behind hgap (.pair hkey hgap' hvalue), by simp⟩

/-- Reads a value without a gap in front of it, in which no more than `depth` brackets are open at a
time. -/
def readBare (depth : Nat) : Reader Json
  | '"' :: s => (Json.string <$> readString) s
  | '[' :: s => (Json.array <$> readSequence (readValue depth) ']') s
  | '\x7b' :: s => (Json.object <$> readSequence (readMember (readValue depth)) '\x7d') s
  | 'n' :: s => ((fun _ => Json.null) <$> readWord ['u', 'l', 'l']) s
  | 't' :: s => ((fun _ => Json.bool true) <$> readWord ['r', 'u', 'e']) s
  | 'f' :: s => ((fun _ => Json.bool false) <$> readWord ['a', 'l', 's', 'e']) s
  | s => (Json.number <$> readNumber) s

/-- A value is read behind the gap in front of it. -/
theorem readValue_succ (depth : Nat) :
    readValue (depth + 1) = (do spaces; readBare depth) := by
  rw [readValue]
  rfl

/-- A number is read by its first character. -/
theorem readBare_number {s : List Char} {n : Number} (h : SpellsNumber s n) (depth : Nat)
    {rest : List Char} (hrest : EndsNumber rest) :
    readBare depth (s ++ rest) = some (.number n, rest) := by
  have number : (Json.number <$> readNumber) (s ++ rest) = some (.number n, rest) := by
    rw [map_run, readNumber_append h hrest, Option.map_some]
  obtain ⟨c, t, rfl, first⟩ := h.exists_cons
  unfold readBare
  -- no other kind of value starts with a digit or a minus sign
  split
  case h_7 => exact number
  all_goals
    next heq =>
      obtain ⟨rfl, -⟩ := List.cons.inj heq
      exact absurd first (by decide)

/-- A value is found behind its gap and in front of a text that does not go on with it, when the
reader allows for more open brackets than the text has characters. -/
theorem readValue_append {fuel : Nat} {s : List Char} {value : Json}
    (h : Spaced SpellsValue s value) (hfuel : s.length < fuel) {rest : List Char}
    (hrest : EndsNumber rest) : readValue fuel (s ++ rest) = some (value, rest) := by
  -- induction on the fuel: what stands in brackets is shorter than the text with them
  induction fuel generalizing s value rest with
  | zero => exact absurd hfuel (Nat.not_lt_zero _)
  | succ fuel ih =>
    obtain @⟨gap, s, _, hgap, spelled⟩ := h
    rw [List.length_append] at hfuel
    have skip := spaces_gap hgap (spelled.startsToken.isSpace_head rest)
    rw [List.append_assoc, readValue_succ, bind_of_eq skip]
    cases spelled with
    | null | true | false => rfl
    | number spelled => exact readBare_number spelled fuel hrest
    | string spelled =>
      obtain ⟨t, rfl, found⟩ := readString_append spelled rest
      rw [List.cons_append, readBare, map_run, found, Option.map_some]
    | @array s items listed =>
      rw [List.length_cons, List.length_append] at hfuel
      have reads (t : List Char) (a : Json) (spelled : Spaced SpellsValue t a)
          (ht : t.length ≤ s.length) (rest : List Char) (hrest : EndsNumber rest) :
          readValue fuel (t ++ rest) = some (a, rest) := ih spelled (by omega) hrest
      have found := readSequence_append (.inl rfl) (fun _ _ h => h.startsToken) listed reads rest
      rw [List.cons_append, List.append_assoc, List.singleton_append, readBare, map_run, found,
        Option.map_some]
    | @object s members listed =>
      rw [List.length_cons, List.length_append] at hfuel
      have reads (t : List Char) (m : Option String × Json)
          (spelled : Spaced (SpellsMember (Spaced SpellsValue)) t m) (ht : t.length ≤ s.length)
          (rest : List Char) (hrest : EndsNumber rest) :
          readMember (readValue fuel) (t ++ rest) = some (m, rest) :=
        readMember_append spelled fun u h hu => ih h (by omega) hrest
      have found := readSequence_append (.inr rfl) (fun _ _ h => h.startsToken) listed reads rest
      rw [List.cons_append, List.append_assoc, List.singleton_append, readBare, map_run, found,
        Option.map_some]

/-- A value that is found without a gap is spelled, when those inside it are. -/
theorem exists_of_readBare {depth : Nat}
    (reads : ∀ s value rest, readValue depth s = some (value, rest) →
      ∃ t, Spaced SpellsValue t value ∧ s = t ++ rest)
    {s rest : List Char} {value : Json} (h : readBare depth s = some (value, rest)) :
    ∃ t, SpellsValue t value ∧ s = t ++ rest := by
  unfold readBare at h
  split at h
  -- the first character tells the kind of the value, and the rest is read as one of this kind
  all_goals
    rw [map_run] at h
    obtain ⟨⟨a, behind⟩, found, h⟩ := Option.map_eq_some_iff.1 h
    obtain ⟨rfl, rfl⟩ := Prod.mk.inj h
  · obtain ⟨t, spelled, rfl⟩ := exists_of_readString found
    exact ⟨_, .string spelled, rfl⟩
  · obtain ⟨t, listed, rfl⟩ := exists_of_readSequence reads found
    exact ⟨_, .array listed, by simp⟩
  · obtain ⟨t, listed, rfl⟩ := exists_of_readSequence
      (fun s member rest h => exists_of_readMember reads h) found
    exact ⟨_, .object listed, by simp⟩
  · rw [exists_of_readWord found]
    exact ⟨_, .null, rfl⟩
  · rw [exists_of_readWord found]
    exact ⟨_, .true, rfl⟩
  · rw [exists_of_readWord found]
    exact ⟨_, .false, rfl⟩
  · obtain ⟨t, spelled, rfl⟩ := exists_of_readNumber found
    exact ⟨_, .number spelled, rfl⟩

/-- A value that is found is spelled behind its gap. -/
theorem exists_of_readValue {fuel : Nat} {s rest : List Char} {value : Json}
    (h : readValue fuel s = some (value, rest)) :
    ∃ t, Spaced SpellsValue t value ∧ s = t ++ rest := by
  -- induction on the fuel, in which the reader recurs, for every kind of value at once
  induction fuel generalizing s value rest with
  | zero => cases h
  | succ fuel ih =>
    rw [readValue_succ] at h
    obtain ⟨_, behind, skipped, found⟩ := exists_of_bind h
    obtain ⟨gap, hgap, rfl⟩ := exists_of_spaces skipped
    obtain ⟨t, spelled, rfl⟩ := exists_of_readBare (fun _ _ _ h => ih h) found
    exact ⟨gap ++ t, .behind hgap spelled, by simp⟩

/-! ## Whole texts -/

/-- **A text is read as what it spells.** The value that a text stands for is the one that the text
spells by the grammar, and a text that spells none is refused. -/
theorem parse?_eq_some_iff {text : String} {value : Json} :
    parse? text = some value ↔ IsTextOf text.toList value := by
  rw [parse?, Reader.whole_eq_some_iff]
  constructor
  · intro h
    obtain ⟨found, behind, first, h₁⟩ := exists_of_bind h
    obtain ⟨_, last, skipped, h₂⟩ := exists_of_bind h₁
    obtain ⟨rfl, rfl⟩ := Prod.mk.inj (Option.some.inj h₂)
    obtain ⟨s, spelled, text⟩ := exists_of_readValue first
    obtain ⟨gap, hgap, rfl⟩ := exists_of_spaces skipped
    rw [text, List.append_nil]
    exact .whole spelled hgap
  · intro h
    generalize text.toList = s at h
    obtain @⟨s, gap, _, spelled, hgap⟩ := h
    have ends := endsNumber_nil.append_gap hgap
    rw [List.append_nil] at ends
    -- a text has fewer open brackets than characters, so the fuel does not run out
    have enough : s.length < (s ++ gap).length + 1 := by
      rw [List.length_append]
      omega
    have found := readValue_append spelled enough ends
    have skip := spaces_gap hgap (s := []) (by simp)
    rw [List.append_nil] at skip
    rw [bind_of_eq found, bind_of_eq skip, pure_run]

/-- The grammar is unambiguous. -/
theorem eq_of_isTextOf {text : String} {value value' : Json} (h : IsTextOf text.toList value)
    (h' : IsTextOf text.toList value') : value = value' :=
  Option.some.inj ((parse?_eq_some_iff.2 h).symm.trans (parse?_eq_some_iff.2 h'))

end CookieConsent.Json
