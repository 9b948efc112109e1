import CookieConsent.Json.Writer
import CookieConsent.Proofs.Json.Reading

/-!
# JSON values are read back

What is written for a value is one of its spellings, in either layout, so the value is read back from
it. The text of a whole array or object is one sequence of items with the same gap in front of each.

* `spellsString_quote`, `spellsNumber_write`: strings and numbers are spelled.
* `spellsValue_write`: so is a value, at any level.
* `parse?_compact`, `parse?_indented`: the value that a whole text spells.
-/

namespace CookieConsent.Json

/-! ## Strings -/

/-- The form of a character spells the units of the character. -/
theorem spellsUnits_quoteChar (c : Char) {s : List Char} {units : List Nat}
    (h : SpellsUnits s units) :
    SpellsUnits (quoteChar c ++ s) (Text.Utf16.encodeChar c ++ units) := by
  unfold quoteChar
  -- seven characters have a short escape
  iterate 7
    split
    case isTrue eq =>
      subst eq
      exact .short rfl h
  split
  · next control =>
    have units : Text.Utf16.encodeChar c = [c.toNat] := by
      rw [Text.Utf16.encodeChar, if_pos (by omega)]
    have digit {n : Nat} (h : n < 16) : Text.IsHexDigit n n.digitChar := ⟨h, .inl rfl⟩
    rw [units]
    refine .unit ?_ ?_ ?_ ?_ h
    · rw [show c.toNat / 4096 = 0 by omega]
      decide
    · rw [show c.toNat / 256 % 16 = 0 by omega]
      decide
    · rw [show c.toNat / 16 % 16 = c.toNat / 16 by omega]
      exact digit (by omega)
    · exact digit (by omega)
  · next quote backslash _ _ _ _ _ printed =>
    exact .char (Nat.not_lt.1 printed) quote backslash h

/-- A text is written as a spelling of its units, character by character. -/
theorem spellsUnits_flatMap (text : List Char) :
    SpellsUnits (text.flatMap quoteChar) (Text.Utf16.encode text) := by
  induction text with
  | nil => exact .nil
  | cons c text ih => exact spellsUnits_quoteChar c ih

/-- A literal spells its string, also one that has no text. -/
theorem spellsString_quote (text : Option String) : SpellsString (quote text) text := by
  cases text with
  | some text =>
    refine (spellsUnits_flatMap text.toList).spellsString ?_
    rw [Text.Utf16.decode?_encode, Option.map_some, String.ofList_toList]
  | none =>
    have spelled : SpellsUnits ['\\', 'u', 'd', '8', '0', '0'] [0xD800] :=
      .unit (by decide) (by decide) (by decide) (by decide) .nil
    exact spelled.spellsString rfl

/-! ## Numbers -/

/-- The text of a fraction, with its point. -/
def Number.fractionText (n : Number) : List Char :=
  if n.fraction = [] then [] else '.' :: n.fraction.map fun d => d.val.digitChar

/-- The text of an exponent, with its letter. -/
def Number.exponentText (n : Number) : List Char :=
  match n.exponent with
  | none => []
  | some (.ofNat e) => 'e' :: Nat.toDigits 10 e
  | some (.negSucc e) => 'e' :: '-' :: Nat.toDigits 10 (e + 1)

theorem Number.write_eq (n : Number) :
    n.write = (if n.negative then ['-'] else []) ++ Nat.toDigits 10 n.whole ++ n.fractionText ++
      n.exponentText := rfl

theorem isDigit_of_mem_toDigits {n : Nat} {c : Char} (h : c ∈ Nat.toDigits 10 n) : c.isDigit :=
  Nat.isDigit_of_mem_toDigits (by decide) (by decide) h

/-- A number is written in digits, of which there is at least one. -/
theorem isDigits_toDigits (n : Nat) : IsDigits (Nat.toDigits 10 n) :=
  ⟨Nat.toDigits_ne_nil, fun _ mem => isDigit_of_mem_toDigits mem⟩

/-- The digits of a number have no leading zeros. -/
theorem head?_toDigits {n : Nat} (h : n ≠ 0) : (Nat.toDigits 10 n).head? ≠ some '0' := by
  induction n using Nat.strongRecOn with
  | ind n ih =>
    by_cases small : n < 10
    · have all : ∀ n < 10, n ≠ 0 → some n.digitChar ≠ some '0' := by decide
      rw [Nat.toDigits_of_lt_base small]
      exact all n small h
    -- the first digit of a longer number is that of the number without its last digit
    · have first := ih (n / 10) (by omega) (by omega)
      obtain ⟨d, ds, digits⟩ := List.exists_cons_of_ne_nil (Nat.toDigits_ne_nil (n := n / 10))
      rw [digits] at first
      rw [Nat.toDigits_of_base_le (by decide) (by omega), digits]
      exact first

/-- A whole part is written without leading zeros. -/
theorem spellsWhole_toDigits (n : Nat) : SpellsWhole (Nat.toDigits 10 n) n := by
  by_cases zero : n = 0
  · rw [zero, Nat.toDigits_zero]
    exact .zero
  · have spelled := SpellsWhole.digits (isDigits_toDigits n) (head?_toDigits zero)
    rwa [Nat.ofDigitChars_toDigits (by decide) (by decide)] at spelled

/-- An exponent is written in lower case, with a sign if it is negative. -/
theorem spellsExponent_text (n : Number) : SpellsExponent n.exponentText n.exponent := by
  have bare (e : Nat) : SpellsPower (Nat.toDigits 10 e) (e : Int) := by
    have spelled := SpellsPower.bare (isDigits_toDigits e)
    rwa [Nat.ofDigitChars_toDigits (by decide) (by decide)] at spelled
  have minus (e : Nat) : SpellsPower ('-' :: Nat.toDigits 10 e) (-(e : Int)) := by
    have spelled := SpellsPower.minus (isDigits_toDigits e)
    rwa [Nat.ofDigitChars_toDigits (by decide) (by decide)] at spelled
  unfold Number.exponentText
  split
  · next eq => exact eq ▸ .absent
  · next e eq => exact eq ▸ .lower (bare e)
  · next e eq => exact eq ▸ .lower (minus (e + 1))

/-- What is written for a number spells it. -/
theorem spellsNumber_write (n : Number) : SpellsNumber n.write n := by
  rw [Number.write_eq, List.append_assoc, List.append_assoc]
  refine .parts ?_ (spellsWhole_toDigits n.whole) ?_ (spellsExponent_text n)
  · cases n.negative with
    | true => exact .present
    | false => exact .absent
  · unfold Number.fractionText
    split
    · next empty => exact empty ▸ .absent
    · next filled => exact .present filled

/-! ## Sequences -/

/-- The text of the items behind the first one, each with a comma and a gap in front. -/
def others {α : Type} (gap : List Char) (text : α → List Char) (items : List α) : List Char :=
  items.flatMap fun x => ',' :: gap ++ text x

/-- Items in a form each are spelled with the same gap in front of each. -/
theorem separated_others {α : Type} {form : List Char → α → Prop} {gap last : List Char}
    {text : α → List Char} (hgap : IsGap gap) (hlast : IsGap last) {x : α} {items : List α}
    (h : ∀ y ∈ x :: items, form (text y) y) :
    Separated (Spaced form) (gap ++ (text x ++ (others gap text items ++ last))) (x :: items) := by
  induction items generalizing x with
  | nil =>
    have first := Separated.last (Spaced.behind hgap (h x List.mem_cons_self)) hlast
    rwa [List.append_assoc] at first
  | cons y items ih =>
    have rest := ih fun z hz => h z (List.mem_cons_of_mem x hz)
    have first := Separated.more (Spaced.behind hgap (h x List.mem_cons_self)) isGap_nil rest
    simpa [others] using first

/-! ## Values -/

/-- What separates lines is a gap, and so is its absence. -/
theorem isGap_lineBreak (layout : Layout) (level : Nat) : IsGap (layout.lineBreak level) := by
  intro c h
  cases layout with
  | compact => simp [Layout.lineBreak] at h
  | indented =>
    simp only [Layout.lineBreak, List.mem_cons, List.mem_replicate] at h
    rcases h with rfl | ⟨-, rfl⟩ <;> decide

def writeMember (layout : Layout) (level : Nat) (member : Option String × Json) : List Char :=
  quote member.1 ++ layout.colon ++ member.2.write layout level

/-- The items behind the first are written one after another, each behind its comma. -/
theorem writeItems_eq (layout : Layout) (level : Nat) (items : List Json) :
    writeItems layout level items =
      others (layout.lineBreak level) (write layout level) items := by
  induction items with
  | nil => rfl
  | cons item items ih =>
    rw [writeItems, ih]
    simp [others]

/-- So are the members behind the first. -/
theorem writeMembers_eq (layout : Layout) (level : Nat) (members : List (Option String × Json)) :
    writeMembers layout level members =
      others (layout.lineBreak level) (writeMember layout level) members := by
  induction members with
  | nil => rfl
  | cons member members ih =>
    obtain ⟨key, value⟩ := member
    rw [writeMembers, ih]
    simp [others, writeMember]

/-- What is written for a member spells it, when its value is spelled. -/
theorem spellsMember_writeMember {layout : Layout} {level : Nat} {member : Option String × Json}
    (h : SpellsValue (member.2.write layout level) member.2) :
    SpellsMember (Spaced SpellsValue) (writeMember layout level member) member := by
  obtain ⟨space, colon, hspace⟩ : ∃ space, layout.colon = ':' :: space ∧ IsGap space := by
    cases layout with
    | compact => exact ⟨[], rfl, isGap_nil⟩
    | indented => exact ⟨[' '], rfl, fun c hc => by rw [List.mem_singleton.1 hc]; rfl⟩
  have pair := SpellsMember.pair (spellsString_quote member.1) isGap_nil (Spaced.behind hspace h)
  rw [writeMember, colon]
  simpa using pair

mutual

/-- What is written for a value spells it. -/
theorem spellsValue_write (layout : Layout) :
    ∀ (level : Nat) (value : Json), SpellsValue (value.write layout level) value
  | _, .null => .null
  | _, .bool true => .true
  | _, .bool false => .false
  | _, .number n => .number (spellsNumber_write n)
  | _, .string text => .string (spellsString_quote text)
  | _, .array [] => .array (.empty isGap_nil)
  | _, .object [] => .object (.empty isGap_nil)
  | level, .array (item :: items) => by
    have first := spellsValue_write layout (level + 1) item
    have rest := spellsValue_of_mem_items layout (level + 1) items
    -- the items are written one level further in, each on its own line if the layout breaks lines
    have spelled : ∀ v ∈ item :: items, SpellsValue (v.write layout (level + 1)) v :=
      List.forall_mem_cons.2 ⟨first, rest⟩
    have separated := separated_others (isGap_lineBreak layout (level + 1))
      (isGap_lineBreak layout level) spelled
    rw [write, writeItems_eq]
    simpa using SpellsValue.array (.items separated)
  | level, .object ((key, value) :: members) => by
    have first := spellsValue_write layout (level + 1) value
    have rest := spellsValue_of_mem_members layout (level + 1) members
    have spelled : ∀ member ∈ (key, value) :: members,
        SpellsMember (Spaced SpellsValue) (writeMember layout (level + 1) member) member :=
      List.forall_mem_cons.2 ⟨spellsMember_writeMember first,
        fun member mem => spellsMember_writeMember (rest member mem)⟩
    have separated := separated_others (isGap_lineBreak layout (level + 1))
      (isGap_lineBreak layout level) spelled
    rw [write, writeMembers_eq]
    simpa [writeMember] using SpellsValue.object (.items separated)

/-- Every item of a list is written as a spelling of it. -/
theorem spellsValue_of_mem_items (layout : Layout) (level : Nat) :
    ∀ items : List Json, ∀ item ∈ items, SpellsValue (item.write layout level) item
  | [] => nofun
  | item :: items => List.forall_mem_cons.2
    ⟨spellsValue_write layout level item, spellsValue_of_mem_items layout level items⟩

/-- So is the value of every member. -/
theorem spellsValue_of_mem_members (layout : Layout) (level : Nat) :
    ∀ members : List (Option String × Json), ∀ member ∈ members,
      SpellsValue (member.2.write layout level) member.2
  | [] => nofun
  | (_, value) :: members => List.forall_mem_cons.2
    ⟨spellsValue_write layout level value, spellsValue_of_mem_members layout level members⟩

end

/-! ## Whole texts -/

/-- What is written for a value is a text of it, in either layout. -/
theorem isTextOf_write (layout : Layout) (value : Json) : IsTextOf (value.write layout 0) value := by
  have text := IsTextOf.whole (Spaced.of_form (spellsValue_write layout 0 value)) isGap_nil
  rwa [List.append_nil] at text

/-- What is written on one line is a text of its value. -/
theorem isTextOf_of_eq_compact {text : String} {value : Json} (h : text = value.compact) :
    IsTextOf text.toList value := by
  rw [h, compact, String.toList_ofList]
  exact isTextOf_write .compact value

/-- What is written on one line is read back. -/
theorem parse?_compact (value : Json) : parse? value.compact = some value :=
  parse?_eq_some_iff.2 (isTextOf_of_eq_compact rfl)

/-- What is written on many lines is read back. -/
theorem parse?_indented (value : Json) : parse? value.indented = some value := by
  rw [parse?_eq_some_iff, indented, String.toList_ofList]
  exact isTextOf_write .indented value

end CookieConsent.Json
