import CookieConsent.Proofs.Text.Trimming
import CookieConsent.Text.Decimal
import CookieConsent.Text.Reader

/-!
# Readers on what was written

What the readers of single characters, blanks and numbers find at the front of a text that a writer
has put there, with any other text behind it.

* `span_append`, `many_written`: a run of characters or items is read back.
* `number_padded`: a padded number is read back when its digits fit the width.
* `digits_eq`: a run of digits is read as far as it goes.
-/

namespace CookieConsent.Text

namespace Reader

variable {α β : Type}

/-! ## Readers one after another -/

/-- What is read next is read from the rest. -/
theorem bind_run (reader : Reader α) (next : α → Reader β) (s : List Char) :
    (reader >>= next) s = (reader s).bind fun found => next found.1 found.2 := rfl

/-- A reader goes on where the one before it stopped. -/
theorem bind_of_eq {reader : Reader α} {s rest : List Char} {a : α} (h : reader s = some (a, rest))
    (next : α → Reader β) : (reader >>= next) s = next a rest := by
  rw [bind_run, h, Option.bind_some]

/-- Nothing is read behind a reader that fails. -/
theorem bind_of_none {reader : Reader α} {s : List Char} (h : reader s = none)
    (next : α → Reader β) : (reader >>= next) s = none := by
  rw [bind_run, h, Option.bind_none]

/-- What two readers find is found by one behind the other. -/
theorem exists_of_bind {reader : Reader α} {next : α → Reader β} {s rest : List Char} {b : β}
    (h : (reader >>= next) s = some (b, rest)) :
    ∃ a t, reader s = some (a, t) ∧ next a t = some (b, rest) := by
  obtain ⟨⟨a, t⟩, first, second⟩ := Option.bind_eq_some_iff.1 h
  exact ⟨a, t, first, second⟩

theorem pure_run (a : α) (s : List Char) : (pure a : Reader α) s = some (a, s) := rfl

/-- Changing the value that is read leaves the rest alone. -/
theorem map_run (f : α → β) (reader : Reader α) (s : List Char) :
    (f <$> reader) s = (reader s).map fun found => (f found.1, found.2) := by
  change ((reader s).bind fun found => some (f found.1, found.2)) = _
  cases reader s <;> rfl

/-- The value of a whole text is what is found in front of nothing. -/
theorem whole_eq_some_iff {reader : Reader α} {s : List Char} {a : α} :
    whole reader s = some a ↔ reader s = some (a, []) := by
  unfold whole
  split
  · next found => rw [found, Option.some_inj, Option.some_inj, Prod.mk.injEq, and_iff_left rfl]
  · next other => exact iff_of_false nofun (other a)

/-! ## Single characters and blanks -/

theorem char_cons (c : Char) (s : List Char) : char c (c :: s) = some ((), s) := by
  simp [char]

/-- Nothing is skipped where the first character is not to be. -/
theorem skip_of_head {p : Char → Bool} {s : List Char} (h : ∀ c ∈ s.head?, p c = false) :
    skip p s = some ((), s) := by
  cases s with
  | nil => rfl
  | cons c s => simp [skip, h c rfl]

theorem blanks_of_head {s : List Char} (h : ∀ c ∈ s.head?, isBlank c = false) :
    blanks s = some ((), s) := skip_of_head h

/-- One space is passed over where a token follows. -/
theorem blanks_space {s : List Char} (h : ∀ c ∈ s.head?, isBlank c = false) :
    blanks (' ' :: s) = some ((), s) := by
  have next : blanks (' ' :: s) = blanks s := by
    simp [blanks, skip, show isBlank ' ' = true from by decide]
  rw [next, blanks_of_head h]

theorem someBlanks_space {s : List Char} (h : ∀ c ∈ s.head?, isBlank c = false) :
    someBlanks (' ' :: s) = some ((), s) := by
  simp [someBlanks, show isBlank ' ' = true from by decide, trimStart_eq_self h]

/-! ## Runs -/

/-- Reads the characters at the front that satisfy `p`, as far as they go. -/
def span (p : Char → Bool) : Reader (List Char)
  | s => some (s.takeWhile p, s.dropWhile p)

/-- What satisfies `p` is read up to a text that does not go on with it. -/
theorem span_append {p : Char → Bool} {s : List Char} (hs : ∀ c ∈ s, p c) (rest : List Char)
    (hrest : ∀ c ∈ rest.head?, p c = false) : span p (s ++ rest) = some (s, rest) := by
  have stop : rest.takeWhile p = [] ∧ rest.dropWhile p = rest := by
    cases rest with
    | nil => exact ⟨rfl, rfl⟩
    | cons c rest => simp [hrest c rfl]
  rw [span, List.takeWhile_append_of_pos hs, List.dropWhile_append_of_pos hs, stop.1, stop.2,
    List.append_nil]

/-- Reads what `item` reads as long as there is `more` of it. The fuel bounds the number of
items. -/
def manyUpTo (more : List Char → Bool) (item : Reader α) : Nat → Reader (List α)
  | 0 => failure
  | fuel + 1 => fun s =>
    if more s then (do return (← item) :: (← manyUpTo more item fuel)) s else some ([], s)

/-- Reads what `item` reads as long as there is `more` of it. -/
def many (more : List Char → Bool) (item : Reader α) : Reader (List α)
  | s => manyUpTo more item (s.length + 1) s

section Many

variable {more : List Char → Bool} {item : Reader β} {text : α → List Char} {value : α → β}

/-- Items that are written one behind another are read one by one, with fuel for each. -/
theorem manyUpTo_written {items : List α}
    (reads : ∀ a ∈ items, ∀ rest, more (text a ++ rest) = true ∧
      item (text a ++ rest) = some (value a, rest))
    {fuel : Nat} (hfuel : items.length < fuel) {s : List Char} (ends : more s = false) :
    manyUpTo more item fuel (items.flatMap text ++ s) = some (items.map value, s) := by
  induction items generalizing fuel with
  | nil =>
    cases fuel with
    | zero => exact absurd hfuel (Nat.not_lt_zero _)
    | succ fuel =>
      rw [manyUpTo]
      exact if_neg (by simp [ends])
  | cons a items ih =>
    cases fuel with
    | zero => exact absurd hfuel (Nat.not_lt_zero _)
    | succ fuel =>
      obtain ⟨goes_on, first⟩ := reads a List.mem_cons_self (items.flatMap text ++ s)
      have others := ih (fun b hb => reads b (List.mem_cons_of_mem a hb))
        (Nat.lt_of_succ_lt_succ hfuel)
      rw [List.flatMap_cons, List.append_assoc, manyUpTo]
      exact (if_pos goes_on).trans ((bind_of_eq first _).trans (bind_of_eq others _))

/-- Texts that are not empty are no more than the characters in them. -/
theorem length_le_length_flatMap {items : List α} (filled : ∀ a ∈ items, text a ≠ []) :
    items.length ≤ (items.flatMap text).length := by
  induction items with
  | nil => exact Nat.zero_le _
  | cons a items ih =>
    have first := List.length_pos_iff.2 (filled a List.mem_cons_self)
    have others := ih fun b hb => filled b (List.mem_cons_of_mem a hb)
    rw [List.flatMap_cons, List.length_append, List.length_cons]
    omega

/-- Items are read back when each of them is read in front of any text, and when nothing that looks
like one more of them stands behind the last one. -/
theorem many_written {items : List α}
    (reads : ∀ a ∈ items, ∀ rest, more (text a ++ rest) = true ∧
      item (text a ++ rest) = some (value a, rest))
    (filled : ∀ a ∈ items, text a ≠ []) {s : List Char} (ends : more s = false) :
    many more item (items.flatMap text ++ s) = some (items.map value, s) := by
  have long := length_le_length_flatMap filled
  exact manyUpTo_written reads (by rw [List.length_append]; omega) ends

end Many

/-! ## Numbers -/

/-- Digits are read as far as they go. -/
theorem takeWhile_isDigit {ds s : List Char} (hds : ∀ c ∈ ds, c.isDigit)
    (hs : ∀ c ∈ s.head?, c.isDigit = false) : (ds ++ s).takeWhile Char.isDigit = ds := by
  rw [List.takeWhile_append_of_pos hds]
  cases s with
  | nil => simp
  | cons c s => simp [hs c rfl]

/-- Digits are read up to the first character that is none. -/
theorem digits_eq {least : Nat} {ds s : List Char} (hds : ∀ c ∈ ds, c.isDigit)
    (hlen : least ≤ ds.length) (hs : ∀ c ∈ s.head?, c.isDigit = false) :
    digits least none (ds ++ s) = some (ds, s) := by
  simp [digits, takeWhile_isDigit hds hs, hlen]

/-- As many digits as are asked for at most are read, whatever stands behind them. -/
theorem digits_most {least most : Nat} {ds s : List Char} (hds : ∀ c ∈ ds, c.isDigit)
    (hlen : ds.length = most) (hleast : least ≤ most) :
    digits least (some most) (ds ++ s) = some (ds, s) := by
  have window : (ds ++ s).take most = ds := by rw [← hlen, List.take_left]
  have all : ds.takeWhile Char.isDigit = ds := by
    have := takeWhile_isDigit hds (s := []) (by simp)
    rwa [List.append_nil] at this
  simp [digits, window, all, hlen, hleast]

/-- A padded number is read back when its digits fit the width. -/
theorem number_padded {least width n : Nat} {s : List Char}
    (h : (Nat.toDigits 10 n).length ≤ width) (hleast : least ≤ width) :
    number least width (Decimal.padded width n ++ s) = some (n, s) := by
  have found := digits_most (s := s) (fun c hc => Decimal.isDigit_of_mem_padded hc)
    (Decimal.length_padded h) hleast
  rw [number, bind_run, found, Option.bind_some, pure_run, Decimal.ofDigitChars_padded]

/-- A number of two digits is read back. -/
theorem number_padded_two {least n : Nat} {s : List Char} (h : n < 100) (hleast : least ≤ 2) :
    number least 2 (Decimal.padded 2 n ++ s) = some (n, s) :=
  number_padded ((Nat.length_toDigits_le_iff (by decide) (by decide)).2 h) hleast

end Reader

namespace Decimal

theorem padded_ne_nil (width n : Nat) : padded width n ≠ [] := by
  have := Nat.toDigits_ne_nil (n := n) (b := 10)
  simp [padded, List.leftpad, this]

/-- The first character of a padded number is a digit. -/
theorem isDigit_of_mem_head?_padded {width n : Nat} {s : List Char} {c : Char}
    (h : c ∈ (padded width n ++ s).head?) : c.isDigit := by
  cases digits : padded width n with
  | nil => exact absurd digits (padded_ne_nil width n)
  | cons d ds =>
    rw [digits, List.cons_append, List.head?_cons, Option.mem_some] at h
    have first : d ∈ padded width n := by simp [digits]
    exact isDigit_of_mem_padded (h ▸ first)

/-- Digits are no blanks. -/
theorem isBlank_of_isDigit {c : Char} (h : c.isDigit) : isBlank c = false := by
  simp only [Char.isDigit, Bool.and_eq_true, decide_eq_true_eq] at h
  have low : 48 ≤ c.toNat := h.1
  have high : c.toNat ≤ 57 := h.2
  simp [isBlank, inRanges, blankRanges]
  omega

/-- No blank stands in front of a padded number. -/
theorem isBlank_of_mem_head?_padded {width n : Nat} {s : List Char} {c : Char}
    (h : c ∈ (padded width n ++ s).head?) : isBlank c = false :=
  isBlank_of_isDigit (isDigit_of_mem_head?_padded h)

/-- A number below 10000 has four digits at most. -/
theorem length_toDigits_le_four {n : Nat} (h : n < 10000) : (Nat.toDigits 10 n).length ≤ 4 :=
  (Nat.length_toDigits_le_iff (by decide) (by decide)).2 h

end Decimal

/-! ## Blanks in front of what was written -/

namespace Reader

theorem blanks_cons {c : Char} (h : isBlank c = false) (s : List Char) :
    blanks (c :: s) = some ((), c :: s) := by
  apply blanks_of_head
  intro d hd
  obtain rfl := Option.some.inj hd
  exact h

/-- A number begins with no blank. -/
theorem blanks_padded (width n : Nat) (s : List Char) :
    blanks (Decimal.padded width n ++ s) = some ((), Decimal.padded width n ++ s) := by
  apply blanks_of_head
  intro c hc
  exact Decimal.isBlank_of_mem_head?_padded hc

theorem blanks_space_padded (width n : Nat) (s : List Char) :
    blanks (' ' :: (Decimal.padded width n ++ s)) = some ((), Decimal.padded width n ++ s) := by
  apply blanks_space
  intro c hc
  exact Decimal.isBlank_of_mem_head?_padded hc

theorem someBlanks_space_padded (width n : Nat) (s : List Char) :
    someBlanks (' ' :: (Decimal.padded width n ++ s)) = some ((), Decimal.padded width n ++ s) := by
  apply someBlanks_space
  intro c hc
  exact Decimal.isBlank_of_mem_head?_padded hc

end Reader

end CookieConsent.Text
