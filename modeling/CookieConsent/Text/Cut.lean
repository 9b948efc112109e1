/-!
# Cutting a text in two

A text is cut at the first occurrence of a character, or after a known beginning.

* `cut_eq_some`: the two parts of a cut, and the character between them, are the whole text, and
  the first part does not hold the character.
* `afterBeginning_eq_some`: a beginning and what stands behind it are the whole text.
-/

namespace CookieConsent.Text

/-- The parts of `s` before and after the first `c`, if there is one. -/
def cut (c : Char) : List Char → Option (List Char × List Char)
  | [] => none
  | d :: s => if d = c then some ([], s) else (cut c s).map fun parts => (d :: parts.1, parts.2)

/-- A text is cut exactly where its first `c` stands. -/
theorem cut_eq_some {c : Char} {s before after : List Char} :
    cut c s = some (before, after) ↔ s = before ++ c :: after ∧ c ∉ before := by
  induction s generalizing before with
  | nil => simp [cut]
  | cons d s ih =>
    by_cases h : d = c
    · subst h
      cases before <;> simp_all [cut]
    · rw [cut, if_neg h, Option.map_eq_some_iff]
      constructor
      · rintro ⟨⟨a, b⟩, hab, heq⟩
        obtain ⟨rfl, rfl⟩ := Prod.mk.injEq .. ▸ heq
        obtain ⟨rfl, ha⟩ := ih.1 hab
        simp [ha, Ne.symm h]
      · rintro ⟨heq, hmem⟩
        cases before with
        | nil => simp at heq; exact absurd heq.1 h
        | cons e before =>
          simp at heq hmem
          obtain ⟨rfl, rfl⟩ := heq
          exact ⟨(before, after), ih.2 ⟨rfl, hmem.2⟩, rfl⟩

/-- A text without `c` cannot be cut at it. -/
theorem cut_eq_none {c : Char} {s : List Char} : cut c s = none ↔ c ∉ s := by
  induction s with
  | nil => simp [cut]
  | cons d s ih =>
    by_cases h : d = c
    · simp [cut, h]
    · simp [cut, h, ih, Ne.symm h]

/-- What stands in a text behind `beginning`, if it begins so. -/
def afterBeginning : List Char → List Char → Option (List Char)
  | [], s => some s
  | c :: beginning, d :: s => if c = d then afterBeginning beginning s else none
  | _ :: _, [] => none

/-- What is found behind a beginning is the rest of the text, and it is found in every text that
begins so. -/
theorem afterBeginning_eq_some {beginning s rest : List Char} :
    afterBeginning beginning s = some rest ↔ s = beginning ++ rest := by
  induction beginning generalizing s with
  | nil => simp [afterBeginning]
  | cons c beginning ih =>
    cases s with
    | nil => simp [afterBeginning]
    | cons d s =>
      by_cases h : c = d
      · simp [afterBeginning, h, ih]
      · simp [afterBeginning, h, Ne.symm h]

end CookieConsent.Text
