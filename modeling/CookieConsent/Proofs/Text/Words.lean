import CookieConsent.Proofs.Text.Trimming

/-!
# What words are

The parts of a split text hold none of the characters at which it was split; so the words of a text
hold no blanks, and a text that holds none is its own only word.

* `eq_false_of_mem_splitOnP`, `not_mem_of_mem_splitOn`: the characters of the parts.
* `words_eq_singleton`: a text of one word.
-/

namespace CookieConsent.Text

/-- The parts of a split text do not hold the characters at which it was split. -/
theorem eq_false_of_mem_splitOnP {p : Char → Bool} {s part : List Char} (h : part ∈ s.splitOnP p)
    {c : Char} (hc : c ∈ part) : p c = false := by
  induction s generalizing part with
  | nil =>
    rw [List.splitOnP_nil, List.mem_singleton] at h
    exact absurd (h ▸ hc) List.not_mem_nil
  | cons d s ih =>
    rw [List.splitOnP_cons_eq_if_modifyHead] at h
    split at h
    · rcases List.mem_cons.1 h with rfl | h
      · exact absurd hc List.not_mem_nil
      · exact ih h hc
    · next plain =>
      cases parts : s.splitOnP p with
      | nil => exact absurd parts (List.splitOnP_ne_nil p s)
      | cons first rest =>
        rw [parts, List.modifyHead_cons] at h
        rcases List.mem_cons.1 h with rfl | h
        · rcases List.mem_cons.1 hc with rfl | hc
          · simpa using plain
          · exact ih (parts ▸ List.mem_cons_self) hc
        · exact ih (parts ▸ List.mem_cons_of_mem first h) hc

/-- A part does not hold the character at which the text was split. -/
theorem not_mem_of_mem_splitOn {c : Char} {s part : List Char} (h : part ∈ s.splitOn c) :
    c ∉ part := by
  rw [List.splitOn_eq_splitOnP] at h
  intro mem
  exact absurd (eq_false_of_mem_splitOnP h mem) (by simp)

/-- A word holds no blanks. -/
theorem isBlank_of_mem_words {s word : List Char} (h : word ∈ words s) {c : Char} (hc : c ∈ word) :
    isBlank c = false :=
  eq_false_of_mem_splitOnP (List.mem_filter.1 h).1 hc

/-- A text without blanks is its own only word. -/
theorem words_eq_singleton {s : List Char} (ne : s ≠ []) (h : ∀ c ∈ s, isBlank c = false) :
    words s = [s] := by
  rw [words, List.splitOnP_eq_singleton h]
  simp [ne]

end CookieConsent.Text
