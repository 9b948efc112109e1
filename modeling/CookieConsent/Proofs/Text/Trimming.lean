import CookieConsent.Text.Blank

/-!
# What trimming leaves

A text is trimmed when no blank stands at either end; trimming changes such a text no more, and
makes one of any other.

* `trim_eq_self`, `isTrimmed_trim`: trimmed texts are left as they are, and no other text is left.
* `trim_trim`: trimming twice is trimming once.
-/

namespace CookieConsent.Text

/-- No blank stands at either end of the text. -/
def IsTrimmed (s : List Char) : Prop :=
  (∀ c ∈ s.head?, isBlank c = false) ∧ ∀ c ∈ s.getLast?, isBlank c = false

/-- A text is trimmed when none of its characters is blank. -/
theorem isTrimmed_of_forall {s : List Char} (h : ∀ c ∈ s, isBlank c = false) : IsTrimmed s :=
  ⟨fun c hc => h c (List.mem_of_mem_head? hc), fun c hc => h c (List.mem_of_getLast? hc)⟩

/-- What is left of a text without the blanks in front does not start with one. -/
theorem isBlank_of_mem_head?_trimStart {s : List Char} {c : Char}
    (h : c ∈ (trimStart s).head?) : isBlank c = false := by
  have first := List.head?_dropWhile_not isBlank s
  rw [Option.mem_def] at h
  rw [trimStart] at h
  rw [h] at first
  exact first

/-- A text that does not start with a blank has none to lose there. -/
theorem trimStart_eq_self {s : List Char} (h : ∀ c ∈ s.head?, isBlank c = false) :
    trimStart s = s := by
  cases s with
  | nil => rfl
  | cons c s => exact trimStart_of_head (h c rfl)

theorem trimEnd_eq (s : List Char) : trimEnd s = (trimStart s.reverse).reverse := rfl

/-- A text that does not end with a blank has none to lose there. -/
theorem trimEnd_eq_self {s : List Char} (h : ∀ c ∈ s.getLast?, isBlank c = false) :
    trimEnd s = s := by
  rw [trimEnd_eq, trimStart_eq_self (by simpa using h), List.reverse_reverse]

/-- A text that trimming is to leave as it is has no blanks to lose. -/
theorem trim_eq_self {s : List Char} (h : IsTrimmed s) : trim s = s := by
  rw [trim, trimStart_eq_self h.1, trimEnd_eq_self h.2]

/-- The end of a text is taken off from the rest of it. -/
theorem trimEnd_append_self (s : List Char) : ∃ w, (∀ c ∈ w, isBlank c) ∧ s = trimEnd s ++ w := by
  refine ⟨(s.reverse.takeWhile isBlank).reverse, ?_, ?_⟩
  · intro c hc
    exact List.all_eq_true.mp List.all_takeWhile c (List.mem_reverse.1 hc)
  · rw [trimEnd, ← List.reverse_append, List.takeWhile_append_dropWhile, List.reverse_reverse]

/-- What is left of a text without the blanks behind starts as the text does. -/
theorem mem_head?_of_mem_head?_trimEnd {s : List Char} {c : Char} (h : c ∈ (trimEnd s).head?) :
    c ∈ s.head? := by
  obtain ⟨w, -, whole⟩ := trimEnd_append_self s
  rw [whole, List.head?_append]
  rw [Option.mem_def] at h ⊢
  rw [h, Option.some_or]

/-- Trimming leaves a trimmed text. -/
theorem isTrimmed_trim (s : List Char) : IsTrimmed (trim s) := by
  constructor
  · intro c hc
    exact isBlank_of_mem_head?_trimStart (mem_head?_of_mem_head?_trimEnd hc)
  · intro c hc
    rw [trim, trimEnd_eq, List.getLast?_reverse] at hc
    exact isBlank_of_mem_head?_trimStart hc

@[simp] theorem trim_trim (s : List Char) : trim (trim s) = trim s :=
  trim_eq_self (isTrimmed_trim s)

/-- Blanks in front do not survive trimming. -/
theorem trim_append {w : List Char} (h : ∀ c ∈ w, isBlank c) (s : List Char) :
    trim (w ++ s) = trim s := by
  rw [trim, trimStart_append h, ← trim]

theorem trim_cons {c : Char} (h : isBlank c = true) (s : List Char) : trim (c :: s) = trim s :=
  trim_append (w := [c]) (by simp [h]) s

/-- Blanks behind do not survive trimming. -/
theorem trim_append_blanks {w : List Char} (h : ∀ c ∈ w, isBlank c) (s : List Char) :
    trim (s ++ w) = trim s := by
  have blanks : trimStart w = [] := trimStart_eq_nil.2 h
  have start : trimStart (s ++ w) = if (trimStart s).isEmpty then [] else trimStart s ++ w := by
    rw [← blanks]
    exact List.dropWhile_append
  rw [trim, start, trim]
  split
  · next nothing => rw [List.isEmpty_iff.1 nothing]
  · exact trimEnd_append h (trimStart s)

@[simp] theorem trim_trimStart (s : List Char) : trim (trimStart s) = trim s := by
  rw [trim, trimStart_eq_self fun c hc => isBlank_of_mem_head?_trimStart hc, ← trim]

@[simp] theorem trim_trimEnd (s : List Char) : trim (trimEnd s) = trim s := by
  obtain ⟨w, blanks, whole⟩ := trimEnd_append_self s
  conv => rhs; rw [whole]
  rw [trim_append_blanks blanks]

/-- A character that is not blank keeps what stands on either side of it apart. -/
theorem trim_append_cons {c : Char} (h : isBlank c = false) (s t : List Char) :
    trim (s ++ c :: t) = trimStart s ++ c :: trimEnd t := by
  have start : trimStart (s ++ c :: t) = trimStart s ++ c :: t := by
    rw [trimStart, List.dropWhile_append, ← trimStart]
    split
    · next nothing => rw [List.isEmpty_iff.1 nothing, List.nil_append]; exact trimStart_of_head h
    · rfl
  obtain ⟨w, blanks, whole⟩ := trimEnd_append_self t
  have last : ∀ d ∈ (trimStart s ++ c :: trimEnd t).getLast?, isBlank d = false := by
    intro d hd
    rw [List.getLast?_append, List.getLast?_cons, Option.some_or] at hd
    obtain rfl := Option.some.inj hd
    cases behind : (trimEnd t).getLast? with
    | none => exact h
    | some e =>
      rw [trimEnd_eq, List.getLast?_reverse] at behind
      exact isBlank_of_mem_head?_trimStart behind
  rw [trim, start]
  conv => lhs; rw [whole, ← List.cons_append, ← List.append_assoc]
  rw [trimEnd_append blanks, trimEnd_eq_self last]

/-- A text that does not start with a blank starts as it does when it is trimmed. -/
theorem head?_trim {s : List Char} (h : s.head?.any isBlank = false) : (trim s).head? = s.head? := by
  cases s with
  | nil => rfl
  | cons c s =>
    have trimmed := trim_append_cons (c := c) h [] s
    rw [List.nil_append, trimStart_nil, List.nil_append] at trimmed
    rw [trimmed, List.head?_cons, List.head?_cons]

/-- Trimming takes no notice of a change that leaves blanks blank, and makes none. -/
theorem trim_map {f : Char → Char} (h : ∀ c, isBlank (f c) = isBlank c) (s : List Char) :
    trim (s.map f) = (trim s).map f := by
  have same : isBlank ∘ f = isBlank := funext h
  simp only [trim, trimEnd, trimStart, List.dropWhile_map, same, ← List.map_reverse]

/-- Nothing is in a trimmed text that was not in the text. -/
theorem mem_of_mem_trim {s : List Char} {c : Char} (h : c ∈ trim s) : c ∈ s := by
  obtain ⟨w, -, whole⟩ := trimEnd_append_self (trimStart s)
  have inner : c ∈ trimStart s := by
    rw [whole]
    exact List.mem_append_left w h
  exact (List.dropWhile_sublist isBlank).subset inner

/-- Two parts with a character between them are trimmed when no blank stands at the front of the
first, and the second is trimmed. -/
theorem isTrimmed_append_cons {s t : List Char} {c : Char} (hs : s ≠ [])
    (head : ∀ d ∈ s.head?, isBlank d = false) (hc : isBlank c = false) (ht : IsTrimmed t) :
    IsTrimmed (s ++ c :: t) := by
  constructor
  · intro d hd
    cases s with
    | nil => exact absurd rfl hs
    | cons e s => exact head d hd
  · intro d hd
    rw [List.getLast?_append, List.getLast?_cons, Option.some_or] at hd
    cases last : t.getLast? with
    | none =>
      rw [last] at hd
      obtain rfl := Option.some.inj hd
      exact hc
    | some e =>
      rw [last] at hd
      obtain rfl := Option.some.inj hd
      exact ht.2 _ last

end CookieConsent.Text
