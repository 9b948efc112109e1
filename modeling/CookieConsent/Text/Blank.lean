/-!
# Blank characters

The characters with the Unicode property `White_Space`, and the operations that look at nothing
else of a text: trimming its ends and splitting it into words.

* `trimStart_append`, `trimEnd_append`: blanks that stand at an end do not survive.
* `trimStart_eq_nil`: nothing is left of a text of blanks, and of no other.
-/

namespace CookieConsent.Text

/-- Whether `c` lies in one of the closed ranges of code points. -/
def inRanges (ranges : List (Nat × Nat)) (c : Char) : Bool :=
  ranges.any fun range => range.1 ≤ c.toNat && c.toNat ≤ range.2

/-- The code points with the property `White_Space`. -/
def blankRanges : List (Nat × Nat) :=
  [(0x09, 0x0D), (0x20, 0x20), (0x85, 0x85), (0xA0, 0xA0), (0x1680, 0x1680), (0x2000, 0x200A),
   (0x2028, 0x2029), (0x202F, 0x202F), (0x205F, 0x205F), (0x3000, 0x3000)]

/-- Whether `c` has the property `White_Space`. -/
def isBlank (c : Char) : Bool := inRanges blankRanges c

/-! ## Trimming -/

def trimStart (s : List Char) : List Char := s.dropWhile isBlank

def trimEnd (s : List Char) : List Char := (s.reverse.dropWhile isBlank).reverse

/-- Drops the blanks at both ends of a text. -/
def trim (s : List Char) : List Char := trimEnd (trimStart s)

@[simp] theorem trimStart_nil : trimStart [] = [] := rfl

@[simp] theorem trimEnd_nil : trimEnd [] = [] := rfl

@[simp] theorem trim_nil : trim [] = [] := rfl

/-- Blanks in front do not survive trimming the start. -/
theorem trimStart_append {w : List Char} (h : ∀ c ∈ w, isBlank c) (s : List Char) :
    trimStart (w ++ s) = trimStart s := by
  simp [trimStart, List.dropWhile_append_of_pos h]

/-- Blanks behind do not survive trimming the end. -/
theorem trimEnd_append {w : List Char} (h : ∀ c ∈ w, isBlank c) (s : List Char) :
    trimEnd (s ++ w) = trimEnd s := by
  have hw : ∀ c ∈ w.reverse, isBlank c := fun c hc => h c (by simpa using hc)
  simp [trimEnd, List.dropWhile_append_of_pos hw]

theorem trimStart_of_head {c : Char} {s : List Char} (h : isBlank c = false) :
    trimStart (c :: s) = c :: s := by
  simp [trimStart, h]

/-- Nothing is left of a text of blanks, and of no other text. -/
theorem trimStart_eq_nil {s : List Char} : trimStart s = [] ↔ ∀ c ∈ s, isBlank c := by
  induction s with
  | nil => simp
  | cons c s ih =>
    by_cases h : isBlank c
    · have next : trimStart (c :: s) = trimStart s := List.dropWhile_cons_of_pos h
      rw [next, ih]
      simp [h]
    · simp [trimStart, h]

/-! ## Words -/

/-- The maximal runs of characters that are not blank, in order. -/
def words (s : List Char) : List (List Char) :=
  (s.splitOnP isBlank).filter fun word => !word.isEmpty

end CookieConsent.Text
