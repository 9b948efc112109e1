/-!
# Reading UTF-8

Octets are read one at a time. Between characters the next octet is a character of its own, the
first of a longer one, or invalid; within a character only some octets can follow, as the standard
tabulates. An octet that cannot follow ends the character it stands behind, which is then read as
one replacement character, and is read again on its own; so each maximal invalid part is replaced
once.

* `decode_encode`: a text is read back from its octets.
-/

namespace CookieConsent.Text.Utf8

/-- The character that stands for octets which are no character: U+FFFD. -/
def replacement : Char := '\uFFFD'

/-- A character of which some octets are still missing: how many follow the next one, the bits
read so far, and the range in which the next octet has to lie. -/
structure Pending where
  later : Nat
  bits : Nat
  low : Nat
  high : Nat
deriving DecidableEq, Repr

/-- Reads an octet that stands between two characters. -/
def start (octet : UInt8) : List Char × Option Pending :=
  let b := octet.toNat
  if b < 0x80 then ([Char.ofNat b], none)
  else if b < 0xC2 then ([replacement], none)
  else if b < 0xE0 then ([], some ⟨0, b - 0xC0, 0x80, 0xBF⟩)
  else if b = 0xE0 then ([], some ⟨1, 0, 0xA0, 0xBF⟩)
  else if b = 0xED then ([], some ⟨1, 0xD, 0x80, 0x9F⟩)
  else if b < 0xF0 then ([], some ⟨1, b - 0xE0, 0x80, 0xBF⟩)
  else if b = 0xF0 then ([], some ⟨2, 0, 0x90, 0xBF⟩)
  else if b < 0xF4 then ([], some ⟨2, b - 0xF0, 0x80, 0xBF⟩)
  else if b = 0xF4 then ([], some ⟨2, 4, 0x80, 0x8F⟩)
  else ([replacement], none)

/-- Reads one octet: the characters it completes and the character it leaves incomplete. -/
def step : Option Pending → UInt8 → List Char × Option Pending
  | none, octet => start octet
  | some p, octet =>
    if p.low ≤ octet.toNat ∧ octet.toNat ≤ p.high then
      let bits := p.bits * 64 + (octet.toNat - 0x80)
      match p.later with
      | 0 => ([Char.ofNat bits], none)
      | later + 1 => ([], some ⟨later, bits, 0x80, 0xBF⟩)
    else
      let (chars, next) := start octet
      (replacement :: chars, next)

/-- Reads octets after an incomplete character. -/
def decodeFrom : Option Pending → List UInt8 → List Char
  | none, [] => []
  | some _, [] => [replacement]
  | pending, octet :: octets =>
    let (chars, next) := step pending octet
    chars ++ decodeFrom next octets

/-- The text that the octets spell, each maximal invalid part replaced by U+FFFD. -/
def decode (octets : List UInt8) : List Char := decodeFrom none octets

def encode (s : List Char) : List UInt8 := s.flatMap String.utf8EncodeChar

/-! ## Reading what was written -/

theorem toNat_octet {x : Nat} (h : x < 256) : (UInt8.ofNat x).toNat = x :=
  UInt8.toNat_ofNat_of_lt' h

/-- Between two characters, the first octet decides how reading goes on. -/
theorem decodeFrom_start {octet : UInt8} {octets : List UInt8} :
    decodeFrom none (octet :: octets) = (start octet).1 ++ decodeFrom (start octet).2 octets := rfl

/-- Reads the last octet of a character. -/
theorem decodeFrom_last {bits low high x : Nat} {octets : List UInt8} (hl : low ≤ x) (hh : x ≤ high)
    (hx : x < 256) :
    decodeFrom (some ⟨0, bits, low, high⟩) (UInt8.ofNat x :: octets) =
      Char.ofNat (bits * 64 + (x - 0x80)) :: decodeFrom none octets := by
  have hx : (UInt8.ofNat x).toNat = x := toNat_octet hx
  simp [decodeFrom, step, hx, hl, hh]

/-- Reads an octet of a character that is not its last one. -/
theorem decodeFrom_later {later bits low high x : Nat} {octets : List UInt8} (hl : low ≤ x)
    (hh : x ≤ high) (hx : x < 256) :
    decodeFrom (some ⟨later + 1, bits, low, high⟩) (UInt8.ofNat x :: octets) =
      decodeFrom (some ⟨later, bits * 64 + (x - 0x80), 0x80, 0xBF⟩) octets := by
  have hx : (UInt8.ofNat x).toNat = x := toNat_octet hx
  simp [decodeFrom, step, hx, hl, hh]

/-- The first of two octets. -/
theorem start_two {n : Nat} (h : 0x80 ≤ n) (h' : n < 0x800) :
    start (UInt8.ofNat (n / 64 + 0xC0)) = ([], some ⟨0, n / 64, 0x80, 0xBF⟩) := by
  have hx : (UInt8.ofNat (n / 64 + 0xC0)).toNat = n / 64 + 0xC0 :=
    toNat_octet (by omega)
  rw [start, hx]
  rw [if_neg (by omega), if_neg (by omega), if_pos (by omega), Nat.add_sub_cancel]

/-- The first of three octets, and what it lets follow. -/
theorem start_three {n : Nat} (h : 0x800 ≤ n) (h' : n < 0x10000) (valid : n < 0xD800 ∨ 0xDFFF < n) :
    ∃ low high, start (UInt8.ofNat (n / 4096 + 0xE0)) = ([], some ⟨1, n / 4096, low, high⟩) ∧
      low ≤ n / 64 % 64 + 0x80 ∧ n / 64 % 64 + 0x80 ≤ high := by
  have hx : (UInt8.ofNat (n / 4096 + 0xE0)).toNat = n / 4096 + 0xE0 :=
    toNat_octet (by omega)
  rw [start, hx]
  rw [if_neg (by omega), if_neg (by omega), if_neg (by omega), Nat.add_sub_cancel]
  by_cases first : n / 4096 = 0
  · rw [if_pos (by omega), first]
    exact ⟨_, _, rfl, by omega, by omega⟩
  · rw [if_neg (by omega)]
    by_cases surrogates : n / 4096 = 0xD
    · rw [if_pos (by omega), surrogates]
      exact ⟨_, _, rfl, by omega, by omega⟩
    · rw [if_neg (by omega), if_pos (by omega)]
      exact ⟨_, _, rfl, by omega, by omega⟩

/-- The first of four octets, and what it lets follow. -/
theorem start_four {n : Nat} (h : 0x10000 ≤ n) (h' : n < 0x110000) :
    ∃ low high, start (UInt8.ofNat (n / 262144 + 0xF0)) = ([], some ⟨2, n / 262144, low, high⟩) ∧
      low ≤ n / 4096 % 64 + 0x80 ∧ n / 4096 % 64 + 0x80 ≤ high := by
  have hx : (UInt8.ofNat (n / 262144 + 0xF0)).toNat = n / 262144 + 0xF0 :=
    toNat_octet (by omega)
  rw [start, hx]
  rw [if_neg (by omega), if_neg (by omega), if_neg (by omega), if_neg (by omega),
    if_neg (by omega), if_neg (by omega), Nat.add_sub_cancel]
  by_cases first : n / 262144 = 0
  · rw [if_pos (by omega), first]
    exact ⟨_, _, rfl, by omega, by omega⟩
  · rw [if_neg (by omega)]
    by_cases last : n / 262144 = 4
    · rw [if_neg (by omega), if_pos (by omega), last]
      exact ⟨_, _, rfl, by omega, by omega⟩
    · rw [if_pos (by omega)]
      exact ⟨_, _, rfl, by omega, by omega⟩

/-- The octets of a character in front of others are read as that character. -/
theorem decode_encodeChar (c : Char) (octets : List UInt8) :
    decode (String.utf8EncodeChar c ++ octets) = c :: decode octets := by
  have valid : c.toNat < 0xD800 ∨ 0xDFFF < c.toNat ∧ c.toNat < 0x110000 := c.valid
  have same : Char.ofNat c.toNat = c := Char.ofNat_toNat c
  rw [String.utf8EncodeChar, show c.val.toNat = c.toNat from rfl]
  generalize c.toNat = n at valid same
  subst same
  simp only [decode]
  -- a character takes one, two, three or four octets, by its number
  split
  · have hx : (UInt8.ofNat n).toNat = n := toNat_octet (by omega)
    have hn : n < 0x80 := by omega
    simp [decodeFrom_start, start, hx, hn]
  split
  · rw [Nat.mod_eq_of_lt (show n / 64 < 32 by omega), List.cons_append, decodeFrom_start,
      start_two (by omega) (by omega)]
    simp only [List.cons_append, List.nil_append]
    rw [decodeFrom_last (by omega) (by omega) (by omega), Nat.add_sub_cancel,
      show n / 64 * 64 + n % 64 = n by omega]
  split
  · obtain ⟨low, high, first, hl, hh⟩ := start_three (n := n) (by omega) (by omega) (by omega)
    rw [Nat.mod_eq_of_lt (show n / 4096 < 16 by omega), List.cons_append, decodeFrom_start, first]
    simp only [List.cons_append, List.nil_append]
    rw [decodeFrom_later hl hh (by omega), decodeFrom_last (by omega) (by omega) (by omega),
      Nat.add_sub_cancel, Nat.add_sub_cancel,
      show (n / 4096 * 64 + n / 64 % 64) * 64 + n % 64 = n by omega]
  · obtain ⟨low, high, first, hl, hh⟩ := start_four (n := n) (by omega) (by omega)
    rw [Nat.mod_eq_of_lt (show n / 262144 < 8 by omega), List.cons_append, decodeFrom_start, first]
    simp only [List.cons_append, List.nil_append]
    rw [decodeFrom_later hl hh (by omega), decodeFrom_later (by omega) (by omega) (by omega),
      decodeFrom_last (by omega) (by omega) (by omega), Nat.add_sub_cancel, Nat.add_sub_cancel,
      Nat.add_sub_cancel,
      show ((n / 262144 * 64 + n / 4096 % 64) * 64 + n / 64 % 64) * 64 + n % 64 = n by omega]

/-- A text is read back from its octets. -/
@[simp] theorem decode_encode (s : List Char) : decode (encode s) = s := by
  induction s with
  | nil => rfl
  | cons c s ih => rw [encode, List.flatMap_cons, decode_encodeChar]; exact congrArg _ ih

end CookieConsent.Text.Utf8
