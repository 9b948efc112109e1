import CookieConsent.Text.Utf16
import CookieConsent.Text.Utf8
import Mathlib.Data.List.Infix
import Mathlib.Data.Nat.Find

/-!
# What invalid octets and unpaired surrogates are read as

A text is a reading of octets, or of code units, if it has their characters in place of them, and
U+FFFD in place of what is no character. For code units that is every unit with which no character
begins. For octets it is every maximal part of a character: as many octets as some character begins
with, or a single one if there are none. Nothing is said here about how the octets are read; which
octets can follow each other is found in the octets of the characters alone.

* `Utf8.isReading_iff`, `Utf16.isReading_iff`: there is one reading, and it is what is decoded.
-/

namespace CookieConsent.Text

namespace Utf8

/-! ## Readings of octets -/

/-- Whether the octets of some character begin with the given ones. -/
def Begins (part : List UInt8) : Prop := ∃ c, part <+: String.utf8EncodeChar c

/-- Octets in front of others that are one invalid part: no character stands there, and of what some
character begins with there, none is longer. -/
structure IsInvalid (part rest : List UInt8) : Prop where
  no_char : ∀ c, ¬ String.utf8EncodeChar c <+: part ++ rest
  begins : part ≠ [] ∧ Begins part ∨ ∃ octet, part = [octet]
  longest : ∀ front, front <+: part ++ rest → Begins front → front.length ≤ part.length

/-- Whether a text is what octets spell, with U+FFFD in place of every invalid part. -/
inductive IsReading : List UInt8 → List Char → Prop
  | nil : IsReading [] []
  | char (c : Char) {octets : List UInt8} {s : List Char} (h : IsReading octets s) :
      IsReading (String.utf8EncodeChar c ++ octets) (c :: s)
  | invalid {part octets : List UInt8} {s : List Char} (h : IsInvalid part octets)
      (hs : IsReading octets s) : IsReading (part ++ octets) ('\uFFFD' :: s)

/-! ## The octets of all characters -/

/-- The octets of the character with a number. -/
def octetsOf (n : Nat) : List Nat :=
  if n < 0x80 then [n]
  else if n < 0x800 then [n / 64 + 0xC0, n % 64 + 0x80]
  else if n < 0x10000 then [n / 4096 + 0xE0, n / 64 % 64 + 0x80, n % 64 + 0x80]
  else [n / 262144 + 0xF0, n / 4096 % 64 + 0x80, n / 64 % 64 + 0x80, n % 64 + 0x80]

/-- The octets of a character depend on its number only. -/
theorem map_encodeChar (c : Char) :
    (String.utf8EncodeChar c).map UInt8.toNat = octetsOf c.toNat := by
  have valid : c.toNat < 0xD800 ∨ 0xDFFF < c.toNat ∧ c.toNat < 0x110000 := c.valid
  rw [String.utf8EncodeChar, show c.val.toNat = c.toNat from rfl, octetsOf]
  generalize c.toNat = n at valid
  -- the four lengths, each with the numbers that take it
  split
  · rw [if_pos (by omega), List.map_singleton, toNat_octet (by omega)]
  split
  · rw [if_neg (by omega), if_pos (by omega)]
    simp only [List.map_cons, List.map_nil]
    rw [toNat_octet (by omega), toNat_octet (by omega), Nat.mod_eq_of_lt (by omega)]
  split
  · rw [if_neg (by omega), if_neg (by omega), if_pos (by omega)]
    simp only [List.map_cons, List.map_nil]
    rw [toNat_octet (by omega), toNat_octet (by omega), toNat_octet (by omega),
      Nat.mod_eq_of_lt (show n / 4096 < 16 by omega)]
  · rw [if_neg (by omega), if_neg (by omega), if_neg (by omega)]
    simp only [List.map_cons, List.map_nil]
    rw [toNat_octet (by omega), toNat_octet (by omega), toNat_octet (by omega),
      toNat_octet (by omega), Nat.mod_eq_of_lt (show n / 262144 < 8 by omega)]

/-- Octets are a character if they are those of some number that a character has. -/
theorem exists_encodeChar_iff {octets : List UInt8} :
    (∃ c, String.utf8EncodeChar c = octets) ↔
      ∃ n, n.isValidChar ∧ octets.map UInt8.toNat = octetsOf n := by
  constructor
  · rintro ⟨c, rfl⟩
    exact ⟨c.toNat, c.valid, map_encodeChar c⟩
  · rintro ⟨n, valid, same⟩
    have number : (Char.ofNat n).toNat = n := Utf16.toNat_ofNat valid
    refine ⟨Char.ofNat n, List.map_injective_iff.2 (fun _ _ => UInt8.toNat_inj.1) ?_⟩
    rw [map_encodeChar, number, same]

/-- A character has one, two, three or four octets, by the range that its number lies in. -/
theorem octetsOf_cases {n : Nat} (valid : n.isValidChar) :
    n < 0x80 ∧ octetsOf n = [n] ∨
    (0x80 ≤ n ∧ n < 0x800) ∧ octetsOf n = [n / 64 + 0xC0, n % 64 + 0x80] ∨
    (0x800 ≤ n ∧ n < 0xD800 ∨ 0xDFFF < n ∧ n < 0x10000) ∧
      octetsOf n = [n / 4096 + 0xE0, n / 64 % 64 + 0x80, n % 64 + 0x80] ∨
    (0x10000 ≤ n ∧ n < 0x110000) ∧
      octetsOf n =
        [n / 262144 + 0xF0, n / 4096 % 64 + 0x80, n / 64 % 64 + 0x80, n % 64 + 0x80] := by
  have range : n < 0xD800 ∨ 0xDFFF < n ∧ n < 0x110000 := valid
  unfold octetsOf
  split
  · exact .inl ⟨‹_›, rfl⟩
  split
  · exact .inr (.inl ⟨by omega, rfl⟩)
  split
  · exact .inr (.inr (.inl ⟨by omega, rfl⟩))
  · exact .inr (.inr (.inr ⟨by omega, rfl⟩))

/-- The octets of no character begin with one that is out of range. -/
theorem octetsOf_ne {a n : Nat} (h : 0x80 ≤ a ∧ a < 0xC2 ∨ 0xF4 < a) (valid : n.isValidChar)
    (l : List Nat) : a :: l ≠ octetsOf n := by
  intro same
  rcases octetsOf_cases valid with ⟨range, eq⟩ | ⟨range, eq⟩ | ⟨range, eq⟩ | ⟨range, eq⟩
  all_goals
    obtain ⟨first, -⟩ := List.cons.inj (same.trans eq)
    omega

/-- What makes a character with the first one of two octets. -/
theorem exists_octetsOf_two {a : Nat} (h : 0xC2 ≤ a) (h' : a < 0xE0) (l : List Nat) :
    (∃ n, n.isValidChar ∧ a :: l = octetsOf n) ↔ ∃ x, l = [x] ∧ 0x80 ≤ x ∧ x ≤ 0xBF := by
  constructor
  · rintro ⟨n, valid, same⟩
    rcases octetsOf_cases valid with ⟨range, eq⟩ | ⟨range, eq⟩ | ⟨range, eq⟩ | ⟨range, eq⟩
    all_goals obtain ⟨rfl, rfl⟩ := List.cons.inj (same.trans eq)
    on_goal 2 => exact ⟨_, rfl, by omega, by omega⟩
    all_goals omega
  · rintro ⟨x, rfl, low, high⟩
    refine ⟨(a - 0xC0) * 64 + (x - 0x80), .inl (by omega), ?_⟩
    rw [octetsOf, if_neg (by omega), if_pos (by omega)]
    simp only [List.cons.injEq, and_true]
    omega

/-- What makes a character with the first one of three octets. -/
theorem exists_octetsOf_three {a : Nat} (h : 0xE0 ≤ a) (h' : a < 0xF0) (l : List Nat) :
    (∃ n, n.isValidChar ∧ a :: l = octetsOf n) ↔
      ∃ x y, l = [x, y] ∧ (0x80 ≤ x ∧ x ≤ 0xBF) ∧ (0x80 ≤ y ∧ y ≤ 0xBF) ∧
        (a = 0xE0 → 0xA0 ≤ x) ∧ (a = 0xED → x ≤ 0x9F) := by
  constructor
  · rintro ⟨n, valid, same⟩
    -- only a number with three octets fits, and no surrogate, which bounds the second octet
    rcases octetsOf_cases valid with ⟨range, eq⟩ | ⟨range, eq⟩ | ⟨range, eq⟩ | ⟨range, eq⟩
    all_goals obtain ⟨rfl, rfl⟩ := List.cons.inj (same.trans eq)
    on_goal 3 => exact ⟨_, _, rfl, by omega, by omega, by omega, by omega⟩
    all_goals omega
  · rintro ⟨x, y, rfl, hx, hy, overlong, surrogate⟩
    have valid : ((a - 0xE0) * 4096 + (x - 0x80) * 64 + (y - 0x80)).isValidChar := by
      unfold Nat.isValidChar
      omega
    refine ⟨_, valid, ?_⟩
    rw [octetsOf, if_neg (by omega), if_neg (by omega), if_pos (by omega)]
    simp only [List.cons.injEq, and_true]
    omega

/-- What makes a character with the first one of four octets. -/
theorem exists_octetsOf_four {a : Nat} (h : 0xF0 ≤ a) (h' : a ≤ 0xF4) (l : List Nat) :
    (∃ n, n.isValidChar ∧ a :: l = octetsOf n) ↔
      ∃ x y z, l = [x, y, z] ∧ (0x80 ≤ x ∧ x ≤ 0xBF) ∧ (0x80 ≤ y ∧ y ≤ 0xBF) ∧
        (0x80 ≤ z ∧ z ≤ 0xBF) ∧ (a = 0xF0 → 0x90 ≤ x) ∧ (a = 0xF4 → x ≤ 0x8F) := by
  constructor
  · rintro ⟨n, valid, same⟩
    rcases octetsOf_cases valid with ⟨range, eq⟩ | ⟨range, eq⟩ | ⟨range, eq⟩ | ⟨range, eq⟩
    all_goals obtain ⟨rfl, rfl⟩ := List.cons.inj (same.trans eq)
    on_goal 4 => exact ⟨_, _, _, rfl, by omega, by omega, by omega, by omega, by omega⟩
    all_goals omega
  · rintro ⟨x, y, z, rfl, hx, hy, hz, overlong, last⟩
    have valid : ((a - 0xF0) * 262144 + (x - 0x80) * 4096 + (y - 0x80) * 64 +
        (z - 0x80)).isValidChar := by
      unfold Nat.isValidChar
      omega
    refine ⟨_, valid, ?_⟩
    rw [octetsOf, if_neg (by omega), if_neg (by omega), if_neg (by omega)]
    simp only [List.cons.injEq, and_true]
    omega

/-! ## What an incomplete character lets follow -/

/-- Whether octets complete an incomplete character: the first of them lies in the range that is
left, and as many follow as are missing behind it. -/
def Pending.IsCompletedBy (p : Pending) : List Nat → Prop
  | [] => False
  | octet :: octets => (p.low ≤ octet ∧ octet ≤ p.high) ∧ octets.length = p.later ∧
      ∀ other ∈ octets, 0x80 ≤ other ∧ other ≤ 0xBF

/-- Whether an incomplete character is what octets leave: they are made a character by what completes
it, and by nothing else. -/
def Pending.Follows (p : Pending) (part : List UInt8) : Prop :=
  ∀ octets, (∃ c, String.utf8EncodeChar c = part ++ octets) ↔
    p.IsCompletedBy (octets.map UInt8.toNat)

/-- For a first octet it is enough to look at the numbers of characters. -/
theorem Pending.follows_singleton {p : Pending} {octet : UInt8}
    (h : ∀ l, (∃ n, n.isValidChar ∧ octet.toNat :: l = octetsOf n) ↔ p.IsCompletedBy l) :
    p.Follows [octet] := by
  intro octets
  rw [exists_encodeChar_iff, ← h]
  rfl

theorem Pending.isCompletedBy_two {bits low high : Nat} {l : List Nat} :
    (Pending.mk 0 bits low high).IsCompletedBy l ↔ ∃ x, l = [x] ∧ low ≤ x ∧ x ≤ high := by
  match l with
  | [] => simp [IsCompletedBy]
  | [x] => simp [IsCompletedBy]
  | x :: y :: l => simp [IsCompletedBy]

theorem Pending.isCompletedBy_three {bits low high : Nat} {l : List Nat} :
    (Pending.mk 1 bits low high).IsCompletedBy l ↔
      ∃ x y, l = [x, y] ∧ (low ≤ x ∧ x ≤ high) ∧ (0x80 ≤ y ∧ y ≤ 0xBF) := by
  match l with
  | [] => simp [IsCompletedBy]
  | [x] => simp [IsCompletedBy]
  | [x, y] => simp [IsCompletedBy]
  | x :: y :: z :: l => simp [IsCompletedBy]

theorem Pending.isCompletedBy_four {bits low high : Nat} {l : List Nat} :
    (Pending.mk 2 bits low high).IsCompletedBy l ↔
      ∃ x y z, l = [x, y, z] ∧ (low ≤ x ∧ x ≤ high) ∧ (0x80 ≤ y ∧ y ≤ 0xBF) ∧
        (0x80 ≤ z ∧ z ≤ 0xBF) := by
  match l with
  | [] => simp [IsCompletedBy]
  | [x] => simp [IsCompletedBy]
  | [x, y] => simp [IsCompletedBy]
  | [x, y, z] => simp [IsCompletedBy]
  | x :: y :: z :: u :: l => simp [IsCompletedBy]

/-- No character begins with an octet that is out of range. -/
theorem not_begins {octet : UInt8}
    (h : 0x80 ≤ octet.toNat ∧ octet.toNat < 0xC2 ∨ 0xF4 < octet.toNat) : ¬ Begins [octet] := by
  rintro ⟨c, octets, whole⟩
  obtain ⟨n, valid, same⟩ := exists_encodeChar_iff.1 ⟨c, whole.symm⟩
  exact octetsOf_ne h valid _ same

/-- The first of two octets leaves one more. -/
theorem follows_two {octet : UInt8} (h : 0xC2 ≤ octet.toNat) (h' : octet.toNat < 0xE0)
    (bits : Nat) : (Pending.mk 0 bits 0x80 0xBF).Follows [octet] :=
  Pending.follows_singleton fun l => by
    rw [exists_octetsOf_two h h', Pending.isCompletedBy_two]

/-- The first of three octets leaves two more. With fewer bits than three octets are for, and with
those of a surrogate, there is no character. -/
theorem follows_three {octet : UInt8} {low high : Nat} (h : 0xE0 ≤ octet.toNat)
    (h' : octet.toNat < 0xF0)
    (hlow : octet.toNat = 0xE0 ∧ low = 0xA0 ∨ octet.toNat ≠ 0xE0 ∧ low = 0x80)
    (hhigh : octet.toNat = 0xED ∧ high = 0x9F ∨ octet.toNat ≠ 0xED ∧ high = 0xBF) (bits : Nat) :
    (Pending.mk 1 bits low high).Follows [octet] := by
  refine Pending.follows_singleton fun l => ?_
  rw [exists_octetsOf_three h h', Pending.isCompletedBy_three]
  refine exists_congr fun x => exists_congr fun y => and_congr_right fun _ => ?_
  omega

/-- The first of four octets leaves three more. With fewer bits than four octets are for, and behind
the last character, there is none. -/
theorem follows_four {octet : UInt8} {low high : Nat} (h : 0xF0 ≤ octet.toNat)
    (h' : octet.toNat ≤ 0xF4)
    (hlow : octet.toNat = 0xF0 ∧ low = 0x90 ∨ octet.toNat ≠ 0xF0 ∧ low = 0x80)
    (hhigh : octet.toNat = 0xF4 ∧ high = 0x8F ∨ octet.toNat ≠ 0xF4 ∧ high = 0xBF) (bits : Nat) :
    (Pending.mk 2 bits low high).Follows [octet] := by
  refine Pending.follows_singleton fun l => ?_
  rw [exists_octetsOf_four h h', Pending.isCompletedBy_four]
  refine exists_congr fun x => exists_congr fun y => exists_congr fun z =>
    and_congr_right fun _ => ?_
  omega

/-- An octet between two characters is one by itself, or no character begins with it, or it leaves an
incomplete one. -/
theorem start_cases (octet : UInt8) :
    (∃ c, String.utf8EncodeChar c = [octet]) ∨
    start octet = ([replacement], none) ∧ ¬ Begins [octet] ∨
    ∃ p, start octet = ([], some p) ∧ p.Follows [octet] := by
  -- one case for each range that the machine tells apart, down to the octets that start nothing
  simp only [start]
  split
  · exact .inl (exists_encodeChar_iff.2 ⟨octet.toNat, .inl (by omega), (if_pos ‹_›).symm⟩)
  right
  split
  · exact .inl ⟨rfl, not_begins (by omega)⟩
  split
  · exact .inr ⟨_, rfl, follows_two (by omega) (by omega) _⟩
  split
  · exact .inr ⟨_, rfl, follows_three (by omega) (by omega) (by omega) (by omega) _⟩
  split
  · exact .inr ⟨_, rfl, follows_three (by omega) (by omega) (by omega) (by omega) _⟩
  split
  · exact .inr ⟨_, rfl, follows_three (by omega) (by omega) (by omega) (by omega) _⟩
  split
  · exact .inr ⟨_, rfl, follows_four (by omega) (by omega) (by omega) (by omega) _⟩
  split
  · exact .inr ⟨_, rfl, follows_four (by omega) (by omega) (by omega) (by omega) _⟩
  split
  · exact .inr ⟨_, rfl, follows_four (by omega) (by omega) (by omega) (by omega) _⟩
  · exact .inl ⟨rfl, not_begins (by omega)⟩

/-! ## Reading an invalid part -/

/-- An octet in the range that an incomplete character leaves goes on with it. -/
theorem Pending.Follows.begins {p : Pending} {part : List UInt8} (h : p.Follows part)
    {octet : UInt8} (hl : p.low ≤ octet.toNat) (hh : octet.toNat ≤ p.high) :
    Begins (part ++ [octet]) := by
  have completed : p.IsCompletedBy ((octet :: List.replicate p.later 0x80).map UInt8.toNat) :=
    ⟨⟨hl, hh⟩, by simp, by simp⟩
  obtain ⟨c, whole⟩ := (h _).2 completed
  exact ⟨c, List.replicate p.later 0x80, by rw [whole, List.append_assoc, List.singleton_append]⟩

/-- What an octet in range leaves, where it is not the last one. -/
theorem Pending.Follows.later {later bits low high : Nat} {part : List UInt8}
    (h : (Pending.mk (later + 1) bits low high).Follows part) {octet : UInt8}
    (hl : low ≤ octet.toNat) (hh : octet.toNat ≤ high) (bits' : Nat) :
    (Pending.mk later bits' 0x80 0xBF).Follows (part ++ [octet]) := by
  intro octets
  rw [List.append_assoc, List.singleton_append, h]
  cases octets with
  | nil => simp [IsCompletedBy]
  | cons next octets =>
    simp only [List.map_cons, IsCompletedBy, List.length_cons, List.mem_cons, forall_eq_or_imp,
      Nat.add_right_cancel_iff]
    constructor
    · rintro ⟨-, length, range, others⟩
      exact ⟨range, length, others⟩
    · rintro ⟨range, length, others⟩
      exact ⟨⟨hl, hh⟩, length, range, others⟩

/-- Octets that begin a character and are in front of none leave one incomplete. -/
theorem exists_pending {part rest : List UInt8} (ne : part ≠ []) (begins : Begins part)
    (no_char : ∀ c, ¬ String.utf8EncodeChar c <+: part ++ rest) :
    ∃ p, decode (part ++ rest) = decodeFrom (some p) rest ∧ p.Follows part := by
  -- induction from the back: the machine has read the front when it comes to the last octet
  induction part using List.reverseRecOn generalizing rest with
  | nil => exact absurd rfl ne
  | append_singleton front octet ih =>
    by_cases first : front = []
    · subst first
      obtain ⟨c, one⟩ | ⟨-, never⟩ | ⟨p, starts, follows⟩ := start_cases octet
      · exact absurd (one ▸ List.prefix_append [octet] rest) (no_char c)
      · exact absurd begins never
      · refine ⟨p, ?_, follows⟩
        rw [List.nil_append, List.singleton_append, decode, decodeFrom_start, starts]
        rfl
    · obtain ⟨c, others, whole⟩ := begins
      have before : Begins front := ⟨c, octet :: others, by rw [← whole]; simp⟩
      rw [List.append_assoc] at no_char ⊢
      obtain ⟨⟨later, bits, low, high⟩, reads, follows⟩ := ih first before no_char
      have completed := (follows (octet :: others)).1 ⟨c, by rw [← whole]; simp⟩
      obtain ⟨⟨hl, hh⟩, length, -⟩ := completed
      -- a last octet that completes the character would put one in front
      cases later with
      | zero =>
        obtain rfl := List.map_eq_nil_iff.1 (List.length_eq_zero_iff.1 length)
        exact absurd ⟨rest, by rw [← whole]; simp⟩ (no_char c)
      | succ later =>
        refine ⟨⟨later, bits * 64 + (octet.toNat - 0x80), 0x80, 0xBF⟩, ?_, follows.later hl hh _⟩
        have goes_on : decodeFrom (some ⟨later + 1, bits, low, high⟩)
            (UInt8.ofNat octet.toNat :: rest) = _ := decodeFrom_later hl hh octet.toNat_lt
        rw [UInt8.ofNat_toNat] at goes_on
        rw [reads, List.singleton_append, goes_on]

/-- Where no character goes on, an incomplete one is replaced. -/
theorem decodeFrom_pending {p : Pending} {part rest : List UInt8} (follows : p.Follows part)
    (longest : ∀ front, front <+: part ++ rest → Begins front → front.length ≤ part.length) :
    decodeFrom (some p) rest = '\uFFFD' :: decode rest := by
  cases rest with
  | nil => rfl
  | cons octet rest =>
    -- an octet in range would make a longer beginning of a character
    have out : ¬ (p.low ≤ octet.toNat ∧ octet.toNat ≤ p.high) := by
      rintro ⟨hl, hh⟩
      have le := longest (part ++ [octet]) ⟨rest, by simp⟩ (follows.begins hl hh)
      rw [List.length_append] at le
      exact Nat.not_succ_le_self _ le
    rw [decodeFrom, step, if_neg out]
    rfl

/-- An invalid part is replaced once. -/
theorem decode_invalid {part rest : List UInt8} (h : IsInvalid part rest) :
    decode (part ++ rest) = '\uFFFD' :: decode rest := by
  obtain ⟨ne, begins⟩ | ⟨octet, rfl⟩ := h.begins
  · obtain ⟨p, reads, follows⟩ := exists_pending ne begins h.no_char
    rw [reads, decodeFrom_pending follows h.longest]
  · obtain ⟨c, one⟩ | ⟨starts, -⟩ | ⟨p, starts, follows⟩ := start_cases octet
    · exact absurd (one ▸ List.prefix_append [octet] rest) (h.no_char c)
    · rw [List.singleton_append, decode, decodeFrom_start, starts]
      rfl
    · rw [List.singleton_append, decode, decodeFrom_start, starts]
      exact decodeFrom_pending follows h.longest

/-! ## There is one reading -/

/-- An invalid part stands in front where no character does. -/
theorem exists_isInvalid {octets : List UInt8} (ne : octets ≠ [])
    (no_char : ∀ c, ¬ String.utf8EncodeChar c <+: octets) :
    ∃ part rest, octets = part ++ rest ∧ part ≠ [] ∧ IsInvalid part rest := by
  classical
  -- the longest front that begins a character is the invalid part, and a lone octet if there is
  -- none
  let P := fun n => Begins (octets.take n)
  let n := Nat.findGreatest P octets.length
  have greatest {front : List UInt8} (h : front <+: octets) (begins : Begins front) :
      front.length ≤ n := by
    refine Nat.le_findGreatest h.length_le ?_
    change Begins (octets.take front.length)
    rwa [← List.prefix_iff_eq_take.1 h]
  have begins : Begins (octets.take n) :=
    Nat.findGreatest_spec (P := P) (Nat.zero_le _) ⟨'a', by simp⟩
  by_cases none : n = 0
  · obtain ⟨octet, rest, rfl⟩ := List.exists_cons_of_ne_nil ne
    refine ⟨[octet], rest, rfl, List.cons_ne_nil _ _, no_char, .inr ⟨octet, rfl⟩, ?_⟩
    intro front h begins
    have := greatest h begins
    omega
  · have le : n ≤ octets.length := Nat.findGreatest_le _
    have ne : octets.take n ≠ [] := by
      rw [Ne, List.take_eq_nil_iff]
      tauto
    refine ⟨octets.take n, octets.drop n, (List.take_append_drop n octets).symm, ne, ?_⟩
    constructor
    · rwa [List.take_append_drop]
    · exact .inl ⟨ne, begins⟩
    · intro front h begins
      rw [List.take_append_drop] at h
      rw [List.length_take_of_le le]
      exact greatest h begins

/-- Octets have a reading: from the front, there is either a character or an invalid part. -/
theorem exists_isReading (octets : List UInt8) : ∃ s, IsReading octets s := by
  -- induction on the length, as a part may be several octets long
  induction h : octets.length using Nat.strongRecOn generalizing octets with
  | ind n ih =>
    subst h
    by_cases ne : octets = []
    · exact ⟨[], ne ▸ .nil⟩
    by_cases char : ∃ c, String.utf8EncodeChar c <+: octets
    · obtain ⟨c, rest, rfl⟩ := char
      have nonempty : 0 < (String.utf8EncodeChar c).length := by
        rw [String.length_utf8EncodeChar]
        exact c.utf8Size_pos
      obtain ⟨s, read⟩ := ih rest.length (by rw [List.length_append]; omega) rest rfl
      exact ⟨_, .char c read⟩
    · obtain ⟨part, rest, rfl, ne, invalid⟩ := exists_isInvalid ne (not_exists.1 char)
      have nonempty := List.length_pos_iff.2 ne
      obtain ⟨s, read⟩ := ih rest.length (by rw [List.length_append]; omega) rest rfl
      exact ⟨_, .invalid invalid read⟩

/-- A reading is what is decoded. -/
theorem IsReading.decode_eq {octets : List UInt8} {s : List Char} (h : IsReading octets s) :
    decode octets = s := by
  induction h with
  | nil => rfl
  | char c _ ih => rw [decode_encodeChar, ih]
  | invalid h _ ih => rw [decode_invalid h, ih]

/-- **Octets have one reading, and it is what is decoded.** -/
theorem isReading_iff {octets : List UInt8} {s : List Char} :
    IsReading octets s ↔ decode octets = s := by
  refine ⟨IsReading.decode_eq, ?_⟩
  rintro rfl
  obtain ⟨s, read⟩ := exists_isReading octets
  rwa [read.decode_eq]

end Utf8

namespace Utf16

/-! ## Readings of code units -/

/-- Whether a text is what code units spell, with U+FFFD in place of every unit with which no
character begins. -/
inductive IsReading : List Nat → List Char → Prop
  | nil : IsReading [] []
  | char (c : Char) {units : List Nat} {s : List Char} (h : IsReading units s) :
      IsReading (encodeChar c ++ units) (c :: s)
  | unpaired {unit : Nat} {units : List Nat} {s : List Char}
      (h : ∀ c, ¬ encodeChar c <+: unit :: units) (hs : IsReading units s) :
      IsReading (unit :: units) ('\uFFFD' :: s)

/-- A unit with which no character begins is a surrogate, and is replaced. -/
theorem decode_unpaired {unit : Nat} {units : List Nat} (lt : unit < 0x10000)
    (no_char : ∀ c, ¬ encodeChar c <+: unit :: units) :
    decode (unit :: units) = '\uFFFD' :: decode units := by
  -- any other unit would be a character by itself
  have surrogate : isHigh unit || isLow unit := by
    by_contra plain
    exact no_char (Char.ofNat unit) ⟨units, by rw [encodeChar_ofNat lt plain]; rfl⟩
  cases units with
  | nil => simp [decode, surrogate]
  | cons low units =>
    have unpaired : ¬ (isHigh unit && isLow low) := fun pairs =>
      no_char (pair unit low) ⟨units, by rw [encodeChar_pair pairs]; rfl⟩
    rw [decode, if_neg unpaired, if_pos surrogate]

/-- Code units have a reading: from the front, there is either a character or a unit without one. -/
theorem exists_isReading (units : List Nat) : ∃ s, IsReading units s := by
  induction h : units.length using Nat.strongRecOn generalizing units with
  | ind n ih =>
    subst h
    cases units with
    | nil => exact ⟨[], .nil⟩
    | cons unit units =>
      by_cases char : ∃ c, encodeChar c <+: unit :: units
      · obtain ⟨c, rest, whole⟩ := char
        have nonempty : 0 < (encodeChar c).length := by
          unfold encodeChar
          split <;> exact Nat.succ_pos _
        have length := congrArg List.length whole
        rw [List.length_append] at length
        obtain ⟨s, read⟩ := ih rest.length (by omega) rest rfl
        exact ⟨c :: s, whole ▸ IsReading.char c read⟩
      · obtain ⟨s, read⟩ := ih units.length (Nat.lt_succ_self _) units rfl
        exact ⟨_, .unpaired (not_exists.1 char) read⟩

theorem IsReading.decode_eq {units : List Nat} {s : List Char} (h : IsReading units s)
    (lt : ∀ unit ∈ units, unit < 0x10000) : decode units = s := by
  induction h with
  | nil => rfl
  | char c _ ih => rw [decode_encodeChar, ih fun unit mem => lt unit (List.mem_append_right _ mem)]
  | unpaired h _ ih =>
    rw [decode_unpaired (lt _ List.mem_cons_self) h,
      ih fun unit mem => lt unit (List.mem_cons_of_mem _ mem)]

/-- **Units of 16 bits have one reading, and it is what is decoded.** -/
theorem isReading_iff {units : List Nat} (lt : ∀ unit ∈ units, unit < 0x10000) {s : List Char} :
    IsReading units s ↔ decode units = s := by
  refine ⟨fun h => h.decode_eq lt, ?_⟩
  rintro rfl
  obtain ⟨s, read⟩ := exists_isReading units
  rwa [read.decode_eq lt]

end Utf16

end CookieConsent.Text
