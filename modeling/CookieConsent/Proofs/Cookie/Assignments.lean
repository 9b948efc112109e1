import CookieConsent.Cookie.Assignment
import CookieConsent.Cookie.Entry
import CookieConsent.Proofs.Text.Spellings
import CookieConsent.Proofs.Text.Words
import CookieConsent.Proofs.Time.Advancing
import CookieConsent.Proofs.Time.Dates

/-!
# What assignments set

Which cookies an assignment can set, and which one it sets when it is made for a name and a value.

A cookie that comes from an assignment has a valid name, a value that can stand in a header, and a
path from the root. The assignment made for a valid name sets the cookie with that name, the escaped
value, the path of the whole site, and the date that is read in the date written.

* `isWellFormed_of_ofAssignment?`: what every assigned cookie is like.
* `isShown_of_ofAssignment?`: when the cookie that it sets expires.
* `ofAssignment?_entry`: the cookie that an entry of a header sets.
* `ofAssignment?_assignment`: the cookie that a made assignment sets.
-/

namespace CookieConsent

open Text (IsTrimmed isBlank)
open Time (Instant)

/-! ## Characters of names and values -/

namespace Text

/-- The visible characters of ASCII are no blanks. -/
theorem isBlank_of_ascii {c : Char} (low : 0x21 ≤ c.toNat) (high : c.toNat ≤ 0x7E) :
    isBlank c = false := by
  simp [isBlank, inRanges, blankRanges]
  omega

/-- Whether a character can stand in an escaped value. -/
def IsEscapedChar (c : Char) : Prop := isPlain c ∨ c = '%'

/-- Bounds on a character, as the tests of the library state them, in numbers. -/
theorem toNat_between {c : Char} {low high : UInt32}
    (h : (decide (c.val ≥ low) && decide (c.val ≤ high)) = true) :
    low.toNat ≤ c.toNat ∧ c.toNat ≤ high.toNat := by
  rw [Bool.and_eq_true, decide_eq_true_eq, decide_eq_true_eq] at h
  exact h

/-- What escaping writes is visible ASCII. -/
theorem IsEscapedChar.ascii {c : Char} (h : IsEscapedChar c) :
    0x21 ≤ c.toNat ∧ c.toNat ≤ 0x7E := by
  rcases h with plain | rfl
  · change (((c.isUpper || c.isLower) || c.isDigit) ||
      ['@', '*', '_', '+', '-', '.', '/'].contains c) = true at plain
    rw [Bool.or_eq_true, Bool.or_eq_true, Bool.or_eq_true, List.contains_iff_mem] at plain
    rcases plain with ((upper | lower) | digit) | other
    · have : 65 ≤ c.toNat ∧ c.toNat ≤ 90 := of_decide_eq_true upper
      omega
    · have : 97 ≤ c.toNat ∧ c.toNat ≤ 122 := toNat_between lower
      omega
    · have : 48 ≤ c.toNat ∧ c.toNat ≤ 57 := toNat_between digit
      omega
    · simp only [List.mem_cons, List.not_mem_nil, or_false] at other
      rcases other with rfl | rfl | rfl | rfl | rfl | rfl | rfl <;> decide
  · decide

theorem IsEscapedChar.isBlank {c : Char} (h : IsEscapedChar c) : isBlank c = false :=
  isBlank_of_ascii h.ascii.1 h.ascii.2

/-- The separators of cookies cannot stand in an escaped value. -/
theorem IsEscapedChar.ne {c : Char} (h : IsEscapedChar c) : c ≠ ';' ∧ c ≠ '=' := by
  constructor <;> rintro rfl <;> revert h <;> simp [IsEscapedChar] <;> decide

theorem IsEscaped.isEscapedChar {s : List Char} (h : IsEscaped s) {c : Char} (hc : c ∈ s) :
    IsEscapedChar c := by
  have digits : "0123456789ABCDEF".toList.all isPlain := by decide
  rw [List.all_eq_true] at digits
  induction h with
  | nil => exact absurd hc List.not_mem_nil
  | plain first _ ih =>
    rcases List.mem_cons.1 hc with rfl | hc
    · rw [← List.contains_iff_mem, ← Bool.or_eq_true] at first
      exact .inl first
    · exact ih hc
  | octet high low _ ih =>
    rcases List.mem_cons.1 hc with rfl | hc
    · exact .inr rfl
    rcases List.mem_cons.1 hc with rfl | hc
    · exact .inl (digits _ high)
    rcases List.mem_cons.1 hc with rfl | hc
    · exact .inl (digits _ low)
    · exact ih hc

/-- The escaped form of a value holds no other characters. -/
theorem isEscapedChar_of_mem_escape {value : String} {c : Char} (h : c ∈ (escape value).toList) :
    IsEscapedChar c :=
  (isEscaped_escape value).isEscapedChar h

end Text

namespace Cookie

/-- Names are visible ASCII. -/
theorem isNameChar_ascii {c : Char} (h : isNameChar c) : 0x21 ≤ c.toNat ∧ c.toNat ≤ 0x7E := by
  simp only [isNameChar, Bool.and_eq_true, decide_eq_true_eq] at h
  exact ⟨h.1.1, h.1.2⟩

/-- The separators of cookies cannot stand in a name. -/
theorem not_mem_of_isValidName {name : String} (h : isValidName name) :
    ';' ∉ name.toList ∧ '=' ∉ name.toList := by
  simp only [isValidName, Bool.and_eq_true, List.all_eq_true] at h
  constructor <;> intro mem <;> exact absurd (h.2 _ mem) (by decide)

/-- So a name has no blanks in it, and trimming leaves it as it is. -/
theorem isBlank_of_mem_name {name : String} (h : isValidName name) {c : Char}
    (hc : c ∈ name.toList) : isBlank c = false := by
  simp only [isValidName, Bool.and_eq_true, List.all_eq_true] at h
  exact Text.isBlank_of_ascii (isNameChar_ascii (h.2 c hc)).1 (isNameChar_ascii (h.2 c hc)).2

theorem ne_nil_of_isValidName {name : String} (h : isValidName name) : name.toList ≠ [] := by
  simp only [isValidName, Bool.and_eq_true, decide_eq_true_eq] at h
  exact h.1

/-- A valid name has nothing to trim. -/
theorem trim_name {name : String} (h : isValidName name) : Text.trim name.toList = name.toList :=
  Text.trim_eq_self (Text.isTrimmed_of_forall fun _ hc => isBlank_of_mem_name h hc)

/-- An entry of a name and a value has nothing to trim when the value has not. -/
theorem isTrimmed_entry {name : String} (h : isValidName name) {value : List Char}
    (hvalue : IsTrimmed value) : IsTrimmed (name.toList ++ '=' :: value) :=
  Text.isTrimmed_append_cons (ne_nil_of_isValidName h)
    (fun _ hc => isBlank_of_mem_name h (List.mem_of_mem_head? hc)) rfl hvalue

/-- An entry is cut where its name ends. -/
theorem cut_entry {name : String} (h : isValidName name) (value : List Char) :
    Text.cut '=' (name.toList ++ '=' :: value) = some (name.toList, value) :=
  Text.cut_eq_some.2 ⟨rfl, (not_mem_of_isValidName h).2⟩

/-! ## The cookies that assignments can set -/

/-- A cookie that can stand in a header and be found there. -/
structure IsWellFormed (c : Cookie) : Prop where
  name : isValidName c.name
  value_separator : ';' ∉ c.value.toList
  value_trimmed : IsTrimmed c.value.toList
  path : c.path.toList.head? = some '/'

/-- The path that attributes give begins at the root. -/
theorem head?_path_add {attributes : Attributes} (h : attributes.path.head? = some '/')
    (segment : List Char) : (attributes.add segment).path.head? = some '/' := by
  unfold Attributes.add
  obtain ⟨key, value⟩ := attributePair (Text.trim segment)
  dsimp only
  split
  · exact h
  split
  · exact h
  split
  · next given =>
    -- a path that is taken over starts with a slash, and trimming can change its end only
    have start : value.head?.any isBlank = false := by rw [given.2]; rfl
    exact (Text.head?_trim start).trans given.2
  · exact h

/-- However many attributes are taken in, the path starts at the root. -/
theorem head?_path_foldl (segments : List (List Char)) {attributes : Attributes}
    (h : attributes.path.head? = some '/') :
    (segments.foldl Attributes.add attributes).path.head? = some '/' := by
  induction segments generalizing attributes with
  | nil => exact h
  | cons segment segments ih => exact ih (head?_path_add h segment)

/-- Every cookie that an assignment sets is well-formed. -/
theorem isWellFormed_of_ofAssignment? {now : Instant} {text : String} {c : Cookie}
    (h : ofAssignment? now text = some c) : c.IsWellFormed := by
  unfold ofAssignment? at h
  split at h
  · cases h
  · next pair attributes parts =>
    obtain ⟨⟨name, value⟩, found, rfl⟩ := Option.map_eq_some_iff.1 h
    -- no part of a split text holds what it is split at
    have separator : ';' ∉ pair := Text.not_mem_of_mem_splitOn (s := text.toList) (by simp [parts])
    unfold pair? at found
    split at found
    · next before after cut =>
      dsimp only at found
      split at found
      · next valid =>
        cases found
        refine ⟨valid, ?_, ?_, ?_⟩
        · obtain ⟨whole, -⟩ := Text.cut_eq_some.1 cut
          rw [String.toList_ofList]
          intro mem
          have inside : ';' ∈ Text.trim pair := by
            rw [whole]
            simp [Text.mem_of_mem_trim mem]
          exact separator (Text.mem_of_mem_trim inside)
        · rw [String.toList_ofList]
          exact Text.isTrimmed_trim after
        · rw [String.toList_ofList]
          exact head?_path_foldl attributes rfl
      · cases found
    · cases found

/-! ## When assigned cookies expire -/

/-- Whether the cookie expires at an instant that clocks show, if it does. -/
def IsShown (c : Cookie) : Prop := ∀ t ∈ c.expires, t.IsShown

/-- A lifetime leads out of leap seconds, or not ahead. -/
theorem isShown_or_le_expiryOfAge (now : Instant) (seconds : Int) :
    (expiryOfAge now seconds).IsShown ∨ expiryOfAge now seconds ≤ now := by
  rw [expiryOfAge]
  cases sum : now.add? (.ofSeconds seconds) with
  | none =>
    by_cases ahead : 0 < seconds
    · rw [Option.getD_none, if_pos ahead]
      exact .inl (Time.Instant.isShown_of_isLeap_eq_false rfl)
    · rw [Option.getD_none, if_neg ahead]
      exact .inr (Time.Instant.le_refl now)
  | some t =>
    rw [Option.getD_some]
    rcases Time.Instant.add?_cases sum with ⟨-, plain, -⟩ | ⟨leap, same, nanos⟩ | ⟨-, plain, -⟩
    · exact .inl (Time.Instant.isShown_of_isLeap_eq_false plain)
    · -- a leap second is shorter than two seconds, so no whole second ahead stays in it
      have lt := t.nanos_lt
      rw [Time.Instant.isLeap, decide_eq_true_eq] at leap
      rw [Time.Duration.nanos_ofSeconds] at nanos
      exact .inr (.inr ⟨same, by omega⟩)
    · exact .inl (Time.Instant.isShown_of_isLeap_eq_false plain)

/-- The date that attributes give is one that clocks show. -/
theorem isShown_add {attributes : Attributes} (h : ∀ t ∈ attributes.expires, t.IsShown)
    (segment : List Char) : ∀ t ∈ (attributes.add segment).expires, t.IsShown := by
  unfold Attributes.add
  obtain ⟨key, value⟩ := attributePair (Text.trim segment)
  dsimp only
  split
  · exact fun t read => Time.isShown_of_mailDate? read
  split
  · exact h
  split
  · exact h
  · exact h

/-- However many attributes are taken in, clocks show the date that is kept. -/
theorem isShown_foldl (segments : List (List Char)) {attributes : Attributes}
    (h : ∀ t ∈ attributes.expires, t.IsShown) :
    ∀ t ∈ (segments.foldl Attributes.add attributes).expires, t.IsShown := by
  induction segments generalizing attributes with
  | nil => exact h
  | cons segment segments ih => exact ih (isShown_add h segment)

/-- A cookie that an assignment sets expires at an instant that clocks show, unless it has expired by
then: a lifetime of no seconds ends now, also where clocks do not show it. -/
theorem isShown_of_ofAssignment? {now : Instant} {text : String} {c : Cookie}
    (h : ofAssignment? now text = some c) (alive : c.isExpired now = false) : c.IsShown := by
  unfold ofAssignment? at h
  split at h
  · cases h
  · next pair segments _ =>
    obtain ⟨named, -, rfl⟩ := Option.map_eq_some_iff.1 h
    have dated : ∀ t ∈ (segments.foldl Attributes.add Attributes.none).expires, t.IsShown :=
      isShown_foldl segments fun t given => absurd given (Option.not_mem_none t)
    generalize segments.foldl Attributes.add Attributes.none = said at alive dated
    intro t expires
    dsimp only [isExpired, Attributes.expiry] at alive expires
    -- a lifetime is used where one is given, whatever the date is
    cases age : said.maxAge with
    | none =>
      rw [age] at expires
      exact dated t expires
    | some seconds =>
      rw [age] at alive expires
      obtain rfl := Option.some.inj expires
      rcases isShown_or_le_expiryOfAge now seconds with shown | le
      · exact shown
      · exact absurd le (by simpa using alive)

/-! ## The cookies that entries set -/

/-- The first part of an assignment gives the name and the value of an entry with nothing to trim.
-/
theorem pair?_entry {name : String} (h : isValidName name) {value : String}
    (hvalue : IsTrimmed value.toList) :
    pair? (name.toList ++ '=' :: value.toList) = some (name, value) := by
  rw [pair?, Text.trim_eq_self (isTrimmed_entry h hvalue), cut_entry h]
  simp only [trim_name h, Text.trim_eq_self hvalue, String.ofList_toList, h, if_true]

/-- The entry of a cookie, assigned as it stands in a header, sets the name and the value of the
cookie for the whole site. -/
theorem ofAssignment?_entry {c : Cookie} (hc : c.IsWellFormed) (now : Instant) :
    ofAssignment? now (c.name ++ "=" ++ c.value) = some ⟨c.name, c.value, "/", none⟩ := by
  have entry : (c.name ++ "=" ++ c.value).toList = c.name.toList ++ '=' :: c.value.toList := by
    simp
  have separator : ';' ∉ c.name.toList ++ '=' :: c.value.toList := by
    simp [(not_mem_of_isValidName hc.name).1, hc.value_separator]
  have whole : (c.name.toList ++ '=' :: c.value.toList).splitOn ';' =
      [c.name.toList ++ '=' :: c.value.toList] :=
    List.splitOn_eq_singleton separator
  rw [ofAssignment?, entry, whole]
  simp only [pair?_entry hc.name hc.value_trimmed, Option.map_some]
  rfl

/-! ## The cookies that made assignments set -/

/-- The escaped form of a value has nothing to trim. -/
theorem isTrimmed_escape (value : String) : IsTrimmed (Text.escape value).toList :=
  Text.isTrimmed_of_forall fun _ hc => (Text.isEscapedChar_of_mem_escape hc).isBlank

/-- Neither a name nor an escaped value ends the first part of an assignment. -/
theorem separator_not_mem_entry {name : String} (h : isValidName name) (value : String) :
    ';' ∉ name.toList ++ '=' :: (Text.escape value).toList := by
  have escaped : ';' ∉ (Text.escape value).toList := fun mem =>
    (Text.isEscapedChar_of_mem_escape mem).ne.1 rfl
  simp [(not_mem_of_isValidName h).1, escaped]

/-- The attribute `expires` of a made assignment gives the date that is read in it. -/
theorem add_expires (attributes : Attributes) (t : Instant) :
    attributes.add (" expires=".toList ++ (Time.httpDate t).toList) =
      { attributes with expires := Time.mailDate? (Time.httpDate t) } := by
  have valid : isValidName "expires" := by decide
  have trimmed : Text.trim (" expires=".toList ++ (Time.httpDate t).toList) =
      "expires".toList ++ '=' :: (Time.httpDate t).toList := by
    rw [← Text.trim_eq_self (isTrimmed_entry valid (Time.isTrimmed_httpDate t))]
    exact Text.trim_cons (c := ' ') rfl _
  have cut := cut_entry valid (Time.httpDate t).toList
  have key : (Text.trim "expires".toList).map Char.toLower = "expires".toList := by decide
  rw [Attributes.add, trimmed, attributePair, cut]
  simp only [Option.getD_some, key, if_true, String.ofList_toList]

/-- The attribute `path` of a made assignment gives the path of the whole site. -/
theorem add_path (attributes : Attributes) :
    attributes.add " path=/".toList = { attributes with path := ['/'] } := rfl

/-- Nothing behind the last separator says nothing. -/
theorem add_nil (attributes : Attributes) : attributes.add [] = attributes := rfl

/-- The parts of a made assignment. -/
theorem splitOn_assignment {name : String} (h : isValidName name) (value : String)
    (expires : Option Instant) :
    (assignment name value expires).toList.splitOn ';' =
      (name.toList ++ '=' :: (Text.escape value).toList) ::
        (expires.toList.map fun t => " expires=".toList ++ (Time.httpDate t).toList) ++
        [" path=/".toList, []] := by
  have entry := separator_not_mem_entry h value
  -- the text is cut behind the entry, and behind the date if there is one
  cases expires with
  | none =>
    have parts : (assignment name value none).toList =
        (name.toList ++ '=' :: (Text.escape value).toList) ++ ';' :: " path=/;".toList := by
      simp [assignment]
    rw [parts, List.splitOn_append_cons_self_of_not_mem entry]
    rfl
  | some t =>
    have date : ';' ∉ " expires=".toList ++ (Time.httpDate t).toList := by
      rw [List.mem_append, not_or]
      exact ⟨by decide, Time.separator_not_mem_httpDate t⟩
    have parts : (assignment name value (some t)).toList =
        (name.toList ++ '=' :: (Text.escape value).toList) ++ ';' ::
          ((" expires=".toList ++ (Time.httpDate t).toList) ++ ';' :: " path=/;".toList) := by
      simp [assignment]
    rw [parts, List.splitOn_append_cons_self_of_not_mem entry,
      List.splitOn_append_cons_self_of_not_mem date]
    rfl

/-- The cookie that the assignment made for a valid name sets: the value escaped, the path of the
whole site, and the date that is read in the date written. -/
theorem ofAssignment?_assignment {name : String} (h : isValidName name) (now : Instant)
    (value : String) (expires : Option Instant) :
    ofAssignment? now (assignment name value expires) =
      some ⟨name, Text.escape value, "/",
        expires.bind fun t => Time.mailDate? (Time.httpDate t)⟩ := by
  rw [ofAssignment?, splitOn_assignment h]
  simp only [List.cons_append, pair?_entry h (isTrimmed_escape value), Option.map_some]
  cases expires with
  | none => rfl
  | some t =>
    simp only [Option.toList_some, List.map_cons, List.map_nil, List.cons_append, List.nil_append,
      List.foldl_cons, List.foldl_nil, add_expires, add_path, add_nil, Attributes.expiry,
      Attributes.none, Option.bind_some]

end Cookie

end CookieConsent
