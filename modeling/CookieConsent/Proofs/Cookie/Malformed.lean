import CookieConsent.Proofs.Cookie.Attributes

/-!
# Attributes that cannot be taken

An attribute can have a key that counts and a value that cannot be taken: no date, no number of
seconds, no path from the root. A path of this kind is passed over. With the other two keys such an
attribute makes the assignment forget what was said under its key before. So it can cost a cookie its
expiry, and nothing else; and it does so only as the last attribute with its key, behind one whose
value counted.

* `bind_lastOf_insert`: one more value under a key.
* `said_insert`: what attributes say with one more that cannot be taken.
* `expiry_forget_eq_iff`: when it does not matter what was said under a key.
* `malformed_ignored_iff`: the assignments to which such an attribute does not matter.
-/

namespace CookieConsent.Cookie

open Time (Instant)

/-- An attribute with a key that counts and a value that cannot be taken. -/
structure IsMalformed (segment : List Char) : Prop where
  counted : ∃ key ∈ countedKeys, keyOf segment = key.toList
  date : keyOf segment = "expires".toList →
    Time.mailDate? (String.ofList (valueOf segment)) = none
  number : keyOf segment = "max-age".toList →
    Text.Decimal.int64? (Text.trim (valueOf segment)) = none
  place : keyOf segment = "path".toList → (Text.trim (valueOf segment)).head? ≠ some '/'

instance (segment : List Char) : Decidable (IsMalformed segment) :=
  decidable_of_iff
    ((∃ key ∈ countedKeys, keyOf segment = key.toList) ∧
      (keyOf segment = "expires".toList →
        Time.mailDate? (String.ofList (valueOf segment)) = none) ∧
      (keyOf segment = "max-age".toList →
        Text.Decimal.int64? (Text.trim (valueOf segment)) = none) ∧
      (keyOf segment = "path".toList → (Text.trim (valueOf segment)).head? ≠ some '/'))
    ⟨fun ⟨counted, date, number, place⟩ => ⟨counted, date, number, place⟩,
      fun ⟨counted, date, number, place⟩ => ⟨counted, date, number, place⟩⟩

/-- What attributes say without what they say under a key, where a path is not forgotten. -/
def Attributes.forget (said : Attributes) (key : List Char) : Attributes where
  path := said.path
  expires := if key = "expires".toList then Option.none else said.expires
  maxAge := if key = "max-age".toList then Option.none else said.maxAge

/-! ## The last values with one more -/

variable {α : Type}

/-- What stands behind an attribute comes before it, and the attribute before what stands in front.
-/
theorem lastOf_insert (give : List Char → Option α) (segment : List Char)
    (front back : List (List Char)) :
    lastOf give (front ++ segment :: back) =
      (lastOf give back).or ((give segment).or (lastOf give front)) := by
  rw [← List.singleton_append, lastOf_append, lastOf_append, lastOf_singleton, Option.or_assoc]

/-- Something is given under a key if the key is there. -/
theorem lastOf_under_eq_none_iff {key : String} {attributes : List (List Char)} :
    lastOf (under key some) attributes = none ↔ key.toList ∉ attributes.map keyOf := by
  rw [lastOf, List.getLast?_eq_none_iff, List.filterMap_eq_nil_iff, List.mem_map, not_exists]
  refine forall_congr' fun segment => ?_
  rw [under, not_and]
  simp

/-- An attribute that gives nothing does not matter. -/
theorem lastOf_insert_of_eq_none {give : List Char → Option α} {segment : List Char}
    (silent : give segment = none) (front back : List (List Char)) :
    lastOf give (front ++ segment :: back) = lastOf give (front ++ back) := by
  rw [lastOf_insert, silent, Option.none_or, lastOf_append]

/-- One more attribute under a key, with a value that cannot be taken, leaves nothing to be taken
under the key unless the key comes again behind it. -/
theorem bind_lastOf_insert (key : String) (take : List Char → Option α) {segment : List Char}
    (bad : keyOf segment = key.toList → take (valueOf segment) = none)
    (front back : List (List Char)) :
    (lastOf (under key some) (front ++ segment :: back)).bind take =
      if keyOf segment = key.toList ∧ key.toList ∉ back.map keyOf then none
      else (lastOf (under key some) (front ++ back)).bind take := by
  by_cases same : keyOf segment = key.toList
  · have given : under key some segment = some (valueOf segment) := if_pos same
    rw [lastOf_insert, given, Option.some_or, lastOf_append]
    by_cases again : key.toList ∈ back.map keyOf
    · have behind : lastOf (under key some) back ≠ none :=
        mt lastOf_under_eq_none_iff.1 (not_not.2 again)
      obtain ⟨value, last⟩ := Option.ne_none_iff_exists'.1 behind
      rw [if_neg fun both => both.2 again, last, Option.some_or, Option.some_or]
    · rw [if_pos ⟨same, again⟩, lastOf_under_eq_none_iff.2 again, Option.none_or, Option.bind_some,
        bad same]
  · rw [if_neg fun both => same both.1, lastOf_insert_of_eq_none (under_eq_none same some)]

/-! ## What is said with one more -/

/-- A path that does not start at the root when it is trimmed is not taken. -/
theorem IsMalformed.under_path {segment : List Char} (h : IsMalformed segment) :
    under "path" fromRoot? segment = none := by
  rw [under, ite_eq_right_iff]
  intro key
  rw [fromRoot?, if_neg]
  intro root
  have start : (valueOf segment).head?.any Text.isBlank = false := by rw [root]; rfl
  exact h.place key ((Text.head?_trim start).trans root)

/-- One more attribute that cannot be taken makes forget what was said under its key, unless the key
comes again behind it. -/
theorem said_insert {segment : List Char} (h : IsMalformed segment) (pair : List Char)
    (front back : List (List Char)) :
    (Counted.ofParts pair (front ++ segment :: back)).said =
      if keyOf segment ∈ back.map keyOf then (Counted.ofParts pair (front ++ back)).said
      else (Counted.ofParts pair (front ++ back)).said.forget (keyOf segment) := by
  have path := lastOf_insert_of_eq_none h.under_path front back
  have expires := bind_lastOf_insert "expires" (fun value => Time.mailDate? (String.ofList value))
    h.date front back
  have maxAge := bind_lastOf_insert "max-age" (fun value => Text.Decimal.int64? (Text.trim value))
    h.number front back
  rw [Counted.said, Counted.said, Attributes.forget]
  simp only [Counted.ofParts, path, expires, maxAge]
  -- an attribute behind with the same key takes back what was forgotten
  by_cases again : keyOf segment ∈ back.map keyOf
  · have behind (key : String) : ¬ (keyOf segment = key.toList ∧ key.toList ∉ back.map keyOf) :=
      fun both => both.2 (both.1 ▸ again)
    rw [if_pos again, if_neg (behind "expires"), if_neg (behind "max-age")]
  · have last (key : String) : keyOf segment = key.toList ∧ key.toList ∉ back.map keyOf ↔
        keyOf segment = key.toList :=
      and_iff_left_of_imp fun same => same ▸ again
    simp only [if_neg again, last]

/-- Where a key is not there, there is nothing to forget. -/
theorem forget_said {key : List Char} {attributes : List (List Char)}
    (absent : key ∉ attributes.map keyOf) (pair : List Char) :
    (Counted.ofParts pair attributes).said.forget key = (Counted.ofParts pair attributes).said := by
  have same {β : Type} (name : String) (take : List Char → Option β) :
      (if key = name.toList then none else (lastOf (under name some) attributes).bind take) =
        (lastOf (under name some) attributes).bind take := by
    rw [ite_eq_right_iff]
    rintro rfl
    rw [lastOf_under_eq_none_iff.2 absent, Option.bind_none]
  rw [Attributes.forget, Counted.said, Counted.ofParts, same, same]

/-- A path cannot be forgotten: one that does not start at the root is passed over. -/
theorem forget_path (said : Attributes) : said.forget "path".toList = said := by
  rw [Attributes.forget, if_neg (by decide), if_neg (by decide)]

/-! ## When it matters -/

/-- Whether what is said under a key is needed for the expiry: a date that counts, or a number of
seconds that leads to another instant than the date that would count in its place. -/
def Attributes.Needs (said : Attributes) (key : List Char) (now : Instant) : Prop :=
  key = "expires".toList ∧ said.maxAge = Option.none ∧ said.expires ≠ Option.none ∨
    key = "max-age".toList ∧
      ∃ seconds, said.maxAge = some seconds ∧ said.expires ≠ some (expiryOfAge now seconds)

/-- Forgetting a key changes the expiry exactly when the expiry needs the key. -/
theorem expiry_forget_eq_iff (said : Attributes) (key : List Char) (now : Instant) :
    (said.forget key).expiry now = said.expiry now ↔ ¬ said.Needs key now := by
  obtain ⟨path, expires, maxAge⟩ := said
  rw [Attributes.Needs, Attributes.expiry, Attributes.expiry, Attributes.forget]
  dsimp only
  have apart : "expires".toList ≠ "max-age".toList := by decide
  by_cases date : key = "expires".toList
  · have other : key ≠ "max-age".toList := fun age => apart (date.symm.trans age)
    rw [if_pos date, if_neg other]
    cases maxAge with
    | none => simp [date, eq_comm]
    | some seconds => simp [date]
  · rw [if_neg date]
    by_cases age : key = "max-age".toList
    · rw [if_pos age]
      cases maxAge <;> simp [age]
    · rw [if_neg age]
      exact iff_of_true rfl fun needs => needs.elim (fun h => date h.1) fun h => age h.1

/-- The expiry of the cookie that is set. -/
theorem expires_of_ofAssignment? {text : String} {now : Instant} {cookie : Cookie}
    (h : ofAssignment? now text = some cookie) :
    cookie.expires = (Counted.ofText text).said.expiry now := by
  rw [ofAssignment?_eq, Counted.cookie?, Option.map_eq_some_iff] at h
  obtain ⟨_, -, rfl⟩ := h
  rfl

/-! ## Assignments with one more -/

variable {s t : String} {pair segment : List Char} {front back : List (List Char)}

/-- The cookie of an assignment with one more attribute that cannot be taken. -/
theorem ofAssignment?_insert (now : Instant) (hs : parts s = pair :: (front ++ segment :: back))
    (ht : parts t = pair :: (front ++ back)) (malformed : IsMalformed segment) :
    ofAssignment? now s = (ofAssignment? now t).map fun c =>
      { c with
        expires := if keyOf segment ∈ back.map keyOf then c.expires
          else ((Counted.ofParts pair (front ++ back)).said.forget (keyOf segment)).expiry now } := by
  rw [ofAssignment?_of_parts hs, ofAssignment?_of_parts ht, said_eq pair, said_eq pair,
    said_insert malformed, Option.map_map]
  split <;> rfl

/-- It is the same cookie if none is set, or the key comes again, or what is said under it is not
needed. -/
theorem ofAssignment?_insert_eq_iff (now : Instant)
    (hs : parts s = pair :: (front ++ segment :: back)) (ht : parts t = pair :: (front ++ back))
    (malformed : IsMalformed segment) :
    ofAssignment? now s = ofAssignment? now t ↔
      ofAssignment? now t = none ∨ keyOf segment ∈ back.map keyOf ∨
        ¬ (Counted.ofParts pair (front ++ back)).said.Needs (keyOf segment) now := by
  rw [ofAssignment?_insert now hs ht malformed]
  -- only the expiry can differ, and only where nothing behind speaks again
  cases given : ofAssignment? now t with
  | none => exact iff_of_true rfl (.inl rfl)
  | some c =>
    have expiry : c.expires = (Counted.ofParts pair (front ++ back)).said.expiry now := by
      rw [expires_of_ofAssignment? given, Counted.ofText, ht, List.headD_cons, List.tail_cons]
    rw [Option.map_some, Option.some_inj, ← expiry_forget_eq_iff, ← expiry]
    by_cases again : keyOf segment ∈ back.map keyOf
    · rw [if_pos again]
      exact iff_of_true rfl (.inr (.inl again))
    · rw [if_neg again]
      constructor
      · exact fun same => .inr (.inr (congrArg Cookie.expires same))
      · rintro (refused | behind | same)
        · cases refused
        · exact absurd behind again
        · rw [same]

/-- **A malformed attribute is ignored, unless it is the last with its key behind one that counted.**
Take out of an assignment an attribute with a key that counts and a value that cannot be taken. The
cookie that is set is the same but for its expiry. The expiry is the same as well if the key is
`path`, or if another attribute with the same key stands behind the one taken out, or none in front
of it. Otherwise the assignment with the attribute forgets what it says without it under the key, so
that the cookie is the same exactly if that is not needed: under `expires`, if a `max-age` counts or
no date is given, and under `max-age`, if no number is given or the date that counts in its place is
the same instant. -/
theorem malformed_ignored_iff (now : Instant) (hs : parts s = pair :: (front ++ segment :: back))
    (ht : parts t = pair :: (front ++ back)) (malformed : IsMalformed segment) :
    let said := (Counted.ofText t).said
    ofAssignment? now s = ((ofAssignment? now t).map fun c =>
      { c with
        expires := if keyOf segment ∈ back.map keyOf then c.expires
          else (said.forget (keyOf segment)).expiry now }) ∧
    (keyOf segment = "path".toList ∨ keyOf segment ∈ back.map keyOf ∨
      keyOf segment ∉ front.map keyOf → ofAssignment? now s = ofAssignment? now t) ∧
    (ofAssignment? now s = ofAssignment? now t ↔
      ofAssignment? now t = none ∨ keyOf segment ∈ back.map keyOf ∨
        ¬ said.Needs (keyOf segment) now) := by
  intro said
  have without : said = (Counted.ofParts pair (front ++ back)).said := by
    rw [show said = (Counted.ofText t).said from rfl, Counted.ofText, ht, List.headD_cons,
      List.tail_cons]
  have same := ofAssignment?_insert_eq_iff now hs ht malformed
  rw [without]
  refine ⟨ofAssignment?_insert now hs ht malformed, ?_, same⟩
  rw [same]
  rintro (path | again | first)
  · rw [← expiry_forget_eq_iff, path, forget_path]
    exact .inr (.inr rfl)
  · exact .inr (.inl again)
  · by_cases again : keyOf segment ∈ back.map keyOf
    · exact .inr (.inl again)
    · -- nothing else is said under the key, so there is nothing to forget
      have absent : keyOf segment ∉ (front ++ back).map keyOf := by
        rw [List.map_append, List.mem_append, not_or]
        exact ⟨first, again⟩
      rw [← expiry_forget_eq_iff, forget_said absent pair]
      exact .inr (.inr rfl)

/-- A word in the place of a date, and a path that is not from the root, with others of their keys in
front and behind. -/
theorem malformed_ignored_iff_among_others :
    let t := "n=1; expires=1 Jan 1970 00:01 Z; path=/a; expires=1 Jan 1970 00:02 Z"
    let s := "n=1; expires=1 Jan 1970 00:01 Z; path=/a; Expires=soon; expires=1 Jan 1970 00:02 Z"
    let u := "n=1; expires=1 Jan 1970 00:01 Z; path=/a; path=b; expires=1 Jan 1970 00:02 Z"
    ofAssignment? Instant.epoch t =
        some ⟨"n", "1", "/a", some (.ofSecond 120 (by decide) (by decide))⟩ ∧
      ofAssignment? Instant.epoch s = ofAssignment? Instant.epoch t ∧
      ofAssignment? Instant.epoch u = ofAssignment? Instant.epoch t := by
  intro t s u
  have ht : parts t = "n=1".toList :: ([" expires=1 Jan 1970 00:01 Z".toList, " path=/a".toList] ++
      [" expires=1 Jan 1970 00:02 Z".toList]) := by decide
  have hs : parts s = "n=1".toList :: ([" expires=1 Jan 1970 00:01 Z".toList, " path=/a".toList] ++
      " Expires=soon".toList :: [" expires=1 Jan 1970 00:02 Z".toList]) := by decide
  have hu : parts u = "n=1".toList :: ([" expires=1 Jan 1970 00:01 Z".toList, " path=/a".toList] ++
      " path=b".toList :: [" expires=1 Jan 1970 00:02 Z".toList]) := by decide
  have date := malformed_ignored_iff Instant.epoch hs ht (by decide)
  have path := malformed_ignored_iff Instant.epoch hu ht (by decide)
  exact ⟨by decide +kernel, date.2.1 (.inr (.inl (by decide))), path.2.1 (.inl (by decide))⟩

/-- A word behind a number of seconds makes the cookie one that never expires. -/
theorem lifetime_forgotten_behind_word :
    parts "n=1; max-age=60" = ["n=1".toList, " max-age=60".toList] ∧
      parts "n=1; max-age=60; max-age=soon" =
        ["n=1".toList, " max-age=60".toList, " max-age=soon".toList] ∧
      IsMalformed " max-age=soon".toList ∧
      ofAssignment? Instant.epoch "n=1; max-age=60" =
        some ⟨"n", "1", "/", some (.ofSecond 60 (by decide) (by decide))⟩ ∧
      ofAssignment? Instant.epoch "n=1; max-age=60; max-age=soon" = some ⟨"n", "1", "/", none⟩ := by
  decide

end CookieConsent.Cookie
