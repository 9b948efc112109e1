import CookieConsent.Proofs.Cookie.Assignments
import CookieConsent.Proofs.Time.Expiries
import Mathlib.Data.List.Induction
import Mathlib.Data.List.TakeWhile
import Mathlib.Logic.Relation

/-!
# What counts in an assignment

Four things are said by an assignment: the pair in front, and under each of the keys `expires`,
`max-age` and `path` the last value that is given, where a path is passed over unless it starts at
the root. The cookie that is set is known from these, whatever else stands in the text. So
attributes with other keys can come and go, those with different keys can change places, and the
letter case of keys is free. If the last `max-age` is a number, `expires` does not count at all.

* `said_eq`: what all attributes say is what the last ones say.
* `ofAssignment?_eq`: the cookie that is set, from the four things.
* `attributes_determined`: changes of attributes that change nothing.
-/

namespace CookieConsent

open Text (isBlank)
open Time (Instant)

/-! ## Letter case -/

namespace Text

/-- A change to lower case changes ASCII letters only. -/
theorem toLower_cases (c : Char) :
    c.toLower = c ∨ (0x41 ≤ c.toNat ∧ c.toNat ≤ 0x5A) ∧ c.toLower.toNat = c.toNat + 0x20 := by
  by_cases upper : c.val ≥ 'A'.val ∧ c.val ≤ 'Z'.val
  · have lower : c.toLower.val = c.val + 0x20 := congrArg Char.val (dif_pos upper)
    have high : c.val.toNat ≤ 0x5A := upper.2
    refine .inr ⟨upper, ?_⟩
    rw [Char.toNat, lower, UInt32.toNat_add, show (0x20 : UInt32).toNat = 0x20 from rfl]
    exact Nat.mod_eq_of_lt (by omega)
  · exact .inl (dif_neg upper)

/-- A letter is no blank in either case. -/
theorem isBlank_toLower (c : Char) : isBlank c.toLower = isBlank c := by
  rcases toLower_cases c with same | ⟨bounds, lower⟩
  · rw [same]
  · rw [isBlank_of_ascii (c := c) (by omega) (by omega),
      isBlank_of_ascii (c := c.toLower) (by omega) (by omega)]

/-- A change to lower case takes no `=` away and makes none. -/
theorem equals_mem_map_toLower {s : List Char} : '=' ∈ s.map Char.toLower ↔ '=' ∈ s := by
  constructor
  · intro mem
    obtain ⟨c, hc, lower⟩ := List.mem_map.1 mem
    rcases toLower_cases c with same | ⟨bounds, letter⟩
    · rwa [← lower, same]
    · rw [lower, show ('=' : Char).toNat = 0x3D from rfl] at letter
      omega
  · exact fun mem => List.mem_map.2 ⟨'=', mem, rfl⟩

end Text

namespace Cookie

/-! ## Keys and values -/

/-- The parts of an assignment: the pair, and behind it the attributes. -/
def parts (text : String) : List (List Char) := text.toList.splitOn ';'

/-- The key of an attribute: what stands in front of its first `=`, or all of it, in lower case and
without the blanks around it. -/
def keyOf (segment : List Char) : List Char :=
  (Text.trim (segment.takeWhile (· ≠ '='))).map Char.toLower

/-- The value of an attribute: what stands behind its first `=`, without the blanks at the end. -/
def valueOf (segment : List Char) : List Char := Text.trimEnd (segment.dropWhile (· ≠ '=')).tail

/-- A search for `=` passes over a text that has none. -/
theorem ne_of_not_mem {key : List Char} (h : '=' ∉ key) : ∀ c ∈ key, decide (c ≠ '=') :=
  fun _ hc => decide_eq_true fun eq => h (eq ▸ hc)

/-- The first `=` ends the key. -/
theorem keyOf_append {key : List Char} (h : '=' ∉ key) (value : List Char) :
    keyOf (key ++ '=' :: value) = (Text.trim key).map Char.toLower := by
  rw [keyOf, List.takeWhile_append_of_pos (ne_of_not_mem h), List.takeWhile_cons_of_neg (by simp),
    List.append_nil]

/-- Behind the first `=` everything is value, further `=` included. -/
theorem valueOf_append {key : List Char} (h : '=' ∉ key) (value : List Char) :
    valueOf (key ++ '=' :: value) = Text.trimEnd value := by
  rw [valueOf, List.dropWhile_append_of_pos (ne_of_not_mem h), List.dropWhile_cons_of_neg (by simp),
    List.tail_cons]

/-- An attribute without a `=` is a key. -/
theorem keyOf_of_not_mem {key : List Char} (h : '=' ∉ key) :
    keyOf key = (Text.trim key).map Char.toLower := by
  rw [keyOf, List.takeWhile_eq_self_iff.2 (ne_of_not_mem h)]

/-- The value of an attribute without a `=` is empty. -/
theorem valueOf_of_not_mem {key : List Char} (h : '=' ∉ key) : valueOf key = [] := by
  rw [valueOf, List.dropWhile_eq_nil_iff.2 (ne_of_not_mem h)]
  rfl

/-- Trimming a part leaves its first `=` where it is cut. -/
theorem cut_trim {key : List Char} (h : '=' ∉ key) (value : List Char) :
    Text.cut '=' (Text.trim (key ++ '=' :: value)) =
      some (Text.trimStart key, Text.trimEnd value) := by
  rw [Text.trim_append_cons rfl, Text.cut_eq_some]
  exact ⟨rfl, fun mem => h ((List.dropWhile_sublist isBlank).subset mem)⟩

/-- An attribute is read as its key and its value. -/
theorem attributePair_trim (segment : List Char) :
    attributePair (Text.trim segment) = (keyOf segment, valueOf segment) := by
  by_cases mem : '=' ∈ segment
  · obtain ⟨key, value, rfl, h⟩ := List.eq_append_cons_of_mem mem
    rw [attributePair, cut_trim h, keyOf_append h, valueOf_append h]
    simp only [Option.getD_some, Text.trim_trimStart]
  · have cut : Text.cut '=' (Text.trim segment) = none :=
      Text.cut_eq_none.2 fun inside => mem (Text.mem_of_mem_trim inside)
    rw [attributePair, cut, keyOf_of_not_mem mem, valueOf_of_not_mem mem]
    simp only [Option.getD_none, Text.trim_trim]

/-- Blanks around an attribute do not matter. -/
theorem keyOf_congr {s t : List Char} (h : Text.trim s = Text.trim t) :
    keyOf s = keyOf t ∧ valueOf s = valueOf t := by
  have pair := attributePair_trim s
  rw [h, attributePair_trim, Prod.mk.injEq] at pair
  exact ⟨pair.1.symm, pair.2.symm⟩

/-- The letter case of its key does not matter to an attribute. -/
theorem keyOf_recase {key key' rest : List Char} (h : '=' ∉ key)
    (same : key.map Char.toLower = key'.map Char.toLower)
    (behind : rest = [] ∨ rest.head? = some '=') :
    keyOf (key ++ rest) = keyOf (key' ++ rest) ∧ valueOf (key ++ rest) = valueOf (key' ++ rest) := by
  have h' : '=' ∉ key' := by
    rw [← Text.equals_mem_map_toLower, ← same, Text.equals_mem_map_toLower]
    exact h
  have trimmed : (Text.trim key).map Char.toLower = (Text.trim key').map Char.toLower := by
    -- letter case changes no blank, so the keys are trimmed alike
    rw [← Text.trim_map Text.isBlank_toLower, same, Text.trim_map Text.isBlank_toLower]
  cases rest with
  | nil =>
    rw [List.append_nil, List.append_nil, keyOf_of_not_mem h, keyOf_of_not_mem h',
      valueOf_of_not_mem h, valueOf_of_not_mem h']
    exact ⟨trimmed, rfl⟩
  | cons c value =>
    obtain rfl : c = '=' := Option.some.inj (behind.resolve_left (List.cons_ne_nil c value))
    rw [keyOf_append h, keyOf_append h', valueOf_append h, valueOf_append h']
    exact ⟨trimmed, rfl⟩

/-! ## The last values -/

variable {α : Type}

/-- What an attribute gives under a key, if its value can be taken. -/
def under (key : String) (take : List Char → Option α) (segment : List Char) : Option α :=
  if keyOf segment = key.toList then take (valueOf segment) else none

/-- The last of what some attributes give. -/
def lastOf (give : List Char → Option α) (attributes : List (List Char)) : Option α :=
  (attributes.filterMap give).getLast?

/-- A path, if it starts at the root. -/
def fromRoot? (value : List Char) : Option (List Char) :=
  if value.head? = some '/' then some value else none

/-- What counts in an assignment. -/
structure Counted where
  /-- What stands in front of the first `;`. -/
  pair : List Char
  /-- The last value under `expires`. -/
  expires : Option (List Char)
  /-- The last value under `max-age`. -/
  maxAge : Option (List Char)
  /-- The last value under `path` that starts at the root. -/
  path : Option (List Char)

namespace Counted

/-- What counts in a pair and the attributes behind it. -/
def ofParts (pair : List Char) (attributes : List (List Char)) : Counted where
  pair
  expires := lastOf (under "expires" some) attributes
  maxAge := lastOf (under "max-age" some) attributes
  path := lastOf (under "path" fromRoot?) attributes

/-- What the values that count say. -/
def said (counted : Counted) : Attributes where
  path := (counted.path.map Text.trim).getD ['/']
  expires := counted.expires.bind fun value => Time.mailDate? (String.ofList value)
  maxAge := counted.maxAge.bind fun value => Text.Decimal.int64? (Text.trim value)

/-- The cookie that is set `now`, if one is set. -/
def cookie? (counted : Counted) (now : Instant) : Option Cookie :=
  (pair? counted.pair).map fun (name, value) =>
    { name, value, path := String.ofList counted.said.path, expires := counted.said.expiry now }

/-- What counts in an assignment. -/
def ofText (text : String) : Counted := ofParts ((parts text).headD []) (parts text).tail

end Counted

theorem lastOf_singleton (give : List Char → Option α) (segment : List Char) :
    lastOf give [segment] = give segment := by
  rw [lastOf]
  cases given : give segment <;> simp [given]

/-- The last of what is given is given behind, or else in front. -/
theorem lastOf_append (give : List Char → Option α) (front back : List (List Char)) :
    lastOf give (front ++ back) = (lastOf give back).or (lastOf give front) := by
  rw [lastOf, lastOf, lastOf, List.filterMap_append, List.getLast?_append]

/-- An attribute says anew what it gives, and leaves the rest as it was said. -/
theorem add_eq (said : Attributes) (segment : List Char) :
    said.add segment =
      { path := ((under "path" fromRoot? segment).map Text.trim).getD said.path
        expires := ((under "expires" some segment).map fun value =>
          Time.mailDate? (String.ofList value)).getD said.expires
        maxAge := ((under "max-age" some segment).map fun value =>
          Text.Decimal.int64? (Text.trim value)).getD said.maxAge } := by
  rw [Attributes.add, under, under, under, attributePair_trim]
  generalize keyOf segment = key
  generalize valueOf segment = value
  -- the three keys differ, so the first test that goes through is the only one
  dsimp only
  by_cases date : key = "expires".toList
  · subst date; rfl
  by_cases age : key = "max-age".toList
  · subst age; rfl
  rw [if_neg date, if_neg age, if_neg date, if_neg age]
  by_cases place : key = "path".toList
  · by_cases root : value.head? = some '/'
    · rw [if_pos ⟨place, root⟩, if_pos place, fromRoot?, if_pos root]
      rfl
    · rw [if_neg fun both => root both.2, if_pos place, fromRoot?, if_neg root]
      rfl
  · rw [if_neg fun both => place both.1, if_neg place]
    rfl

/-- What all attributes say is what the last ones say. -/
theorem foldl_add (said : Attributes) (attributes : List (List Char)) :
    attributes.foldl Attributes.add said =
      { path := ((lastOf (under "path" fromRoot?) attributes).map Text.trim).getD said.path
        expires := ((lastOf (under "expires" some) attributes).map fun value =>
          Time.mailDate? (String.ofList value)).getD said.expires
        maxAge := ((lastOf (under "max-age" some) attributes).map fun value =>
          Text.Decimal.int64? (Text.trim value)).getD said.maxAge } := by
  have last {β : Type} (given before : Option (List Char)) (read : List Char → β) (d : β) :
      ((given.or before).map read).getD d = (given.map read).getD ((before.map read).getD d) := by
    cases given <;> rfl
  induction attributes using List.reverseRecOn with
  | nil => rfl
  | append_singleton attributes segment ih =>
    rw [List.foldl_append, List.foldl_cons, List.foldl_nil, ih, add_eq]
    simp only [lastOf_append, lastOf_singleton, last]

/-- What all attributes say, starting from nothing, is what the values that count say. -/
theorem said_eq (pair : List Char) (attributes : List (List Char)) :
    attributes.foldl Attributes.add Attributes.none = (Counted.ofParts pair attributes).said := by
  have join {β : Type} (given : Option (List Char)) (read : List Char → Option β) :
      (given.map read).getD none = given.bind read := by
    cases given <;> rfl
  rw [foldl_add, Counted.said, Counted.ofParts, Attributes.none, join, join]

theorem exists_parts (text : String) : ∃ pair attributes, parts text = pair :: attributes := by
  cases whole : parts text with
  | nil => exact (List.splitOn_ne_nil _ _ whole).elim
  | cons pair attributes => exact ⟨pair, attributes, rfl⟩

/-- The cookie that is set, from the parts of the text. -/
theorem ofAssignment?_of_parts {text : String} {pair : List Char} {attributes : List (List Char)}
    (h : parts text = pair :: attributes) (now : Instant) :
    ofAssignment? now text = (pair? pair).map fun (name, value) =>
      let said := attributes.foldl Attributes.add Attributes.none
      { name, value, path := String.ofList said.path, expires := said.expiry now } := by
  rw [parts] at h
  rw [ofAssignment?, h]

/-- The cookie that an assignment sets is known from what counts in it. -/
theorem ofAssignment?_eq (now : Instant) (text : String) :
    ofAssignment? now text = (Counted.ofText text).cookie? now := by
  obtain ⟨pair, attributes, h⟩ := exists_parts text
  rw [ofAssignment?_of_parts h, said_eq pair, Counted.ofText, h]
  rfl

/-! ## Changes that change nothing -/

/-- The keys under which values count. -/
def countedKeys : List String := ["expires", "max-age", "path"]

/-- Attributes that are worded differently. -/
inductive Reworded : List (List Char) → List (List Char) → Prop
  /-- One more stands among them: one with a key that does not count, or an empty one. -/
  | insert (front back : List (List Char)) {segment : List Char}
      (other : ∀ key ∈ countedKeys, keyOf segment ≠ key.toList) :
      Reworded (front ++ back) (front ++ segment :: back)
  /-- Two with different keys have changed places. -/
  | swap (front back : List (List Char)) {segment next : List Char}
      (other : keyOf segment ≠ keyOf next) :
      Reworded (front ++ segment :: next :: back) (front ++ next :: segment :: back)
  /-- The case of letters of a key, all that stands in front of the first `=`, has changed. -/
  | recase (front back : List (List Char)) (key key' rest : List Char) (plain : '=' ∉ key)
      (same : key.map Char.toLower = key'.map Char.toLower)
      (behind : rest = [] ∨ rest.head? = some '=') :
      Reworded (front ++ (key ++ rest) :: back) (front ++ (key' ++ rest) :: back)

/-- An attribute gives nothing under a key that is not its own. -/
theorem under_eq_none {key : String} {segment : List Char} (h : keyOf segment ≠ key.toList)
    (take : List Char → Option α) : under key take segment = none := if_neg h

/-- Other words give the same values under the keys that count, in the same order. -/
theorem Reworded.filterMap_under {as bs : List (List Char)} (h : Reworded as bs) {key : String}
    (counted : key ∈ countedKeys) (take : List Char → Option α) :
    as.filterMap (under key take) = bs.filterMap (under key take) := by
  cases h with
  | insert front back other =>
    rw [List.filterMap_append, List.filterMap_append,
      List.filterMap_cons_none (under_eq_none (other key counted) take)]
  | @swap front back segment next other =>
    rw [List.filterMap_append, List.filterMap_append]
    -- only one of the two neighbours can have the key, so the order is kept
    by_cases first : keyOf segment = key.toList
    · have silent := under_eq_none (fun same => other (first.trans same.symm)) take
      rw [List.filterMap_cons, List.filterMap_cons_none silent, List.filterMap_cons_none silent,
        List.filterMap_cons]
    · have silent := under_eq_none first take
      rw [List.filterMap_cons_none silent, List.filterMap_cons, List.filterMap_cons,
        List.filterMap_cons_none silent]
  | recase front back own own' rest plain same behind =>
    obtain ⟨keys, values⟩ := keyOf_recase plain same behind
    have one : under key take (own ++ rest) = under key take (own' ++ rest) := by
      rw [under, under, keys, values]
    rw [List.filterMap_append, List.filterMap_append, List.filterMap_cons, List.filterMap_cons, one]

/-- Other words say the same. -/
theorem ofParts_eq_of_reworded {as bs : List (List Char)} (h : Relation.EqvGen Reworded as bs)
    (pair : List Char) : Counted.ofParts pair as = Counted.ofParts pair bs := by
  induction h with
  | rel as bs h =>
    rw [Counted.ofParts, Counted.ofParts, lastOf, lastOf, lastOf, lastOf, lastOf, lastOf,
      h.filterMap_under (by decide), h.filterMap_under (by decide), h.filterMap_under (by decide)]
  | refl as => rfl
  | symm as bs _ ih => exact ih.symm
  | trans as bs cs _ _ ih ih' => exact ih.trans ih'

/-- Under a key, attributes with another key give nothing. -/
theorem lastOf_filter {key : String} (other : String) (h : key.toList ≠ other.toList)
    (take : List Char → Option α) (attributes : List (List Char)) :
    lastOf (under key take) (attributes.filter (keyOf · ≠ other.toList)) =
      lastOf (under key take) attributes := by
  rw [lastOf, lastOf, List.filterMap_filter]
  congr 2
  funext segment
  split
  · rfl
  · next same =>
    rw [under_eq_none]
    intro found
    exact h (found.symm.trans (by simpa using same))

/-- If the last `max-age` is a number, `expires` does not count. -/
theorem cookie?_eq_of_maxAge {as bs : List (List Char)}
    (same : as.filter (keyOf · ≠ "expires".toList) = bs.filter (keyOf · ≠ "expires".toList))
    (pair : List Char) {seconds : Int}
    (given : (Counted.ofParts pair as).said.maxAge = some seconds) (now : Instant) :
    (Counted.ofParts pair as).cookie? now = (Counted.ofParts pair bs).cookie? now := by
  have maxAge : lastOf (under "max-age" some) as = lastOf (under "max-age" some) bs := by
    rw [← lastOf_filter "expires" (by decide), same, lastOf_filter "expires" (by decide)]
  have path : lastOf (under "path" fromRoot?) as = lastOf (under "path" fromRoot?) bs := by
    rw [← lastOf_filter "expires" (by decide), same, lastOf_filter "expires" (by decide)]
  have given' : (Counted.ofParts pair bs).said.maxAge = some seconds := by
    rw [← given, Counted.said, Counted.said, Counted.ofParts, Counted.ofParts, maxAge]
  rw [Counted.cookie?, Counted.cookie?, Attributes.expiry, Attributes.expiry, given, given']
  rw [Counted.said, Counted.said, Counted.ofParts, Counted.ofParts, path]

/-- **Four things determine the cookie.** At any time, the cookie that a text sets, or that it sets
none, is known from what stands in front of the first `;`, the last value under `expires`, the last
value under `max-age`, and the last value under `path` that starts at the root. Hence, behind the
same pair, it does not matter to put in or to take out attributes with other keys or empty ones, to
exchange attributes with different keys, and to change the case of (ASCII) letters in keys, as often
as one likes; and behind the same pair, if the last `max-age` is a number, it does not matter which
attributes `expires` there are and where they stand. -/
theorem attributes_determined (now : Instant) :
    (∀ text, ofAssignment? now text = (Counted.ofText text).cookie? now) ∧
    (∀ s t pair as bs, parts s = pair :: as → parts t = pair :: bs →
      Relation.EqvGen Reworded as bs → ofAssignment? now s = ofAssignment? now t) ∧
    ∀ s t pair as bs, parts s = pair :: as → parts t = pair :: bs →
      as.filter (keyOf · ≠ "expires".toList) = bs.filter (keyOf · ≠ "expires".toList) →
      ∀ seconds, (Counted.ofText s).said.maxAge = some seconds →
        ofAssignment? now s = ofAssignment? now t := by
  refine ⟨ofAssignment?_eq now, ?_, ?_⟩
  · intro s t pair as bs hs ht reworded
    rw [ofAssignment?_eq, ofAssignment?_eq, Counted.ofText, Counted.ofText, hs, ht]
    exact congrArg (·.cookie? now) (ofParts_eq_of_reworded reworded pair)
  · intro s t pair as bs hs ht same seconds given
    rw [Counted.ofText, hs] at given
    rw [ofAssignment?_eq, ofAssignment?_eq, Counted.ofText, Counted.ofText, hs, ht]
    exact cookie?_eq_of_maxAge same pair given now

/-- An empty attribute and one that is not known go, two keys change their case, and the attributes
change places; and a date comes behind a number of seconds, in place of one that cannot be read. -/
theorem attributes_determined_shuffled :
    Relation.EqvGen Reworded [" Path=/a".toList, [], " max-age=5".toList, " x=/b".toList]
        [" MAX-AGE=5".toList, " path=/a".toList] ∧
      ofAssignment? Instant.epoch "n=1; Path=/a;; max-age=5; x=/b" =
        ofAssignment? Instant.epoch "n=1; MAX-AGE=5; path=/a" ∧
      (Counted.ofText "n=1; expires=; max-age=5").said.maxAge = some 5 ∧
      ofAssignment? Instant.epoch "n=1; expires=; max-age=5" =
        ofAssignment? Instant.epoch "n=1; max-age=5; Expires=Thu, 01 Jan 1970 00:00:00 GMT" := by
  have reworded : Relation.EqvGen Reworded
      [" Path=/a".toList, [], " max-age=5".toList, " x=/b".toList]
      [" MAX-AGE=5".toList, " path=/a".toList] := by
    refine .trans _ _ _ (.symm _ _ (.rel _ _ (.insert [_] [_, _] (by decide)))) ?_
    refine .trans _ _ _ (.symm _ _ (.rel _ _ (.insert [_, _] [] (by decide)))) ?_
    refine .trans _ _ _ (.rel _ _ (.swap [] [] (by decide))) ?_
    refine .trans _ _ _ (.rel _ _ (.recase [] [_] " max-age".toList " MAX-AGE".toList "=5".toList
      (by decide) (by decide) (by decide))) ?_
    exact .rel _ _ (.recase [_] [] " Path".toList " path".toList "=/a".toList
      (by decide) (by decide) (by decide))
  have seconds : (Counted.ofText "n=1; expires=; max-age=5").said.maxAge = some 5 := by decide
  obtain ⟨-, words, numbers⟩ := attributes_determined Instant.epoch
  refine ⟨reworded, words _ _ _ _ _ rfl rfl reworded, seconds, ?_⟩
  exact numbers _ _ _ _ _ rfl rfl (by decide) 5 seconds

end Cookie

end CookieConsent
