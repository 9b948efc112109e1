import CookieConsent.Jar.Basic
import CookieConsent.Proofs.Cookie.Attributes
import CookieConsent.Proofs.Text.Words
import Mathlib.Data.List.Forall2
import Mathlib.Data.List.TakeWhile

/-!
# Blanks in an assignment

Blanks may stand around the parts of an assignment and around the first `=` of each part. They do
not matter, with one exception: an attribute `path` with a blank right behind its `=` is passed
over, even if a path from the root stands behind the blank. So padding an assignment can cost it its
path, and nothing else.

* `map_under_path`: the path that counts in an attribute.
* `ofAssignment?_of_repadded`: what an assignment with other blanks sets.
* `only_path_padding_matters`: the assignments to which blanks do not matter.
-/

namespace CookieConsent.Cookie

open Text (isBlank)
open Time (Instant)

/-- Blanks for the four places of a part where they may stand. -/
structure Padding where
  front : List Char
  beforeEquals : List Char
  behindEquals : List Char
  back : List Char
  blank : ∀ w ∈ [front, beforeEquals, behindEquals, back], w.all isBlank = true

namespace Padding

def none : Padding := ⟨[], [], [], [], by simp⟩

/-- A key and a value with a `=` between, and blanks around them. -/
def around (p : Padding) (key value : List Char) : List Char :=
  p.front ++ key ++ p.beforeEquals ++ '=' :: (p.behindEquals ++ value ++ p.back)

variable (p : Padding)

/-- The gaps of a part hold blanks and nothing else. -/
theorem isBlank_of_mem {w : List Char} (h : w ∈ [p.front, p.beforeEquals, p.behindEquals, p.back]) :
    ∀ c ∈ w, isBlank c = true :=
  List.all_eq_true.1 (p.blank w h)

/-- Blanks on both sides are trimmed off. -/
theorem trim_between {v w : List Char}
    (hv : v ∈ [p.front, p.beforeEquals, p.behindEquals, p.back])
    (hw : w ∈ [p.front, p.beforeEquals, p.behindEquals, p.back]) (text : List Char) :
    Text.trim (v ++ text ++ w) = Text.trim text := by
  rw [Text.trim_append_blanks (p.isBlank_of_mem hw), Text.trim_append (p.isBlank_of_mem hv)]

theorem trim_text (text : List Char) : Text.trim (p.front ++ text ++ p.back) = Text.trim text :=
  p.trim_between (by simp) (by simp) text

theorem trim_key (key : List Char) :
    Text.trim (p.front ++ key ++ p.beforeEquals) = Text.trim key :=
  p.trim_between (by simp) (by simp) key

theorem trim_value (value : List Char) :
    Text.trim (p.behindEquals ++ value ++ p.back) = Text.trim value :=
  p.trim_between (by simp) (by simp) value

/-- Padding puts no `=` into a key, so the same `=` is the first one. -/
theorem equals_not_mem {key : List Char} (h : '=' ∉ key) :
    '=' ∉ p.front ++ key ++ p.beforeEquals := by
  have front : '=' ∉ p.front := fun mem =>
    absurd (p.isBlank_of_mem (by simp) '=' mem) (by decide)
  have before : '=' ∉ p.beforeEquals := fun mem =>
    absurd (p.isBlank_of_mem (by simp) '=' mem) (by decide)
  simp [front, h, before]

end Padding

/-- Parts that are the same but for the blanks around them and around their first `=`. -/
inductive Repadded : List Char → List Char → Prop
  /-- A part without a `=`. -/
  | word (p q : Padding) (text : List Char) (plain : '=' ∉ text) :
      Repadded (p.front ++ text ++ p.back) (q.front ++ text ++ q.back)
  /-- A part with a `=`. -/
  | pair (p q : Padding) (key value : List Char) (plain : '=' ∉ key) :
      Repadded (p.around key value) (q.around key value)

/-- A part is the same as itself. -/
theorem Repadded.refl (part : List Char) : Repadded part part := by
  by_cases plain : '=' ∈ part
  · obtain ⟨key, value, rfl, first⟩ := List.eq_append_cons_of_mem plain
    have same := Repadded.pair .none .none key value first
    simpa [Padding.around, Padding.none] using same
  · have same := Repadded.word .none .none part plain
    simpa [Padding.none] using same

/-! ## Pairs -/

/-- A pair is cut at its first `=`. -/
theorem pair?_append {key : List Char} (h : '=' ∉ key) (value : List Char) :
    pair? (key ++ '=' :: value) =
      if isValidName (String.ofList (Text.trim key)) then
        some (String.ofList (Text.trim key), String.ofList (Text.trim value))
      else none := by
  rw [pair?, cut_trim h]
  simp only [Text.trim_trimStart, Text.trim_trimEnd]

/-- Blanks do not matter to the pair in front. -/
theorem pair?_eq_of_repadded {s t : List Char} (h : Repadded s t) : pair? s = pair? t := by
  cases h with
  | word p q text plain => rw [pair?, pair?, p.trim_text, q.trim_text]
  | pair p q key value plain =>
    rw [Padding.around, Padding.around, pair?_append (p.equals_not_mem plain),
      pair?_append (q.equals_not_mem plain), p.trim_key, p.trim_value, q.trim_key, q.trim_value]

/-! ## Attributes -/

variable {α : Type}

/-- Blanks do not matter to the key of an attribute, and to its value only where they stand around
it. -/
theorem keyOf_eq_of_repadded {s t : List Char} (h : Repadded s t) :
    keyOf s = keyOf t ∧ Text.trim (valueOf s) = Text.trim (valueOf t) := by
  cases h with
  | word p q text plain =>
    obtain ⟨key, value⟩ := keyOf_congr ((p.trim_text text).trans (q.trim_text text).symm)
    exact ⟨key, congrArg Text.trim value⟩
  | pair p q key value plain =>
    rw [Padding.around, Padding.around, keyOf_append (p.equals_not_mem plain),
      keyOf_append (q.equals_not_mem plain), valueOf_append (p.equals_not_mem plain),
      valueOf_append (q.equals_not_mem plain)]
    simp only [p.trim_key, q.trim_key, Text.trim_trimEnd, p.trim_value, q.trim_value, and_self]

/-- Blanks do not matter to what is taken from the trimmed value of an attribute. -/
theorem under_trim_of_repadded {s t : List Char} (h : Repadded s t) (key : String)
    (take : List Char → Option α) :
    under key (fun value => take (Text.trim value)) s =
      under key (fun value => take (Text.trim value)) t := by
  obtain ⟨same, value⟩ := keyOf_eq_of_repadded h
  rw [under, under, same, value]

/-- Whether an attribute gives a path with a blank in front of it. -/
def isLoosePath (segment : List Char) : Bool :=
  keyOf segment = "path".toList && (valueOf segment).head?.any isBlank

/-- The path from the root that an attribute gives, whatever blanks stand around it. -/
def barePath? : List Char → Option (List Char) :=
  under "path" fun value => fromRoot? (Text.trim value)

/-- The path from the root that an attribute gives with no blank in front of it. -/
def tightPath? (segment : List Char) : Option (List Char) :=
  if isLoosePath segment then none else barePath? segment

/-- A path that starts at the root does not start with a blank. -/
theorem fromRoot?_eq_none {value : List Char} (h : value.head?.any isBlank = true) :
    fromRoot? value = none := by
  rw [fromRoot?, if_neg]
  intro root
  rw [root] at h
  cases h

/-- The path that counts in an attribute is the one with no blank in front of it. -/
theorem map_under_path (segment : List Char) :
    (under "path" fromRoot? segment).map Text.trim = tightPath? segment := by
  rw [tightPath?, barePath?, under, under, isLoosePath]
  split
  · next key =>
    rw [decide_eq_true key, Bool.true_and]
    cases loose : (valueOf segment).head?.any isBlank with
    | true => rw [fromRoot?_eq_none loose]; rfl
    | false =>
      rw [fromRoot?, fromRoot?, Text.head?_trim loose]
      split <;> rfl
  · rw [ite_self]; rfl

/-- Blanks do not matter to a path, as long as none comes or goes in front of it. -/
theorem tightPath?_eq_of_repadded {s t : List Char} (h : Repadded s t)
    (loose : isLoosePath s = isLoosePath t) : tightPath? s = tightPath? t := by
  rw [tightPath?, tightPath?, loose, barePath?, under_trim_of_repadded h "path" fromRoot?]

/-- Blanks around a date do not matter. -/
theorem mailDate?_trim (value : List Char) :
    Time.mailDate? (String.ofList (Text.trim value)) = Time.mailDate? (String.ofList value) := by
  rw [Time.mailDate?, Time.mailDate?, String.toList_ofList, String.toList_ofList, Text.trim_trim]

/-! ## The last values -/

/-- Attributes that give the same one by one give the same. -/
theorem filterMap_eq_of_forall₂ {R : List Char → List Char → Prop}
    {give : List Char → Option α} {as bs : List (List Char)} (h : List.Forall₂ R as bs)
    (same : ∀ a b, R a b → give a = give b) : as.filterMap give = bs.filterMap give := by
  induction h with
  | nil => rfl
  | cons first _ ih => rw [List.filterMap_cons, List.filterMap_cons, same _ _ first, ih]

/-- Reading the last value is the same as taking the last of the values that are read. -/
theorem map_lastOf {β : Type} (give : List Char → Option α) (read : α → β)
    (attributes : List (List Char)) :
    (lastOf give attributes).map read = lastOf (fun a => (give a).map read) attributes := by
  rw [lastOf, lastOf, ← List.getLast?_map, List.map_filterMap]

/-- Blanks do not matter to what is taken from the last value under a key when it is trimmed. -/
theorem bind_lastOf_of_repadded {as bs : List (List Char)} (h : List.Forall₂ Repadded as bs)
    (key : String) (take : List Char → Option α) :
    (lastOf (under key some) as).bind (fun value => take (Text.trim value)) =
      (lastOf (under key some) bs).bind fun value => take (Text.trim value) := by
  -- trimming the value before it is taken makes no difference to what is given
  have trimmed (segment : List Char) : (under key some segment).map Text.trim =
      under key (fun value => some (Text.trim value)) segment := by
    rw [under, under]
    split <;> rfl
  have last : (lastOf (under key some) as).map Text.trim =
      (lastOf (under key some) bs).map Text.trim := by
    rw [map_lastOf, map_lastOf, lastOf, lastOf]
    congr 1
    refine filterMap_eq_of_forall₂ h fun a b same => ?_
    rw [trimmed, trimmed, under_trim_of_repadded same]
  have whole := congrArg (·.bind take) last
  rwa [Option.bind_map, Option.bind_map] at whole

/-- The path that counts in an assignment: the last one with no blank in front of it. -/
def pathOf (text : String) : List Char := (lastOf tightPath? (parts text).tail).getD ['/']

/-- The path that is said is the last one with no blank in front of it. -/
theorem path_said (text : String) : (Counted.ofText text).said.path = pathOf text := by
  rw [Counted.ofText, Counted.ofParts, Counted.said, pathOf, map_lastOf]
  simp only [map_under_path]

/-! ## Assignments -/

/-- The pairs and the attributes of assignments whose parts are the same but for blanks. -/
theorem tail_of_repadded {s t : String} (h : List.Forall₂ Repadded (parts s) (parts t)) :
    pair? (Counted.ofText s).pair = pair? (Counted.ofText t).pair ∧
      List.Forall₂ Repadded (parts s).tail (parts t).tail := by
  obtain ⟨pair, as, hs⟩ := exists_parts s
  obtain ⟨pair', bs, ht⟩ := exists_parts t
  rw [Counted.ofText, Counted.ofText, Counted.ofParts, Counted.ofParts]
  rw [hs, ht] at h ⊢
  obtain ⟨first, rest⟩ := List.forall₂_cons.1 h
  exact ⟨pair?_eq_of_repadded first, rest⟩

/-- Padding changes no expiry. -/
theorem expiry_of_repadded {s t : String} (h : List.Forall₂ Repadded (parts s) (parts t))
    (now : Instant) :
    (Counted.ofText s).said.expiry now = (Counted.ofText t).said.expiry now := by
  obtain ⟨-, rest⟩ := tail_of_repadded h
  have expires := bind_lastOf_of_repadded rest "expires" fun value =>
    Time.mailDate? (String.ofList value)
  have maxAge := bind_lastOf_of_repadded rest "max-age" Text.Decimal.int64?
  simp only [mailDate?_trim] at expires
  rw [Attributes.expiry, Attributes.expiry, Counted.said, Counted.said]
  simp only [Counted.ofText, Counted.ofParts, expires, maxAge]

/-- An assignment with other blanks sets the same cookie, but with the path that counts in it. -/
theorem ofAssignment?_of_repadded {s t : String} (h : List.Forall₂ Repadded (parts s) (parts t))
    (now : Instant) :
    ofAssignment? now t =
      (ofAssignment? now s).map fun c => { c with path := String.ofList (pathOf t) } := by
  obtain ⟨pair, -⟩ := tail_of_repadded h
  rw [ofAssignment?_eq, ofAssignment?_eq, Counted.cookie?, Counted.cookie?, Option.map_map,
    ← expiry_of_repadded h, pair, path_said]
  rfl

/-- The path of the cookie that is set. -/
theorem path_of_ofAssignment? {text : String} {now : Instant} {cookie : Cookie}
    (h : ofAssignment? now text = some cookie) : cookie.path = String.ofList (pathOf text) := by
  rw [ofAssignment?_eq, Counted.cookie?, path_said, Option.map_eq_some_iff] at h
  obtain ⟨_, -, rfl⟩ := h
  rfl

/-- Two assignments that differ in blanks set the same cookie if and only if the same path counts in
both, or they set none. -/
theorem ofAssignment?_eq_iff_of_repadded {s t : String}
    (h : List.Forall₂ Repadded (parts s) (parts t)) (now : Instant) :
    ofAssignment? now s = ofAssignment? now t ↔
      ofAssignment? now s = none ∨ pathOf s = pathOf t := by
  rw [ofAssignment?_of_repadded h]
  cases given : ofAssignment? now s with
  | none => exact ⟨fun _ => .inl rfl, fun _ => rfl⟩
  | some cookie =>
    have path := path_of_ofAssignment? given
    rw [Option.map_some, Option.some_inj]
    constructor
    · intro same
      have paths : String.ofList (pathOf s) = String.ofList (pathOf t) :=
        path.symm.trans (congrArg Cookie.path same)
      exact .inr (String.ofList_injective paths)
    · rintro (refused | same)
      · cases refused
      · rw [← same, ← path]

/-- The same path counts in assignments that have a blank in front of the same paths. -/
theorem pathOf_eq_of_repadded {s t : String} (h : List.Forall₂ Repadded (parts s) (parts t))
    (loose : (parts s).tail.map isLoosePath = (parts t).tail.map isLoosePath) :
    pathOf s = pathOf t := by
  obtain ⟨-, rest⟩ := tail_of_repadded h
  rw [← List.forall₂_eq_eq_eq, List.forall₂_map_left_iff, List.forall₂_map_right_iff] at loose
  have both := rest.mp (fun _ _ repadded same => And.intro same repadded) loose
  rw [pathOf, pathOf, lastOf, lastOf, filterMap_eq_of_forall₂ both]
  exact fun _ _ same => tightPath?_eq_of_repadded same.2 same.1

/-! ## Blanks in front of a value -/

/-- The attribute with one space right behind its first `=`, or with none. -/
def spaced (space : Bool) (segment : List Char) : List Char :=
  match Text.cut '=' segment with
  | some (key, value) => key ++ '=' :: ((if space then [' '] else []) ++ Text.trimStart value)
  | none => segment

theorem repadded_spaced (space : Bool) (segment : List Char) :
    Repadded segment (spaced space segment) := by
  fun_cases spaced space segment with
  | case1 key value found =>
    obtain ⟨rfl, plain⟩ := Text.cut_eq_some.1 found
    have whole : value.takeWhile isBlank ++ Text.trimStart value = value :=
      List.takeWhile_append_dropWhile
    let p : Padding :=
      ⟨[], [], value.takeWhile isBlank, [], by simpa using fun _ => List.mem_takeWhile_imp⟩
    let q : Padding := ⟨[], [], if space then [' '] else [], [], by cases space <;> decide⟩
    have same := Repadded.pair p q key (Text.trimStart value) plain
    simpa [Padding.around, p, q, whole] using same
  | case2 => exact .refl segment

theorem separator_not_mem_spaced {segment : List Char} (h : ';' ∉ segment) (space : Bool) :
    ';' ∉ spaced space segment := by
  fun_cases spaced space segment with
  | case1 key value found =>
    obtain ⟨rfl, -⟩ := Text.cut_eq_some.1 found
    have front : ';' ∉ key := fun mem => h (List.mem_append_left _ mem)
    have back : ';' ∉ Text.trimStart value := fun mem =>
      h (List.mem_append_right _ (.tail _ ((List.dropWhile_sublist isBlank).subset mem)))
    cases space <;> simp [front, back]
  | case2 => exact h

/-- A value that starts with a space is not a path. -/
theorem fromRoot?_trimEnd_space (value : List Char) :
    fromRoot? (Text.trimEnd (' ' :: value)) = none := by
  rw [fromRoot?, if_neg]
  intro root
  cases Text.mem_head?_of_mem_head?_trimEnd root

/-- A space in front of a path takes the path away, and no blank in front of it gives it back. -/
theorem tightPath?_spaced (space : Bool) (segment : List Char) :
    tightPath? (spaced space segment) = if space then none else barePath? segment := by
  have bare : barePath? (spaced space segment) = barePath? segment :=
    (under_trim_of_repadded (repadded_spaced space segment) "path" fromRoot?).symm
  -- without an `=` there is no value to put a space in front of
  cases found : Text.cut '=' segment with
  | none =>
    have none : barePath? segment = none := by
      rw [barePath?, under, valueOf_of_not_mem (Text.cut_eq_none.1 found)]
      exact ite_self _
    rw [tightPath?, bare, none, ite_self, ite_self]
  | some pair =>
    obtain ⟨key, value⟩ := pair
    obtain ⟨rfl, plain⟩ := Text.cut_eq_some.1 found
    have behind : valueOf (spaced space (key ++ '=' :: value)) =
        Text.trimEnd ((if space then [' '] else []) ++ Text.trimStart value) := by
      rw [spaced, found]
      exact valueOf_append plain _
    cases space with
    | true =>
      have loose := fromRoot?_trimEnd_space (Text.trimStart value)
      rw [← map_under_path, under, behind]
      exact congrArg (Option.map Text.trim) (ite_eq_right_iff.2 fun _ => loose)
    | false =>
      have tight : (valueOf (spaced false (key ++ '=' :: value))).head?.any isBlank = false := by
        rw [behind]
        exact (Option.any_eq_false _ _).2 (Text.isTrimmed_trim value).1
      rw [tightPath?, isLoosePath, tight, Bool.and_false, bare]

/-- The blanks in front of the values of an assignment can be chosen. -/
theorem exists_spaced (text : String) (space : List Char → Bool) :
    ∃ t, List.Forall₂ Repadded (parts text) (parts t) ∧
      pathOf t = (lastOf (fun a => if space a then none else barePath? a)
        (parts text).tail).getD ['/'] := by
  obtain ⟨pair, attributes, h⟩ := exists_parts text
  -- blanks hold no `;`, so the parts can be padded one by one and joined again
  let spacedParts := pair :: attributes.map fun a => spaced (space a) a
  have separator : ∀ part ∈ spacedParts, ';' ∉ part := by
    have plain {part : List Char} (mem : part ∈ pair :: attributes) : ';' ∉ part :=
      Text.not_mem_of_mem_splitOn (h ▸ mem)
    intro part mem
    rcases List.mem_cons.1 mem with rfl | mem
    · exact plain List.mem_cons_self
    · obtain ⟨a, ha, rfl⟩ := List.mem_map.1 mem
      exact separator_not_mem_spaced (plain (.tail _ ha)) (space a)
  have whole : parts (String.ofList ([';'].intercalate spacedParts)) = spacedParts := by
    rw [parts, String.toList_ofList, List.splitOn_intercalate ';' separator (List.cons_ne_nil _ _)]
  refine ⟨String.ofList ([';'].intercalate spacedParts), ?_, ?_⟩
  · rw [whole, h]
    refine .cons (.refl pair) (List.forall₂_map_right_iff.2 (List.forall₂_same.2 fun a _ => ?_))
    exact repadded_spaced (space a) a
  · rw [pathOf, whole, h, List.tail_cons, List.tail_cons, lastOf, lastOf, List.filterMap_map]
    congr 3
    exact funext fun a => tightPath?_spaced (space a) a

/-! ## Paths -/

/-- The paths in an assignment, whatever blanks stand in front of them. -/
def barePaths (text : String) : List (List Char) := (parts text).tail.filterMap barePath?

/-- Padding changes no path, as long as the blanks around paths are not looked at. -/
theorem barePaths_eq_of_repadded {s t : String} (h : List.Forall₂ Repadded (parts s) (parts t)) :
    barePaths s = barePaths t := by
  obtain ⟨-, rest⟩ := tail_of_repadded h
  exact filterMap_eq_of_forall₂ rest fun _ _ same => under_trim_of_repadded same "path" fromRoot?

/-- If all paths are the path of the whole site, it is the one that counts. -/
theorem pathOf_eq_root {text : String} (h : ∀ path ∈ barePaths text, path = ['/']) :
    pathOf text = ['/'] := by
  rw [pathOf]
  cases last : lastOf tightPath? (parts text).tail with
  | none => rfl
  | some path =>
    obtain ⟨segment, mem, given⟩ := List.mem_filterMap.1 (List.mem_of_getLast? last)
    rw [tightPath?, Option.ite_none_left_eq_some] at given
    exact h path (List.mem_filterMap.2 ⟨segment, mem, given.2⟩)

/-- With a space in front of every path, none of them counts. -/
theorem exists_pathOf_eq_root (text : String) :
    ∃ t, List.Forall₂ Repadded (parts text) (parts t) ∧ pathOf t = ['/'] := by
  obtain ⟨t, repadded, path⟩ := exists_spaced text fun _ => true
  refine ⟨t, repadded, ?_⟩
  rw [path, lastOf]
  simp

/-- With a space in front of the paths of the whole site only, a path counts that is another one. -/
theorem exists_pathOf_ne_root {text : String} {path : List Char} (mem : path ∈ barePaths text)
    (other : path ≠ ['/']) :
    ∃ t, List.Forall₂ Repadded (parts text) (parts t) ∧ pathOf t ≠ ['/'] := by
  let give (a : List Char) := if decide (barePath? a = some ['/']) then none else barePath? a
  obtain ⟨t, repadded, counts⟩ := exists_spaced text fun a => barePath? a = some ['/']
  have others : ∀ p ∈ (parts text).tail.filterMap give, p ≠ ['/'] := by
    rintro p mem rfl
    obtain ⟨segment, -, given⟩ := List.mem_filterMap.1 mem
    simp [give] at given
  have ne : (parts text).tail.filterMap give ≠ [] := by
    obtain ⟨segment, here, given⟩ := List.mem_filterMap.1 mem
    have kept : give segment = some path := by simp [give, given, other]
    exact List.ne_nil_of_mem (List.mem_filterMap.2 ⟨segment, here, kept⟩)
  refine ⟨t, repadded, ?_⟩
  rw [counts, lastOf, List.getLast?_eq_some_getLast ne, Option.getD_some]
  exact others _ (List.getLast_mem ne)

/-- Blanks do not matter to the path that counts if and only if all paths are the path of the whole
site. -/
theorem forall_pathOf_eq_iff (text : String) :
    (∀ t, List.Forall₂ Repadded (parts text) (parts t) → pathOf text = pathOf t) ↔
      ∀ path ∈ barePaths text, path = ['/'] := by
  constructor
  · intro same path mem
    by_contra other
    obtain ⟨loose, hloose, root⟩ := exists_pathOf_eq_root text
    obtain ⟨tight, htight, ne⟩ := exists_pathOf_ne_root mem other
    rw [← same tight htight, same loose hloose] at ne
    exact ne root
  · intro roots t h
    rw [pathOf_eq_root roots, pathOf_eq_root (barePaths_eq_of_repadded h ▸ roots)]

/-- **Only padding in front of a path matters.** Take assignments whose parts, from `;` to `;`, are
the same but for the blanks around them and around the first `=` of each. They set the same cookie,
or none, except that its path is the last path from the root with no blank between it and the `=` in
front of it. So they have the same effect on every jar if the same paths have such a blank. All
paddings of an assignment set the same cookie exactly when it is refused or every path in it that
starts at the root, after blanks or not, is the path of the whole site. -/
theorem only_path_padding_matters (s : String) :
    (∀ t, List.Forall₂ Repadded (parts s) (parts t) →
      (∀ now, ofAssignment? now t =
        (ofAssignment? now s).map fun c => { c with path := String.ofList (pathOf t) }) ∧
      ((parts s).tail.map isLoosePath = (parts t).tail.map isLoosePath →
        ∀ jar : Jar, jar.assign s = jar.assign t)) ∧
    ∀ now,
      (∀ t, List.Forall₂ Repadded (parts s) (parts t) →
        ofAssignment? now s = ofAssignment? now t) ↔
      ofAssignment? now s = none ∨ ∀ path ∈ barePaths s, path = ['/'] := by
  constructor
  · intro t h
    refine ⟨ofAssignment?_of_repadded h, fun loose jar => ?_⟩
    rw [Jar.assign, Jar.assign,
      (ofAssignment?_eq_iff_of_repadded h jar.clock).2 (.inr (pathOf_eq_of_repadded h loose))]
  · intro now
    -- whether a padding sets the same cookie is whether it gives the same path
    rw [← forall_pathOf_eq_iff]
    constructor
    · intro same
      by_cases refused : ofAssignment? now s = none
      · exact .inl refused
      · exact .inr fun t h =>
          ((ofAssignment?_eq_iff_of_repadded h now).1 (same t h)).resolve_left refused
    · intro either t h
      exact (ofAssignment?_eq_iff_of_repadded h now).2 (either.imp_right fun same => same t h)

/-- Blanks at all places that do not matter, and an assignment to which they do not matter at any
place. -/
theorem only_path_padding_matters_elsewhere :
    List.Forall₂ Repadded (parts "n=1;path=/a;max-age=5")
        (parts " n =\u3000 1 ;\tpath =/a ; max-age = 5") ∧
      (∀ jar : Jar, jar.assign "n=1;path=/a;max-age=5" =
        jar.assign " n =\u3000 1 ;\tpath =/a ; max-age = 5") ∧
      ∀ t, List.Forall₂ Repadded (parts "n=1;path=/;max-age=5") (parts t) →
        ofAssignment? Instant.epoch "n=1;path=/;max-age=5" = ofAssignment? Instant.epoch t := by
  have pair : Repadded "n=1".toList " n =\u3000 1 ".toList :=
    .pair .none ⟨" ".toList, " ".toList, "\u3000 ".toList, " ".toList, by decide⟩
      "n".toList "1".toList (by decide)
  have path : Repadded "path=/a".toList "\tpath =/a ".toList :=
    .pair .none ⟨"\t".toList, " ".toList, [], " ".toList, by decide⟩
      "path".toList "/a".toList (by decide)
  have maxAge : Repadded "max-age=5".toList " max-age = 5".toList :=
    .pair .none ⟨" ".toList, " ".toList, " ".toList, [], by decide⟩
      "max-age".toList "5".toList (by decide)
  have repadded : List.Forall₂ Repadded (parts "n=1;path=/a;max-age=5")
      (parts " n =\u3000 1 ;\tpath =/a ; max-age = 5") :=
    .cons pair (.cons path (.cons maxAge .nil))
  have elsewhere := (only_path_padding_matters "n=1;path=/a;max-age=5").1 _ repadded
  refine ⟨repadded, elsewhere.2 (by decide), ?_⟩
  have root : barePaths "n=1;path=/;max-age=5" = [['/']] := by decide
  exact ((only_path_padding_matters _).2 Instant.epoch).2 (.inr (by simp [root]))

/-- A blank in front of a path costs the cookie the path. -/
theorem path_lost_behind_blank :
    List.Forall₂ Repadded (parts "n=1; path=/x") (parts "n=1; path= /x") ∧
      ofAssignment? Instant.epoch "n=1; path=/x" = some ⟨"n", "1", "/x", none⟩ ∧
      ofAssignment? Instant.epoch "n=1; path= /x" = some ⟨"n", "1", "/", none⟩ := by
  let p : Padding := ⟨" ".toList, [], [], [], by decide⟩
  let q : Padding := ⟨" ".toList, [], " ".toList, [], by decide⟩
  have repadded : List.Forall₂ Repadded (parts "n=1; path=/x") (parts "n=1; path= /x") :=
    .cons (Repadded.refl _) <| .cons (Repadded.pair p q "path".toList "/x".toList (by decide)) .nil
  exact ⟨repadded, by decide, by decide⟩

end CookieConsent.Cookie
