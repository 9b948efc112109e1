import CookieConsent.Proofs.Jar.Reachable
import CookieConsent.Proofs.Time.Expiries

/-!
# What a page reads in a jar

A page sees one text in which all names and values stand behind one another. What it reads there
under a name is nevertheless the value of one cookie, the first with that name that has not
expired, because no separator can stand in a name or in a value. For the same reason the text can be
taken apart again: its parts are the entries of the cookies, in order, and an entry that is assigned
sets the name and the value that it was made of.

* `read?_eq`: what is read under a name.
* `map_trim_splitOn_header`: the parts of a header.
* `header_decodes`: a header says which cookies are seen, in any jar that there can be.
-/

namespace CookieConsent

open Text (IsTrimmed isBlank)
open Time (Instant)

namespace Cookie

/-- The entry of a cookie gives the value to the name of the cookie and to no other. -/
theorem entryValue?_entry {name : String} (h : isValidName name) {c : Cookie}
    (hc : c.IsWellFormed) :
    entryValue? name.toList (c.name.toList ++ '=' :: c.value.toList) =
      if c.name = name then some c.value.toList else none := by
  rw [entryValue?, Text.trim_eq_self (isTrimmed_entry hc.name hc.value_trimmed)]
  split
  · next same =>
    rw [Text.afterBeginning_eq_some, same, List.append_assoc, List.singleton_append]
  · next other =>
    rw [Option.eq_none_iff_forall_ne_some]
    intro value found
    -- a beginning that fits would be cut at the same place as the entry
    have whole := Text.afterBeginning_eq_some.1 found
    have cut := cut_entry hc.name c.value.toList
    rw [whole, List.append_assoc, List.singleton_append, cut_entry h] at cut
    exact other (String.toList_inj.1 (Prod.mk.inj (Option.some.inj cut)).1.symm)

/-- A blank in front of an entry changes nothing. -/
theorem entryValue?_space (name entry : List Char) :
    entryValue? name (' ' :: entry) = entryValue? name entry := by
  rw [entryValue?, entryValue?]
  exact congrArg _ (Text.trim_cons (c := ' ') rfl entry)

theorem entryValue?_nil (name : List Char) : entryValue? name [] = none := by
  cases name <;> rfl

/-- A name is given the value of the first cookie with that name. -/
theorem findSome?_entryValue? {name : String} (h : isValidName name) {cookies : List Cookie}
    (hcookies : ∀ c ∈ cookies, c.IsWellFormed) :
    (cookies.map fun c => c.name.toList ++ '=' :: c.value.toList).findSome?
        (entryValue? name.toList) =
      (cookies.find? fun c => c.name = name).map fun c => c.value.toList := by
  induction cookies with
  | nil => rfl
  | cons c cookies ih =>
    have rest := ih fun d hd => hcookies d (List.mem_cons_of_mem c hd)
    rw [List.map_cons, List.findSome?_cons, entryValue?_entry h (hcookies c List.mem_cons_self),
      List.find?_cons]
    by_cases same : c.name = name <;> simp [same, rest]

end Cookie

namespace Jar

/-- Entries behind one another, each of them but the first with a blank in front. -/
theorem intercalate_entries (entry : List Char) (entries : List (List Char)) :
    "; ".toList.intercalate (entry :: entries) =
      [';'].intercalate (entry :: entries.map (' ' :: ·)) := by
  induction entries generalizing entry with
  | nil => rfl
  | cons next entries ih =>
    rw [List.intercalate_cons_cons, ih, List.map_cons, List.intercalate_cons_cons]
    rw [List.intercalate_cons_cons_left]
    simp

/-- Entries behind one another are split where they were joined. The blank of a separator goes to
the entry behind it. -/
theorem splitOn_entries {entry : List Char} {entries : List (List Char)}
    (separator : ∀ part ∈ entry :: entries, ';' ∉ part) :
    ("; ".toList.intercalate (entry :: entries)).splitOn ';' = entry :: entries.map (' ' :: ·) := by
  have parts : ∀ part ∈ entry :: entries.map (' ' :: ·), ';' ∉ part := by
    intro part mem
    rcases List.mem_cons.1 mem with rfl | mem
    · exact separator part List.mem_cons_self
    · obtain ⟨other, hother, rfl⟩ := List.mem_map.1 mem
      rw [List.mem_cons, not_or]
      exact ⟨by decide, separator other (List.mem_cons_of_mem entry hother)⟩
  rw [intercalate_entries, List.splitOn_intercalate ';' parts (List.cons_ne_nil _ _)]

/-- What a search finds in entries behind one another, if it takes no notice of a blank in front of
an entry: what it finds in the list of entries. -/
theorem findSome?_splitOn_entries {α : Type} {f : List Char → Option α}
    (space : ∀ entry, f (' ' :: entry) = f entry) (nil : f [] = none) {entries : List (List Char)}
    (separator : ∀ entry ∈ entries, ';' ∉ entry) :
    (("; ".toList.intercalate entries).splitOn ';').findSome? f = entries.findSome? f := by
  cases entries with
  | nil =>
    rw [List.intercalate_nil, List.splitOn_nil, List.findSome?_cons, nil]
  | cons entry entries =>
    rw [splitOn_entries separator, List.findSome?_cons, List.findSome?_cons, List.findSome?_map]
    have same : f ∘ (' ' :: ·) = f := funext space
    rw [same]

/-- Entries behind one another, taken apart and trimmed, are the entries again. -/
theorem map_trim_splitOn_entries {entries : List (List Char)} (ne : entries ≠ [])
    (separator : ∀ entry ∈ entries, ';' ∉ entry) (trimmed : ∀ entry ∈ entries, IsTrimmed entry) :
    (("; ".toList.intercalate entries).splitOn ';').map Text.trim = entries := by
  cases entries with
  | nil => exact absurd rfl ne
  | cons entry entries =>
    have first : Text.trim entry = entry := Text.trim_eq_self (trimmed entry List.mem_cons_self)
    have others : ∀ other ∈ entries, Text.trim (' ' :: other) = other := by
      intro other mem
      rw [Text.trim_cons (c := ' ') rfl]
      exact Text.trim_eq_self (trimmed other (List.mem_cons_of_mem entry mem))
    rw [splitOn_entries separator, List.map_cons, first, List.map_map]
    exact congrArg (entry :: ·) ((List.map_congr_left others).trans (List.map_id entries))

/-- The characters of the header of a jar. -/
theorem toList_header (jar : Jar) :
    jar.header.toList =
      "; ".toList.intercalate (jar.visible.map fun c => c.name.toList ++ '=' :: c.value.toList) := by
  rw [header, String.toList_intercalate, List.map_map]
  congr 1
  apply List.map_congr_left
  intro c _
  simp

/-- What is seen of a jar is well-formed with it. -/
theorem IsWellFormed.visible {jar : Jar} (h : jar.IsWellFormed) {c : Cookie}
    (hc : c ∈ jar.visible) : c.IsWellFormed :=
  h.cookies c (List.mem_filter.1 hc).1

/-- The cookie of a name is the first one that a header shows. -/
theorem get?_eq_find?_visible (jar : Jar) (name : String) :
    jar.get? name = jar.visible.find? fun c => c.name = name := by
  rw [get?, visible, List.find?_filter]
  congr 1
  funext c
  cases c.isExpired jar.clock <;> simp

/-- No separator stands in the entries of a header. -/
theorem IsWellFormed.separator {jar : Jar} (h : jar.IsWellFormed) {entry : List Char}
    (mem : entry ∈ jar.visible.map fun c => c.name.toList ++ '=' :: c.value.toList) :
    ';' ∉ entry := by
  obtain ⟨c, hc, rfl⟩ := List.mem_map.1 mem
  have whole := h.visible hc
  simp [(Cookie.not_mem_of_isValidName whole.name).1, whole.value_separator]

/-- Under a valid name, a page reads the value of the first cookie with that name that has not
expired. -/
theorem read?_eq {jar : Jar} (h : jar.IsWellFormed) {name : String}
    (hname : Cookie.isValidName name) :
    jar.read? name = (jar.get? name).map fun c => Text.unescape c.value := by
  rw [read?, Cookie.read?, toList_header,
    findSome?_splitOn_entries (Cookie.entryValue?_space name.toList)
      (Cookie.entryValue?_nil name.toList) fun _ mem => h.separator mem,
    Cookie.findSome?_entryValue? hname fun c hc => h.visible hc, Option.map_map,
    get?_eq_find?_visible]
  rfl

/-! ## The header taken apart -/

/-- A header is empty when no cookie is seen. -/
theorem header_eq_empty_iff (jar : Jar) : jar.header = "" ↔ jar.size = 0 := by
  rw [← String.toList_eq_nil_iff, toList_header, size, List.length_eq_zero_iff]
  cases jar.visible with
  | nil => simp
  | cons c cookies =>
    -- an entry is never empty, as it holds a `=`
    rw [List.map_cons, intercalate_entries]
    cases cookies <;> simp [List.intercalate_cons_cons]

/-- The parts of a header are the entries of the cookies that are seen, in order. -/
theorem map_trim_splitOn_header {jar : Jar} (h : jar.IsWellFormed) (seen : jar.size ≠ 0) :
    (jar.header.toList.splitOn ';').map Text.trim =
      jar.visible.map fun c => c.name.toList ++ '=' :: c.value.toList := by
  rw [toList_header]
  apply map_trim_splitOn_entries
  · rw [ne_eq, List.map_eq_nil_iff, ← List.length_eq_zero_iff]
    exact seen
  · exact fun _ mem => h.separator mem
  · intro entry mem
    obtain ⟨c, hc, rfl⟩ := List.mem_map.1 mem
    have whole := h.visible hc
    exact Cookie.isTrimmed_entry whole.name whole.value_trimmed

/-- **A header says which cookies are seen.** In every jar that there can be, names are valid,
values hold no separator and no blank at their ends, and paths start at the root. The header is
empty exactly when no cookie is seen. Otherwise its parts, without the blanks around them, are the
entries of the cookies that are seen, in their order, and each of them sets the same name and value
when it is assigned, at any time. Under a valid name, what is read is the value of the first cookie
with that name that has not expired, and nothing if there is none. -/
theorem header_decodes {jar : Jar} (reachable : jar.Reachable) :
    (∀ c ∈ jar.cookies, Cookie.isValidName c.name ∧ ';' ∉ c.value.toList ∧
      IsTrimmed c.value.toList ∧ c.path.toList.head? = some '/') ∧
    (jar.header = "" ↔ jar.size = 0) ∧
    (jar.size ≠ 0 →
      (jar.header.toList.splitOn ';').map (fun part => String.ofList (Text.trim part)) =
        jar.visible.map fun c => c.name ++ "=" ++ c.value) ∧
    (∀ c ∈ jar.visible, ∀ now,
      Cookie.ofAssignment? now (c.name ++ "=" ++ c.value) = some ⟨c.name, c.value, "/", none⟩) ∧
    ∀ name, Cookie.isValidName name →
      jar.read? name = (jar.get? name).map fun c => Text.unescape c.value := by
  have whole := reachable.isWellFormed
  refine ⟨?_, header_eq_empty_iff jar, ?_, ?_, fun name valid => read?_eq whole valid⟩
  · intro c hc
    have fits := whole.cookies c hc
    exact ⟨fits.name, fits.value_separator, fits.value_trimmed, fits.path⟩
  · intro seen
    -- the parts are compared as lists of characters, in which splitting and trimming are said
    have parts := congrArg (List.map String.ofList) (map_trim_splitOn_header whole seen)
    rw [List.map_map, List.map_map] at parts
    refine parts.trans (List.map_congr_left fun c _ => ?_)
    apply String.toList_inj.1
    simp
  · exact fun c hc => Cookie.ofAssignment?_entry (whole.visible hc)

/-- Look-alikes in a value and in a longer name are not taken for the cookie `n`. -/
theorem header_decodes_lookalikes :
    let jar := (((empty Instant.epoch).assign "x=n=1 ; path=/a").assign "nn=%").assign
      " n = %20 ; max-age=5"
    (jar.header.toList.splitOn ';').map (fun part => String.ofList (Text.trim part)) =
        ["x=n=1", "nn=%", "n=%20"] ∧
      jar.read? "n" = some " " := by
  intro jar
  have reachable : jar.Reachable := .assign _ (.assign _ (.assign _ (.empty _)))
  have decodes := header_decodes reachable
  refine ⟨(decodes.2.2.1 (by decide)).trans (by decide), ?_⟩
  rw [decodes.2.2.2.2 "n" (by decide)]
  decide +kernel

end Jar

end CookieConsent
