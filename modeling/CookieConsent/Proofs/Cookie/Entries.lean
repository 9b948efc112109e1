import CookieConsent.Proofs.Cookie.Assignments

/-!
# Entries are found in any header

A header is searched part by part, from the front, so that one which is joined from two is searched
in the first and then in the second. An entry that is written for a name holds no separator, and
what is written behind its value begins with one; so it is a part of its own wherever it stands
behind a separator or at the front, with any blanks before it and any text after it.

* `read?_append`: a joined header.
* `read?_entry`: a written entry and nothing else.
* `entry_found_anywhere`: a written entry in any header.
-/

namespace CookieConsent.Cookie

open Text (isBlank)
open Time (Instant)

/-- A header that is joined from two is searched in the first and then in the second. -/
theorem read?_append (front rest name : String) :
    read? (front ++ ";" ++ rest) name = (read? front name).or (read? rest name) := by
  have parts : (front ++ ";" ++ rest).toList.splitOn ';' =
      front.toList.splitOn ';' ++ rest.toList.splitOn ';' := by
    rw [← List.splitOn_append_cons_self]
    simp
  rw [read?, parts, List.findSome?_append, Option.map_or, ← read?, ← read?]

/-- A written entry is read back, whatever blanks stand before it. -/
theorem read?_entry {name : String} (h : isValidName name) (value : String) {blanks : String}
    (hblanks : ∀ c ∈ blanks.toList, isBlank c) :
    read? (blanks ++ name ++ "=" ++ Text.escape value) name = some value := by
  have text : (blanks ++ name ++ "=" ++ Text.escape value).toList =
      blanks.toList ++ (name.toList ++ '=' :: (Text.escape value).toList) := by
    simp
  have separator : ';' ∉ blanks.toList ++ (name.toList ++ '=' :: (Text.escape value).toList) := by
    rw [List.mem_append, not_or]
    exact ⟨fun mem => absurd (hblanks _ mem) (by decide), separator_not_mem_entry h value⟩
  have trimmed : Text.trim (blanks.toList ++ (name.toList ++ '=' :: (Text.escape value).toList)) =
      (name.toList ++ ['=']) ++ (Text.escape value).toList := by
    rw [Text.trim_append hblanks, Text.trim_eq_self (isTrimmed_entry h (isTrimmed_escape value)),
      List.append_assoc, List.singleton_append]
  have found : entryValue? name.toList
      (blanks.toList ++ (name.toList ++ '=' :: (Text.escape value).toList)) =
        some (Text.escape value).toList := by
    rw [entryValue?, trimmed, Text.afterBeginning_eq_some]
  rw [read?, text, List.splitOn_eq_singleton separator, List.findSome?_cons, found, Option.map_some]
  exact congrArg some (Text.unescape_escape value)

/-- What is written behind the value of an entry begins with a separator. -/
theorem exists_assignment_eq (name value : String) (expires : Option Instant) :
    ∃ attributes, assignment name value expires =
      name ++ "=" ++ Text.escape value ++ ";" ++ attributes := by
  cases expires with
  | none => exact ⟨" path=/;", String.toList_inj.1 (by simp [assignment])⟩
  | some t =>
    exact ⟨" expires=" ++ Time.httpDate t ++ "; path=/;",
      String.toList_inj.1 (by simp [assignment])⟩

/-- A written entry is read back from any text that it stands at the front of, behind blanks. -/
theorem read?_assignment {name : String} (h : isValidName name) (value : String)
    (expires : Option Instant) {blanks : String} (hblanks : ∀ c ∈ blanks.toList, isBlank c)
    (rest : String) : read? (blanks ++ assignment name value expires ++ rest) name = some value := by
  obtain ⟨attributes, text⟩ := exists_assignment_eq name value expires
  have parts : blanks ++ assignment name value expires ++ rest =
      (blanks ++ name ++ "=" ++ Text.escape value) ++ ";" ++ (attributes ++ rest) := by
    simp only [text, String.append_assoc]
  rw [parts, read?_append, read?_entry h value hblanks, Option.some_or]

/-- **An entry is found in any header.** A header that is joined from two gives a name the value that
the first one gives it, and if that gives none, the value that the second one gives it. So when an
entry is written for a valid name, with any value and any expiry, the value is read under the name
wherever the entry begins a part of a header, behind any blanks and before any text, unless an
earlier part has the name. -/
theorem entry_found_anywhere :
    (∀ front rest name : String,
      read? (front ++ ";" ++ rest) name = (read? front name).or (read? rest name)) ∧
    ∀ name : String, isValidName name → ∀ (value : String) (expires : Option Instant)
      (blanks rest : String), (∀ c ∈ blanks.toList, isBlank c) →
        read? (blanks ++ assignment name value expires ++ rest) name = some value ∧
        ∀ front, read? front name = none →
          read? (front ++ ";" ++ blanks ++ assignment name value expires ++ rest) name =
            some value := by
  refine ⟨read?_append, fun name valid value expires blanks rest hblanks => ?_⟩
  have found := read?_assignment valid value expires hblanks rest
  refine ⟨found, fun front absent => ?_⟩
  have parts : front ++ ";" ++ blanks ++ assignment name value expires ++ rest =
      front ++ ";" ++ (blanks ++ assignment name value expires ++ rest) := by
    simp only [String.append_assoc]
  rw [parts, read?_append, absent, found, Option.none_or]

/-- A value full of separators, behind a longer name, an empty part and a broad blank. -/
theorem entry_found_anywhere_lookalikes :
    isValidName "n" ∧ (∀ c ∈ "\u3000\t".toList, isBlank c) ∧ read? "nn=1;;m=n=2" "n" = none ∧
      read? ("nn=1;;m=n=2" ++ ";" ++ "\u3000\t" ++ assignment "n" "; n=3;%u0041" none ++ "n=4") "n" =
        some "; n=3;%u0041" := by
  have valid : isValidName "n" := by decide
  have blank : ∀ c ∈ "\u3000\t".toList, isBlank c :=
    List.all_eq_true.1 (show "\u3000\t".toList.all isBlank = true by decide)
  have absent : read? "nn=1;;m=n=2" "n" = none := by decide
  exact ⟨valid, blank, absent,
    (entry_found_anywhere.2 "n" valid "; n=3;%u0041" none "\u3000\t" "n=4" blank).2 _ absent⟩

end CookieConsent.Cookie
