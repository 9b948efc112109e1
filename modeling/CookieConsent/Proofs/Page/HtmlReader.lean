import CookieConsent.Page.Html
import CookieConsent.Proofs.Text.Reading

/-!
# Reading HTML

A reader of the texts that pages have: elements with an end tag each, attributes with their values
in double quotes, and five entities. It knows the delimiters of HTML and nothing of how a page was
written.

The first half of the module is the reader; the second follows it over what is written for a name, a
text and a tag. It gets through because a written text holds none of the characters at which the
reader stops.

* `read?`: the forest that a whole text spells.
* `unescape_escape`: undoing the entities gives the text back.
* `readName_name`, `readText_escape`, `readTag_write`: names, texts and tags are read back in front
  of what may follow them.
-/

namespace CookieConsent

open Text (Reader)

namespace Html

/-! ## Names -/

/-- Whether a character may stand in a name: ASCII letters, digits and hyphens. -/
def isNameChar (c : Char) : Bool := c.isAlphanum || c = '-'

/-- Whether a text may be the name of a tag or of an attribute. -/
def IsName (name : String) : Prop := name.toList ≠ [] ∧ ∀ c ∈ name.toList, isNameChar c

instance : DecidablePred IsName := fun name =>
  have := List.decidableBAll (fun c => isNameChar c = true) name.toList
  instDecidableAnd

end Html

namespace Tag

/-- The names in a tag: its own and those of its attributes. -/
def names (tag : Tag) : List String := tag.name :: tag.attributes.map Prod.fst

/-- Whether a tag and its attributes have proper names. -/
def IsNamed (tag : Tag) : Prop := ∀ name ∈ tag.names, Html.IsName name

instance : DecidablePred IsNamed := fun tag =>
  inferInstanceAs (Decidable (∀ name ∈ tag.names, Html.IsName name))

theorem IsNamed.name {tag : Tag} (h : tag.IsNamed) : Html.IsName tag.name :=
  h _ List.mem_cons_self

theorem IsNamed.attributes {tag : Tag} (h : tag.IsNamed) :
    ∀ pair ∈ tag.attributes, Html.IsName pair.1 :=
  fun _ mem => h _ (List.mem_cons_of_mem _ (List.mem_map_of_mem mem))

/-- The tag as it looks, without what activating the element does. -/
def inert (tag : Tag) : Tag := { tag with action := none }

end Tag

namespace Html

/-! ## The reader -/

/-- Undoes the entities of a text, once and from left to right. An ampersand that starts none of
them stands for itself. -/
def unescape : List Char → List Char
  | '&' :: 'a' :: 'm' :: 'p' :: ';' :: s => '&' :: unescape s
  | '&' :: 'l' :: 't' :: ';' :: s => '<' :: unescape s
  | '&' :: 'g' :: 't' :: ';' :: s => '>' :: unescape s
  | '&' :: 'q' :: 'u' :: 'o' :: 't' :: ';' :: s => '"' :: unescape s
  | '&' :: '#' :: '3' :: '9' :: ';' :: s => '\'' :: unescape s
  | c :: s => c :: unescape s
  | [] => []

/-- Takes the tags out of a text, each from a `<` to the next `>`. The flag says whether a tag is
open. -/
def withoutTags : Bool → List Char → List Char
  | _, [] => []
  | false, '<' :: s => withoutTags true s
  | false, c :: s => c :: withoutTags false s
  | true, '>' :: s => withoutTags false s
  | true, _ :: s => withoutTags true s

def readName : Reader String := do
  let name ← Reader.span isNameChar
  guard (name ≠ [])
  return String.ofList name

/-- Reads an attribute and the blank in front of it. -/
def readAttribute : Reader (String × String) := do
  Reader.char ' '
  let name ← readName
  Reader.char '='
  Reader.char '"'
  let value ← Reader.span (· ≠ '"')
  Reader.char '"'
  return (name, String.ofList (unescape value))

/-- Reads the inside of a start tag and the `>` that ends it. -/
def readTag : Reader Tag := do
  let name ← readName
  let attributes ← Reader.many (·.head? = some ' ') readAttribute
  Reader.char '>'
  return { name, attributes }

def readEndTag (name : String) : Reader Unit := do
  Reader.char '<'
  Reader.char '/'
  let found ← readName
  guard (found = name)
  Reader.char '>'

def readText : Reader String := do
  return String.ofList (unescape (← Reader.span (· ≠ '<')))

/-- Reads an element whose children `forest` reads. -/
def readElement (forest : Reader (List Node)) : Reader Node := do
  Reader.char '<'
  let tag ← readTag
  let children ← forest
  readEndTag tag.name
  return .element tag children

/-- Reads an element where a tag starts, and a text elsewhere. -/
def readNode (forest : Reader (List Node)) : Reader Node
  | '<' :: s => readElement forest ('<' :: s)
  | s => (Node.text <$> readText) s

/-- Whether a forest ends here: at the end of the text, or where an end tag starts. -/
def endsForest : List Char → Bool
  | [] => true
  | '<' :: '/' :: _ => true
  | _ => false

/-- Reads a forest as far as it goes. The fuel bounds the number of its nodes. -/
def readForest : Nat → Reader (List Node)
  | 0 => failure
  | fuel + 1 => fun s =>
    if endsForest s then some ([], s)
    else (do return (← readNode (readForest fuel)) :: (← readForest fuel)) s

/-- The forest that a text spells. -/
def read? (s : List Char) : Option (List Node) := Reader.whole (readForest (s.length + 1)) s

/-! ## What is written for a text -/

/-- A character other than `&` stands for itself. -/
theorem unescape_cons {c : Char} (h : c ≠ '&') (s : List Char) :
    unescape (c :: s) = c :: unescape s := by
  simp [unescape, h]

/-- A character is read back from its escape, whatever stands behind it. -/
theorem unescape_escapeChar (c : Char) (s : List Char) :
    unescape (escapeChar c ++ s) = c :: unescape s := by
  unfold escapeChar
  split
  case isTrue h => rw [h]; rfl
  case isFalse amp =>
    iterate 4
      split
      case isTrue h => rw [h]; rfl
    exact unescape_cons amp s

/-- Undoing the entities gives the text back. -/
theorem unescape_escape (text : String) : unescape (escape text) = text.toList := by
  rw [escape]
  induction text.toList with
  | nil => rfl
  | cons c s ih => rw [List.flatMap_cons, unescape_escapeChar, ih]

/-- Whether a character stops the reader: the angle brackets and the double quote. -/
def isDelimiter (c : Char) : Bool := c = '<' || c = '>' || c = '"'

/-- A delimiter differs from whatever is none. -/
theorem ne_of_isDelimiter {c d : Char} (hc : isDelimiter c = false) (hd : isDelimiter d) :
    c ≠ d := by
  rintro rfl
  rw [hc] at hd
  cases hd

/-- Names hold no delimiters. -/
theorem isDelimiter_of_isNameChar {c : Char} (h : isNameChar c) : isDelimiter c = false := by
  rw [Bool.eq_false_iff]
  intro delimiter
  simp only [isDelimiter, Bool.or_eq_true, decide_eq_true_eq] at delimiter
  rcases delimiter with (rfl | rfl) | rfl <;> exact absurd h (by decide)

/-- Escapes hold no delimiters, so text cannot be taken for a tag. -/
theorem isDelimiter_of_mem_escapeChar {c d : Char} (h : d ∈ escapeChar c) :
    isDelimiter d = false := by
  have entity (e : List Char) (plain : e.all fun d => !isDelimiter d) (h : d ∈ e) :
      isDelimiter d = false := by simpa using List.all_eq_true.1 plain d h
  unfold escapeChar at h
  split at h
  case isTrue => exact entity _ (by decide) h
  iterate 4
    split at h
    case isTrue => exact entity _ (by decide) h
  obtain rfl := List.mem_singleton.1 h
  simp [isDelimiter, *]

/-- No character of a written text stops the reader. -/
theorem isDelimiter_of_mem_escape {text : String} {c : Char} (h : c ∈ escape text) :
    isDelimiter c = false := by
  obtain ⟨d, -, hc⟩ := List.mem_flatMap.1 h
  exact isDelimiter_of_mem_escapeChar hc

/-- A text that is not empty is written with a character in front that does not stop the reader. -/
theorem exists_escape_eq {text : String} (h : text ≠ "") :
    ∃ c s, escape text = c :: s ∧ isDelimiter c = false := by
  cases written : escape text with
  | nil =>
    have undone := unescape_escape text
    rw [written, unescape] at undone
    exact absurd (String.toList_eq_nil_iff.1 undone.symm) h
  | cons c s => exact ⟨c, s, rfl, isDelimiter_of_mem_escape (written ▸ List.mem_cons_self)⟩

/-! ## What is written for a tag -/

open Text.Reader (bind_of_eq pure_run char_cons span_append many_written)

/-- A condition that holds is passed without reading. -/
theorem guard_run {p : Prop} [Decidable p] (h : p) (s : List Char) :
    (guard p : Reader Unit) s = some ((), s) := by
  have passed : (guard p : Reader Unit) = pure () := if_pos h
  rw [passed, pure_run]

/-- A name is read back in front of a character that does not belong to names. -/
theorem readName_name {name : String} (h : IsName name) {c : Char} (hc : isNameChar c = false)
    (s : List Char) : readName (name.toList ++ c :: s) = some (name, c :: s) := by
  have found := span_append h.2 (c :: s) (by rintro d ⟨⟩; exact hc)
  rw [readName, bind_of_eq found, bind_of_eq (guard_run h.1 _), pure_run, String.ofList_toList]

/-- A text is read back in front of the end of a text or a tag. -/
theorem readText_escape (text : String) {rest : List Char} (hrest : ∀ c ∈ rest.head?, c = '<') :
    readText (escape text ++ rest) = some (text, rest) := by
  have inside : ∀ c ∈ escape text, decide (c ≠ '<') = true := fun c hc =>
    decide_eq_true (ne_of_isDelimiter (isDelimiter_of_mem_escape hc) rfl)
  have found := span_append inside rest (by simpa using hrest)
  rw [readText, bind_of_eq found, pure_run, unescape_escape, String.ofList_toList]

/-- The text of an attribute and the blank in front of it. -/
def writeAttribute (pair : String × String) : List Char :=
  ' ' :: (pair.1.toList ++ '=' :: '"' :: (escape pair.2 ++ ['"']))

/-- Attributes are written one by one. -/
theorem writeAttributes_eq (attributes : List (String × String)) :
    writeAttributes attributes = attributes.flatMap writeAttribute := by
  rw [writeAttributes]
  congr 1
  funext pair
  simp [writeAttribute]

/-- An attribute is read back, whatever its value. -/
theorem readAttribute_write {pair : String × String} (h : IsName pair.1) (s : List Char) :
    readAttribute (writeAttribute pair ++ s) = some (pair, s) := by
  have inside : ∀ c ∈ escape pair.2, decide (c ≠ '"') = true := fun c hc =>
    decide_eq_true (ne_of_isDelimiter (isDelimiter_of_mem_escape hc) rfl)
  have found := span_append inside ('"' :: s) (by simp)
  have text : writeAttribute pair ++ s =
      ' ' :: (pair.1.toList ++ '=' :: '"' :: (escape pair.2 ++ '"' :: s)) := by
    simp [writeAttribute]
  rw [text, readAttribute, bind_of_eq (char_cons _ _), bind_of_eq (readName_name h (by decide) _),
    bind_of_eq (char_cons _ _), bind_of_eq (char_cons _ _), bind_of_eq found,
    bind_of_eq (char_cons _ _), pure_run, unescape_escape, String.ofList_toList]

/-- The attributes of a tag are read back, up to the end of the tag. -/
theorem readAttributes_write {attributes : List (String × String)}
    (h : ∀ pair ∈ attributes, IsName pair.1) (s : List Char) :
    Reader.many (·.head? = some ' ') readAttribute (writeAttributes attributes ++ '>' :: s) =
      some (attributes, '>' :: s) := by
  have found := @many_written _ _ (·.head? = some ' ') readAttribute writeAttribute id attributes
    (fun pair mem rest => ⟨rfl, readAttribute_write (h pair mem) rest⟩)
    (fun pair _ => List.cons_ne_nil _ _) ('>' :: s) rfl
  rwa [← writeAttributes_eq, List.map_id] at found

/-- A start tag is read back, but for what activating the element does. -/
theorem readTag_write {tag : Tag} (h : tag.IsNamed) (s : List Char) :
    readTag (tag.name.toList ++ (writeAttributes tag.attributes ++ '>' :: s)) =
      some (tag.inert, s) := by
  -- the name ends at the blank in front of an attribute or at the bracket behind the last one
  obtain ⟨c, rest, hc, behind⟩ : ∃ c rest, isNameChar c = false ∧
      writeAttributes tag.attributes ++ '>' :: s = c :: rest := by
    cases tag.attributes with
    | nil => exact ⟨'>', s, by decide, rfl⟩
    | cons pair attributes => exact ⟨' ', _, by decide, rfl⟩
  have others := readAttributes_write h.attributes s
  rw [behind] at others ⊢
  rw [readTag, bind_of_eq (readName_name h.name hc rest), bind_of_eq others,
    bind_of_eq (char_cons _ _), pure_run]
  rfl

/-- An end tag is read for the name that it carries. -/
theorem readEndTag_name {name : String} (h : IsName name) (s : List Char) :
    readEndTag name ('<' :: '/' :: (name.toList ++ '>' :: s)) = some ((), s) := by
  rw [readEndTag, bind_of_eq (char_cons _ _), bind_of_eq (char_cons _ _),
    bind_of_eq (readName_name h (by decide) s), bind_of_eq (guard_run rfl _), char_cons]

/-! ## Nodes one after another -/

/-- A forest ends where an end tag or nothing follows. -/
theorem readForest_of_endsForest {s : List Char} (h : endsForest s) (fuel : Nat) :
    readForest (fuel + 1) s = some ([], s) := by
  rw [readForest]
  exact if_pos h

/-- A forest goes on with a node where it does not end. -/
theorem readForest_cons {fuel : Nat} {s between rest : List Char} {node : Node} {nodes : List Node}
    (h : endsForest s = false) (first : readNode (readForest fuel) s = some (node, between))
    (others : readForest fuel between = some (nodes, rest)) :
    readForest (fuel + 1) s = some (node :: nodes, rest) := by
  rw [readForest]
  exact (if_neg (by simp [h])).trans ((bind_of_eq first _).trans (bind_of_eq others _))

/-! ## Taking the tags out -/

/-- Inside a tag nothing is kept up to its end. -/
theorem withoutTags_open {s : List Char} (hs : ∀ c ∈ s, c ≠ '>') (rest : List Char) :
    withoutTags true (s ++ '>' :: rest) = withoutTags false rest := by
  induction s with
  | nil => simp [withoutTags]
  | cons c s ih =>
    obtain ⟨hc, hs⟩ := List.forall_mem_cons.1 hs
    rw [List.cons_append, ← ih hs]
    simp [withoutTags]

/-- Outside tags everything is kept up to the next one. -/
theorem withoutTags_closed {s : List Char} (hs : ∀ c ∈ s, c ≠ '<') (rest : List Char) :
    withoutTags false (s ++ rest) = s ++ withoutTags false rest := by
  induction s with
  | nil => rfl
  | cons c s ih =>
    obtain ⟨hc, hs⟩ := List.forall_mem_cons.1 hs
    rw [List.cons_append, List.cons_append, ← ih hs]
    simp [withoutTags]

/-- No character inside a start tag ends it. -/
theorem ne_of_mem_startTag {tag : Tag} (h : tag.IsNamed) {c : Char}
    (mem : c ∈ tag.name.toList ++ writeAttributes tag.attributes) : c ≠ '>' := by
  rw [writeAttributes_eq, List.mem_append, List.mem_flatMap] at mem
  rcases mem with mem | ⟨pair, listed, mem⟩
  · exact ne_of_isDelimiter (isDelimiter_of_isNameChar (h.name.2 c mem)) rfl
  · simp only [writeAttribute, List.mem_append, List.mem_cons, List.not_mem_nil, or_false] at mem
    rcases mem with rfl | mem | rfl | rfl | mem | rfl
    · decide
    · exact ne_of_isDelimiter (isDelimiter_of_isNameChar ((h.attributes pair listed).2 c mem)) rfl
    · decide
    · decide
    · exact ne_of_isDelimiter (isDelimiter_of_mem_escape mem) rfl
    · decide

end Html

end CookieConsent
