import CookieConsent.Banner.Markup
import CookieConsent.Proofs.Page.HtmlReader

/-!
# HTML says what a page holds

The text of a forest is read back, whatever stands in its texts and in the values of its attributes.
What is lost is only what HTML has no means to say: where one text ends and the next one begins,
texts that are empty, and what activating an element does. A forest without all that is normal;
every forest has a normal form, which is written like it and is the one that is read.

So the markup of the banner has the same elements and attributes for all settings: nothing that a
site puts into its texts, its link or its class becomes one more of them.

* `write_normal`, `isNormal_normal`: the normal form of a forest.
* `readForest_write`: a normal forest is read back in front of what may follow it.
* `unescape_withoutTags_write`: what is left without the tags is what the forest says.
* `written_unambiguously`: all forests, and the banner.
-/

namespace CookieConsent

/-- What a forest looks like without its texts and the values of its attributes: elements with their
names, the names of their attributes, and the elements in them. -/
inductive Outline where
  | element (name : String) (attributes : List String) (children : List Outline)
deriving Repr

namespace Node

/-- Whether all tags and attributes of a forest have proper names. -/
def AllNamed (nodes : List Node) : Prop := ∀ tag ∈ tags nodes, tag.IsNamed

/-! ## Normal forms -/

def startsWithText : List Node → Bool
  | .text _ :: _ => true
  | _ => false

/-- Whether a forest has neither empty texts nor two texts in a row, and no element is a control. -/
def IsNormal : List Node → Prop
  | [] => True
  | .text content :: nodes => content ≠ "" ∧ startsWithText nodes = false ∧ IsNormal nodes
  | .element tag children :: nodes => tag.inert = tag ∧ IsNormal children ∧ IsNormal nodes

/-- Puts a text in front of a forest: joined with the text that comes first, and left out if it is
empty. -/
def consText (content : String) : List Node → List Node
  | .text next :: nodes => .text (content ++ next) :: nodes
  | nodes => if content = "" then nodes else .text content :: nodes

/-- The normal form of a forest: texts in a row are joined, empty texts are dropped, and no element
is a control. -/
def normal : List Node → List Node
  | [] => []
  | .text content :: nodes => consText content (normal nodes)
  | .element tag children :: nodes => .element tag.inert (normal children) :: normal nodes

/-- Putting text in front keeps a forest normal: it joins the text that stands there. -/
theorem isNormal_consText (content : String) {nodes : List Node} (h : IsNormal nodes) :
    IsNormal (consText content nodes) := by
  fun_cases consText content nodes with
  | case1 next nodes =>
    rw [IsNormal] at h ⊢
    obtain ⟨filled, alone, rest⟩ := h
    exact ⟨by simp [filled], alone, rest⟩
  | case2 => exact h
  | case3 nodes other filled =>
    rw [IsNormal]
    refine ⟨filled, ?_, h⟩
    fun_cases startsWithText nodes with
    | case1 next nodes => exact (other next nodes rfl).elim
    | case2 => rfl

/-- The normal form is normal. -/
theorem isNormal_normal (nodes : List Node) : IsNormal (normal nodes) := by
  fun_induction normal nodes with
  | case1 => rw [IsNormal]; trivial
  | case2 content nodes ih => exact isNormal_consText content ih
  | case3 tag children nodes ihChildren ihNodes =>
    rw [IsNormal]
    exact ⟨rfl, ihChildren, ihNodes⟩

/-- Text in front changes no element. -/
theorem tags_consText (content : String) (nodes : List Node) :
    tags (consText content nodes) = tags nodes := by
  fun_cases consText content nodes <;> simp [tags]

/-- The normal form has the same elements, without what their controls do. -/
theorem tags_normal (nodes : List Node) : tags (normal nodes) = (tags nodes).map Tag.inert := by
  fun_induction normal nodes with
  | case1 => rw [tags, List.map_nil]
  | case2 content nodes ih => rw [tags_consText, ih, tags]
  | case3 tag children nodes ihChildren ihNodes =>
    rw [tags, ihChildren, ihNodes, tags, List.cons_append, List.cons_append, List.map_cons,
      List.map_append]

/-- The normal form changes no name. -/
theorem AllNamed.normal {nodes : List Node} (h : AllNamed nodes) : AllNamed (normal nodes) := by
  intro tag mem
  rw [tags_normal] at mem
  obtain ⟨named, written, rfl⟩ := List.mem_map.1 mem
  exact h named written

/-! ## Outlines -/

def outline : List Node → List Outline
  | [] => []
  | .text _ :: nodes => outline nodes
  | .element tag children :: nodes =>
    .element tag.name (tag.attributes.map Prod.fst) (outline children) :: outline nodes

/-- Text in front does not change the outline. -/
theorem outline_consText (content : String) (nodes : List Node) :
    outline (consText content nodes) = outline nodes := by
  fun_cases consText content nodes <;> simp [outline]

/-- A forest and its normal form have one outline. -/
theorem outline_normal (nodes : List Node) : outline (normal nodes) = outline nodes := by
  fun_induction normal nodes with
  | case1 => rfl
  | case2 content nodes ih => rw [outline_consText, ih, outline]
  | case3 tag children nodes ihChildren ihNodes =>
    rw [outline, ihChildren, ihNodes, outline]
    rfl

end Node

/-! ## The banner -/

namespace Banner

/-- The outline of the banner. -/
def frame : List Outline :=
  [.element "div" ["class"]
    [.element "p" []
      [.element "a" ["href", "target"] [],
        .element "button" ["type", "class", "data-consent"] [],
        .element "button" ["type", "class", "data-consent"] []]]]

/-- The banner has one outline for all settings. -/
theorem outline_markup (settings : Settings) : Node.outline [markup settings] = frame := by
  simp [Node.outline, markup, button, Tag.onClick, frame]

/-- All tags and attributes of the banner have proper names, for all settings. -/
theorem allNamed_markup (settings : Settings) : Node.AllNamed [markup settings] := by
  have names : (Node.tags [markup settings]).map Tag.names =
      [["div", "class"], ["p"], ["a", "href", "target"],
        ["button", "type", "class", "data-consent"],
        ["button", "type", "class", "data-consent"]] := by
    simp [Node.tags, markup, button, Tag.onClick, Tag.names]
  have proper : ∀ names ∈ (Node.tags [markup settings]).map Tag.names,
      ∀ name ∈ names, Html.IsName name := by
    rw [names]
    decide
  exact fun tag mem => proper _ (List.mem_map_of_mem mem)

end Banner

namespace Html

open Node (AllNamed IsNormal consText normal startsWithText tags)
open Text (Reader)
open Text.Reader (bind_of_eq pure_run char_cons map_run)

/-- Texts that are joined have their escapes joined. -/
theorem escape_append (a b : String) : escape (a ++ b) = escape a ++ escape b := by
  rw [escape, String.toList_append, List.flatMap_append, ← escape, ← escape]

/-- Text in front is written in front, whether it joins other text or not. -/
theorem write_consText (content : String) (nodes : List Node) :
    write (consText content nodes) = escape content ++ write nodes := by
  fun_cases consText content nodes with
  | case1 next nodes => rw [write, write, escape_append, List.append_assoc]
  | case2 nodes other empty => rw [empty]; rfl
  | case3 nodes other filled => rw [write]

/-- A forest is written like its normal form. -/
theorem write_normal (nodes : List Node) : write (normal nodes) = write nodes := by
  fun_induction normal nodes with
  | case1 => rfl
  | case2 content nodes ih => rw [write_consText, ih, write]
  | case3 tag children nodes ihChildren ihNodes =>
    rw [write, write, ihChildren, ihNodes]
    rfl

/-! ## Forests are read back -/

/-- The text of an element in front of others. -/
theorem write_element_append (tag : Tag) (children nodes : List Node) (s : List Char) :
    write (.element tag children :: nodes) ++ s =
      '<' :: (tag.name.toList ++ (writeAttributes tag.attributes ++ '>' :: (write children ++
        '<' :: '/' :: (tag.name.toList ++ '>' :: (write nodes ++ s))))) := by
  rw [write]
  simp

/-- A text is read back in front of the end of a text or a tag. -/
theorem readNode_text {content : String} (h : content ≠ "") (forest : Reader (List Node))
    {s : List Char} (hs : ∀ c ∈ s.head?, c = '<') :
    endsForest (escape content ++ s) = false ∧
      readNode forest (escape content ++ s) = some (.text content, s) := by
  have found := readText_escape content hs
  obtain ⟨c, rest, written, plain⟩ := exists_escape_eq h
  have text : c ≠ '<' := ne_of_isDelimiter plain rfl
  rw [written, List.cons_append] at found ⊢
  constructor
  · simp [endsForest, text]
  · simp [readNode, text, map_run, found]

/-- An element is read back when its children are. -/
theorem readNode_element {tag : Tag} (h : tag.IsNamed) (inert : tag.inert = tag)
    {forest : Reader (List Node)} {children : List Node} {s rest : List Char}
    (reads : forest s = some (children, '<' :: '/' :: (tag.name.toList ++ '>' :: rest))) :
    endsForest ('<' :: (tag.name.toList ++ (writeAttributes tag.attributes ++ '>' :: s))) = false ∧
      readNode forest ('<' :: (tag.name.toList ++ (writeAttributes tag.attributes ++ '>' :: s))) =
        some (.element tag children, rest) := by
  have start := readTag_write h s
  rw [inert] at start
  constructor
  · obtain ⟨some_char, proper⟩ := h.name
    cases name : tag.name.toList with
    | nil => exact absurd name some_char
    | cons c cs =>
      -- a name does not begin with a slash, so the tag does not look like an end tag
      have slash : c ≠ '/' := by
        rintro rfl
        exact absurd (proper '/' (by simp [name])) (by decide)
      simp [endsForest, slash]
  · rw [readNode, readElement, bind_of_eq (char_cons _ _), bind_of_eq start, bind_of_eq reads,
      bind_of_eq (readEndTag_name h.name rest), pure_run]

/-- A forest that does not start with a text starts with a tag, if with anything. -/
theorem head?_write_append {nodes : List Node} (h : startsWithText nodes = false) {s : List Char}
    (ends : endsForest s) : ∀ c ∈ (write nodes ++ s).head?, c = '<' := by
  match nodes with
  | [] =>
    rw [write, List.nil_append]
    unfold endsForest at ends
    split at ends <;> simp_all
  | .text content :: nodes => cases h
  | .element tag children :: nodes =>
    rw [write_element_append]
    rintro c ⟨⟩
    rfl

/-- A normal forest is read back in front of a text at which forests end. -/
theorem readForest_write {nodes : List Node} (plain : IsNormal nodes) (named : AllNamed nodes)
    {fuel : Nat} (hfuel : (write nodes).length < fuel) {s : List Char} (ends : endsForest s) :
    readForest fuel (write nodes ++ s) = some (nodes, s) := by
  -- induction on the fuel: the children of an element and what follows it are both written shorter
  induction fuel generalizing nodes s with
  | zero => exact absurd hfuel (Nat.not_lt_zero _)
  | succ fuel ih =>
    match nodes with
    | [] =>
      rw [write, List.nil_append]
      exact readForest_of_endsForest ends fuel
    | .text content :: nodes =>
      rw [IsNormal] at plain
      rw [AllNamed, tags] at named
      obtain ⟨filled, alone, others⟩ := plain
      rw [write] at hfuel ⊢
      rw [List.append_assoc]
      have shorter : (write nodes).length < fuel := by
        obtain ⟨c, rest, written, -⟩ := exists_escape_eq filled
        simp only [written, List.length_append, List.length_cons] at hfuel
        omega
      obtain ⟨more, first⟩ := readNode_text filled (readForest fuel) (head?_write_append alone ends)
      exact readForest_cons more first (ih others named shorter ends)
    | .element tag children :: nodes =>
      rw [IsNormal] at plain
      rw [AllNamed, tags, List.cons_append, List.forall_mem_cons, List.forall_mem_append] at named
      obtain ⟨inert, inside, others⟩ := plain
      obtain ⟨tagNamed, childrenNamed, othersNamed⟩ := named
      have long := congrArg List.length (write_element_append tag children nodes [])
      simp only [List.append_nil, List.length_append, List.length_cons] at long
      have childrenRead := ih inside childrenNamed (by omega)
        (s := '<' :: '/' :: (tag.name.toList ++ '>' :: (write nodes ++ s))) rfl
      obtain ⟨more, first⟩ := readNode_element tagNamed inert childrenRead
      rw [write_element_append]
      exact readForest_cons more first (ih others othersNamed (by omega) ends)

/-- **A forest is read back** as its normal form. -/
theorem read?_write {nodes : List Node} (named : AllNamed nodes) :
    read? (write nodes) = some (normal nodes) := by
  have found := readForest_write (Node.isNormal_normal nodes) named.normal
    (Nat.lt_succ_self (write (normal nodes)).length) (s := []) rfl
  rw [List.append_nil, write_normal] at found
  rw [read?, Reader.whole, found]

/-! ## Taking the tags out -/

/-- Without its tags, what is written for a forest is what is written for its text. -/
theorem withoutTags_write_append {nodes : List Node} (named : AllNamed nodes) (s : List Char) :
    withoutTags false (write nodes ++ s) =
      escape (Node.textContent nodes) ++ withoutTags false s := by
  fun_induction Node.textContent nodes generalizing s with
  | case1 =>
    rw [write]
    rfl
  | case2 content nodes ih =>
    rw [AllNamed, tags] at named
    have inside : ∀ c ∈ escape content, c ≠ '<' := fun c mem =>
      ne_of_isDelimiter (isDelimiter_of_mem_escape mem) rfl
    rw [write, List.append_assoc, withoutTags_closed inside, ih named, escape_append,
      List.append_assoc]
  | case3 tag children nodes ihChildren ihNodes =>
    rw [AllNamed, tags, List.cons_append, List.forall_mem_cons, List.forall_mem_append] at named
    obtain ⟨tagNamed, childrenNamed, othersNamed⟩ := named
    have start : ∀ c ∈ tag.name.toList ++ writeAttributes tag.attributes, c ≠ '>' :=
      fun c mem => ne_of_mem_startTag tagNamed mem
    have finish : ∀ c ∈ '/' :: tag.name.toList, c ≠ '>' :=
      List.forall_mem_cons.2 ⟨by decide, fun c mem => start c (List.mem_append_left _ mem)⟩
    rw [write_element_append, withoutTags, ← List.append_assoc, withoutTags_open start,
      ihChildren childrenNamed, withoutTags, ← List.cons_append, withoutTags_open finish,
      ihNodes othersNamed, escape_append, List.append_assoc]

/-- What is left without the tags, with its entities undone, is what a forest says. -/
theorem unescape_withoutTags_write {nodes : List Node} (named : AllNamed nodes) :
    String.ofList (unescape (withoutTags false (write nodes))) = Node.textContent nodes := by
  have left := withoutTags_write_append named []
  rw [withoutTags, List.append_nil, List.append_nil] at left
  rw [left, unescape_escape, String.ofList_toList]

/-- **HTML says what a page holds.** Whatever the texts of a forest and the values of its attributes
are, its text is read back as its normal form: the same elements in the same order, each with its
name and its attributes with their values, up to texts that are joined or empty and to what
activating an element does. So two forests have one text only if they have one normal form. What is
left without the tags, with the entities undone, is the text that the forest says.

For the banner this holds with any settings, and what is read has one outline for all of them. -/
theorem written_unambiguously :
    (∀ nodes, AllNamed nodes →
      read? (write nodes) = some (normal nodes) ∧
      (∀ others, AllNamed others → (write others = write nodes ↔ normal others = normal nodes)) ∧
      String.ofList (unescape (withoutTags false (write nodes))) = Node.textContent nodes) ∧
    ∀ state settings, ∀ nodes ∈ Banner.plan state settings,
      read? (write nodes) = some (normal nodes) ∧
      Node.outline (normal nodes) = Banner.frame ∧
      String.ofList (unescape (withoutTags false (write nodes))) = Node.textContent nodes := by
  refine ⟨fun nodes named => ⟨read?_write named, fun others othersNamed => ⟨fun same => ?_,
    fun same => ?_⟩, unescape_withoutTags_write named⟩, fun state settings nodes planned => ?_⟩
  · -- what is written is read back, so it says which normal form it was written for
    have found := read?_write othersNamed
    rw [same, read?_write named] at found
    exact (Option.some.inj found).symm
  · rw [← write_normal, same, write_normal]
  · rw [Banner.plan, Option.mem_def] at planned
    split at planned
    case isTrue => cases planned
    case isFalse =>
      obtain rfl := Option.some.inj planned
      have named := Banner.allNamed_markup settings
      exact ⟨read?_write named, by rw [Node.outline_normal, Banner.outline_markup],
        unescape_withoutTags_write named⟩

/-- A forest whose texts and values look like tags and entities. -/
def lookalikes : List Node :=
  [.element ⟨"p", [("title", "\"><b>")], some .accept⟩ [.text "a", .text "</p>&lt;", .text ""]]

/-- The forest that is read where `lookalikes` is written. -/
def readLookalikes : List Node :=
  [.element ⟨"p", [("title", "\"><b>")], none⟩ [.text "a</p>&lt;"]]

/-- Settings whose texts look like tags and attributes. -/
def lookalikeSettings : Banner.Settings :=
  { privacyUrl := "\" id=\"x", message := "<b>", containerClass := "\"><p class=\"y" }

/-- Texts and values that look like HTML, in a forest and in the settings of the banner. -/
theorem written_unambiguously_lookalikes :
    AllNamed lookalikes ∧ AllNamed readLookalikes ∧
      read? (write lookalikes) = some readLookalikes ∧
      write readLookalikes = write lookalikes ∧
      [Banner.markup lookalikeSettings] ∈ Banner.plan .absent lookalikeSettings ∧
      Node.outline (normal [Banner.markup lookalikeSettings]) = Banner.frame := by
  have named : AllNamed lookalikes := by
    simp only [lookalikes, AllNamed, tags, List.append_nil, List.forall_mem_singleton]
    decide
  have readNamed : AllNamed readLookalikes := by
    simp only [readLookalikes, AllNamed, tags, List.append_nil, List.forall_mem_singleton]
    decide
  have joined : normal lookalikes = readLookalikes := by
    simp [lookalikes, readLookalikes, normal, consText, Tag.inert]
  have joinedAlready : normal readLookalikes = readLookalikes := by
    simp [readLookalikes, normal, consText, Tag.inert]
  obtain ⟨read, same, -⟩ := written_unambiguously.1 lookalikes named
  rw [joined] at read same
  exact ⟨named, readNamed, read, (same readLookalikes readNamed).2 joinedAlready, rfl,
    (written_unambiguously.2 .absent lookalikeSettings _ rfl).2.1⟩

end Html

end CookieConsent
