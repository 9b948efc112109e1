import CookieConsent.Page.Basic
import CookieConsent.Proofs.Text.Words

/-!
# Finding elements by their class

A class is found among the words of an attribute. So a text with a blank in it is the class of no
element, and a text without one is the class of an element whose attribute is that text. Taking out
a class leaves a page as it is when no element carries it.

* `Page.remove_eq_self`: nothing is taken out of such a page.
* `Page.count_eq_zero_of_isBlank`: no element carries a class with a blank.
-/

namespace CookieConsent

open Text (isBlank)

/-- An element whose class is given as one word carries it. -/
theorem Tag.hasClass_self {name : String} {className : String} (ne : className.toList ≠ [])
    (h : ∀ c ∈ className.toList, isBlank c = false) :
    Tag.hasClass { name, attributes := [("class", className)] } className = true := by
  rw [Tag.hasClass, Tag.attribute?, List.lookup_cons_self, Option.any_some,
    Text.words_eq_singleton ne h, List.contains_cons, beq_self_eq_true, Bool.true_or]

/-- An element that has no classes carries none. -/
theorem Tag.hasClass_of_attribute?_eq_none {tag : Tag} (h : tag.attribute? "class" = none)
    (className : String) : tag.hasClass className = false := by
  rw [Tag.hasClass, h, Option.any_none]

/-- No element carries a class with a blank. -/
theorem Tag.hasClass_eq_false {className : String} {c : Char} (mem : c ∈ className.toList)
    (h : isBlank c = true) (tag : Tag) : tag.hasClass className = false := by
  rw [Tag.hasClass]
  cases tag.attribute? "class" with
  | none => rfl
  | some value =>
    rw [Option.any_some, Bool.eq_false_iff]
    intro found
    have plain := Text.isBlank_of_mem_words (List.contains_iff_mem.1 found) mem
    rw [h] at plain
    cases plain

theorem Node.tags_append (front back : List Node) :
    tags (front ++ back) = tags front ++ tags back := by
  fun_induction tags front with
  | case1 => rfl
  | case2 content nodes ih => rw [List.cons_append, tags, ih]
  | case3 tag children nodes ihChildren ihNodes =>
    rw [List.cons_append, tags, ihNodes, List.cons_append, List.append_assoc, List.cons_append]

/-- Nothing is taken out of a forest in which no element carries the class. -/
theorem Node.without_eq_self {className : String} {nodes : List Node}
    (h : ∀ tag ∈ Node.tags nodes, tag.hasClass className = false) :
    Node.without className nodes = nodes := by
  fun_induction Node.without className nodes with
  | case1 => rfl
  | case2 content nodes ih =>
    rw [Node.tags] at h
    rw [ih h]
  | case3 tag children nodes carried ih =>
    rw [Node.tags] at h
    -- the class is carried by this element, against the hypothesis
    have plain := h tag List.mem_cons_self
    rw [carried] at plain
    cases plain
  | case4 tag children nodes carried ihChildren ihNodes =>
    rw [Node.tags] at h
    have children := ihChildren fun t ht =>
      h t (List.mem_cons_of_mem _ (List.mem_append_left _ ht))
    have nodes := ihNodes fun t ht =>
      h t (List.mem_cons_of_mem _ (List.mem_append_right _ ht))
    rw [children, nodes]

namespace Page

/-- A class is counted as absent when no element carries it. -/
theorem count_eq_zero_iff {page : Page} {className : String} :
    page.count className = 0 ↔ ∀ tag ∈ Node.tags page.body, tag.hasClass className = false := by
  rw [count, List.countP_eq_zero]
  simp

/-- What is put in front of a page is counted along with the page. -/
theorem count_prepend (page : Page) (nodes : List Node) (className : String) :
    (page.prepend nodes).count className =
      (Page.mk nodes).count className + page.count className := by
  rw [count, prepend, Node.tags_append, List.countP_append, count, count]

/-- Nothing is taken out of a page on which no element carries the class. -/
theorem remove_eq_self {page : Page} {className : String} (h : page.count className = 0) :
    page.remove className = page := by
  rw [remove, Node.without_eq_self (count_eq_zero_iff.1 h)]

/-- No element of any page carries a class with a blank. -/
theorem count_eq_zero_of_isBlank (page : Page) {className : String} {c : Char}
    (mem : c ∈ className.toList) (h : isBlank c = true) : page.count className = 0 :=
  count_eq_zero_iff.2 fun tag _ => tag.hasClass_eq_false mem h

end Page

end CookieConsent
