import CookieConsent.Page.Html

/-!
# Pages

The body of a page, as far as a banner changes it: nodes are put in front, and elements of a class
are taken out.

* `tags_without`: what is left when a class is taken out does not carry it.
-/

namespace CookieConsent

namespace Node

/-- A forest without the elements of a class, and without what stands in them. -/
def without (className : String) : List Node → List Node
  | [] => []
  | .text content :: nodes => .text content :: without className nodes
  | .element tag children :: nodes =>
    if tag.hasClass className then without className nodes
    else .element tag (without className children) :: without className nodes
termination_by nodes => nodes
decreasing_by all_goals simp only [List.cons.sizeOf_spec, Node.element.sizeOf_spec]; omega

/-- How many elements of a class are taken out of a forest: those that stand in no other one. -/
def outermost (className : String) : List Node → Nat
  | [] => 0
  | .text _ :: nodes => outermost className nodes
  | .element tag children :: nodes =>
    (if tag.hasClass className then 1 else outermost className children) +
      outermost className nodes

/-- What is left when a class is taken out does not carry it. -/
theorem tags_without {className : String} {nodes : List Node} {tag : Tag}
    (h : tag ∈ tags (without className nodes)) : tag.hasClass className = false := by
  fun_induction without className nodes <;> simp_all [tags]
  rcases h with h | h | h <;> simp_all

end Node

structure Page where
  body : List Node := []
deriving DecidableEq, Repr

namespace Page

/-- Puts nodes in front of all others. -/
def prepend (page : Page) (nodes : List Node) : Page := ⟨nodes ++ page.body⟩

/-- Takes out the elements of a class, and what stands in them. -/
def remove (page : Page) (className : String) : Page := ⟨Node.without className page.body⟩

/-- How many elements `remove` takes out, not counting what stands in them. -/
def removals (page : Page) (className : String) : Nat := Node.outermost className page.body

def count (page : Page) (className : String) : Nat :=
  (Node.tags page.body).countP (·.hasClass className)

/-- What the controls of the page do, in document order. -/
def actions (page : Page) : List Action := (Node.tags page.body).filterMap (·.action)

def html (page : Page) : String :=
  "<body>" ++ String.ofList (Html.write page.body) ++ "</body>"

/-- No element carries a class that was removed. -/
@[simp] theorem count_remove (page : Page) (className : String) :
    (page.remove className).count className = 0 := by
  rw [count, List.countP_eq_zero]
  intro tag h
  simp [Node.tags_without h]

end Page

end CookieConsent
