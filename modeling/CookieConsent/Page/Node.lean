import CookieConsent.Decision
import CookieConsent.Text.Blank

/-!
# Page nodes

The contents of a page: a forest of texts and elements. An element has a tag, which names it and
gives its attributes, and children. The functions here are defined on whole forests, from the first
tree to the last.

* `same_iff`: forests are compared exactly.
-/

namespace CookieConsent

/-- What activating a control of the banner does. -/
inductive Action where
  | accept
  | refuse
deriving DecidableEq, Repr

namespace Action

def decision : Action → Decision
  | .accept => .accepted
  | .refuse => .refused

/-- The value of the attribute that marks the control. -/
def mark : Action → String
  | .accept => "accept"
  | .refuse => "refuse"

def toJson : Action → Json
  | .accept => .ofText "Accept"
  | .refuse => .ofText "Refuse"

def ofJson? (value : Json) : Option Action := do
  match ← value.plainChoice? with
  | "Accept" => some .accept
  | "Refuse" => some .refuse
  | _ => none

end Action

/-- An element without its children. -/
structure Tag where
  name : String
  attributes : List (String × String) := []
  /-- What activating the element does, if it is a control. -/
  action : Option Action := none
deriving DecidableEq, Repr

namespace Tag

/-- The value of the first attribute with a name. -/
def attribute? (tag : Tag) (name : String) : Option String := tag.attributes.lookup name

/-- Whether a class is one of the words of the attribute `class`. -/
def hasClass (tag : Tag) (className : String) : Bool :=
  (tag.attribute? "class").any fun value =>
    (Text.words value.toList).contains className.toList

/-- The tag of a control, marked with what activating it does. -/
def onClick (tag : Tag) (action : Action) : Tag :=
  { tag with
    attributes := tag.attributes ++ [("data-consent", action.mark)]
    action := some action }

end Tag

/-- A node of a page. -/
inductive Node where
  | text (content : String)
  | element (tag : Tag) (children : List Node)
deriving Repr

namespace Node

/-- The tags of all elements of a forest, in document order. -/
def tags : List Node → List Tag
  | [] => []
  | .text _ :: nodes => tags nodes
  | .element tag children :: nodes => tag :: tags children ++ tags nodes

/-- The texts of a forest, one after another. -/
def textContent : List Node → String
  | [] => ""
  | .text content :: nodes => content ++ textContent nodes
  | .element _ children :: nodes => textContent children ++ textContent nodes

/-! ## Equality -/

/-- Compares two forests. -/
def same : List Node → List Node → Bool
  | [], [] => true
  | .text a :: as, .text b :: bs => a = b && same as bs
  | .element s cs :: as, .element t ds :: bs => s = t && same cs ds && same as bs
  | _, _ => false

theorem same_self (nodes : List Node) : same nodes nodes := by
  fun_induction tags nodes <;> simp_all [same]

/-- The test for equality finds equal forests only. -/
theorem eq_of_same {as bs : List Node} (h : same as bs) : as = bs := by
  fun_induction same as bs <;> simp_all

/-- Forests are compared exactly. -/
theorem same_iff {as bs : List Node} : same as bs ↔ as = bs :=
  ⟨eq_of_same, fun h => h ▸ same_self as⟩

instance : DecidableEq Node := fun a b =>
  decidable_of_iff (same [a] [b]) (same_iff.trans (by simp))

end Node

end CookieConsent
