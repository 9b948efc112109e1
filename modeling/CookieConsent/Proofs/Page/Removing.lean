import CookieConsent.Proofs.Page.Classes

/-!
# What is taken out of a page

A forest can be listed: its nodes in document order, each with the elements that it stands in. The
list says everything about the forest, as a node stands as deep as it has elements above it. To take
out a class is to drop from the list the nodes that carry it and those that stand in an element that
does, and nothing else.

How many elements are taken out is another matter. Only those are counted that stand in no other
one, so one that goes along with the element around it is missed.

* `placed_injective`: a forest is known from its list.
* `placed_without`: the list of what is left when a class is taken out.
* `outermost_eq`: the elements that are counted when a class is taken out.
* `removal_filters`: the page that is left, its controls, and how removals go together.
* `removals_miss_nested`: what is counted, against what is taken out.
-/

namespace CookieConsent

/-- A node where it stands in a forest, without what stands in it. -/
structure Placed where
  /-- The elements that the node stands in, from the outermost one. -/
  above : List Tag
  /-- An element, or the content of a text. -/
  node : Tag ⊕ String
deriving DecidableEq, Repr

namespace Placed

def tag? (place : Placed) : Option Tag := place.node.getLeft?

/-- What activating a node does, if it is a control. -/
def action? (place : Placed) : Option Action := place.tag?.bind (·.action)

/-- Whether a node is an element of a class. -/
def carries (className : String) (place : Placed) : Bool := place.tag?.any (·.hasClass className)

/-- Whether a node stands in an element of a class. -/
def isInside (className : String) (place : Placed) : Bool := place.above.any (·.hasClass className)

/-- Whether a node has no part in a class: it neither is nor stands in an element of it. -/
def isFree (className : String) (place : Placed) : Bool :=
  !place.carries className && !place.isInside className

end Placed

namespace Node

/-- The nodes of a forest in document order, under the elements above the forest. -/
def placed (above : List Tag) : List Node → List Placed
  | [] => []
  | .text content :: nodes => ⟨above, .inr content⟩ :: placed above nodes
  | .element tag children :: nodes =>
    ⟨above, .inl tag⟩ :: placed (above ++ [tag]) children ++ placed above nodes

/-- Whether a node is an element of a class. -/
def carries (className : String) : Node → Bool
  | .text _ => false
  | .element tag _ => tag.hasClass className

/-! ## The list of a forest -/

/-- The tags of placed nodes are those of the forest, in the same order. -/
theorem filterMap_tag?_placed (above : List Tag) (nodes : List Node) :
    (placed above nodes).filterMap Placed.tag? = tags nodes := by
  fun_induction placed above nodes with
  | case1 => rw [tags, List.filterMap_nil]
  | case2 above content nodes ih => rw [List.filterMap_cons_none rfl, ih, tags]
  | case3 above tag children nodes ihChildren ihNodes =>
    have first : Placed.tag? ⟨above, .inl tag⟩ = some tag := rfl
    rw [List.cons_append, List.filterMap_cons_some first, List.filterMap_append, ihChildren,
      ihNodes, tags, List.cons_append]

/-- The nodes of a forest stand in whatever stands above the forest. -/
theorem prefix_of_mem_placed {above : List Tag} {nodes : List Node} {place : Placed}
    (h : place ∈ placed above nodes) : above <+: place.above := by
  fun_induction placed above nodes with
  | case1 => exact absurd h List.not_mem_nil
  | case2 above content nodes ih =>
    rcases List.mem_cons.1 h with rfl | h
    · exact List.prefix_rfl
    · exact ih h
  | case3 above tag children nodes ihChildren ihNodes =>
    rw [List.cons_append, List.mem_cons, List.mem_append] at h
    rcases h with rfl | h | h
    · exact List.prefix_rfl
    · exact (List.prefix_append above [tag]).trans (ihChildren h)
    · exact ihNodes h

/-- What stands in an element stands deeper than the element. -/
theorem lt_length_of_mem_placed {above : List Tag} {tag : Tag} {children : List Node}
    {place : Placed} (h : place ∈ placed (above ++ [tag]) children) :
    above.length < place.above.length := by
  have deep := (prefix_of_mem_placed h).length_le
  rw [List.length_append, List.length_singleton] at deep
  exact deep

/-- In the list, what stands in an element ends where the next node does not stand deeper. -/
theorem takeWhile_placed (above : List Tag) (tag : Tag) (children nodes : List Node) :
    (placed (above ++ [tag]) children ++ placed above nodes).takeWhile
      (above.length < ·.above.length) = placed (above ++ [tag]) children := by
  have next : (placed above nodes).takeWhile (above.length < ·.above.length) = [] := by
    fun_cases placed above nodes <;> simp
  rw [List.takeWhile_append_of_pos fun _ h => decide_eq_true (lt_length_of_mem_placed h), next,
    List.append_nil]

/-- A forest is known from the list of its nodes. -/
theorem placed_injective {above : List Tag} {as bs : List Node}
    (h : placed above as = placed above bs) : as = bs := by
  -- two forests with one list begin with the same node, as the kinds of nodes tell them apart
  fun_induction placed above as generalizing bs with
  | case1 above =>
    fun_cases placed above bs with
    | case1 => rfl
    | case2 | case3 => rw [placed] at h; cases h
  | case2 above content nodes ih =>
    fun_cases placed above bs with
    | case1 | case3 => rw [placed] at h; cases h
    | case2 content' nodes' =>
      rw [placed] at h
      obtain ⟨same, rest⟩ := List.cons.inj h
      cases same
      rw [ih rest]
  | case3 above tag children nodes ihChildren ihNodes =>
    fun_cases placed above bs with
    | case1 | case2 => rw [placed] at h; cases h
    | case3 tag' children' nodes' =>
      rw [placed, List.cons_append, List.cons_append] at h
      obtain ⟨same, rest⟩ := List.cons.inj h
      cases same
      -- the nodes below an element are those in front of the first that is not placed deeper
      have inner : placed (above ++ [tag]) children = placed (above ++ [tag]) children' := by
        rw [← takeWhile_placed above tag children nodes, rest, takeWhile_placed]
      rw [inner] at rest
      rw [ihChildren inner, ihNodes (List.append_cancel_left rest)]

/-! ## Taking out a class -/

/-- What stands below an element of a class is inside the class. -/
theorem isInside_of_mem_placed {className : String} {above : List Tag} {tag : Tag}
    (carried : tag.hasClass className = true) {children : List Node} {place : Placed}
    (h : place ∈ placed (above ++ [tag]) children) : place.isInside className = true := by
  have around : tag ∈ place.above :=
    (prefix_of_mem_placed h).subset (List.mem_append_right above (List.mem_singleton_self tag))
  exact List.any_eq_true.2 ⟨tag, around, carried⟩

/-- What stands in an element that does not carry a class has no more elements of the class above it
than the element has. -/
theorem any_hasClass_append {className : String} {above : List Tag} {tag : Tag}
    (free : above.any (·.hasClass className) = false) (plain : tag.hasClass className = false) :
    (above ++ [tag]).any (·.hasClass className) = false := by
  rw [List.any_append, free, List.any_cons, plain, List.any_nil, Bool.or_self, Bool.or_self]

/-- What is left when a class is taken out, as long as nothing above the forest carries it: the
nodes that neither are nor stand in elements of the class, where they stood before. -/
theorem placed_without {className : String} {above : List Tag}
    (free : above.any (·.hasClass className) = false) (nodes : List Node) :
    placed above (without className nodes) =
      (placed above nodes).filter (Placed.isFree className) := by
  fun_induction without className nodes generalizing above with
  | case1 => rw [placed, List.filter_nil]
  | case2 content nodes ih =>
    have kept : Placed.isFree className ⟨above, .inr content⟩ = true := by
      simp [Placed.isFree, Placed.carries, Placed.tag?, Placed.isInside, free]
    rw [placed, placed, List.filter_cons_of_pos kept, ih free]
  | case3 tag children nodes carried ih =>
    have gone : ¬ Placed.isFree className ⟨above, .inl tag⟩ = true := by
      simp [Placed.isFree, Placed.carries, Placed.tag?, carried]
    -- nothing below an element of the class is kept either
    have inner : (placed (above ++ [tag]) children).filter (Placed.isFree className) = [] := by
      rw [List.filter_eq_nil_iff]
      intro place mem
      simp [Placed.isFree, isInside_of_mem_placed carried mem]
    rw [placed, List.cons_append, List.filter_cons_of_neg gone, List.filter_append, inner,
      List.nil_append, ih free]
  | case4 tag children nodes plain ihChildren ihNodes =>
    have plain := Bool.eq_false_iff.2 plain
    have kept : Placed.isFree className ⟨above, .inl tag⟩ = true := by
      simp [Placed.isFree, Placed.carries, Placed.tag?, Placed.isInside, plain, free]
    rw [placed, placed, List.cons_append, List.cons_append, List.filter_cons_of_pos kept,
      List.filter_append, ihChildren (any_hasClass_append free plain), ihNodes free]

/-- The elements that are counted when a class is taken out, as long as nothing above the forest
carries it: those that carry it and stand in no other one. -/
theorem outermost_eq {className : String} {above : List Tag}
    (free : above.any (·.hasClass className) = false) (nodes : List Node) :
    outermost className nodes =
      (placed above nodes).countP fun place =>
        place.carries className && !place.isInside className := by
  fun_induction outermost className nodes generalizing above with
  | case1 => rw [placed, List.countP_nil]
  | case2 content nodes ih =>
    rw [placed, List.countP_cons_of_neg (by simp [Placed.carries, Placed.tag?]), ih free]
  | case3 tag children nodes ihChildren ihNodes =>
    rw [placed, List.cons_append, List.countP_cons, List.countP_append, ihNodes free]
    -- below an element of the class nothing is counted
    by_cases carried : tag.hasClass className = true
    · have inner : (placed (above ++ [tag]) children).countP (fun place =>
          place.carries className && !place.isInside className) = 0 := by
        rw [List.countP_eq_zero]
        intro place mem
        simp [isInside_of_mem_placed carried mem]
      have outer : (Placed.carries className ⟨above, .inl tag⟩ &&
          !Placed.isInside className ⟨above, .inl tag⟩) = true := by
        simp [Placed.carries, Placed.tag?, Placed.isInside, carried, free]
      rw [inner, if_pos carried, if_pos outer, Nat.zero_add, Nat.add_comm]
    · have plain := Bool.eq_false_iff.2 carried
      rw [if_neg carried, ihChildren (any_hasClass_append free plain)]
      simp [Placed.carries, Placed.tag?, plain]

/-- A class is taken out of two forests one by one. -/
theorem without_append (className : String) (front back : List Node) :
    without className (front ++ back) = without className front ++ without className back := by
  fun_induction without className front with
  | case1 => rfl
  | case2 content nodes ih => rw [List.cons_append, without, ih, List.cons_append]
  | case3 tag children nodes carried ih => rw [List.cons_append, without, if_pos carried, ih]
  | case4 tag children nodes plain ihChildren ihNodes =>
    rw [List.cons_append, without, if_neg plain, ihNodes, List.cons_append]

/-- Elements that stand in no other one are counted in two forests one by one. -/
theorem outermost_append (className : String) (front back : List Node) :
    outermost className (front ++ back) = outermost className front + outermost className back := by
  fun_induction outermost className front with
  | case1 => rw [List.nil_append, Nat.zero_add]
  | case2 content nodes ih => rw [List.cons_append, outermost, ih]
  | case3 tag children nodes ihChildren ihNodes =>
    rw [List.cons_append, outermost, ihNodes, Nat.add_assoc]

/-- Nothing is left of elements that all carry the class. -/
theorem without_of_carries {className : String} {nodes : List Node}
    (h : ∀ node ∈ nodes, node.carries className = true) : without className nodes = [] := by
  induction nodes with
  | nil => rw [without]
  | cons node nodes ih =>
    have first := h node List.mem_cons_self
    have rest := ih fun other mem => h other (List.mem_cons_of_mem node mem)
    cases node with
    | text content => cases first
    | element tag children =>
      rw [carries] at first
      rw [without, if_pos first, rest]

/-- Elements that all carry the class are all counted. -/
theorem outermost_of_carries {className : String} {nodes : List Node}
    (h : ∀ node ∈ nodes, node.carries className = true) :
    outermost className nodes = nodes.length := by
  induction nodes with
  | nil => rw [outermost, List.length_nil]
  | cons node nodes ih =>
    have first := h node List.mem_cons_self
    have rest := ih fun other mem => h other (List.mem_cons_of_mem node mem)
    cases node with
    | text content => cases first
    | element tag children =>
      rw [carries] at first
      rw [outermost, if_pos first, rest, List.length_cons, Nat.add_comm]

end Node

namespace Page

/-- The nodes of a page in document order, each with the elements that it stands in. -/
def nodes (page : Page) : List Placed := Node.placed [] page.body

/-- A page is known from its placed nodes. -/
theorem nodes_injective {page other : Page} (h : page.nodes = other.nodes) : page = other :=
  congrArg Page.mk (Node.placed_injective h)

/-- What is left of a page are the nodes that have no part in the class. -/
theorem nodes_remove (page : Page) (className : String) :
    (page.remove className).nodes = page.nodes.filter (Placed.isFree className) :=
  Node.placed_without rfl page.body

/-- Elements of a class are counted among the placed nodes. -/
theorem count_eq (page : Page) (className : String) :
    page.count className = page.nodes.countP (Placed.carries className) := by
  rw [count, ← Node.filterMap_tag?_placed [], List.countP_filterMap]
  apply List.countP_congr
  intro place _
  cases tag : place.tag? <;> simp [Placed.carries, tag]

/-- A removal counts the elements of a class that are not inside it. -/
theorem removals_eq (page : Page) (className : String) :
    page.removals className =
      page.nodes.countP fun place => place.carries className && !place.isInside className :=
  Node.outermost_eq rfl page.body

/-- The controls of a page are found among its placed nodes. -/
theorem actions_eq (page : Page) : page.actions = page.nodes.filterMap Placed.action? := by
  rw [actions, ← Node.filterMap_tag?_placed [], List.filterMap_filterMap]
  rfl

/-- The elements of a class are those that are counted when it is taken out, and those that stand in
other ones. -/
theorem count_eq_removals_add (page : Page) (className : String) :
    page.count className = page.removals className +
      page.nodes.countP fun place => place.carries className && place.isInside className := by
  rw [count_eq, removals_eq,
    List.countP_eq_countP_filter_add _ _ fun place => !place.isInside className,
    List.countP_filter, List.countP_filter]
  simp

/-- Two classes can be taken out in either order. -/
theorem remove_remove_comm (page : Page) (className other : String) :
    (page.remove className).remove other = (page.remove other).remove className := by
  apply nodes_injective
  rw [nodes_remove, nodes_remove, nodes_remove, nodes_remove, List.filter_filter,
    List.filter_filter]
  congr 1
  funext place
  exact Bool.and_comm ..

/-- **Removal filters the nodes of a page.** What is left when a class is taken out is the one page
whose nodes, in document order and each with the elements that it stands in, are those of the page
that neither carry the class nor stand in an element that does. So no element is left that carries
it, to take it out again changes and counts nothing, two classes can be taken out in either order,
and the controls that are left are those that have no part in the class. Elements that carry the
class can be put in front of the page without changing what is left; they only add to the count. -/
theorem removal_filters (page : Page) (className : String) :
    (∀ left : Page, left = page.remove className ↔
      left.nodes = page.nodes.filter (Placed.isFree className)) ∧
    (page.remove className).count className = 0 ∧
    (page.remove className).remove className = page.remove className ∧
    (page.remove className).removals className = 0 ∧
    (∀ other, (page.remove className).remove other = (page.remove other).remove className) ∧
    page.actions = page.nodes.filterMap Placed.action? ∧
    (page.remove className).actions =
      (page.nodes.filter (Placed.isFree className)).filterMap Placed.action? ∧
    ∀ nodes : List Node, (∀ node ∈ nodes, node.carries className = true) →
      (page.prepend nodes).remove className = page.remove className ∧
      (page.prepend nodes).removals className = nodes.length + page.removals className := by
  have gone : (page.remove className).count className = 0 := count_remove page className
  refine ⟨fun left => ⟨?_, ?_⟩, gone, remove_eq_self gone, ?_, remove_remove_comm page className,
    actions_eq page, ?_, fun nodes carried => ⟨?_, ?_⟩⟩
  · rintro rfl
    exact nodes_remove page className
  · intro listed
    exact nodes_injective (listed.trans (nodes_remove page className).symm)
  · -- the elements that are counted are among those that carry the class, and none does
    have parts := count_eq_removals_add (page.remove className) className
    omega
  · rw [actions_eq, nodes_remove]
  · rw [remove, remove, prepend, Node.without_append, Node.without_of_carries carried,
      List.nil_append]
  · rw [removals, removals, prepend, Node.outermost_append, Node.outermost_of_carries carried]

/-- An element of a class, with a control and an element of the same class in it, in front of a page
that holds one more in another element. -/
theorem removal_filters_nested :
    let marked (children : List Node) : Node :=
      .element { name := "div", attributes := [("class", "wide x")] } children
    let control : Node := .element { name := "button", action := some .accept } []
    let page : Page := ⟨[.element { name := "main" } [.text "a", marked [], control]]⟩
    (∀ node ∈ [marked [control, marked []]], node.carries "x" = true) ∧
      (page.prepend [marked [control, marked []]]).remove "x" = page.remove "x" ∧
      (page.prepend [marked [control, marked []]]).removals "x" = 1 + page.removals "x" := by
  intro marked control page
  have carried : ∀ node ∈ [marked [control, marked []]], node.carries "x" = true := by
    intro node mem
    rw [List.mem_singleton.1 mem]
    decide
  obtain ⟨-, -, -, -, -, -, -, inFront⟩ := removal_filters page "x"
  exact ⟨carried, inFront _ carried⟩

/-- **Removals miss what is nested.** When a class is taken out, those elements are counted that
carry it and stand in no other one. Taken out are, besides, all that do stand in another one; so the
number that is counted is the number of elements that carried the class before and do not any more
exactly when no element of the class stands in another one. -/
theorem removals_miss_nested (page : Page) (className : String) :
    page.removals className = page.nodes.countP (fun place =>
      place.carries className && !place.isInside className) ∧
    page.count className - (page.remove className).count className =
      page.removals className + page.nodes.countP (fun place =>
        place.carries className && place.isInside className) ∧
    (page.removals className = page.count className - (page.remove className).count className ↔
      ∀ place ∈ page.nodes, place.carries className = true → place.isInside className = false) := by
  have gone : (page.remove className).count className = 0 := count_remove page className
  have parts := count_eq_removals_add page className
  refine ⟨removals_eq page className, by omega, ?_⟩
  have missed :
      page.removals className = page.count className - (page.remove className).count className ↔
        page.nodes.countP (fun place =>
          place.carries className && place.isInside className) = 0 := by
    omega
  rw [missed, List.countP_eq_zero]
  apply forall₂_congr
  intro place _
  cases place.carries className <;> simp

/-- Of two elements of a class, one in the other, only the outer one is counted. -/
theorem removals_miss_inner :
    let inner : Node := .element { name := "p", attributes := [("class", "x")] } []
    let page : Page := ⟨[.element { name := "div", attributes := [("class", "x")] } [inner]]⟩
    page.removals "x" = 1 ∧ page.count "x" = 2 ∧ (page.remove "x").count "x" = 0 := by
  intro inner page
  have carried (name : String) :
      Tag.hasClass { name, attributes := [("class", "x")] } "x" = true := rfl
  refine ⟨?_, ?_, count_remove page "x"⟩
  · simp [page, removals, Node.outermost, carried]
  · simp [page, inner, count, Node.tags, carried]

end Page

end CookieConsent
