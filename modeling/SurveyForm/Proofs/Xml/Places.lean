import SurveyForm.Xml.Node
/-!
Places of elements.  A place is an element with its number in document order and the
elements around it, so that equal elements at different places stay apart.
-/

namespace SurveyForm.Xml

/-- Induction on nodes: an element brings the nodes inside it, and the nodes that are no
elements are all alike. -/
@[elab_as_elim]
theorem nodesInduction {motive : List Node → Prop} (nil : motive [])
    (element : ∀ tag children rest, motive children → motive rest →
      motive (.element ⟨tag, children⟩ :: rest))
    (other : ∀ node rest, node.element? = none → motive rest → motive (node :: rest)) :
    ∀ nodes, motive nodes
  | [] => nil
  | .element ⟨tag, children⟩ :: rest =>
      element tag children rest (nodesInduction nil element other children)
        (nodesInduction nil element other rest)
  | .text content :: rest => other (.text content) rest rfl (nodesInduction nil element other rest)
  | .comment :: rest => other .comment rest rfl (nodesInduction nil element other rest)
  | .instruction :: rest => other .instruction rest rfl (nodesInduction nil element other rest)
  | .reference name :: rest => other (.reference name) rest rfl (nodesInduction nil element other rest)

@[simp]
theorem elementsOf_nil : elementsOf [] = [] :=
  rfl

@[simp]
theorem elementsOf_element (element : Element) (rest : List Node) :
    elementsOf (.element element :: rest) = element :: elementsOf rest :=
  rfl

theorem elementsOf_other {node : Node} (hnode : node.element? = none) (rest : List Node) :
    elementsOf (node :: rest) = elementsOf rest := by
  rw [elementsOf, elementsOf, List.filterMap_cons_none hnode]

@[simp]
theorem elements_mk (tag : Tag) (children : List Node) :
    (Element.mk tag children).elements = elementsOf children :=
  rfl

@[simp]
theorem name_mk (tag : Tag) (children : List Node) : (Element.mk tag children).name = tag.name :=
  rfl

@[simp]
theorem descendants_mk (tag : Tag) (children : List Node) :
    (Element.mk tag children).descendants = elementsBelow children := by
  rw [Element.descendants]

@[simp]
theorem elementsBelow_nil : elementsBelow [] = [] := by
  rw [elementsBelow]

@[simp]
theorem elementsBelow_element (element : Element) (rest : List Node) :
    elementsBelow (.element element :: rest) =
      element :: (element.descendants ++ elementsBelow rest) := by
  rw [elementsBelow]

theorem elementsBelow_other {node : Node} (hnode : node.element? = none) (rest : List Node) :
    elementsBelow (node :: rest) = elementsBelow rest := by
  cases node <;> simp_all [Node.element?, elementsBelow]

/-- An element among the nodes is below them, and so is all that is below it. -/
theorem below_of_mem_elementsOf {nodes : List Node} {child : Element}
    (hchild : child ∈ elementsOf nodes) :
    ∀ element ∈ child :: child.descendants, element ∈ elementsBelow nodes := by
  intro element helement
  induction nodes using nodesInduction with
  | nil => simp at hchild
  | other node rest hnode ih =>
      rw [elementsOf_other hnode] at hchild
      rw [elementsBelow_other hnode]
      exact ih hchild
  | element tag children rest ihInside ihRest =>
      rw [elementsOf_element, List.mem_cons] at hchild
      rw [elementsBelow_element]
      rcases hchild with rfl | hchild
      · exact List.mem_append_left _ helement
      · exact List.mem_cons_of_mem _ (List.mem_append_right _ (ihRest hchild))

theorem mem_descendants_of_mem_elements {element child : Element}
    (hchild : child ∈ element.elements) :
    ∀ other ∈ child :: child.descendants, other ∈ element.descendants := by
  obtain ⟨tag, children⟩ := element
  rw [descendants_mk]
  exact below_of_mem_elementsOf hchild

/-- What is below an element below nodes is below these. -/
theorem descendants_subset_elementsBelow {nodes : List Node} {element : Element}
    (helement : element ∈ elementsBelow nodes) : element.descendants ⊆ elementsBelow nodes := by
  induction nodes using nodesInduction with
  | nil => simp at helement
  | other node rest hnode ih =>
      rw [elementsBelow_other hnode] at helement ⊢
      exact ih helement
  | element tag children rest ihInside ihRest =>
      simp only [elementsBelow_element, descendants_mk, List.mem_cons, List.mem_append] at helement
      rw [elementsBelow_element, descendants_mk]
      rcases helement with rfl | hinside | hrest
      · rw [descendants_mk]
        exact List.Subset.trans (List.subset_append_left _ _) (List.subset_cons_self _ _)
      · apply List.Subset.trans (ihInside hinside)
        exact List.Subset.trans (List.subset_append_left _ _) (List.subset_cons_self _ _)
      · apply List.Subset.trans (ihRest hrest)
        exact List.Subset.trans (List.subset_append_right _ _) (List.subset_cons_self _ _)

/-- Whether an element is below another one, at whatever depth. -/
inductive Element.Below : Element → Element → Prop
  | child {outer inner : Element} (hchild : inner ∈ outer.elements) : Below outer inner
  | deeper {outer between inner : Element} (hbetween : between ∈ outer.elements)
      (hbelow : Below between inner) : Below outer inner

theorem exists_of_mem_elementsBelow {nodes : List Node} {element : Element}
    (helement : element ∈ elementsBelow nodes) :
    ∃ child ∈ elementsOf nodes, element = child ∨ child.Below element := by
  induction nodes using nodesInduction with
  | nil => simp at helement
  | other node rest hnode ih =>
      rw [elementsBelow_other hnode] at helement
      rw [elementsOf_other hnode]
      exact ih helement
  | element tag children rest ihInside ihRest =>
      simp only [elementsBelow_element, descendants_mk, List.mem_cons, List.mem_append] at helement
      rw [elementsOf_element]
      rcases helement with rfl | hinside | hrest
      · exact ⟨_, List.mem_cons_self, .inl rfl⟩
      · refine ⟨⟨tag, children⟩, List.mem_cons_self, .inr ?_⟩
        obtain ⟨child, hchild, rfl | hbelow⟩ := ihInside hinside
        · exact .child hchild
        · exact .deeper hchild hbelow
      · obtain ⟨child, hchild, hbelow⟩ := ihRest hrest
        exact ⟨child, List.mem_cons_of_mem _ hchild, hbelow⟩

/-- The descendants of an element are the elements below it. -/
theorem mem_descendants_iff {outer inner : Element} :
    inner ∈ outer.descendants ↔ outer.Below inner := by
  constructor
  · intro hinner
    cases outer
    rw [descendants_mk] at hinner
    obtain ⟨child, hchild, rfl | hbelow⟩ := exists_of_mem_elementsBelow hinner
    · exact .child hchild
    · exact .deeper hchild hbelow
  · intro hbelow
    induction hbelow with
    | child hchild => exact mem_descendants_of_mem_elements hchild _ List.mem_cons_self
    | deeper hbetween _ ih =>
        exact mem_descendants_of_mem_elements hbetween _ (List.mem_cons_of_mem _ ih)

theorem descendants_subset {outer inner : Element} (hinner : inner ∈ outer.descendants) :
    inner.descendants ⊆ outer.descendants := by
  cases outer
  rw [descendants_mk] at hinner ⊢
  exact descendants_subset_elementsBelow hinner

/-- An element is empty if it has no children at all. -/
theorem Element.isEmpty_iff {element : Element} :
    element.isEmpty = true ↔ element.children = [] := by
  obtain ⟨tag, children⟩ := element
  cases children with
  | nil => simp [isEmpty, text?, leadingText, countNodes]
  | cons node rest => cases node <;> simp [isEmpty, text?, leadingText, countNodes]

/-- Where no elements are, none are below. -/
theorem elementsBelow_eq_nil {nodes : List Node} (hnodes : elementsOf nodes = []) :
    elementsBelow nodes = [] := by
  induction nodes using nodesInduction with
  | nil => exact elementsBelow_nil
  | element tag children rest => simp at hnodes
  | other node rest hnode ih =>
      rw [elementsOf_other hnode] at hnodes
      rw [elementsBelow_other hnode, ih hnodes]

/-- An element as a node, by its name, its attributes without a namespace and its
children. -/
def Node.ofParts (name : String) (attributes : List (String × String)) (children : List Node) :
    Node :=
  .element ⟨⟨none, name, attributes.map fun attr => ⟨none, attr.1, attr.2⟩, [], []⟩, children⟩

/-- An element inside another one. -/
structure Place where
  /-- How many elements come before it in document order. -/
  number : Nat
  element : Element
  /-- The elements around it with their numbers, the innermost first. -/
  around : List (Nat × Element)

namespace Place

mutual

/-- The places of an element and of those below it, in document order. -/
def ofElement (around : List (Nat × Element)) (first : Nat) : Element → List Place
  | ⟨tag, children⟩ =>
      ⟨first, ⟨tag, children⟩, around⟩ ::
        ofNodes ((first, ⟨tag, children⟩) :: around) (first + 1) children

def ofNodes (around : List (Nat × Element)) (first : Nat) : List Node → List Place
  | [] => []
  | .element child :: rest =>
      ofElement around first child ++ ofNodes around (first + (child.descendants.length + 1)) rest
  | .text _ :: rest => ofNodes around first rest
  | .comment :: rest => ofNodes around first rest
  | .instruction :: rest => ofNodes around first rest
  | .reference _ :: rest => ofNodes around first rest

end

/-- The places of the elements below an element. -/
def below (element : Element) : List Place :=
  ofNodes [] 0 element.children

/-- The places of an element and of the elements below it. -/
def within (element : Element) : List Place :=
  ofElement [] 0 element

/-- The elements around what is inside a place. -/
def aroundInside (place : Place) : List (Nat × Element) :=
  (place.number, place.element) :: place.around

variable {around : List (Nat × Element)} {first : Nat}

@[simp]
theorem ofNodes_nil : ofNodes around first [] = [] := by
  rw [ofNodes]

@[simp]
theorem ofElement_mk (tag : Tag) (children : List Node) :
    ofElement around first ⟨tag, children⟩ =
      ⟨first, ⟨tag, children⟩, around⟩ ::
        ofNodes ((first, ⟨tag, children⟩) :: around) (first + 1) children := by
  rw [ofElement]

@[simp]
theorem ofNodes_element (element : Element) (rest : List Node) :
    ofNodes around first (.element element :: rest) =
      ofElement around first element ++
        ofNodes around (first + (element.descendants.length + 1)) rest := by
  rw [ofNodes]

theorem ofElement_eq_ofNodes (element : Element) :
    ofElement around first element = ofNodes around first [.element element] := by
  rw [ofNodes_element, ofNodes_nil, List.append_nil]

theorem ofNodes_other {node : Node} (hnode : node.element? = none) (rest : List Node) :
    ofNodes around first (node :: rest) = ofNodes around first rest := by
  cases node <;> simp_all [Node.element?, ofNodes]

/-- The places are those of all elements below. -/
theorem map_element_ofNodes (nodes : List Node) :
    (ofNodes around first nodes).map (·.element) = elementsBelow nodes := by
  induction nodes using nodesInduction generalizing around first with
  | nil => simp
  | element tag children rest ihInside ihRest => simp [ihInside, ihRest]
  | other node rest hnode ih => rw [ofNodes_other hnode, elementsBelow_other hnode, ih]

theorem ofNodes_eq_nil {nodes : List Node} (hnodes : elementsOf nodes = []) :
    ofNodes around first nodes = [] := by
  rw [← List.map_eq_nil_iff, map_element_ofNodes, elementsBelow_eq_nil hnodes]

/-- The places are numbered one after the other. -/
theorem map_number_ofNodes (nodes : List Node) :
    (ofNodes around first nodes).map (·.number) =
      List.range' first (elementsBelow nodes).length := by
  induction nodes using nodesInduction generalizing around first with
  | nil => simp
  | element tag children rest ihInside ihRest =>
      simp only [ofNodes_element, ofElement_mk, List.map_cons, List.map_append, ihInside, ihRest,
        elementsBelow_element, descendants_mk, List.length_cons, List.length_append,
        List.cons_append]
      rw [List.range'_succ, show first + ((elementsBelow children).length + 1) =
        first + 1 + (elementsBelow children).length by omega, List.range'_append_1]
  | other node rest hnode ih => rw [ofNodes_other hnode, elementsBelow_other hnode, ih]

theorem number_of_mem {nodes : List Node} {place : Place}
    (hplace : place ∈ ofNodes around first nodes) :
    first ≤ place.number ∧ place.number < first + (elementsBelow nodes).length := by
  have hnumber := List.mem_map_of_mem (f := (·.number)) hplace
  rw [map_number_ofNodes] at hnumber
  simpa using List.mem_range'_1.mp hnumber

theorem element_of_mem {nodes : List Node} {place : Place}
    (hplace : place ∈ ofNodes around first nodes) : place.element ∈ elementsBelow nodes := by
  have helement := List.mem_map_of_mem (f := (·.element)) hplace
  rwa [map_element_ofNodes] at helement

/-- Around a place are elements among the nodes and below them, and what is around the
nodes. -/
theorem around_of_mem {nodes : List Node} {place : Place}
    (hplace : place ∈ ofNodes around first nodes) :
    ∃ inner, place.around = inner ++ around ∧
      ∀ outer ∈ inner, first ≤ outer.1 ∧ outer.1 < first + (elementsBelow nodes).length := by
  induction nodes using nodesInduction generalizing around first with
  | nil => simp at hplace
  | element tag children rest ihInside ihRest =>
      simp only [ofNodes_element, ofElement_mk, List.cons_append, List.mem_cons, List.mem_append,
        descendants_mk] at hplace
      simp only [elementsBelow_element, descendants_mk, List.length_cons, List.length_append]
      rcases hplace with rfl | hinside | hrest
      · exact ⟨[], rfl, by simp⟩
      · obtain ⟨inner, haround, hinner⟩ := ihInside hinside
        refine ⟨inner ++ [(first, ⟨tag, children⟩)], by simp [haround], fun outer hmem => ?_⟩
        rcases List.mem_append.mp hmem with hmem | hmem
        · have := hinner outer hmem
          omega
        · obtain rfl := List.mem_singleton.mp hmem
          omega
      · obtain ⟨inner, haround, hinner⟩ := ihRest hrest
        refine ⟨inner, haround, fun outer hmem => ?_⟩
        have := hinner outer hmem
        omega
  | other node rest hnode ih =>
      rw [ofNodes_other hnode] at hplace
      rw [elementsBelow_other hnode]
      exact ih hplace

theorem exists_top {nodes : List Node} {child : Element} (hchild : child ∈ elementsOf nodes) :
    ∃ place ∈ ofNodes around first nodes, place.element = child ∧ place.around = around := by
  induction nodes using nodesInduction generalizing first with
  | nil => simp at hchild
  | other node rest hnode ih =>
      rw [elementsOf_other hnode] at hchild
      rw [ofNodes_other hnode]
      exact ih hchild
  | element tag children rest ihInside ihRest =>
      simp only [elementsOf_element, List.mem_cons] at hchild
      simp only [ofNodes_element, ofElement_mk, List.cons_append, List.mem_cons, List.mem_append]
      rcases hchild with rfl | hrest
      · exact ⟨_, .inl rfl, rfl, rfl⟩
      · obtain ⟨place, hplace, helement⟩ := ihRest hrest
        exact ⟨place, .inr (.inr hplace), helement⟩

/-- Every child of the element at a place has a place right inside it. -/
theorem exists_inner {nodes : List Node} {place : Place}
    (hplace : place ∈ ofNodes around first nodes) {child : Element}
    (hchild : child ∈ place.element.elements) :
    ∃ inner ∈ ofNodes around first nodes,
      inner.element = child ∧ inner.around = place.aroundInside := by
  induction nodes using nodesInduction generalizing around first with
  | nil => simp at hplace
  | other node rest hnode ih =>
      rw [ofNodes_other hnode] at hplace ⊢
      exact ih hplace
  | element tag children rest ihInside ihRest =>
      simp only [ofNodes_element, ofElement_mk, List.cons_append, List.mem_cons,
        List.mem_append] at hplace ⊢
      rcases hplace with rfl | hinside | hrest
      · obtain ⟨inner, hinner, helement⟩ := exists_top hchild
        exact ⟨inner, .inr (.inl hinner), helement⟩
      · obtain ⟨inner, hinner, helement⟩ := ihInside hinside
        exact ⟨inner, .inr (.inl hinner), helement⟩
      · obtain ⟨inner, hinner, helement⟩ := ihRest hrest
        exact ⟨inner, .inr (.inr hinner), helement⟩

/-- A place is at the top of the nodes, or right inside another place whose element holds its
own. -/
theorem top_or_exists_outer {nodes : List Node} {place : Place}
    (hplace : place ∈ ofNodes around first nodes) :
    (place.around = around ∧ place.element ∈ elementsOf nodes) ∨
      ∃ outer ∈ ofNodes around first nodes,
        place.around = outer.aroundInside ∧ place.element ∈ outer.element.elements := by
  induction nodes using nodesInduction generalizing around first with
  | nil => simp at hplace
  | other node rest hnode ih =>
      rw [ofNodes_other hnode] at hplace ⊢
      rw [elementsOf_other hnode]
      exact ih hplace
  | element tag children rest ihInside ihRest =>
      simp only [ofNodes_element, ofElement_mk, List.cons_append, List.mem_cons,
        List.mem_append] at hplace ⊢
      rw [elementsOf_element, List.mem_cons]
      rcases hplace with rfl | hinside | hrest
      · exact .inl ⟨rfl, .inl rfl⟩
      · rcases ihInside hinside with ⟨haround, hchild⟩ | ⟨outer, houter, hheld⟩
        · exact .inr ⟨_, .inl rfl, haround, hchild⟩
        · exact .inr ⟨outer, .inr (.inl houter), hheld⟩
      · rcases ihRest hrest with ⟨haround, hchild⟩ | ⟨outer, houter, hheld⟩
        · exact .inl ⟨haround, .inr hchild⟩
        · exact .inr ⟨outer, .inr (.inr houter), hheld⟩

end Place

end SurveyForm.Xml
