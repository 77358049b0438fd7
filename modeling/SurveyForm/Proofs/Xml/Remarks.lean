import SurveyForm.Proofs.Xml.Places
import SurveyForm.Proofs.Xml.Search
/-!
Remarks, which are comments and processing instructions.  A tree without them has the same
elements with the same tags and the same text inside them.  What may change is the text in
front of the first child, because text behind a remark moves up to it.
-/

namespace SurveyForm.Xml

mutual

/-- The element without the remarks inside it. -/
def Element.withoutRemarks : Element → Element
  | ⟨tag, children⟩ => ⟨tag, nodesWithoutRemarks children⟩

def nodesWithoutRemarks : List Node → List Node
  | [] => []
  | .element child :: rest => .element child.withoutRemarks :: nodesWithoutRemarks rest
  | .text content :: rest => .text content :: nodesWithoutRemarks rest
  | .comment :: rest => nodesWithoutRemarks rest
  | .instruction :: rest => nodesWithoutRemarks rest
  | .reference name :: rest => .reference name :: nodesWithoutRemarks rest

end

theorem nodesWithoutRemarks_nil : nodesWithoutRemarks [] = [] := by
  rw [nodesWithoutRemarks]

theorem nodesWithoutRemarks_element (child : Element) (rest : List Node) :
    nodesWithoutRemarks (.element child :: rest) =
      .element child.withoutRemarks :: nodesWithoutRemarks rest := by
  rw [nodesWithoutRemarks]

/-- A node that is no element goes or stays. -/
theorem nodesWithoutRemarks_other {node : Node} (hnode : node.element? = none)
    (rest : List Node) :
    nodesWithoutRemarks (node :: rest) = nodesWithoutRemarks rest ∨
      nodesWithoutRemarks (node :: rest) = node :: nodesWithoutRemarks rest := by
  cases node with
  | element child => simp [Node.element?] at hnode
  | text content => exact .inr (by rw [nodesWithoutRemarks])
  | comment => exact .inl (by rw [nodesWithoutRemarks])
  | instruction => exact .inl (by rw [nodesWithoutRemarks])
  | reference name => exact .inr (by rw [nodesWithoutRemarks])

/-- What passes over the nodes that are no elements passes over remarks. -/
theorem apply_withoutRemarks_other {β : Type} {f : List Node → β} {node : Node}
    (hnode : node.element? = none)
    (hother : ∀ (other : Node) (rest : List Node), other.element? = none →
      f (other :: rest) = f rest) (rest : List Node) :
    f (nodesWithoutRemarks (node :: rest)) = f (nodesWithoutRemarks rest) := by
  rcases nodesWithoutRemarks_other hnode rest with hgone | hkept
  · rw [hgone]
  · rw [hkept, hother node _ hnode]

theorem elementsOf_withoutRemarks (nodes : List Node) :
    elementsOf (nodesWithoutRemarks nodes) = (elementsOf nodes).map Element.withoutRemarks := by
  induction nodes using nodesInduction with
  | nil => simp [nodesWithoutRemarks_nil]
  | element tag children rest ihInside ihRest => simp [nodesWithoutRemarks_element, ihRest]
  | other node rest hnode ih =>
      rw [apply_withoutRemarks_other hnode (fun _ rest hother => elementsOf_other hother rest), ih,
        elementsOf_other hnode]

theorem elementsBelow_withoutRemarks (nodes : List Node) :
    elementsBelow (nodesWithoutRemarks nodes) =
      (elementsBelow nodes).map Element.withoutRemarks := by
  induction nodes using nodesInduction with
  | nil => simp [nodesWithoutRemarks_nil]
  | element tag children rest ihInside ihRest =>
      simp [nodesWithoutRemarks_element, Element.withoutRemarks, ihInside, ihRest]
  | other node rest hnode ih =>
      rw [apply_withoutRemarks_other hnode (fun _ rest hother => elementsBelow_other hother rest),
        ih, elementsBelow_other hnode]

theorem nodesText_withoutRemarks (nodes : List Node) :
    nodesText (nodesWithoutRemarks nodes) = nodesText nodes := by
  induction nodes using nodesInduction with
  | nil => rw [nodesWithoutRemarks_nil]
  | element tag children rest ihInside ihRest =>
      simp only [nodesWithoutRemarks_element, nodesText, Element.withoutRemarks, Element.allText,
        ihInside, ihRest]
  | other node rest hnode ih =>
      cases node with
      | element child => simp [Node.element?] at hnode
      | text | comment | instruction | reference => simp only [nodesWithoutRemarks, nodesText, ih]

namespace Element

variable (element : Element) (name uri : String)

@[simp]
theorem tag_withoutRemarks : element.withoutRemarks.tag = element.tag := by
  cases element
  rw [withoutRemarks]

@[simp]
theorem name_withoutRemarks : element.withoutRemarks.name = element.name := by
  rw [Element.name, tag_withoutRemarks, Element.name]

@[simp]
theorem attribute?_withoutRemarks :
    element.withoutRemarks.attribute? name = element.attribute? name := by
  rw [attribute?, tag_withoutRemarks, attribute?]

@[simp]
theorem binding?_withoutRemarks :
    element.withoutRemarks.binding? name = element.binding? name := by
  rw [binding?, tag_withoutRemarks, binding?]

@[simp]
theorem children_withoutRemarks :
    element.withoutRemarks.children = nodesWithoutRemarks element.children := by
  cases element
  rw [withoutRemarks]

@[simp]
theorem elements_withoutRemarks :
    element.withoutRemarks.elements = element.elements.map withoutRemarks := by
  cases element
  rw [withoutRemarks, elements_mk, elementsOf_withoutRemarks, elements_mk]

@[simp]
theorem descendants_withoutRemarks :
    element.withoutRemarks.descendants = element.descendants.map withoutRemarks := by
  cases element
  rw [withoutRemarks, descendants_mk, elementsBelow_withoutRemarks, descendants_mk]

@[simp]
theorem allText_withoutRemarks : element.withoutRemarks.allText = element.allText := by
  cases element
  rw [withoutRemarks, allText, nodesText_withoutRemarks, allText]

@[simp]
theorem descendantsNamed_withoutRemarks :
    element.withoutRemarks.descendantsNamed name =
      (element.descendantsNamed name).map withoutRemarks := by
  rw [descendantsNamed, descendants_withoutRemarks, List.filter_map, descendantsNamed]
  simp only [Function.comp_def, name_withoutRemarks]

@[simp]
theorem childrenNamed_withoutRemarks :
    element.withoutRemarks.childrenNamed name =
      (element.childrenNamed name).map withoutRemarks := by
  rw [childrenNamed, elements_withoutRemarks, List.filter_map, childrenNamed]
  simp only [Function.comp_def, name_withoutRemarks]

@[simp]
theorem child?_withoutRemarks :
    element.withoutRemarks.child? name = (element.child? name).map withoutRemarks := by
  rw [child?, elements_withoutRemarks, List.find?_map, child?]
  simp only [Function.comp_def, name_withoutRemarks]

@[simp]
theorem hasPlainName_withoutRemarks :
    element.withoutRemarks.hasPlainName = element.hasPlainName := by
  rw [hasPlainName, tag_withoutRemarks, name_withoutRemarks, hasPlainName]

@[simp]
theorem hasPlainDescendants_withoutRemarks :
    element.withoutRemarks.hasPlainDescendants = element.hasPlainDescendants := by
  rw [hasPlainDescendants, descendants_withoutRemarks, List.all_map, hasPlainDescendants]
  simp only [Function.comp_def, hasPlainName_withoutRemarks]

@[simp]
theorem metBelow_withoutRemarks :
    element.withoutRemarks.metBelow name = (element.metBelow name).map withoutRemarks := by
  rw [metBelow, descendants_withoutRemarks, List.takeWhile_map, List.filter_map, metBelow]
  simp only [Function.comp_def, hasPlainName_withoutRemarks, name_withoutRemarks]

/-- A search takes the same way where it wants the same elements. -/
theorem seekAmong?_withoutRemarks {isWanted : Element → Bool}
    (hwanted : ∀ element : Element, isWanted element.withoutRemarks = isWanted element)
    (elements : List Element) :
    seekAmong? isWanted (elements.map withoutRemarks) =
      (seekAmong? isWanted elements).map (Option.map withoutRemarks) := by
  induction elements with
  | nil => rfl
  | cons first rest ih =>
      rw [List.map_cons, seekAmong?, seekAmong?, hasPlainName_withoutRemarks, hwanted, ih]
      split
      · rfl
      · split <;> rfl

@[simp]
theorem seek?_withoutRemarks :
    element.withoutRemarks.seek? name = (element.seek? name).map (Option.map withoutRemarks) := by
  rw [seek?, elements_withoutRemarks, seekAmong?_withoutRemarks (fun other => by simp), seek?]

@[simp]
theorem seekIn?_withoutRemarks :
    element.withoutRemarks.seekIn? uri name =
      (element.seekIn? uri name).map (Option.map withoutRemarks) := by
  rw [seekIn?, elements_withoutRemarks, seekAmong?_withoutRemarks (fun other => by simp), seekIn?]

/-- Whether the text at the start of an element has no remark in it. -/
def HasWholeText (element : Element) : Prop :=
  element.withoutRemarks.text? = element.text?

instance : Decidable element.HasWholeText :=
  inferInstanceAs (Decidable (_ = _))

end Element

end SurveyForm.Xml
