import SurveyForm.Proofs.Body.Reach
/-!
The findings in a body.  There is one for each repeat that the walk reaches, has children
and has no group around it, in document order.
-/

namespace SurveyForm

open Xml (Element Node Place nodesInduction)

namespace Xml.Place

/-- The base path inside elements, the innermost of which comes first: each repeat among
them moves the path, the outermost before the others. -/
def baseAround (basePath : String) (around : List (Nat × Element)) : String :=
  around.foldr (fun outer path =>
    if outer.2.name = "repeat" then repeatBase path outer.2.tag else path) basePath

/-- Whether a repeat with children has no group around it. -/
def isLooseRepeat (place : Place) : Bool :=
  place.element.name = "repeat" && !place.element.elements.isEmpty && place.groupAround?.isNone

/-- The finding about a repeat without a group. -/
def repeatFinding (basePath : String) (place : Place) : Diagnostic :=
  .repeatOutsideGroup
    ((place.element.attribute? "nodeset").map
      (Path.resolve · (baseAround basePath place.around)))

/-- The findings about the repeats at places. -/
def repeatFindings (basePath : String) (places : List Place) : List Diagnostic :=
  (places.filter isLooseRepeat).map (repeatFinding basePath)

end Xml.Place

namespace BodyVisit

variable {basePath base : String} {inGroup : Bool} {depth first : Nat}
  {around : List (Nat × Element)} {tag : Xml.Tag} {children : List Node}

theorem ofNodes_element (child : Element) (rest : List Node) :
    ofNodes base inGroup depth (.element child :: rest) =
      ofElement base inGroup depth child ++ ofNodes base inGroup depth rest := by
  rw [ofNodes]

theorem ofNodes_other {node : Node} (hnode : node.element? = none) (rest : List Node) :
    ofNodes base inGroup depth (node :: rest) = ofNodes base inGroup depth rest := by
  cases node <;> simp_all [Node.element?, ofNodes]

theorem ofElement_closed (hclosed : isOpenElement ⟨tag, children⟩ = false) :
    ofElement base inGroup depth ⟨tag, children⟩ =
      [⟨⟨tag, children⟩, base, inGroup, depth, false⟩] := by
  obtain ⟨hgroup, hrepeat⟩ := isOpenElement_eq_false_iff.mp hclosed
  rw [ofElement]
  split
  · next hrole => exact absurd (BodyRole.ofName_eq_group_iff.mp hrole) hgroup
  · next hrole => exact absurd (BodyRole.ofName_eq_repetition_iff.mp hrole) hrepeat
  · rfl
  · rfl

/-- What the walk sees at an element inside others. -/
def inside (basePath : String) (around : List (Nat × Element)) (depth : Nat)
    (element : Element) : BodyVisit :=
  ⟨element, Place.baseAround basePath around, (Place.nearestGroup? around).isSome, depth, false⟩

/-- The visits to nodes inside elements. -/
def nodesInside (basePath : String) (around : List (Nat × Element)) (depth : Nat)
    (nodes : List Node) : List BodyVisit :=
  ofNodes (Place.baseAround basePath around) (Place.nearestGroup? around).isSome depth nodes

/-- The visits when the walk comes back to an element, which it does to groups only. -/
def returns (base : String) (inGroup : Bool) (depth : Nat) (element : Element) : List BodyVisit :=
  if element.name = "group" then [⟨element, base, inGroup, depth, true⟩] else []

/-- Nothing is found on the way back. -/
theorem filterMap_returns (base : String) (inGroup : Bool) (depth : Nat) (element : Element) :
    (returns base inGroup depth element).filterMap diagnostic? = [] := by
  unfold returns
  split
  · next hname =>
      have hrole : BodyRole.ofName element.name = .group := BodyRole.ofName_eq_group_iff.mpr hname
      simp [diagnostic?, hrole]
  · rfl

/-- In a group or a repeat the walk goes on with the base path and the groups that are
around the children. -/
theorem ofElement_open (first : Nat) (hopen : isOpenElement ⟨tag, children⟩ = true) :
    ofElement (Place.baseAround basePath around) (Place.nearestGroup? around).isSome depth
        ⟨tag, children⟩ =
      inside basePath around depth ⟨tag, children⟩ ::
        (nodesInside basePath ((first, ⟨tag, children⟩) :: around) (depth + 1) children ++
          returns (Place.baseAround basePath around) (Place.nearestGroup? around).isSome depth
            ⟨tag, children⟩) := by
  rw [ofElement]
  rcases isOpenElement_iff.mp hopen with hname | hname
  · have hrole : BodyRole.ofName tag.name = .group := BodyRole.ofName_eq_group_iff.mpr hname
    simp [hrole, hname, inside, nodesInside, returns, Place.baseAround, Place.nearestGroup?]
  · have hrole : BodyRole.ofName tag.name = .repetition :=
      BodyRole.ofName_eq_repetition_iff.mpr hname
    simp [hrole, hname, inside, nodesInside, returns, Place.baseAround, Place.nearestGroup?]

theorem diagnostic?_inside (place : Place) :
    (inside basePath place.around depth place.element).diagnostic? =
      if place.isLooseRepeat then some (place.repeatFinding basePath) else none := by
  have hloose : place.isLooseRepeat = true ↔
      BodyRole.ofName place.element.name = .repetition ∧
        place.element.elements.isEmpty = false ∧ place.groupAround?.isSome = false := by
    simp [BodyRole.ofName_eq_repetition_iff, Place.isLooseRepeat, and_assoc]
  by_cases h : place.isLooseRepeat = true
  · rw [if_pos h]
    exact if_pos (hloose.mp h)
  · rw [if_neg h]
    exact if_neg fun hvisit => h (hloose.mpr hvisit)

theorem findings_cons (place : Place) {places : List Place} {visits : List BodyVisit}
    (hreached : place.isReached = true)
    (hrest : visits.filterMap diagnostic? =
      Place.repeatFindings basePath (places.filter Place.isReached)) :
    (inside basePath place.around depth place.element :: visits).filterMap diagnostic? =
      Place.repeatFindings basePath ((place :: places).filter Place.isReached) := by
  rw [List.filter_cons_of_pos hreached, Place.repeatFindings, List.filter_cons,
    List.filterMap_cons, diagnostic?_inside, hrest]
  by_cases hloose : place.isLooseRepeat = true
  · rw [if_pos hloose, if_pos hloose]
    rfl
  · rw [if_neg hloose, if_neg hloose]
    rfl

/-- The findings on the walk are those about the repeats that it reaches. -/
theorem findings_nodesInside (nodes : List Node)
    (hopen : ∀ outer ∈ around, isOpenElement outer.2 = true) :
    (nodesInside basePath around depth nodes).filterMap diagnostic? =
      Place.repeatFindings basePath ((Place.ofNodes around first nodes).filter Place.isReached) := by
  induction nodes using nodesInduction generalizing around depth first with
  | nil => simp [nodesInside, ofNodes, Place.repeatFindings]
  | other node rest hnode ih =>
      rw [nodesInside, ofNodes_other hnode, Place.ofNodes_other hnode]
      exact ih hopen
  | element tag children rest ihInside ihRest =>
      let place : Place := ⟨first, ⟨tag, children⟩, around⟩
      have hreached : place.isReached = true := List.all_eq_true.mpr hopen
      have hown : (ofElement (Place.baseAround basePath around) (Place.nearestGroup? around).isSome
          depth ⟨tag, children⟩).filterMap diagnostic? =
            Place.repeatFindings basePath
              ((Place.ofElement around first ⟨tag, children⟩).filter Place.isReached) := by
        rw [Place.ofElement_mk]
        cases hinside : isOpenElement ⟨tag, children⟩ with
        | false =>
            rw [ofElement_closed hinside]
            refine findings_cons place hreached ?_
            rw [Place.filter_isReached_closed hinside]
            rfl
        | true =>
            rw [ofElement_open first hinside]
            refine findings_cons place hreached ?_
            rw [List.filterMap_append, filterMap_returns, List.append_nil]
            exact ihInside (List.forall_mem_cons.mpr ⟨hinside, hopen⟩)
      rw [nodesInside, ofNodes_element, List.filterMap_append, hown, Place.ofNodes_element,
        List.filter_append]
      have hrest := @ihRest depth (first + ((Xml.elementsBelow children).length + 1)) around hopen
      rw [nodesInside] at hrest
      rw [hrest, Xml.descendants_mk, Place.repeatFindings, Place.repeatFindings,
        Place.repeatFindings, List.filter_append, List.map_append]

/-- The findings in a body are those about the repeats that the walk reaches. -/
theorem findings_ofBody (basePath : String) (body : Element) :
    (ofBody basePath body).filterMap diagnostic? =
      Place.repeatFindings basePath ((Place.below body).filter Place.isReached) := by
  have hfindings := @findings_nodesInside basePath 0 0 [] body.children (by simp)
  exact hfindings

end BodyVisit

end SurveyForm
