import SurveyForm.Proofs.Body.References
import SurveyForm.Proofs.Control.Traversal
import SurveyForm.Proofs.Form.Loading
/-!
What repeats do to the groups around them.  A repeat with children makes its nearest group
repeatable, through as many repeats as lie between them, and one without a group is reported.
-/

namespace SurveyForm

open Xml (Element Node Place nodesInduction)

namespace Xml.Place

variable {place repetition group outer : Place} {body : Element}

/-- Whether a place is that of a repeat with children. -/
def IsFilledRepeat (place : Place) : Prop :=
  place.element.name = "repeat" ∧ place.element.elements ≠ []

/-- A repeat with children marks a group if nothing but repeats lies between them. -/
structure Marks (repetition group : Place) : Prop where
  isFilledRepeat : repetition.IsFilledRepeat
  isGroup : group.element.name = "group"
  inside : ∃ between, (∀ outer ∈ between, outer.2.name = "repeat") ∧
    repetition.around = between ++ group.aroundInside

/-- Whether a place is that of a repeat with children that has nothing but repeats around it. -/
def IsLoose (place : Place) : Prop :=
  place.IsFilledRepeat ∧ ∀ outer ∈ place.around, outer.2.name = "repeat"

instance (place : Place) : Decidable place.IsFilledRepeat :=
  inferInstanceAs (Decidable (_ ∧ _))

instance (place : Place) : Decidable place.IsLoose :=
  inferInstanceAs (Decidable (_ ∧ _))

theorem nearestGroup?_append {between around : List (Nat × Element)}
    (hbetween : ∀ outer ∈ between, outer.2.name = "repeat") :
    nearestGroup? (between ++ around) = nearestGroup? around := by
  induction between with
  | nil => rfl
  | cons outer rest ih =>
      rw [List.forall_mem_cons] at hbetween
      rw [List.cons_append, nearestGroup?, List.find?_cons_of_neg (by simp [hbetween.1])]
      exact ih hbetween.2

/-- The group that a repeat marks is the nearest one around it. -/
theorem Marks.groupAround?_eq (hmarks : repetition.Marks group) :
    repetition.groupAround? = some group.number := by
  obtain ⟨between, hbetween, haround⟩ := hmarks.inside
  rw [groupAround?, haround, nearestGroup?_append hbetween, aroundInside, nearestGroup?,
    List.find?_cons_of_pos (by simpa using hmarks.isGroup)]
  rfl

/-- Right inside another repeat, a repeat marks the same group. -/
theorem Marks.inner (hmarks : outer.Marks group) (hrepeat : repetition.IsFilledRepeat)
    (haround : repetition.around = outer.aroundInside) : repetition.Marks group := by
  obtain ⟨⟨hname, -⟩, hgroup, between, hbetween, houter⟩ := hmarks
  refine ⟨hrepeat, hgroup, (outer.number, outer.element) :: between, ?_, ?_⟩
  · rw [List.forall_mem_cons]
    exact ⟨hname, hbetween⟩
  · rw [haround, aroundInside, houter, List.cons_append]

/-- Through the repeats in between, a repeat inside a group leads to one that is right
inside the group. -/
theorem exists_child_of_around {between : List (Nat × Element)} (hplace : place ∈ below body)
    (hrepeat : place.IsFilledRepeat)
    (hbetween : ∀ outer ∈ between, outer.2.name = "repeat")
    (haround : place.around = between ++ group.aroundInside) :
    ∃ child ∈ group.element.elements, child.name = "repeat" ∧ child.elements ≠ [] := by
  induction between generalizing place with
  | nil =>
      rcases top_or_exists_outer hplace with ⟨htop, -⟩ | ⟨outer, -, houter, hheld⟩
      · rw [haround, aroundInside] at htop
        contradiction
      · have helement : outer.element = group.element := by
          rw [haround, List.nil_append] at houter
          exact (Prod.mk.inj (List.cons.inj houter).1).2.symm
        exact ⟨place.element, helement ▸ hheld, hrepeat⟩
  | cons next rest ih =>
      rcases top_or_exists_outer hplace with ⟨htop, -⟩ | ⟨outer, hmem, houter, hheld⟩
      · rw [haround] at htop
        contradiction
      · rw [List.forall_mem_cons] at hbetween
        rw [haround, List.cons_append, aroundInside] at houter
        obtain ⟨rfl, hrest⟩ := List.cons.inj houter
        exact ih hmem ⟨hbetween.1, List.ne_nil_of_mem hheld⟩ hbetween.2 hrest.symm

/-- A group is marked exactly if a repeat with children is right inside it. -/
theorem exists_marks_iff (hplace : place ∈ below body) (hgroup : place.element.name = "group") :
    (∃ repetition ∈ below body, repetition.Marks place) ↔
      ∃ child ∈ place.element.elements, child.name = "repeat" ∧ child.elements ≠ [] := by
  constructor
  · rintro ⟨repetition, hmem, hrepeat, -, between, hbetween, haround⟩
    exact exists_child_of_around hmem hrepeat hbetween haround
  · rintro ⟨child, hchild, hrepeat⟩
    obtain ⟨inner, hinner, rfl, haround⟩ := exists_inner hplace hchild
    exact ⟨inner, hinner, hrepeat, hgroup, [], by simp, haround⟩

/-- Where nothing but repeats is around a place, the walk comes there and no group does. -/
theorem isLoose_iff : place.IsLoose ↔ place.isReached = true ∧ place.isLooseRepeat = true := by
  have haround : (∀ outer ∈ place.around, outer.2.name = "repeat") ↔
      place.isReached = true ∧ place.groupAround?.isNone = true := by
    simp only [isReached, groupAround?, nearestGroup?, List.all_eq_true, isOpenElement_iff,
      Option.isNone_map, Option.isNone_iff_eq_none, List.find?_eq_none, decide_eq_true_iff]
    constructor
    · intro hrepeats
      refine ⟨fun outer houter => .inr (hrepeats outer houter), fun outer houter => ?_⟩
      simp [hrepeats outer houter]
    · rintro ⟨hopen, hgroups⟩ outer houter
      exact (hopen outer houter).resolve_left (hgroups outer houter)
  rw [IsLoose, haround, IsFilledRepeat, isLooseRepeat]
  simp [and_assoc, and_left_comm]

end Xml.Place

namespace BodyReader

variable {reader : BodyReader} {base : String}

theorem repeats_buildElement_iff {tag : Xml.Tag} {children : List Node} :
    (buildElement reader base ⟨tag, children⟩).repeats = true ↔
      tag.name = "repeat" ∧ Xml.elementsOf children ≠ [] := by
  by_cases hempty : Xml.elementsOf children = []
  · simp [buildElement_empty hempty, hempty, Built.nothing]
  by_cases hrepeat : tag.name = "repeat"
  · simp [buildElement_repeat hempty hrepeat, hempty, hrepeat]
  by_cases hgroup : tag.name = "group"
  · simp [buildElement_group hempty hgroup, hrepeat]
  by_cases hcaption : tag.name = "label" ∨ tag.name = "hint"
  · simp [buildElement_caption hcaption, hrepeat, Built.nothing]
  · have hname : tag.name ∉ ["group", "repeat", "label", "hint"] := by simp_all
    simp [buildElement_question hempty hname, hrepeat]

/-- Nodes hand up that a repeat is among them if one with children is, whatever the repeats
inside it hand up. -/
theorem repeats_buildNodes_iff (nodes : List Node) :
    (buildNodes reader base nodes).repeats = true ↔
      ∃ child ∈ Xml.elementsOf nodes, child.name = "repeat" ∧ child.elements ≠ [] := by
  induction nodes using nodesInduction with
  | nil => simp [buildNodes, Built.nothing]
  | other node rest hnode ih =>
      rw [buildNodes_other hnode, Xml.elementsOf_other hnode]
      exact ih
  | element tag children rest _ ihRest =>
      rw [buildNodes_element, Built.append, Bool.or_eq_true, ihRest, repeats_buildElement_iff,
        Xml.elementsOf_element]
      simp

/-- What a group says of repeats is what the repeats around it in the document say. -/
theorem isRepeatable_controlAt_iff {body : Element} {place : Place}
    (hplace : place ∈ Place.below body) :
    (reader.controlAt place).isRepeatable = true ↔
      ∃ repetition ∈ Place.below body, repetition.Marks place := by
  by_cases hname : place.element.name = "group"
  · rw [controlAt_group place hname, Control.isRepeatable, repeats_buildNodes_iff,
      Place.exists_marks_iff hplace hname]
    rfl
  · rw [controlAt_question place hname]
    constructor
    · intro hrepeatable
      contradiction
    · rintro ⟨repetition, -, hmarks⟩
      exact absurd hmarks.isGroup hname

/-- The findings in a body that can be built are those about its loose repeats, each with the
nodeset at the base path of its place. -/
theorem diagnostics_of_build {body : Element} {controls : List Control}
    (hbuild : reader.build body = .ok controls) :
    reader.diagnostics body =
      ((Place.below body).filter (·.IsLoose)).map fun place =>
        .repeatOutsideGroup ((place.element.attribute? "nodeset").map
          (Path.resolve · (place.basePath reader.basePath))) := by
  obtain ⟨hwalk, -⟩ := build_eq_ok_iff.mp hbuild
  rw [diagnostics, BodyVisit.diagnostics_eq hwalk, BodyVisit.findings_ofBody, Place.repeatFindings,
    List.filter_filter]
  have hplaces : (fun place : Place => place.isLooseRepeat && place.isReached) =
      fun place => decide place.IsLoose := by
    funext place
    rw [Bool.eq_iff_iff, Bool.and_eq_true, decide_eq_true_iff, Place.isLoose_iff, and_comm]
  rw [hplaces]
  apply List.map_congr_left
  intro place _
  rw [Place.repeatFinding, Place.basePath_eq_baseAround]

/-- In a body that can be built, a group is repeatable exactly if a repeat with children marks
it.  A repeat marks no other group than the nearest one around it, and repeats inside each other
mark the same one.  The repeats with nothing but repeats around them are reported, and no
others, each once and in document order. -/
theorem repeats_of_build {body : Element} {controls : List Control}
    (hbuild : reader.build body = .ok controls) :
    List.Forall₂
        (fun place control => reader.BuiltAt place control ∧
          (control.isRepeatable = true ↔
            ∃ repetition ∈ Place.below body, repetition.Marks place))
        ((Place.below body).filter Place.isControl) (Control.traverse controls) ∧
      (∀ repetition group : Place, repetition.Marks group →
        repetition.groupAround? = some group.number) ∧
      (∀ inner outer group : Place, inner.IsFilledRepeat → inner.around = outer.aroundInside →
        outer.Marks group → inner.Marks group) ∧
      reader.diagnostics body =
        ((Place.below body).filter (·.IsLoose)).map fun place =>
          .repeatOutsideGroup ((place.element.attribute? "nodeset").map
            (Path.resolve · (place.basePath reader.basePath))) := by
  refine ⟨?groups, ?nearest, ?nested, diagnostics_of_build hbuild⟩
  case groups =>
    obtain ⟨-, rfl⟩ := build_eq_ok_iff.mp hbuild
    rw [traverse_buildNodes, List.forall₂_map_right_iff, List.forall₂_same]
    intro place hplace
    exact ⟨builtAt_controlAt place, isRepeatable_controlAt_iff (List.mem_filter.mp hplace).1⟩
  case nearest => exact fun repetition group hmarks => hmarks.groupAround?_eq
  case nested =>
    exact fun inner outer group hrepeat haround hmarks => hmarks.inner hrepeat haround

/-- A body with repeats of all kinds: one inside another in a group, with an empty one and a
group of their own beside; one in a group in a group; one in the caption of a group; and two
inside each other without a group, with a group in the inner one. -/
def repeatingBody : Element :=
  let question := Node.ofParts "input" [("ref", "a")] [Node.ofParts "label" [] []]
  let repeated (nodeset : String) := Node.ofParts "repeat" [("nodeset", nodeset)]
  let group := Node.ofParts "group" []
  ⟨⟨none, "body", [], [], []⟩,
    [group [.comment, repeated "r" [repeated "e" [], repeated "s" [question], group [question]]],
      group [group [repeated "r" [question]], question],
      group [Node.ofParts "label" [] [repeated "r" [question]], question],
      repeated "../x" [Node.ofParts "repeat" [] [group [question]], repeated "y" [question]]]⟩

theorem repeats_of_build_repeatingBody :
    ∃ controls, build ⟨"/data", [], {}⟩ repeatingBody = .ok controls ∧
      (Control.traverse controls).map (fun control => (control.ref, control.isRepeatable)) =
        [(none, true), (some "/data/r/s/a", false), (none, false), (some "/data/r/a", false),
          (none, false), (none, true), (some "/data/r/a", false), (some "/data/a", false),
          (none, false), (some "/data/a", false),
          (none, false), (some "/x/a", false), (some "/x/y/a", false)] ∧
      diagnostics ⟨"/data", [], {}⟩ repeatingBody =
        [.repeatOutsideGroup (some "/x"), .repeatOutsideGroup none,
          .repeatOutsideGroup (some "/x/y")] ∧
      List.Forall₂
        (fun place control => BuiltAt ⟨"/data", [], {}⟩ place control ∧
          (control.isRepeatable = true ↔
            ∃ repetition ∈ Place.below repeatingBody, repetition.Marks place))
        ((Place.below repeatingBody).filter Place.isControl) (Control.traverse controls) := by
  have hbuild : build ⟨"/data", [], {}⟩ repeatingBody =
      .ok (buildNodes ⟨"/data", [], {}⟩ "/data" repeatingBody.children).controls :=
    build_eq_ok_iff.mpr ⟨by decide +kernel, rfl⟩
  obtain ⟨hgroups, -, -, hfindings⟩ := repeats_of_build hbuild
  -- The nodesets are computed apart from the messages, which quote them.
  have hnodesets : ((Place.below repeatingBody).filter (·.IsLoose)).map
      (fun place => (place.element.attribute? "nodeset").map
        (Path.resolve · (place.basePath "/data"))) =
      [some "/x", none, some "/x/y"] := by
    decide +kernel
  refine ⟨_, hbuild, by decide +kernel, hfindings.trans ?_, hgroups⟩
  exact List.map_map.symm.trans (congrArg (List.map Diagnostic.repeatOutsideGroup) hnodesets)

/-- A body with a repeat inside a question. -/
def repeatInsideQuestion : Element :=
  let question := Node.ofParts "input" [("ref", "c")] [Node.ofParts "label" [] [.text "C"]]
  ⟨⟨none, "body", [], [], []⟩,
    [Node.ofParts "input" [("ref", "b")] [Node.ofParts "repeat" [("nodeset", "r")] [question]]]⟩

/-- A repeat with children that has no group around it is not reported inside a question. -/
theorem diagnostics_repeatInsideQuestion :
    (∃ controls, build ⟨"/data", [], {}⟩ repeatInsideQuestion = .ok controls) ∧
      (∃ place ∈ Place.below repeatInsideQuestion,
        place.IsFilledRepeat ∧ place.groupAround? = none) ∧
      diagnostics ⟨"/data", [], {}⟩ repeatInsideQuestion = [] := by
  have hbuild : build ⟨"/data", [], {}⟩ repeatInsideQuestion =
      .ok (buildNodes ⟨"/data", [], {}⟩ "/data" repeatInsideQuestion.children).controls :=
    build_eq_ok_iff.mpr ⟨by decide +kernel, rfl⟩
  refine ⟨⟨_, hbuild⟩, ⟨(Place.below repeatInsideQuestion)[1], List.getElem_mem _, ?_⟩, ?_⟩
  · decide
  · decide

end BodyReader

end SurveyForm
