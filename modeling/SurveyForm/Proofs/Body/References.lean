import Mathlib.Data.List.Forall2
import SurveyForm.Proofs.Body.LooseRepeats
import SurveyForm.Proofs.Path.Absolute
/-!
Where the references of a body start.  The base path of a place is moved by the nodesets of
the repeats around it and by nothing else, and each control is built from its element at that
base path.
-/

namespace SurveyForm

open Xml (Element Node Place nodesInduction)

namespace Xml.Place

/-- The nodesets of the repeats around a place, the outermost first. -/
def nodesetsAround (place : Place) : List String :=
  place.around.reverse.filterMap fun outer =>
    if outer.2.name = "repeat" then outer.2.attribute? "nodeset" else none

/-- The base path at a place: each nodeset is resolved at the one before it. -/
def basePath (root : String) (place : Place) : String :=
  place.nodesetsAround.foldl (fun base nodeset => Path.resolve nodeset base) root

theorem basePath_eq_baseAround (root : String) (place : Place) :
    place.basePath root = baseAround root place.around := by
  rw [basePath, nodesetsAround, List.foldl_filterMap, List.foldl_reverse, baseAround]
  congr 1
  funext outer base
  obtain ⟨number, ⟨tag, children⟩⟩ := outer
  by_cases hname : tag.name = "repeat"
  · have hnodeset : (Element.mk tag children).attribute? "nodeset" =
        (Element.mk tag []).attribute? "nodeset" := rfl
    simp only [name_mk, hname, if_true, repeatBase, hnodeset]
    cases (Element.mk tag []).attribute? "nodeset" with
    | none => rfl
    | some nodeset => rfl
  · simp [hname]

theorem isAbsolute_basePath {root : String} (hroot : Path.IsAbsolute root) (place : Place) :
    Path.IsAbsolute (place.basePath root) :=
  hroot.foldl_resolve place.nodesetsAround

end Xml.Place

namespace BodyReader

variable {reader : BodyReader} {around : List (Nat × Element)} {first : Nat} {tag : Xml.Tag}
  {children : List Node}

/-- The control that is built from the element at a place. -/
inductive BuiltAt (reader : BodyReader) (place : Place) : Control → Prop
  | group {repeats : Bool} {children : List Control} (hname : place.element.name = "group") :
      BuiltAt reader place
        (.group (reader.heading (place.basePath reader.basePath) place.element) repeats children)
  | question (hname : place.element.name ≠ "group") :
      BuiltAt reader place
        (.question (reader.question (place.basePath reader.basePath) place.element))

theorem BuiltAt.ref_eq {place : Place} {control : Control}
    (hbuilt : reader.BuiltAt place control) :
    control.ref = (place.element.attribute? "ref").map
      (Path.resolve · (place.basePath reader.basePath)) := by
  cases hbuilt with
  | group => rfl
  | question => rfl

theorem exists_builtAt {places : List Place} {controls : List Control}
    (hbuilt : List.Forall₂ reader.BuiltAt places controls) {control : Control}
    (hcontrol : control ∈ controls) : ∃ place, reader.BuiltAt place control := by
  induction hbuilt with
  | nil => contradiction
  | cons hfirst _ ih =>
      rcases List.mem_cons.mp hcontrol with rfl | hrest
      · exact ⟨_, hfirst⟩
      · exact ih hrest

/-- Below an absolute base path, controls refer to absolute paths. -/
theorem isAbsolute_ref {places : List Place} {controls : List Control}
    (hroot : Path.IsAbsolute reader.basePath)
    (hbuilt : List.Forall₂ reader.BuiltAt places controls) :
    ∀ control ∈ controls, ∀ ref, control.ref = some ref → Path.IsAbsolute ref := by
  intro control hcontrol ref href
  obtain ⟨place, hplace⟩ := exists_builtAt hbuilt hcontrol
  rw [hplace.ref_eq] at href
  obtain ⟨raw, -, rfl⟩ := Option.map_eq_some_iff.mp href
  exact (place.isAbsolute_basePath hroot).resolve raw

/-- The controls of nodes inside elements, in document order. -/
def controlsInside (reader : BodyReader) (around : List (Nat × Element)) (nodes : List Node) :
    List Control :=
  Control.preorderAll
    (buildNodes reader (Place.baseAround reader.basePath around) nodes).controls

/-- The control that a place becomes, if it becomes one. -/
def controlAt (reader : BodyReader) (place : Place) : Control :=
  let base := place.basePath reader.basePath
  if place.element.name = "group" then
    let inside := buildNodes reader base place.element.children
    .group (reader.heading base place.element) inside.repeats inside.controls
  else .question (reader.question base place.element)

theorem controlAt_group (place : Place) (hname : place.element.name = "group") :
    reader.controlAt place =
      .group (reader.heading (place.basePath reader.basePath) place.element)
        (buildNodes reader (place.basePath reader.basePath) place.element.children).repeats
        (buildNodes reader (place.basePath reader.basePath) place.element.children).controls :=
  if_pos hname

theorem controlAt_question (place : Place) (hname : place.element.name ≠ "group") :
    reader.controlAt place =
      .question (reader.question (place.basePath reader.basePath) place.element) :=
  if_neg hname

theorem builtAt_controlAt (place : Place) : reader.BuiltAt place (reader.controlAt place) := by
  by_cases hname : place.element.name = "group"
  · rw [controlAt_group place hname]
    exact .group hname
  · rw [controlAt_question place hname]
    exact .question hname

theorem controlsInside_element (child : Element) (rest : List Node) :
    reader.controlsInside around (.element child :: rest) =
      Control.preorderAll
          (buildElement reader (Place.baseAround reader.basePath around) child).controls ++
        reader.controlsInside around rest := by
  rw [controlsInside, buildNodes_element, Built.append, Control.preorderAll_append]
  rfl

/-- In nodes, the places that become controls become just those that are built. -/
def YieldsInPlace (reader : BodyReader) (nodes : List Node) : Prop :=
  ∀ (around : List (Nat × Element)) (first : Nat), Place.Leads around first →
    reader.controlsInside around nodes =
      ((Place.ofNodes around first nodes).filter Place.isControl).map reader.controlAt

/-- A group leaves the base path as it is. -/
theorem YieldsInPlace.group (hinside : reader.YieldsInPlace children)
    (hleads : Place.Leads around first) (hname : tag.name = "group") :
    reader.controlsInside around children =
      ((Place.ofNodes ((first, ⟨tag, children⟩) :: around) (first + 1) children).filter
        Place.isControl).map reader.controlAt := by
  have hbase : Place.baseAround reader.basePath ((first, ⟨tag, children⟩) :: around) =
      Place.baseAround reader.basePath around := by
    simp [Place.baseAround, hname]
  have hopen : isOpenElement ⟨tag, children⟩ = true := isOpenElement_iff.mpr (.inl hname)
  have hbuilt := hinside _ _ (hleads.inside hopen)
  rwa [controlsInside, hbase, ← controlsInside] at hbuilt

/-- A repeat moves the base path by its nodeset. -/
theorem YieldsInPlace.repetition (hinside : reader.YieldsInPlace children)
    (hleads : Place.Leads around first) (hname : tag.name = "repeat") :
    Control.preorderAll (buildNodes reader
        (repeatBase (Place.baseAround reader.basePath around) tag) children).controls =
      ((Place.ofNodes ((first, ⟨tag, children⟩) :: around) (first + 1) children).filter
        Place.isControl).map reader.controlAt := by
  have hbase : Place.baseAround reader.basePath ((first, ⟨tag, children⟩) :: around) =
      repeatBase (Place.baseAround reader.basePath around) tag := by
    simp [Place.baseAround, hname]
  have hopen : isOpenElement ⟨tag, children⟩ = true := isOpenElement_iff.mpr (.inr hname)
  have hbuilt := hinside _ _ (hleads.inside hopen)
  rwa [controlsInside, hbase] at hbuilt

theorem YieldsInPlace.element (hinside : reader.YieldsInPlace children)
    (hleads : Place.Leads around first) :
    Control.preorderAll (buildElement reader (Place.baseAround reader.basePath around)
        ⟨tag, children⟩).controls =
      ((Place.ofElement around first ⟨tag, children⟩).filter Place.isControl).map
        reader.controlAt := by
  let place : Place := ⟨first, ⟨tag, children⟩, around⟩
  have hbase := place.basePath_eq_baseAround reader.basePath
  have hbecomes := becomes reader (Place.baseAround reader.basePath around) hleads tag children
  generalize (Place.ofElement around first ⟨tag, children⟩).filter Place.isControl = places,
    buildElement reader (Place.baseAround reader.basePath around) ⟨tag, children⟩ = built
    at hbecomes ⊢
  cases hbecomes with
  | nothing => rw [Built.nothing, Control.preorderAll, List.map_nil]
  | question hname =>
      rw [Control.preorderAll, Control.preorder, Control.preorderAll, ← hbase, List.map_singleton,
        controlAt_question place hname]
      rfl
  | group hname =>
      rw [Control.preorderAll, Control.preorder, Control.preorderAll, List.append_nil,
        List.map_cons, controlAt_group place hname, hbase, ← hinside.group hleads hname]
      rfl
  | repetition hname => exact hinside.repetition hleads hname

theorem yieldsInPlace (nodes : List Node) : reader.YieldsInPlace nodes := by
  intro around first hleads
  induction nodes using nodesInduction generalizing around first with
  | nil => simp [controlsInside, buildNodes, Built.nothing, Control.preorderAll]
  | other node rest hnode ih =>
      rw [Place.ofNodes_other hnode, controlsInside, buildNodes_other hnode]
      exact ih around first hleads
  | element tag children rest ihInside ihRest =>
      rw [Place.ofNodes_element, List.filter_append, List.map_append, controlsInside_element,
        YieldsInPlace.element ihInside hleads, ihRest _ _ (hleads.after (Nat.le_add_right ..))]

/-- Each place that becomes a control has the one that is built there. -/
def BuildsInPlace (reader : BodyReader) (nodes : List Node) : Prop :=
  ∀ (around : List (Nat × Element)) (first : Nat), Place.Leads around first →
    List.Forall₂ reader.BuiltAt ((Place.ofNodes around first nodes).filter Place.isControl)
      (reader.controlsInside around nodes)

theorem buildsInPlace (nodes : List Node) : reader.BuildsInPlace nodes := by
  intro around first hleads
  rw [yieldsInPlace nodes around first hleads, List.forall₂_map_right_iff, List.forall₂_same]
  intro place _
  exact builtAt_controlAt place

/-- The controls of a body are those that its places become, in document order. -/
theorem traverse_buildNodes (body : Element) :
    Control.traverse (buildNodes reader reader.basePath body.children).controls =
      ((Place.below body).filter Place.isControl).map reader.controlAt := by
  rw [Control.traverse_eq_preorderAll]
  exact yieldsInPlace body.children [] 0 Place.leads_nil

/-- The controls of a body are built from their elements at the base paths of their places,
one for each place that becomes a control, in document order. -/
theorem forall₂_builtAt (body : Element) :
    List.Forall₂ reader.BuiltAt ((Place.below body).filter Place.isControl)
      (Control.traverse (buildNodes reader reader.basePath body.children).controls) := by
  rw [Control.traverse_eq_preorderAll]
  exact buildsInPlace body.children [] 0 Place.leads_nil

end BodyReader

end SurveyForm
