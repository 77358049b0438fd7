import SurveyForm.Body
import SurveyForm.Proofs.Xml.Places
/-!
Which places of a body the walk reaches, which of them become controls, and what lies
around them.  All of this is said by names alone.
-/

namespace SurveyForm

open Xml (Element Node Place)

namespace BodyRole

theorem ofName_eq_group_iff {name : String} : ofName name = .group ↔ name = "group" := by
  unfold ofName
  split <;> simp_all

theorem ofName_eq_repetition_iff {name : String} :
    ofName name = .repetition ↔ name = "repeat" := by
  unfold ofName
  split <;> simp_all

theorem ofName_eq_caption_iff {name : String} :
    ofName name = .caption ↔ name = "label" ∨ name = "hint" := by
  unfold ofName
  split <;> simp_all

theorem ofName_eq_question_iff {name : String} :
    ofName name = .question ↔ name ∉ ["group", "repeat", "label", "hint"] := by
  unfold ofName
  split <;> simp_all

end BodyRole

theorem isSelection_iff {element : Element} :
    isSelection element = true ↔ element.name = "select" ∨ element.name = "select1" := by
  simp [isSelection]

namespace BodyReader

variable {reader : BodyReader} {base : String} {tag : Xml.Tag} {children : List Node}

/-- A body is built if nothing stops the walk over it, and its controls are those of its
nodes. -/
theorem build_eq_ok_iff {body : Element} {controls : List Control} :
    reader.build body = .ok controls ↔
      (BodyVisit.ofBody reader.basePath body).findSome?
          (BodyVisit.stop? reader.options.maxDepth) = none ∧
        (buildNodes reader reader.basePath body.children).controls = controls := by
  rw [build]
  cases (BodyVisit.ofBody reader.basePath body).findSome?
      (BodyVisit.stop? reader.options.maxDepth) with
  | some cause => simp
  | none => simp

theorem buildNodes_element (child : Element) (rest : List Node) :
    buildNodes reader base (.element child :: rest) =
      (buildElement reader base child).append (buildNodes reader base rest) := by
  rw [buildNodes]

theorem buildNodes_other {node : Node} (hnode : node.element? = none) (rest : List Node) :
    buildNodes reader base (node :: rest) = buildNodes reader base rest := by
  cases node <;> simp_all [Node.element?, buildNodes]

theorem buildElement_empty (hempty : Xml.elementsOf children = []) :
    buildElement reader base ⟨tag, children⟩ = .nothing := by
  simp [buildElement, hempty]

theorem buildElement_group (hfilled : Xml.elementsOf children ≠ []) (hname : tag.name = "group") :
    buildElement reader base ⟨tag, children⟩ =
      ⟨[.group (reader.heading base ⟨tag, children⟩) (buildNodes reader base children).repeats
        (buildNodes reader base children).controls], false⟩ := by
  simp [buildElement, hfilled, BodyRole.ofName_eq_group_iff.mpr hname]

theorem buildElement_repeat (hfilled : Xml.elementsOf children ≠ [])
    (hname : tag.name = "repeat") :
    buildElement reader base ⟨tag, children⟩ =
      ⟨(buildNodes reader (repeatBase base tag) children).controls, true⟩ := by
  simp [buildElement, hfilled, BodyRole.ofName_eq_repetition_iff.mpr hname]

theorem buildElement_caption (hname : tag.name = "label" ∨ tag.name = "hint") :
    buildElement reader base ⟨tag, children⟩ = .nothing := by
  simp [buildElement, BodyRole.ofName_eq_caption_iff.mpr hname]

theorem buildElement_question (hfilled : Xml.elementsOf children ≠ [])
    (hname : tag.name ∉ ["group", "repeat", "label", "hint"]) :
    buildElement reader base ⟨tag, children⟩ =
      ⟨[.question (reader.question base ⟨tag, children⟩)], false⟩ := by
  simp [buildElement, hfilled, BodyRole.ofName_eq_question_iff.mpr hname]

end BodyReader

/-- Whether an element of a body lets the walk go on inside it. -/
def isOpenElement (element : Element) : Bool :=
  element.name = "group" || element.name = "repeat"

theorem isOpenElement_iff {element : Element} :
    isOpenElement element = true ↔ element.name = "group" ∨ element.name = "repeat" := by
  simp [isOpenElement]

theorem isOpenElement_eq_false_iff {element : Element} :
    isOpenElement element = false ↔ element.name ≠ "group" ∧ element.name ≠ "repeat" := by
  rw [← Bool.not_eq_true, isOpenElement_iff, not_or]

end SurveyForm

namespace SurveyForm.Xml.Place

/-- Whether all elements around a place are groups and repeats. -/
def isReached (place : Place) : Bool :=
  place.around.all fun outer => isOpenElement outer.2

/-- The walk comes through the given elements to a stretch that starts after them. -/
structure Leads (around : List (Nat × Element)) (first : Nat) : Prop where
  isOpen : ∀ outer ∈ around, isOpenElement outer.2 = true
  before : ∀ outer ∈ around, outer.1 < first

/-- Whether the element at a place becomes a control: it is reached, has children, and
is neither a repeat nor a caption. -/
def isControl (place : Place) : Bool :=
  place.isReached && !place.element.elements.isEmpty &&
    !(["repeat", "label", "hint"].contains place.element.name)

/-- The number of the innermost group among elements, the innermost of which comes first. -/
def nearestGroup? (around : List (Nat × Element)) : Option Nat :=
  (around.find? (·.2.name = "group")).map (·.1)

/-- The number of the nearest group around a place. -/
def groupAround? (place : Place) : Option Nat :=
  nearestGroup? place.around

/-- Whether a place lies in a stretch of the document, and the nearest group around it
too unless that is the one around the stretch. -/
def LiesIn (outer : Option Nat) (first last : Nat) (place : Place) : Prop :=
  (first ≤ place.number ∧ place.number < last) ∧
    (place.groupAround? = outer ∨
      ∃ number, place.groupAround? = some number ∧ first ≤ number ∧ number < last)

variable {around : List (Nat × Element)} {first : Nat} {nodes : List Node} {place : Place}

theorem leads_nil : Leads [] first :=
  ⟨by simp, by simp⟩

theorem Leads.inside (hleads : Leads around first) {element : Element}
    (hopen : isOpenElement element = true) : Leads ((first, element) :: around) (first + 1) := by
  constructor
  · intro outer hmem
    rcases List.mem_cons.mp hmem with rfl | hmem
    · exact hopen
    · exact hleads.isOpen outer hmem
  · intro outer hmem
    rcases List.mem_cons.mp hmem with rfl | hmem
    · exact Nat.lt_succ_self first
    · exact Nat.lt_succ_of_lt (hleads.before outer hmem)

theorem Leads.after (hleads : Leads around first) {next : Nat} (hle : first ≤ next) :
    Leads around next :=
  ⟨hleads.isOpen, fun outer hmem => Nat.lt_of_lt_of_le (hleads.before outer hmem) hle⟩

theorem Leads.lt_of_nearestGroup? (hleads : Leads around first) (number : Nat)
    (hnumber : nearestGroup? around = some number) : number < first := by
  obtain ⟨outer, hfound, rfl⟩ := Option.map_eq_some_iff.mp hnumber
  exact hleads.before outer (List.mem_of_find?_eq_some hfound)

theorem Leads.isControl (hleads : Leads around first) {element : Element} :
    (⟨first, element, around⟩ : Place).isControl =
      (!element.elements.isEmpty && !(["repeat", "label", "hint"].contains element.name)) := by
  rw [Place.isControl, isReached, List.all_eq_true.mpr hleads.isOpen, Bool.true_and]

theorem isOpen_of_isReached (hplace : place ∈ ofNodes around first nodes)
    (hreached : place.isReached = true) :
    ∀ outer ∈ around, isOpenElement outer.2 = true := by
  obtain ⟨inner, haround, -⟩ := around_of_mem hplace
  intro outer houter
  refine List.all_eq_true.mp hreached outer ?_
  rw [haround]
  exact List.mem_append_right inner houter

/-- Nothing is reached inside an element that is neither a group nor a repeat. -/
theorem filter_isReached_closed {number : Nat} {element : Element}
    (hclosed : isOpenElement element = false) :
    (ofNodes ((number, element) :: around) first nodes).filter isReached = [] := by
  rw [List.filter_eq_nil_iff]
  intro place hplace hreached
  have hopen := isOpen_of_isReached hplace hreached (number, element) List.mem_cons_self
  rw [hclosed] at hopen
  contradiction

theorem filter_isControl_closed {number : Nat} {element : Element}
    (hclosed : isOpenElement element = false) :
    (ofNodes ((number, element) :: around) first nodes).filter isControl = [] := by
  rw [List.filter_eq_nil_iff]
  intro place hplace hcontrol
  simp only [isControl, Bool.and_eq_true] at hcontrol
  exact List.filter_eq_nil_iff.mp (filter_isReached_closed hclosed) place hplace hcontrol.1.1

theorem liesIn_of_mem (hplace : place ∈ ofNodes around first nodes) :
    place.LiesIn (nearestGroup? around) first (first + (elementsBelow nodes).length) := by
  refine ⟨number_of_mem hplace, ?_⟩
  obtain ⟨inner, haround, hinner⟩ := around_of_mem hplace
  rw [groupAround?, nearestGroup?, haround, List.find?_append]
  cases hfound : inner.find? (·.2.name = "group") with
  | none => exact .inl rfl
  | some outer => exact .inr ⟨outer.1, rfl, hinner outer (List.mem_of_find?_eq_some hfound)⟩

theorem liesIn_of_mem_element {element : Element}
    (hplace : place ∈ ofElement around first element) :
    place.LiesIn (nearestGroup? around) first (first + (element.descendants.length + 1)) := by
  rw [ofElement_eq_ofNodes] at hplace
  simpa using liesIn_of_mem hplace

end SurveyForm.Xml.Place

namespace SurveyForm.BodyReader

open Xml (Element Node Place)

variable {around : List (Nat × Element)} {first : Nat} {tag : Xml.Tag} {children : List Node}

/-- What becomes of an element inside others: which places in it become controls, and what is
built. -/
inductive Becomes (reader : BodyReader) (base : String) (around : List (Nat × Element))
    (first : Nat) (tag : Xml.Tag) (children : List Node) : List Place → Built → Prop
  | nothing : Becomes reader base around first tag children [] .nothing
  | question (hname : tag.name ≠ "group") :
      Becomes reader base around first tag children [⟨first, ⟨tag, children⟩, around⟩]
        ⟨[.question (reader.question base ⟨tag, children⟩)], false⟩
  | group (hname : tag.name = "group") :
      Becomes reader base around first tag children
        (⟨first, ⟨tag, children⟩, around⟩ ::
          (Place.ofNodes ((first, ⟨tag, children⟩) :: around) (first + 1) children).filter
            Place.isControl)
        ⟨[.group (reader.heading base ⟨tag, children⟩) (buildNodes reader base children).repeats
          (buildNodes reader base children).controls], false⟩
  | repetition (hname : tag.name = "repeat") :
      Becomes reader base around first tag children
        ((Place.ofNodes ((first, ⟨tag, children⟩) :: around) (first + 1) children).filter
          Place.isControl)
        ⟨(buildNodes reader (repeatBase base tag) children).controls, true⟩

/-- Wherever the walk comes, the places that become controls are those that something is built
for. -/
theorem becomes (reader : BodyReader) (base : String) (hleads : Place.Leads around first)
    (tag : Xml.Tag) (children : List Node) :
    Becomes reader base around first tag children
      ((Place.ofElement around first ⟨tag, children⟩).filter Place.isControl)
      (buildElement reader base ⟨tag, children⟩) := by
  have hcontrol := @Place.Leads.isControl around first hleads ⟨tag, children⟩
  rw [Place.ofElement_mk]
  by_cases hempty : Xml.elementsOf children = []
  · rw [List.filter_cons_of_neg (by simp [hcontrol, hempty]), Place.ofNodes_eq_nil hempty,
      buildElement_empty hempty]
    exact .nothing
  by_cases hgroup : tag.name = "group"
  · rw [List.filter_cons_of_pos (by simp [hcontrol, hempty, hgroup]),
      buildElement_group hempty hgroup]
    exact .group hgroup
  by_cases hrepeat : tag.name = "repeat"
  · rw [List.filter_cons_of_neg (by simp [hcontrol, hrepeat]), buildElement_repeat hempty hrepeat]
    exact .repetition hrepeat
  -- The walk does not go on inside any other element.
  have hclosed : isOpenElement ⟨tag, children⟩ = false :=
    isOpenElement_eq_false_iff.mpr ⟨hgroup, hrepeat⟩
  by_cases hcaption : tag.name = "label" ∨ tag.name = "hint"
  · have hskipped : ¬ (⟨first, ⟨tag, children⟩, around⟩ : Place).isControl = true := by
      rcases hcaption with hname | hname <;> simp [hcontrol, hname]
    rw [List.filter_cons_of_neg hskipped, Place.filter_isControl_closed hclosed,
      buildElement_caption hcaption]
    exact .nothing
  · rw [not_or] at hcaption
    rw [List.filter_cons_of_pos (by simp [hcontrol, hempty, hrepeat, hcaption]),
      Place.filter_isControl_closed hclosed,
      buildElement_question hempty (by simp [hgroup, hrepeat, hcaption])]
    exact .question hgroup

end SurveyForm.BodyReader
