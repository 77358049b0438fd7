import SurveyForm.Proofs.Body.LooseRepeats
import SurveyForm.Proofs.Xml.Remarks
/-!
Remarks in a body.  The walk and the findings do not see them at all, and the controls do
only where one stands in a caption that is read.
-/

namespace SurveyForm

open Xml (Element Node nodesInduction nodesWithoutRemarks)

/-- Whether no remark stands in the captions that an element has. -/
def KeepsCaptions (holder : Element) : Prop :=
  ∀ name ∈ ["label", "hint", "value"], ∀ caption, holder.child? name = some caption →
    caption.HasWholeText

theorem Caption.ofElement_withoutRemarks {defaultForm : String} {element : Element}
    (hwhole : element.HasWholeText) :
    ofElement defaultForm element.withoutRemarks = ofElement defaultForm element := by
  rw [ofElement, Element.attribute?_withoutRemarks, hwhole, ofElement]

theorem Caption.ofChild_withoutRemarks {defaultForm name : String} {holder : Element}
    (hkeeps : KeepsCaptions holder) (hname : name ∈ ["label", "hint", "value"]) :
    ofChild defaultForm holder.withoutRemarks name = ofChild defaultForm holder name := by
  rw [ofChild, Element.child?_withoutRemarks, ofChild]
  cases hchild : holder.child? name with
  | none => rfl
  | some caption => exact ofElement_withoutRemarks (hkeeps name hname caption hchild)

@[simp]
theorem isSelection_withoutRemarks (element : Element) :
    isSelection element.withoutRemarks = isSelection element := by
  simp [isSelection]

@[simp]
theorem canSeek_withoutRemarks (element : Element) (names : List String) :
    canSeek element.withoutRemarks names = canSeek element names := by
  simp [canSeek]

theorem isReadableQuestion_withoutRemarks (element : Element) :
    isReadableQuestion element.withoutRemarks = isReadableQuestion element := by
  simp [isReadableQuestion, Function.comp_def]

namespace BodyVisit

def withoutRemarks (visit : BodyVisit) : BodyVisit :=
  { visit with element := visit.element.withoutRemarks }

/-- The walk goes the same way without remarks. -/
theorem ofNodes_withoutRemarks (base : String) (inGroup : Bool) (depth : Nat)
    (nodes : List Node) :
    ofNodes base inGroup depth (nodesWithoutRemarks nodes) =
      (ofNodes base inGroup depth nodes).map withoutRemarks := by
  induction nodes using nodesInduction generalizing base inGroup depth with
  | nil => simp [Xml.nodesWithoutRemarks_nil, ofNodes]
  | other node rest hnode ih =>
      rw [Xml.apply_withoutRemarks_other hnode fun _ rest hother => ofNodes_other hother rest, ih,
        ofNodes_other hnode]
  | element tag children rest ihInside ihRest =>
      have hvisit : ∀ isReturn : Bool,
          (⟨⟨tag, nodesWithoutRemarks children⟩, base, inGroup, depth, isReturn⟩ : BodyVisit) =
            withoutRemarks ⟨⟨tag, children⟩, base, inGroup, depth, isReturn⟩ := by
        intro isReturn
        rw [withoutRemarks, Element.withoutRemarks]
      rw [Xml.nodesWithoutRemarks_element, ofNodes_element, ofNodes_element, ihRest,
        List.map_append, Element.withoutRemarks, ofElement, ofElement, hvisit, List.map_cons]
      congr 2
      cases BodyRole.ofName tag.name with
      | group =>
          dsimp only
          rw [List.map_append, List.map_singleton, ihInside base true (depth + 1), hvisit]
      | repetition => exact ihInside (repeatBase base tag) inGroup (depth + 1)
      | caption => rfl
      | question => rfl

theorem ofBody_withoutRemarks (base : String) (body : Element) :
    ofBody base body.withoutRemarks = (ofBody base body).map withoutRemarks := by
  rw [ofBody, Element.children_withoutRemarks, ofNodes_withoutRemarks, ofBody]

theorem diagnostic?_withoutRemarks (visit : BodyVisit) :
    visit.withoutRemarks.diagnostic? = visit.diagnostic? := by
  simp [diagnostic?, withoutRemarks]

theorem stop?_withoutRemarks (limit : Nat) (visit : BodyVisit) :
    visit.withoutRemarks.stop? limit = visit.stop? limit := by
  have hreadable : visit.withoutRemarks.isReadable = visit.isReadable := by
    simp [isReadable, withoutRemarks, isReadableQuestion_withoutRemarks]
  rw [stop?, stop?, hreadable]
  rfl

end BodyVisit

namespace BodyReader

variable {reader : BodyReader} {base : String}

theorem diagnostics_withoutRemarks (body : Element) :
    reader.diagnostics body.withoutRemarks = reader.diagnostics body := by
  rw [diagnostics, diagnostics, BodyVisit.ofBody_withoutRemarks, BodyVisit.diagnostics,
    BodyVisit.diagnostics, List.takeWhile_map, List.filterMap_map]
  simp only [Function.comp_def, BodyVisit.stop?_withoutRemarks, BodyVisit.diagnostic?_withoutRemarks]

theorem heading_withoutRemarks {element : Element} (hkeeps : KeepsCaptions element) :
    reader.heading base element.withoutRemarks = reader.heading base element := by
  rw [heading, heading, Caption.ofChild_withoutRemarks hkeeps (by simp),
    Caption.ofChild_withoutRemarks hkeeps (by simp), Element.attribute?_withoutRemarks,
    Element.attribute?_withoutRemarks]

theorem choice_withoutRemarks {item : Element} (hkeeps : KeepsCaptions item) :
    reader.choice item.withoutRemarks = reader.choice item := by
  rw [choice, choice, Caption.ofChild_withoutRemarks hkeeps (by simp),
    Caption.ofChild_withoutRemarks hkeeps (by simp)]

theorem question_withoutRemarks {element : Element} (hkeeps : KeepsCaptions element)
    (hitems : ∀ item ∈ element.elements, KeepsCaptions item) :
    reader.question base element.withoutRemarks = reader.question base element := by
  have hselection : reader.selection? element.withoutRemarks = reader.selection? element := by
    have hchoices : ((element.childrenNamed "item").map Element.withoutRemarks).map reader.choice =
        (element.childrenNamed "item").map reader.choice := by
      rw [List.map_map]
      refine List.map_congr_left fun item hitem => ?_
      exact choice_withoutRemarks (hitems item (List.mem_filter.mp hitem).1)
    rw [selection?, selection?, isSelection_withoutRemarks, Element.name_withoutRemarks,
      Element.childrenNamed_withoutRemarks, hchoices]
  rw [question, question, heading_withoutRemarks hkeeps, hselection, Element.name_withoutRemarks]

theorem buildElement_withoutRemarks {tag : Xml.Tag} {children : List Node}
    (hkeeps : KeepsCaptions ⟨tag, children⟩)
    (hitems : ∀ item ∈ Xml.elementsOf children, KeepsCaptions item)
    (hinside : ∀ base, buildNodes reader base (nodesWithoutRemarks children) =
      buildNodes reader base children) :
    buildElement reader base (Element.mk tag children).withoutRemarks =
      buildElement reader base ⟨tag, children⟩ := by
  have hheading := @heading_withoutRemarks reader base _ hkeeps
  have hquestion := @question_withoutRemarks reader base _ hkeeps hitems
  rw [Element.withoutRemarks] at hheading hquestion ⊢
  by_cases hempty : Xml.elementsOf children = []
  · rw [buildElement_empty hempty, buildElement_empty]
    rw [Xml.elementsOf_withoutRemarks, hempty, List.map_nil]
  have hfilled : Xml.elementsOf (nodesWithoutRemarks children) ≠ [] := by
    rwa [Xml.elementsOf_withoutRemarks, ne_eq, List.map_eq_nil_iff]
  by_cases hgroup : tag.name = "group"
  · rw [buildElement_group hfilled hgroup, buildElement_group hempty hgroup, hheading, hinside]
  by_cases hrepeat : tag.name = "repeat"
  · rw [buildElement_repeat hfilled hrepeat, buildElement_repeat hempty hrepeat, hinside]
  by_cases hcaption : tag.name = "label" ∨ tag.name = "hint"
  · rw [buildElement_caption hcaption, buildElement_caption hcaption]
  · have hname : tag.name ∉ ["group", "repeat", "label", "hint"] := by simp_all
    rw [buildElement_question hfilled hname, buildElement_question hempty hname, hquestion]

/-- Nodes become the same controls without remarks, if no caption below them has one. -/
theorem buildNodes_withoutRemarks (nodes : List Node)
    (hkeeps : ∀ holder ∈ Xml.elementsBelow nodes, KeepsCaptions holder) :
    buildNodes reader base (nodesWithoutRemarks nodes) = buildNodes reader base nodes := by
  induction nodes using nodesInduction generalizing base with
  | nil => rw [Xml.nodesWithoutRemarks_nil]
  | other node rest hnode ih =>
      rw [Xml.elementsBelow_other hnode] at hkeeps
      rw [Xml.apply_withoutRemarks_other hnode fun _ rest hother => buildNodes_other hother rest,
        ih hkeeps, buildNodes_other hnode]
  | element tag children rest ihInside ihRest =>
      simp only [Xml.elementsBelow_element, Xml.descendants_mk, List.mem_cons,
        List.mem_append] at hkeeps
      have hinside := fun base => @ihInside base fun holder hmem => hkeeps holder (.inr (.inl hmem))
      have hitems : ∀ item ∈ Xml.elementsOf children, KeepsCaptions item := by
        intro item hitem
        exact hkeeps item (.inr (.inl (Xml.below_of_mem_elementsOf hitem item List.mem_cons_self)))
      rw [Xml.nodesWithoutRemarks_element, buildNodes_element, buildNodes_element,
        ihRest fun holder hmem => hkeeps holder (.inr (.inr hmem)),
        buildElement_withoutRemarks (hkeeps _ (.inl rfl)) hitems hinside]

theorem build_withoutRemarks {body : Element}
    (hkeeps : ∀ holder ∈ body.descendants, KeepsCaptions holder) :
    reader.build body.withoutRemarks = reader.build body := by
  have hbelow : ∀ holder ∈ Xml.elementsBelow body.children, KeepsCaptions holder := by
    cases body
    rwa [Xml.descendants_mk] at hkeeps
  have hstop : (BodyVisit.ofBody reader.basePath body.withoutRemarks).findSome?
      (BodyVisit.stop? reader.options.maxDepth) =
        (BodyVisit.ofBody reader.basePath body).findSome?
          (BodyVisit.stop? reader.options.maxDepth) := by
    rw [BodyVisit.ofBody_withoutRemarks, List.findSome?_map]
    simp only [Function.comp_def, BodyVisit.stop?_withoutRemarks]
  rw [build, hstop, Element.children_withoutRemarks, buildNodes_withoutRemarks _ hbelow, build]

end BodyReader

end SurveyForm
