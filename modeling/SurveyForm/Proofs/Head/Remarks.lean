import Mathlib.Data.List.Basic
import SurveyForm.Head
import SurveyForm.Proofs.Xml.Remarks
/-!
Remarks in a head.  Binds are read off their tags alone.  The instance, the translations and
the title do see a remark where it stands in a text that is read or is all there is.
-/

namespace SurveyForm

open Xml (Element Node nodesInduction nodesWithoutRemarks)

/-! ### The instance -/

namespace InstanceVisit

/-- A visit without the text of a container, which is never recorded. -/
def essence (visit : InstanceVisit) : InstanceVisit :=
  if visit.isContainer then { visit with text := none } else visit

theorem path_essence (visit : InstanceVisit) : visit.essence.path = visit.path := by
  unfold essence
  split
  · rfl
  · rfl

theorem stop?_essence (limit : Nat) (visit : InstanceVisit) :
    stop? limit visit.essence = stop? limit visit := by
  unfold essence
  split
  · rfl
  · rfl

theorem change_essence (visit : InstanceVisit) : visit.essence.change = visit.change := by
  funext field
  unfold essence
  split
  · next hcontainer => simp [change, hcontainer]
  · rfl

theorem record_essence (fields : FieldMap) (visit : InstanceVisit) :
    record fields visit.essence = record fields visit := by
  rw [record, path_essence, change_essence, record]

/-- The walk finds the same without remarks, if none stands in the text of a leaf. -/
theorem map_essence_withoutRemarks (parent : String) (depth : Nat) (nodes : List Node)
    (hleaves : ∀ element ∈ Xml.elementsBelow nodes, element.elements = [] →
      element.HasWholeText) :
    (ofNodes parent depth (nodesWithoutRemarks nodes)).map essence =
      (ofNodes parent depth nodes).map essence := by
  induction nodes using nodesInduction generalizing parent depth with
  | nil => rw [Xml.nodesWithoutRemarks_nil]
  | other node rest hnode ih =>
      rw [Xml.elementsBelow_other hnode] at hleaves
      rw [Xml.apply_withoutRemarks_other hnode fun _ rest hother =>
        ofNodes_other hother parent depth rest, ih parent depth hleaves, ofNodes_other hnode]
  | element tag children rest ihInside ihRest =>
      simp only [Xml.elementsBelow_element, Xml.descendants_mk, List.mem_cons,
        List.mem_append] at hleaves
      have hinside := ihInside (parent ++ "/" ++ tag.name) (depth + 1)
        fun element hmem => hleaves element (.inr (.inl hmem))
      have hrest := ihRest parent depth fun element hmem => hleaves element (.inr (.inr hmem))
      rw [Xml.nodesWithoutRemarks_element, ofNodes, ofNodes, List.map_append, List.map_append,
        hrest, Element.withoutRemarks, ofElement, ofElement, List.map_cons, List.map_cons, hinside,
        Xml.elementsOf_withoutRemarks]
      congr 2
      by_cases hempty : Xml.elementsOf children = []
      · have hwhole : Xml.leadingText (nodesWithoutRemarks children) = Xml.leadingText children := by
          have htext := hleaves _ (.inl rfl) hempty
          rwa [Element.HasWholeText, Element.withoutRemarks] at htext
        rw [hwhole, hempty, List.map_nil]
      · simp [essence, hempty]

theorem map_essence_ofRoot {root : Element}
    (hleaves : ∀ element ∈ root :: root.descendants, element.elements = [] →
      element.HasWholeText) :
    (ofRoot root.withoutRemarks).map essence = (ofRoot root).map essence := by
  have hnodes := map_essence_withoutRemarks "" 0 [.element root] (by simpa using hleaves)
  simpa [ofRoot, Xml.nodesWithoutRemarks_element, Xml.nodesWithoutRemarks_nil, ofNodes] using hnodes

variable {visits others : List InstanceVisit}

/-- The walk stops where its essence says. -/
theorem findSome?_stop?_eq_of_essence (hessence : visits.map essence = others.map essence)
    (limit : Nat) : visits.findSome? (stop? limit) = others.findSome? (stop? limit) := by
  have hstops : ∀ visits : List InstanceVisit,
      visits.findSome? (stop? limit) = (visits.map essence).findSome? (stop? limit) := by
    intro visits
    rw [List.findSome?_map]
    simp only [Function.comp_def, stop?_essence]
  rw [hstops visits, hessence, ← hstops]

theorem map_essence_within (limit : Nat) (visits : List InstanceVisit) :
    (within limit visits).map essence = within limit (visits.map essence) := by
  rw [within, within, List.takeWhile_map]
  simp only [Function.comp_def, stop?_essence]

theorem map_path_essence (visits : List InstanceVisit) :
    (visits.map essence).head?.map (·.path) = visits.head?.map (·.path) := by
  cases visits with
  | nil => rfl
  | cons first rest => exact congrArg some (path_essence first)

end InstanceVisit

theorem Definitions.recordInstance_eq_of_essence {root other : Element}
    (hessence : (InstanceVisit.ofRoot root).map InstanceVisit.essence =
      (InstanceVisit.ofRoot other).map InstanceVisit.essence)
    (limit : Nat) (definitions : Definitions) :
    definitions.recordInstance limit root = definitions.recordInstance limit other := by
  have hwithin : (InstanceVisit.within limit (InstanceVisit.ofRoot root)).map InstanceVisit.essence =
      (InstanceVisit.within limit (InstanceVisit.ofRoot other)).map InstanceVisit.essence := by
    rw [InstanceVisit.map_essence_within, hessence, InstanceVisit.map_essence_within]
  have hrecord : ∀ visits : List InstanceVisit,
      visits.foldl InstanceVisit.record definitions.fields =
        (visits.map InstanceVisit.essence).foldl InstanceVisit.record definitions.fields := by
    intro visits
    simp only [List.foldl_map, InstanceVisit.record_essence]
  simp only [recordInstance]
  rw [hrecord, ← InstanceVisit.map_path_essence, hwithin, InstanceVisit.map_path_essence,
    ← hrecord]

/-! ### The translations -/

/-- Whether no value of an entry consists of remarks alone. -/
def KeepsValues (entry : Element) : Prop :=
  ∀ value ∈ entry.elements, value.withoutRemarks.isEmpty = value.isEmpty

namespace TextEntry

variable {entry : Element}

theorem isWellFormed_withoutRemarks (hkeeps : KeepsValues entry) :
    isWellFormed entry.withoutRemarks = isWellFormed entry := by
  rw [isWellFormed, isWellFormed, Element.attribute?_withoutRemarks,
    Element.elements_withoutRemarks, List.all_map]
  congr 1
  rw [Bool.eq_iff_iff, List.all_eq_true, List.all_eq_true]
  refine forall₂_congr fun value hvalue => ?_
  rw [Function.comp_apply, hkeeps value hvalue]

theorem textsOf_withoutRemarks (defaultForm : String) (entry : Element) :
    textsOf defaultForm entry.withoutRemarks = textsOf defaultForm entry := by
  simp [textsOf, formOf, List.foldl_map]

theorem ofElement?_withoutRemarks (hkeeps : KeepsValues entry) (defaultForm : String) :
    ofElement? defaultForm entry.withoutRemarks = ofElement? defaultForm entry := by
  rw [ofElement?, isWellFormed_withoutRemarks hkeeps, textsOf_withoutRemarks,
    Element.attribute?_withoutRemarks, ofElement?]

end TextEntry

namespace TranslationBlock

def withoutRemarks (block : TranslationBlock) : TranslationBlock :=
  { block with elements := block.elements.map Element.withoutRemarks }

theorem ofElement?_withoutRemarks (element : Element) :
    ofElement? element.withoutRemarks = (ofElement? element).map withoutRemarks := by
  simp only [ofElement?, Element.attribute?_withoutRemarks,
    Element.descendantsNamed_withoutRemarks, Option.map_map]
  rfl

variable {block : TranslationBlock}

theorem texts_withoutRemarks (hkeeps : ∀ entry ∈ block.elements, KeepsValues entry)
    (defaultForm : String) : block.withoutRemarks.texts defaultForm = block.texts defaultForm := by
  have hentries : (block.elements.map Element.withoutRemarks).filterMap
      (TextEntry.ofElement? defaultForm) =
        block.elements.filterMap (TextEntry.ofElement? defaultForm) := by
    rw [List.filterMap_map]
    refine List.filterMap_congr fun entry hentry => ?_
    exact TextEntry.ofElement?_withoutRemarks (hkeeps entry hentry) defaultForm
  rw [texts, withoutRemarks, hentries, texts]

end TranslationBlock

/-- Whether no value of any entry in a block consists of remarks alone. -/
def KeepsEntries (block : Element) : Prop :=
  ∀ entry ∈ block.descendantsNamed "text", KeepsValues entry

theorem KeepsEntries.of_ofElement? {element : Element} {block : TranslationBlock}
    (hkeeps : KeepsEntries element) (hblock : TranslationBlock.ofElement? element = some block) :
    ∀ entry ∈ block.elements, KeepsValues entry := by
  obtain ⟨language, -, rfl⟩ := Option.map_eq_some_iff.mp hblock
  exact hkeeps

namespace TranslationTable

theorem blockElements_withoutRemarks (itext : Option Element) :
    blockElements (itext.map Element.withoutRemarks) =
      (blockElements itext).map Element.withoutRemarks := by
  cases itext with
  | none => rfl
  | some element => exact element.descendantsNamed_withoutRemarks "translation"

variable {itext : Option Element}

/-- The table is the same without remarks, if no value consists of them alone. -/
theorem ofElement_withoutRemarks (hkeeps : ∀ block ∈ blockElements itext, KeepsEntries block)
    (options : Options) :
    ofElement options (itext.map Element.withoutRemarks) = ofElement options itext := by
  rw [ofElement, ofElement, blockElements_withoutRemarks]
  generalize ({} : TranslationTable) = table
  generalize blockElements itext = blocks at hkeeps
  induction blocks generalizing table with
  | nil => rfl
  | cons element rest ih =>
      obtain ⟨hfirst, hrest⟩ := List.forall_mem_cons.mp hkeeps
      rw [List.map_cons, List.filterMap_cons, List.filterMap_cons,
        TranslationBlock.ofElement?_withoutRemarks]
      cases hblock : TranslationBlock.ofElement? element with
      | none => exact ih table hrest
      | some block =>
          have htexts := TranslationBlock.texts_withoutRemarks (hfirst.of_ofElement? hblock)
          rw [Option.map_some, List.foldl_cons, List.foldl_cons, ih _ hrest, addBlock, htexts]
          rfl

theorem diagnosticsIn_withoutRemarks {block : Element} (hkeeps : KeepsEntries block) :
    diagnosticsIn block.withoutRemarks = diagnosticsIn block := by
  have hmalformed : (block.metBelow "text").filter
      ((fun entry => !TextEntry.isWellFormed entry) ∘ Element.withoutRemarks) =
        (block.metBelow "text").filter fun entry => !TextEntry.isWellFormed entry := by
    refine List.filter_congr fun entry hentry => ?_
    rw [Function.comp_apply,
      TextEntry.isWellFormed_withoutRemarks (hkeeps entry (block.metBelow_subset "text" hentry))]
  simp only [diagnosticsIn, Element.attribute?_withoutRemarks, Element.metBelow_withoutRemarks,
    List.filter_map, hmalformed, List.map_map]
  simp only [Function.comp_def, Element.attribute?_withoutRemarks]

theorem blocksRead_withoutRemarks (blocks : List Element) :
    blocksRead (blocks.map Element.withoutRemarks) =
      (blocksRead blocks).map Element.withoutRemarks := by
  induction blocks with
  | nil => rfl
  | cons block rest ih =>
      rw [List.map_cons, blocksRead, blocksRead, ih, breaksInside, breaksInside,
        Element.attribute?_withoutRemarks, Element.hasPlainDescendants_withoutRemarks]
      split
      · rfl
      · rfl

theorem blocksRead_subset (blocks : List Element) : blocksRead blocks ⊆ blocks := by
  induction blocks with
  | nil => exact List.Subset.refl _
  | cons block rest ih =>
      rw [blocksRead]
      split
      · simp
      · exact List.cons_subset_cons block ih

theorem diagnosticsOf_withoutRemarks
    (hkeeps : ∀ block ∈ blockElements itext, KeepsEntries block) :
    diagnosticsOf (itext.map Element.withoutRemarks) = diagnosticsOf itext := by
  cases itext with
  | none => rfl
  | some element =>
      rw [Option.map_some, diagnosticsOf, diagnosticsOf, Element.metBelow_withoutRemarks,
        blocksRead_withoutRemarks, List.flatMap_map]
      refine List.flatMap_congr fun block hblock => ?_
      exact diagnosticsIn_withoutRemarks
        (hkeeps block (element.metBelow_subset _ (blocksRead_subset _ hblock)))

theorem read?_withoutRemarks (hkeeps : ∀ block ∈ blockElements itext, KeepsEntries block)
    (options : Options) :
    read? options (itext.map Element.withoutRemarks) = read? options itext := by
  rw [read?, read?, ofElement_withoutRemarks hkeeps]
  cases itext with
  | none => rfl
  | some element => rw [Option.map_some, Option.all_some, Option.all_some,
      Element.hasPlainDescendants_withoutRemarks]

end TranslationTable

/-! ### The head -/

/-- Whether no remark stands where reading a head would see it: in the title, in the text of a
leaf of the instance, or alone in a value of an entry. -/
structure KeepsHead (head : Element) : Prop where
  title : ∀ title, head.childIn? xhtmlUri "title" = some title → title.HasWholeText
  leaves : ∀ model data, Definitions.instanceRoot? head = .ok (model, data) →
    ∀ element ∈ data :: data.descendants, element.elements = [] → element.HasWholeText
  entries : ∀ model data, Definitions.instanceRoot? head = .ok (model, data) →
    ∀ block ∈ TranslationTable.blockElements (model.child? "itext"), KeepsEntries block

namespace Definitions

variable {options : Options} {definitions : Definitions} {head : Element}

theorem instanceRoot?_withoutRemarks (head : Element) :
    instanceRoot? head.withoutRemarks =
      (instanceRoot? head).map fun found => (found.1.withoutRemarks, found.2.withoutRemarks) := by
  rw [instanceRoot?, instanceRoot?, Element.seek?_withoutRemarks]
  rcases head.seek? "model" with _ | _ | model
  · rfl
  · rfl
  · simp only [Option.map_some, Element.seek?_withoutRemarks]
    rcases model.seek? "instance" with _ | _ | holder
    · rfl
    · rfl
    · simp only [Option.map_some, Element.elements_withoutRemarks]
      cases holder.elements with
      | nil => rfl
      | cons root rest => rfl

/-- A bind is applied as its tag says, whatever is inside it. -/
theorem applyBind_withoutRemarks (options : Options) (definitions : Definitions)
    (bind : Element) :
    definitions.applyBind options bind.withoutRemarks = definitions.applyBind options bind := by
  cases bind
  rw [Element.withoutRemarks]
  rfl

theorem applyBinds_withoutRemarks (options : Options) (definitions : Definitions)
    (binds : List Element) :
    definitions.applyBinds options (binds.map Element.withoutRemarks) =
      definitions.applyBinds options binds := by
  induction binds generalizing definitions with
  | nil => rfl
  | cons bind rest ih =>
      rw [List.map_cons, applyBinds, applyBinds, applyBind_withoutRemarks]
      split
      · rfl
      · exact ih _

theorem titleOf_withoutRemarks {title : Option Element}
    (hkeeps : ∀ found, title = some found → found.HasWholeText) :
    titleOf (title.map Element.withoutRemarks) = titleOf title := by
  cases title with
  | none => rfl
  | some found => rw [Option.map_some, titleOf, hkeeps found rfl, titleOf]

theorem bindsMet_withoutRemarks (model : Element) :
    bindsMet model.withoutRemarks = (bindsMet model).map Element.withoutRemarks := by
  rw [bindsMet, Element.elements_withoutRemarks, List.takeWhile_map, List.filter_map, bindsMet]
  simp only [Function.comp_def, Element.hasPlainName_withoutRemarks, Element.name_withoutRemarks]

theorem loadTexts_withoutRemarks (hkeeps : KeepsHead head) {model data : Element}
    (hinstance : instanceRoot? head = .ok (model, data)) (options : Options)
    (definitions : Definitions) (basePath : String) :
    definitions.loadTexts options head.withoutRemarks model.withoutRemarks basePath =
      definitions.loadTexts options head model basePath := by
  have hentries := hkeeps.entries model data hinstance
  simp only [loadTexts, Element.child?_withoutRemarks,
    TranslationTable.diagnosticsOf_withoutRemarks hentries,
    TranslationTable.read?_withoutRemarks hentries, Element.seekIn?_withoutRemarks]
  cases htitle : head.seekIn? xhtmlUri "title" with
  | none => rfl
  | some title =>
      have hwhole : ∀ found, title = some found → found.HasWholeText := by
        intro found hfound
        exact hkeeps.title found ((Element.childIn?_of_seekIn? htitle).trans hfound)
      cases TranslationTable.read? options (model.child? "itext") with
      | none => rfl
      | some translations =>
          dsimp only [Option.map_some]
          rw [titleOf_withoutRemarks hwhole]

/-- A head is read in the same way without remarks. -/
theorem load_withoutRemarks (hkeeps : KeepsHead head) (options : Options)
    (definitions : Definitions) :
    definitions.load options head.withoutRemarks = definitions.load options head := by
  rw [load, load, instanceRoot?_withoutRemarks]
  cases hinstance : instanceRoot? head with
  | error cause => rfl
  | ok found =>
      obtain ⟨model, data⟩ := found
      have hessence := InstanceVisit.map_essence_ofRoot (hkeeps.leaves model data hinstance)
      have hplain : model.withoutRemarks.elements.all (·.hasPlainName) =
          model.elements.all (·.hasPlainName) := by
        simp [Function.comp_def]
      simp only [Except.map, recordInstance_eq_of_essence hessence,
        InstanceVisit.findSome?_stop?_eq_of_essence hessence, bindsMet_withoutRemarks,
        applyBinds_withoutRemarks, hplain, Element.name_withoutRemarks,
        loadTexts_withoutRemarks hkeeps hinstance]

end Definitions

end SurveyForm
