import SurveyForm.Proofs.Bind.BreakingOff
import SurveyForm.Proofs.Form.Loading
import SurveyForm.Proofs.Xml.Levels
/-!
What the limit on nesting decides.  The levels of the instance and of the body are compared
with it, and nothing else that loading a form does depends on it.  A form can break off after
either comparison.
-/

namespace SurveyForm

open Xml (Element Node Place nodesInduction)

section Independence

-- Only the two checks look at the limit, so the walks are the same under every limit.
variable (options : Options) (depth : Nat)

theorem Definitions.applyBinds_maxDepth (definitions : Definitions) (binds : List Element) :
    definitions.applyBinds { options with maxDepth := depth } binds =
      definitions.applyBinds options binds := by
  induction binds generalizing definitions with
  | nil => rfl
  | cons bind rest ih =>
      simp only [applyBinds, ih]
      rfl

theorem BodyReader.buildNodes_maxDepth (basePath base : String) (fields : FieldMap)
    (nodes : List Node) :
    buildNodes ⟨basePath, fields, { options with maxDepth := depth }⟩ base nodes =
      buildNodes ⟨basePath, fields, options⟩ base nodes := by
  induction nodes using nodesInduction generalizing base with
  | nil => rfl
  | other node rest hnode ih => rw [buildNodes_other hnode, buildNodes_other hnode, ih]
  | element tag children rest ihInside ihRest =>
      rw [buildNodes_element, buildNodes_element, ihRest]
      congr 1
      simp only [buildElement, ihInside]
      rfl

end Independence

theorem Head.ofInstance_maxDepth (options : Options) (depth : Nat) (head model data : Element) :
    ofInstance { options with maxDepth := depth } head model data =
      ofInstance options head model data := by
  rw [ofInstance, Definitions.applyBinds_maxDepth]
  rfl

/-- Whether a bind of a model breaks off at a field of an instance. -/
def Xml.Element.hasBrokenBind (model data : Element) : Bool :=
  (model.childrenNamed "bind").any
    (breaksOff ("/" ++ data.name) ((Place.within data).map Place.path))

/-- Which binds break off can be read off the tree. -/
theorem Definitions.snd_applyBinds_ofInstance (options : Options) (model data : Element) :
    ((ofInstance data).applyBinds options (model.childrenNamed "bind")).2 =
      !model.hasBrokenBind data := by
  have hpaths : ∀ path, path ∈ (ofInstance data).fields.paths ↔
      path ∈ (Place.within data).map Place.path := by
    intro path
    rw [ofInstance, InstanceVisit.paths_foldl_record, mem_firstOccurrences_iff]
  rw [snd_applyBinds rfl, breaksOff_congr hpaths, Element.hasBrokenBind]

/-- Whether a head can be read to its end once its instance fits the limit: all names that are
asked for can be had, and no bind breaks off. -/
def isReadableHead (head model data : Element) : Bool :=
  (data :: data.descendants).all (·.hasPlainName) && !model.hasBrokenBind data &&
    Definitions.hasPlainTexts head model

/-- Where all names below a head can be had, only a bind can break off. -/
theorem isReadableHead_eq {head model data : Element}
    (hinstance : Definitions.instanceRoot? head = .ok (model, data))
    (hplain : ∀ element ∈ head.descendants, element.hasPlainName = true) :
    (∀ element ∈ data :: data.descendants, element.hasPlainName = true) ∧
      isReadableHead head model data = !model.hasBrokenBind data := by
  obtain ⟨hmodel, holder, hholder, hdata⟩ := Definitions.mem_of_instanceRoot? hinstance
  have hinModel : ∀ other ∈ model.descendants, other.hasPlainName = true := fun other hother =>
    hplain other (Xml.mem_descendants_of_mem_elements hmodel other
      (List.mem_cons_of_mem model hother))
  have hinData : ∀ element ∈ data :: data.descendants, element.hasPlainName = true := by
    intro element helement
    have hinHolder := Xml.mem_descendants_of_mem_elements hdata element helement
    exact hinModel element (Xml.mem_descendants_of_mem_elements hholder element
      (List.mem_cons_of_mem holder hinHolder))
  have hchildren : model.elements.all (·.hasPlainName) = true := by
    rw [List.all_eq_true]
    exact fun child hchild =>
      hinModel child (Xml.mem_descendants_of_mem_elements hchild child List.mem_cons_self)
  have htexts : (model.child? "itext").all (·.hasPlainDescendants) = true := by
    cases hitext : model.child? "itext" with
    | none => rfl
    | some itext =>
        have hmem := List.mem_of_find?_eq_some hitext
        rw [Option.all_some, Element.hasPlainDescendants_iff]
        exact fun other hother => hinModel other
          (Xml.mem_descendants_of_mem_elements hmem other (List.mem_cons_of_mem itext hother))
  have htitle : (head.seekIn? xhtmlUri "title").isSome = true :=
    Element.isSome_seekAmong? fun child hchild =>
      hplain child (Xml.mem_descendants_of_mem_elements hchild child List.mem_cons_self)
  refine ⟨hinData, ?_⟩
  rw [isReadableHead, List.all_eq_true.mpr hinData, Definitions.hasPlainTexts, hchildren, htexts,
    htitle]
  simp

namespace Form

theorem ofHead_maxDepth (options : Options) (depth : Nat) (head : Head) (body : Element) :
    ofHead { options with maxDepth := depth } head body = ofHead options head body := by
  simp only [ofHead, BodyReader.buildNodes_maxDepth]

variable {root model data : Element} {frame : Frame}

/-- How the loading of a tree ends, which is decided in the order of its steps. -/
theorem ofTree_eq (hframe : Frame.ofRoot root = .ok frame)
    (hinstance : Definitions.instanceRoot? frame.head = .ok (model, data)) (options : Options) :
    ofTree options root =
      if options.maxDepth < InstanceVisit.levelsOf data then
        .error (.tooDeep .instanceData options.maxDepth)
      else if !isReadableHead frame.head model data then .error .brokenOff
      else if options.maxDepth < BodyVisit.levelsOf frame.body then
        .error (.tooDeep .body options.maxDepth)
      else if !BodyVisit.areReadable frame.body then .error .brokenOff
      else .ok (ofHead options (Head.ofInstance options frame.head model data) frame.body) := by
  rw [ofTree, hframe]
  change ofFrame options frame = _
  rw [ofFrame_eq, Definitions.snd_load_eq hinstance, Definitions.snd_applyBinds_ofInstance,
    InstanceVisit.findSome?_stop?_ofRoot, isReadableHead]
  by_cases hdata : options.maxDepth < InstanceVisit.levelsOf data
  · rw [if_pos hdata, if_pos hdata]
    rfl
  · rw [if_neg hdata, if_neg hdata]
    cases (data :: data.descendants).all (·.hasPlainName) with
    | false => rfl
    | true =>
        simp only [if_true, Bool.true_and]
        cases !model.hasBrokenBind data && Definitions.hasPlainTexts frame.head model with
        | false => rfl
        | true =>
            simp only [if_true, Except.bind, BodyVisit.findSome?_stop?_ofBody, Bool.not_true,
              Bool.false_eq_true, if_false]
            by_cases hbody : options.maxDepth < BodyVisit.levelsOf frame.body
            · rw [if_pos hbody, if_pos hbody]
            · rw [if_neg hbody, if_neg hbody]
              cases BodyVisit.areReadable frame.body <;> rfl

/-- An instance that fits does not help against a bind that breaks off. -/
theorem ofTree_of_hasBrokenBind (hframe : Frame.ofRoot root = .ok frame)
    (hinstance : Definitions.instanceRoot? frame.head = .ok (model, data)) {options : Options}
    (hfits : InstanceVisit.levelsOf data ≤ options.maxDepth)
    (hbroken : model.hasBrokenBind data = true) :
    ofTree options root = .error .brokenOff := by
  rw [ofTree_eq hframe hinstance, if_neg (Nat.not_lt.mpr hfits), isReadableHead, hbroken]
  simp

/-- The limit on nesting decides by the levels of the instance that are met, then by those of the
body.  After the first the form can break off at something in its head that cannot be read, and
after the second at a name in its body.  A form that loads is the same under every limit.  Where
the names of all elements can be had, all levels are met, and a form breaks off only at a bind. -/
theorem ofTree_maxDepth (hframe : Frame.ofRoot root = .ok frame)
    (hinstance : Definitions.instanceRoot? frame.head = .ok (model, data)) (options : Options) :
    (∃ form, ∀ depth, ofTree { options with maxDepth := depth } root =
      if depth < InstanceVisit.levelsOf data then .error (.tooDeep .instanceData depth)
      else if !isReadableHead frame.head model data then .error .brokenOff
      else if depth < BodyVisit.levelsOf frame.body then .error (.tooDeep .body depth)
      else if !BodyVisit.areReadable frame.body then .error .brokenOff
      else .ok form) ∧
    ((∀ element ∈ root.descendants, element.hasPlainName = true) →
      InstanceVisit.levelsOf data = data.levels ∧
        isReadableHead frame.head model data = !model.hasBrokenBind data ∧
        BodyVisit.levelsOf frame.body = frame.body.openLevels ∧
        BodyVisit.areReadable frame.body = true) := by
  constructor
  · refine ⟨ofHead options (Head.ofInstance options frame.head model data) frame.body,
      fun depth => ?_⟩
    rw [ofTree_eq hframe hinstance, Head.ofInstance_maxDepth, ofHead_maxDepth]
  · intro hplain
    obtain ⟨hhead, hbody⟩ := Frame.mem_of_ofRoot hframe
    have hinHead : ∀ element ∈ frame.head.descendants, element.hasPlainName = true :=
      fun element helement => hplain element
        (Xml.mem_descendants_of_mem_elements hhead element (List.mem_cons_of_mem _ helement))
    have hinBody : ∀ element ∈ frame.body.descendants, element.hasPlainName = true :=
      fun element helement => hplain element
        (Xml.mem_descendants_of_mem_elements hbody element (List.mem_cons_of_mem _ helement))
    obtain ⟨hinData, hreadable⟩ := isReadableHead_eq hinstance hinHead
    have hbodyReadable := BodyVisit.areReadable_of_hasPlainName hinBody
    exact ⟨InstanceVisit.levelsOf_eq hinData, hreadable, BodyVisit.levelsOf_eq hbodyReadable,
      hbodyReadable⟩

/-- A form with two levels in its instance and four in its body, the last of which is an
element without children. -/
def nestedForm : Element :=
  documentOf [.text "Nested"]
    [Node.ofParts "instance" [] [Node.ofParts "data" [] [Node.ofParts "a" [] []]],
      Node.ofParts "bind" [("nodeset", "a"), ("relevant", "../b = '&#65;'")] []]
    [Node.ofParts "group" []
      [Node.ofParts "repeat" [("nodeset", "/data")]
        [Node.ofParts "group" [] [Node.ofParts "input" [("ref", "a")] []]]],
      Node.ofParts "input" [] [Node.ofParts "group" [] [Node.ofParts "group" [] []]]]

theorem ofTree_maxDepth_nestedForm :
    (∀ element ∈ nestedForm.descendants, element.hasPlainName = true) ∧
      ∃ form, ∀ depth, ofTree { maxDepth := depth } nestedForm =
        if depth < 2 then .error (.tooDeep .instanceData depth)
        else if depth < 4 then .error (.tooDeep .body depth)
        else .ok form := by
  have hplain : ∀ element ∈ nestedForm.descendants, element.hasPlainName = true := by
    decide +kernel
  obtain ⟨⟨form, hform⟩, hnames⟩ := @ofTree_maxDepth nestedForm _ _ _ rfl rfl {}
  obtain ⟨hdata, hhead, hbody, hreadable⟩ := hnames hplain
  refine ⟨hplain, form, fun depth => (hform depth).trans ?_⟩
  rw [hdata, hhead, hbody, hreadable]
  rfl

/-- An element in the instance with a prefix that is not bound makes the form break off. -/
example :
    (ofTree {} (documentOf [] [Node.ofParts "instance" []
      [Node.ofParts "data" [] [Node.ofParts "p:a" [] []]]] [])).map (·.basePath) =
        .error .brokenOff := by
  decide +kernel

/-- A reference to a character by a decimal number, of more digits than are read. -/
def longReference : String :=
  String.ofList ('&' :: '#' :: (List.replicate Text.digitLimit '0' ++ ['6', '5', ';']))

theorem not_hasShortReferences_longReference :
    Text.hasShortReferences longReference.toList = false := by
  rw [longReference, String.toList_ofList]
  refine Text.hasShortReferences_of_long ?_
  have hzeros : ∀ c ∈ List.replicate Text.digitLimit '0', c.isDigit = true := by
    intro c hc
    rw [List.eq_of_mem_replicate hc]
    rfl
  rw [List.takeWhile_append_of_pos hzeros, List.length_append, List.length_replicate]
  exact Nat.lt_add_of_pos_right (by decide)

/-- A bind with a calculation that breaks off. -/
def longCalculation : Element :=
  ⟨⟨none, "bind", [⟨none, "nodeset", "/data/a"⟩, ⟨none, "calculate", longReference⟩], [], []⟩, []⟩

theorem isUnreadable_longCalculation : longCalculation.isUnreadable = true := by
  have hlong : longCalculation.hasLongExpression = true := by
    rw [Element.hasLongExpression, List.any_eq_true]
    refine ⟨⟨none, "calculate", longReference⟩, by simp [longCalculation], ?_⟩
    rw [not_hasShortReferences_longReference]
    rfl
  rw [Element.isUnreadable, hlong, Bool.true_or]

/-- A form with that bind, which nests two levels deep. -/
def longCalculationForm : Element :=
  documentOf []
    [Node.ofParts "instance" [] [Node.ofParts "data" [] [Node.ofParts "a" [] []]],
      .element longCalculation]
    []

/-- However high the limit is, this form does not load. -/
theorem ofTree_longCalculationForm :
    ∃ frame model data, Frame.ofRoot longCalculationForm = .ok frame ∧
      Definitions.instanceRoot? frame.head = .ok (model, data) ∧
      data.levels = 2 ∧ frame.body.openLevels = 0 ∧
      ∀ depth, 2 ≤ depth →
        ofTree { maxDepth := depth } longCalculationForm = .error .brokenOff := by
  refine ⟨_, _, _, rfl, rfl, rfl, rfl, fun depth hdepth => ?_⟩
  refine ofTree_of_hasBrokenBind rfl rfl ?fits
    (List.any_eq_true.mpr ⟨longCalculation, List.mem_singleton_self _, ?breaks⟩)
  case fits => exact hdepth
  case breaks =>
    rw [breaksOff, show longCalculation.attribute? "nodeset" = some "/data/a" from rfl,
      Option.any_some, isUnreadable_longCalculation]
    decide

end Form

end SurveyForm
