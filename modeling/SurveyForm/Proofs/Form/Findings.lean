import SurveyForm.Proofs.Bind.Findings
import SurveyForm.Proofs.Body.LooseRepeats
import SurveyForm.Proofs.Form.Layout
/-!
What a form that loads reports: the findings of its binds, of its translations and of the
repeats in its body, and nothing else.
-/

namespace SurveyForm

open Xml (Element Node Place)

/-- Whether an entry has no id, or a value without any content. -/
def isMalformedEntry (entry : Element) : Bool :=
  (entry.attribute? "id").isNone || entry.elements.any (·.children.isEmpty)

/-- The findings of a block of translations. -/
def translationFindings (block : Element) : List Diagnostic :=
  match block.attribute? "lang" with
  | none => [.translationWithoutLanguage]
  | some language =>
      ((block.descendantsNamed "text").filter isMalformedEntry).map fun entry =>
        .malformedEntry (entry.attribute? "id") language

theorem not_isWellFormed_eq (entry : Element) :
    (!TextEntry.isWellFormed entry) = isMalformedEntry entry := by
  have hempty : ∀ value : Element, value.isEmpty = value.children.isEmpty := by
    intro value
    rw [Bool.eq_iff_iff, Xml.Element.isEmpty_iff, List.isEmpty_iff]
  simp [TextEntry.isWellFormed, isMalformedEntry, hempty, Bool.not_and, List.all_eq_not_any_not]

namespace TranslationTable

/-- Where all names in a block can be had, all of its entries are met. -/
theorem diagnosticsIn_eq {block : Element} (hplain : block.hasPlainDescendants = true) :
    diagnosticsIn block = translationFindings block := by
  rw [diagnosticsIn, translationFindings, Xml.Element.metBelow_eq hplain]
  cases block.attribute? "lang" with
  | none => rfl
  | some language => simp only [not_isWellFormed_eq]

theorem blocksRead_eq_self {blocks : List Element}
    (hplain : ∀ block ∈ blocks, block.hasPlainDescendants = true) : blocksRead blocks = blocks := by
  induction blocks with
  | nil => rfl
  | cons block rest ih =>
      obtain ⟨hfirst, hrest⟩ := List.forall_mem_cons.mp hplain
      rw [blocksRead, breaksInside, hfirst, Bool.not_true, Bool.and_false,
        if_neg Bool.false_ne_true, ih hrest]

/-- The findings of translations that can be read come one block after the other. -/
theorem diagnosticsOf_eq {itext : Option Element}
    (hplain : itext.all (·.hasPlainDescendants) = true) :
    diagnosticsOf itext = (blockElements itext).flatMap translationFindings := by
  cases itext with
  | none => rfl
  | some itext =>
      have hitext : itext.hasPlainDescendants = true := hplain
      have hblocks : ∀ block ∈ itext.descendantsNamed "translation",
          block.hasPlainDescendants = true := by
        intro block hblock
        have hinside := Xml.descendants_subset (List.mem_filter.mp hblock).1
        rw [Xml.Element.hasPlainDescendants_iff] at hitext ⊢
        exact fun element helement => hitext element (hinside helement)
      rw [diagnosticsOf, Xml.Element.metBelow_eq hitext, blocksRead_eq_self hblocks, blockElements]
      exact List.flatMap_congr fun block hblock => diagnosticsIn_eq (hblocks block hblock)

end TranslationTable

/-- The walk over an instance states no expressions. -/
theorem Definitions.wholes_of_mem_ofInstance {data : Element} {field : Field}
    (hfield : field ∈ (ofInstance data).fields) : field.wholes = [] := by
  have hnone : ∀ field ∈ (ofInstance data).fields, field.wholes = [] := by
    refine InstanceVisit.forall_mem_foldl_record (fun _ => rfl) (fun visit field hfield => ?_) _
      (by simp)
    unfold InstanceVisit.change
    split
    · exact hfield
    · exact hfield
  exact hnone field hfield

theorem Definitions.reported_ofInstance (data : Element) : (ofInstance data).Reported := by
  intro field hfield text htext
  rw [wholes_of_mem_ofInstance hfield] at htext
  contradiction

namespace Form

variable {options : Options} {root : Element} {form : Form}

/-- The translations of a form that loads are read to their end. -/
theorem Source.diagnosticsOf_itext (source : Source options root) :
    TranslationTable.diagnosticsOf (source.model.child? "itext") =
      (TranslationTable.blockElements (source.model.child? "itext")).flatMap
        translationFindings := by
  have htexts := source.texts_plain
  rw [Definitions.hasPlainTexts, Bool.and_eq_true, Bool.and_eq_true] at htexts
  exact TranslationTable.diagnosticsOf_eq htexts.1.2

/-- There are warnings about just what is reported, step after step. -/
theorem Source.announced_form (source : Source options root) :
    source.form.Announced options.warnOnDiagnostics := by
  have hstart : (Definitions.ofInstance source.data).Announced options.warnOnDiagnostics :=
    Findings.announced_empty options.warnOnDiagnostics
  have hbound := Definitions.announced_applyBinds hstart (source.model.childrenNamed "bind")
  rw [source.binds_eq] at hbound
  exact (hbound.reportAll _).reportAll _

/-- The findings of a form that loads are those of the binds of its model, then those of its
translations, then those about the repeats that are reached in its body.  What could not be
read and stays in a field is among them, and they are what there are warnings about. -/
theorem diagnostics_of_ofTree (hload : Form.ofTree options root = .ok form) :
    ∃ frame model data, Frame.ofRoot root = .ok frame ∧
      Definitions.instanceRoot? frame.head = .ok (model, data) ∧
      form.diagnostics =
        (model.childrenNamed "bind").flatMap
            (bindFindings options ("/" ++ data.name) form.fields.paths) ++
          (TranslationTable.blockElements (model.child? "itext")).flatMap translationFindings ++
          Place.repeatFindings ("/" ++ data.name)
            ((Place.below frame.body).filter Place.isReached) ∧
      (∀ field ∈ form.fields, ∀ text, .unparsed text ∈ field.wholes →
        .unrecognized text field.path ∈ form.diagnostics) ∧
      form.warnings =
        if options.warnOnDiagnostics then form.diagnostics.map Diagnostic.message else [] := by
  obtain ⟨source, rfl⟩ := exists_source_of_ofTree hload
  refine ⟨source.frame, source.model, source.data, source.frame_eq, source.instance_eq, ?_, ?_,
    source.announced_form⟩
  · have hpaths : source.form.fields.paths = (Definitions.ofInstance source.data).fields.paths :=
      FieldMap.paths_eq_of_outline_eq source.outline_fields
    have hbinds := Definitions.diagnostics_applyBinds rfl source.binds_eq
    rw [source.diagnostics_form, hpaths, ← source.diagnosticsOf_itext, ← BodyVisit.findings_ofBody,
      hbinds]
    rfl
  · intro field hfield text htext
    have hreported := (Definitions.reported_ofInstance source.data).applyBinds source.binds_eq
    rw [source.diagnostics_form]
    exact List.mem_append_left _ (List.mem_append_left _ (hreported field hfield text htext))

/-- A form with something wrong in each of its parts: binds without a field and with texts
that cannot be read, a block without a language and entries without an id or a value, and
repeats inside and outside a group. -/
def flawedForm : Element :=
  let bind (attributes : List (String × String)) := Node.ofParts "bind" attributes []
  let entry (attributes : List (String × String)) (content : List Node) :=
    Node.ofParts "text" attributes [Node.ofParts "value" [] content]
  let question := Node.ofParts "input" [("ref", "a")] [Node.ofParts "label" [] []]
  documentOf [.text "Flawed"]
    [Node.ofParts "instance" []
        [Node.ofParts "data" [] [Node.ofParts "a" [] [.text "1"], Node.ofParts "r" [] []]],
      bind [("type", "int")],
      bind [("nodeset", "/data/b")],
      bind [("calculate", "f(1)"), ("nodeset", "a"), ("constraint", ". > 1 and g(2) or h(3)"),
        ("relevant", "selected(../r, 'x')")],
      Node.ofParts "itext" []
        [Node.ofParts "translation" [] [entry [] []],
          Node.ofParts "translation" [("lang", "en")]
            [entry [("id", "x")] [], entry [("id", "y")] [.comment], entry [] [.text "z"]]]]
    [Node.ofParts "repeat" [("nodeset", "r")] [Node.ofParts "repeat" [("nodeset", "s")] [question]],
      Node.ofParts "group" [] [Node.ofParts "repeat" [] [question]]]

/-- What is found wrong with it, without the wording. -/
def flawedFindings : List (DiagnosticKind × Option String) :=
  [(.bindMismatch, none), (.bindMismatch, some "/data/b"),
    (.unrecognizedExpression, some "/data/a"), (.unrecognizedExpression, some "/data/a"),
    (.unrecognizedExpression, some "/data/a"), (.translationEntry, none),
    (.translationEntry, some "x"), (.translationEntry, none),
    (.repeatOutsideGroup, some "/data/r"), (.repeatOutsideGroup, some "/data/r/s")]

theorem diagnostics_of_ofTree_flawedForm :
    ∃ form frame model data, Form.ofTree { warnOnDiagnostics := true } flawedForm = .ok form ∧
      form.diagnostics.map (fun found => (found.kind, found.source)) = flawedFindings ∧
      form.fields.map (·.wholes.countP ExprOver.isUnparsed) = [0, 3, 0] ∧
      form.warnings.head? = some "Bind without nodeset ignored" ∧
      Frame.ofRoot flawedForm = .ok frame ∧
      Definitions.instanceRoot? frame.head = .ok (model, data) ∧
      form.diagnostics =
        (model.childrenNamed "bind").flatMap
            (bindFindings { warnOnDiagnostics := true } ("/" ++ data.name) form.fields.paths) ++
          (TranslationTable.blockElements (model.child? "itext")).flatMap translationFindings ++
          Place.repeatFindings ("/" ++ data.name)
            ((Place.below frame.body).filter Place.isReached) ∧
      (∀ field ∈ form.fields, ∀ text, .unparsed text ∈ field.wholes →
        .unrecognized text field.path ∈ form.diagnostics) ∧
      form.warnings = form.diagnostics.map Diagnostic.message := by
  have hview : (Form.ofTree { warnOnDiagnostics := true } flawedForm).map (fun form =>
      (form.diagnostics.map (fun found => (found.kind, found.source)),
        form.fields.map (·.wholes.countP ExprOver.isUnparsed), form.warnings.head?)) =
      .ok (flawedFindings, [0, 3, 0], some "Bind without nodeset ignored") := by
    decide +kernel
  obtain ⟨form, hload, hmade⟩ := exists_ofTree_of_map_eq hview
  obtain ⟨frame, model, data, hframe, hinstance, hclauses⟩ := diagnostics_of_ofTree hload
  exact ⟨form, frame, model, data, hload, congrArg (·.1) hmade, congrArg (·.2.1) hmade,
    congrArg (·.2.2) hmade, hframe, hinstance, hclauses⟩

/-- A form with a repeat inside a question. -/
def repeatInQuestion : Element :=
  documentOf [] [Node.ofParts "instance" [] [Node.ofParts "data" [] []]]
    [Node.ofParts "input" [] [Node.ofParts "repeat" [] [Node.ofParts "input" [] []]]]

/-- There is no finding about a repeat without a group that lies inside a question. -/
theorem diagnostics_ne_of_repeatInQuestion :
    ∃ form frame model data, Form.ofTree {} repeatInQuestion = .ok form ∧
      Frame.ofRoot repeatInQuestion = .ok frame ∧
      Definitions.instanceRoot? frame.head = .ok (model, data) ∧
      form.diagnostics ≠
        (model.childrenNamed "bind").flatMap
            (bindFindings {} ("/" ++ data.name) form.fields.paths) ++
          (TranslationTable.blockElements (model.child? "itext")).flatMap translationFindings ++
          Place.repeatFindings ("/" ++ data.name) (Place.below frame.body) := by
  have hfindings : (Form.ofTree {} repeatInQuestion).map (·.diagnostics) = .ok [] := by decide +kernel
  cases hload : Form.ofTree {} repeatInQuestion with
  | error cause =>
      rw [hload] at hfindings
      contradiction
  | ok form =>
      rw [hload] at hfindings
      refine ⟨form, _, _, _, rfl, rfl, rfl, ?_⟩
      rw [show form.diagnostics = [] from Except.ok.inj hfindings]
      intro heq
      have hrepeat := (List.append_eq_nil_iff.mp heq.symm).2
      revert hrepeat
      decide

end Form

end SurveyForm
