import Mathlib.Data.List.TakeWhile
import SurveyForm.Form.Basic
import SurveyForm.Proofs.Findings
import SurveyForm.Proofs.Xml.Places
import SurveyForm.Proofs.Xml.Search
/-!
What the loading of a form goes through.  A form that loads has a frame, walks over its
instance and its body that nothing stops, and binds that all come to their end.
-/

namespace SurveyForm

open Xml (Element Node)

theorem InstanceVisit.within_eq_self {limit : Nat} {visits : List InstanceVisit}
    (hwalk : visits.findSome? (stop? limit) = none) : within limit visits = visits := by
  rw [List.findSome?_eq_none_iff] at hwalk
  rw [within, List.takeWhile_eq_self_iff]
  exact fun visit hvisit => Option.isNone_iff_eq_none.mpr (hwalk visit hvisit)

theorem BodyVisit.diagnostics_eq {limit : Nat} {visits : List BodyVisit}
    (hwalk : visits.findSome? (stop? limit) = none) :
    diagnostics limit visits = visits.filterMap diagnostic? := by
  rw [List.findSome?_eq_none_iff] at hwalk
  rw [diagnostics, List.takeWhile_eq_self_iff.mpr]
  exact fun visit hvisit => Option.isNone_iff_eq_none.mpr (hwalk visit hvisit)

/-- The checks of a root, one after the other. -/
theorem Frame.check_eq (root : Element) :
    check root =
      if root.name ≠ "html" then .error (.rootName root.name)
      else if root.tag.uri ≠ some xhtmlUri then .error .rootNamespace
      else
        match missingPrefix? root with
        | some prefixName => .error (.missingNamespace prefixName)
        | none =>
            (part root "head").bind fun head =>
              (part root "body").map fun body => ⟨head, body⟩ := by
  unfold check
  by_cases hname : root.name = "html"
  · by_cases huri : root.tag.uri = some xhtmlUri
    · cases missingPrefix? root with
      | some prefixName =>
          simp [hname, huri]
          rfl
      | none =>
          simp [hname, huri]
          rfl
    · simp [hname, huri]
      rfl
  · simp [hname]
    rfl

theorem Frame.check_of_ofRoot {root : Element} {frame : Frame} (hframe : ofRoot root = .ok frame) :
    check root = .ok frame := by
  unfold ofRoot at hframe
  split at hframe
  · cases hcheck : check root with
    | error cause =>
        rw [hcheck] at hframe
        contradiction
    | ok checked =>
        rw [hcheck] at hframe
        exact congrArg Except.ok (Except.ok.inj hframe)
  · contradiction

theorem Frame.mem_of_part {root found : Element} {name : String}
    (hpart : part root name = .ok found) : found ∈ root.elements := by
  unfold part at hpart
  split at hpart
  · next child hchildren =>
      obtain rfl := Except.ok.inj hpart
      exact (List.mem_filter.mp (hchildren ▸ List.mem_singleton_self child)).1
  · contradiction

/-- The parts of a frame are children of the root. -/
theorem Frame.mem_of_ofRoot {root : Element} {frame : Frame} (hframe : ofRoot root = .ok frame) :
    frame.head ∈ root.elements ∧ frame.body ∈ root.elements := by
  replace hframe := check_of_ofRoot hframe
  rw [check_eq] at hframe
  split at hframe
  · contradiction
  · split at hframe
    · contradiction
    · split at hframe
      · contradiction
      · cases hhead : part root "head" with
        | error cause =>
            rw [hhead] at hframe
            contradiction
        | ok head =>
            cases hbody : part root "body" with
            | error cause =>
                rw [hhead, hbody] at hframe
                contradiction
            | ok body =>
                rw [hhead, hbody] at hframe
                obtain rfl := Except.ok.inj hframe
                exact ⟨mem_of_part hhead, mem_of_part hbody⟩

/-- An instance that is found lies in the first model of the head. -/
theorem Definitions.child?_of_instanceRoot? {head model data : Element}
    (hinstance : instanceRoot? head = .ok (model, data)) :
    head.child? "model" = some model ∧
      ∃ holder, model.child? "instance" = some holder ∧ data ∈ holder.elements := by
  unfold instanceRoot? at hinstance
  split at hinstance
  · contradiction
  · contradiction
  · next found hmodel =>
      split at hinstance
      · contradiction
      · contradiction
      · next holder hholder =>
          split at hinstance
          · contradiction
          · next first rest helements =>
              obtain ⟨rfl, rfl⟩ := Prod.mk.inj (Except.ok.inj hinstance)
              exact ⟨Element.child?_of_seek? hmodel, holder, Element.child?_of_seek? hholder,
                helements ▸ List.mem_cons_self⟩

/-- The root of an instance is three levels below the head. -/
theorem Definitions.mem_of_instanceRoot? {head model data : Element}
    (hinstance : instanceRoot? head = .ok (model, data)) :
    model ∈ head.elements ∧ ∃ holder ∈ model.elements, data ∈ holder.elements := by
  obtain ⟨hmodel, holder, hholder, hdata⟩ := child?_of_instanceRoot? hinstance
  exact ⟨List.mem_of_find?_eq_some hmodel, holder, List.mem_of_find?_eq_some hholder, hdata⟩

/-- The definitions as the walk over an instance leaves them. -/
def Definitions.ofInstance (data : Element) : Definitions :=
  { basePath := some ("/" ++ data.name)
    fields := (InstanceVisit.ofRoot data).foldl InstanceVisit.record [] }

theorem InstanceVisit.path_head?_ofRoot (root : Element) :
    (ofRoot root).head?.map (·.path) = some ("/" ++ root.name) := by
  obtain ⟨tag, children⟩ := root
  simp [ofRoot, ofElement, Element.name]

theorem Definitions.recordInstance_eq_ofInstance {limit : Nat} {data : Element}
    (hwalk : (InstanceVisit.ofRoot data).findSome? (InstanceVisit.stop? limit) = none) :
    recordInstance limit {} data = ofInstance data := by
  simp only [recordInstance, InstanceVisit.within_eq_self hwalk, InstanceVisit.path_head?_ofRoot,
    Option.some_or]
  rfl

theorem Definitions.bindsMet_eq {model : Element}
    (hplain : model.elements.all (·.hasPlainName) = true) :
    bindsMet model = model.childrenNamed "bind" := by
  rw [bindsMet, List.takeWhile_eq_self_iff.mpr (List.all_eq_true.mp hplain)]
  rfl

/-- What a head defines once its binds are applied, if its texts can be read. -/
def Head.ofBound (options : Options) (bound : Definitions) (head model data : Element) : Head :=
  { bound.toFindings.reportAll options.warnOnDiagnostics
      (TranslationTable.diagnosticsOf (model.child? "itext")) with
    basePath := "/" ++ data.name
    fields := bound.fields
    translations := TranslationTable.ofElement options (model.child? "itext")
    title := Definitions.titleOf (head.childIn? xhtmlUri "title") }

/-- What a head defines if nothing stops it from being read. -/
def Head.ofInstance (options : Options) (head model data : Element) : Head :=
  ofBound options
    ((Definitions.ofInstance data).applyBinds options (model.childrenNamed "bind")).1 head model data

/-- Whether all names can be had that are asked for after the instance of a head and apart from
its binds: those of the children of its model, those below the translations, and those on the
way to its title. -/
def Definitions.hasPlainTexts (head model : Element) : Bool :=
  model.elements.all (·.hasPlainName) && (model.child? "itext").all (·.hasPlainDescendants) &&
    (head.seekIn? xhtmlUri "title").isSome

theorem Definitions.snd_loadTexts {options : Options} {bound : Definitions}
    {head model data : Element} (hplain : model.elements.all (·.hasPlainName) = true) :
    (bound.loadTexts options head model ("/" ++ data.name)).2 =
      if hasPlainTexts head model then .ok (Head.ofBound options bound head model data)
      else .error .brokenOff := by
  rw [hasPlainTexts, hplain, Bool.true_and, loadTexts, TranslationTable.read?]
  cases (model.child? "itext").all (·.hasPlainDescendants) with
  | false => rfl
  | true =>
      cases htitle : head.seekIn? xhtmlUri "title" with
      | none => rfl
      | some title =>
          rw [Head.ofBound, Element.childIn?_of_seekIn? htitle]
          rfl

/-- What stops a head with an instance from being read, in the order of the steps. -/
theorem Definitions.snd_load_eq {options : Options} {head model data : Element}
    (hinstance : instanceRoot? head = .ok (model, data)) :
    (Definitions.load options {} head).2 =
      match (InstanceVisit.ofRoot data).findSome? (InstanceVisit.stop? options.maxDepth) with
      | some cause => .error cause
      | none =>
          if ((ofInstance data).applyBinds options (model.childrenNamed "bind")).2 &&
              hasPlainTexts head model then
            .ok (Head.ofInstance options head model data)
          else .error .brokenOff := by
  simp only [load, hinstance]
  cases hwalk : (InstanceVisit.ofRoot data).findSome? (InstanceVisit.stop? options.maxDepth) with
  | some cause => rfl
  | none =>
      dsimp only
      rw [recordInstance_eq_ofInstance hwalk, Head.ofInstance]
      cases hplain : model.elements.all (·.hasPlainName) with
      | false => simp [hasPlainTexts, hplain]
      | true =>
          rw [bindsMet_eq hplain]
          cases hended : ((ofInstance data).applyBinds options (model.childrenNamed "bind")).2 with
          | false => rfl
          | true => exact snd_loadTexts hplain

/-- A head that can be read has an instance that fits the limit, binds that all come to their
end, and texts with plain names around them. -/
theorem Definitions.exists_of_load {options : Options} {head : Element} {result : Head}
    (hload : (Definitions.load options {} head).2 = .ok result) :
    ∃ model data bound, instanceRoot? head = .ok (model, data) ∧
      (ofInstance data).applyBinds options (model.childrenNamed "bind") = (bound, true) ∧
      hasPlainTexts head model = true ∧ result = Head.ofBound options bound head model data := by
  cases hinstance : instanceRoot? head with
  | error cause =>
      simp only [load, hinstance] at hload
      contradiction
  | ok found =>
      obtain ⟨model, data⟩ := found
      rw [snd_load_eq hinstance] at hload
      split at hload
      · contradiction
      · split at hload
        · next hended =>
            rw [Bool.and_eq_true] at hended
            exact ⟨model, data, _, rfl, Prod.ext rfl hended.1, hended.2,
              (Except.ok.inj hload).symm⟩
        · contradiction

namespace Form

/-- The form that a head and a body make up if nothing stops it from being loaded. -/
def ofHead (options : Options) (head : Head) (body : Element) : Form :=
  let reader : BodyReader := ⟨head.basePath, head.fields, options⟩
  { head.toFindings.reportAll options.warnOnDiagnostics
      ((BodyVisit.ofBody reader.basePath body).filterMap BodyVisit.diagnostic?) with
    basePath := head.basePath
    fields := head.fields
    translations := head.translations
    controls := (reader.buildNodes reader.basePath body.children).controls
    title := head.title }

/-- After its head, only the walk over its body can stop a form from being loaded. -/
theorem ofFrame_eq (options : Options) (frame : Frame) :
    ofFrame options frame =
      (Definitions.load options {} frame.head).2.bind fun head =>
        match (BodyVisit.ofBody head.basePath frame.body).findSome?
            (BodyVisit.stop? options.maxDepth) with
        | some cause => .error cause
        | none => .ok (ofHead options head frame.body) := by
  rw [ofFrame]
  cases (Definitions.load options {} frame.head).2 with
  | error cause => rfl
  | ok head =>
      simp only [bind, Except.bind, BodyReader.build, BodyReader.diagnostics]
      cases hwalk : (BodyVisit.ofBody head.basePath frame.body).findSome?
          (BodyVisit.stop? options.maxDepth) with
      | some cause => rfl
      | none =>
          rw [BodyVisit.diagnostics_eq hwalk]
          rfl

/-- What a form is loaded from: its frame, the model and the root of its instance, and the
definitions after all binds. -/
structure Source (options : Options) (root : Element) where
  frame : Frame
  model : Element
  data : Element
  bound : Definitions
  frame_eq : Frame.ofRoot root = .ok frame
  instance_eq : Definitions.instanceRoot? frame.head = .ok (model, data)
  binds_eq : (Definitions.ofInstance data).applyBinds options (model.childrenNamed "bind") =
    (bound, true)
  texts_plain : Definitions.hasPlainTexts frame.head model = true

variable {options : Options} {root : Element}

/-- The form that is loaded from a source. -/
def Source.form (source : Source options root) : Form :=
  ofHead options (Head.ofBound options source.bound source.frame.head source.model source.data)
    source.frame.body

/-- The findings of a form are those of its binds, of its translations and of its body. -/
theorem Source.diagnostics_form (source : Source options root) :
    source.form.diagnostics = source.bound.diagnostics ++
      TranslationTable.diagnosticsOf (source.model.child? "itext") ++
        (BodyVisit.ofBody ("/" ++ source.data.name) source.frame.body).filterMap
          BodyVisit.diagnostic? := by
  rw [← Findings.diagnostics_reportAll options.warnOnDiagnostics,
    ← Findings.diagnostics_reportAll options.warnOnDiagnostics]
  rfl

/-- A form that loads is loaded from a source. -/
theorem exists_source_of_ofTree {form : Form} (hload : Form.ofTree options root = .ok form) :
    ∃ source : Source options root, form = source.form := by
  cases hframe : Frame.ofRoot root with
  | error cause =>
      rw [ofTree, hframe] at hload
      contradiction
  | ok frame =>
      rw [ofTree, hframe] at hload
      replace hload : ofFrame options frame = .ok form := hload
      rw [ofFrame_eq] at hload
      cases hhead : (Definitions.load options {} frame.head).2 with
      | error cause =>
          rw [hhead] at hload
          contradiction
      | ok head =>
          simp only [hhead, Except.bind] at hload
          obtain ⟨model, data, bound, hinstance, hbinds, htexts, rfl⟩ :=
            Definitions.exists_of_load hhead
          split at hload
          · contradiction
          · exact ⟨⟨frame, model, data, bound, hframe, hinstance, hbinds, htexts⟩,
              (Except.ok.inj hload).symm⟩

/-- What is made of a form that loads says that it loads. -/
theorem exists_ofTree_of_map_eq {options : Options} {root : Element} {α : Type} {view : Form → α}
    {value : α} (hview : (ofTree options root).map view = .ok value) :
    ∃ form, ofTree options root = .ok form ∧ view form = value := by
  cases hload : ofTree options root with
  | error cause =>
      rw [hload] at hview
      contradiction
  | ok form =>
      rw [hload] at hview
      exact ⟨form, rfl, Except.ok.inj hview⟩

/-- A document with the given nodes in its title, its model and its body. -/
def documentOf (title model body : List Node) : Element :=
  let tag (name : String) : Xml.Tag := ⟨some xhtmlUri, name, [], requiredBindings, []⟩
  ⟨tag "html",
    [.element ⟨tag "head", [.element ⟨tag "title", title⟩, Node.ofParts "model" [] model]⟩,
      .element ⟨tag "body", body⟩]⟩

end Form

end SurveyForm
