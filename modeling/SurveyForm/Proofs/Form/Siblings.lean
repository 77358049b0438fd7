import SurveyForm.Proofs.Bind.Stated
import SurveyForm.Proofs.Body.References
import SurveyForm.Proofs.Expr.Operands
import SurveyForm.Proofs.Form.Findings
import SurveyForm.Proofs.Report.Coverage
/-!
References to siblings.  A field can be named from the field beside it by a step up, inside a
repeat over the container of both by its name, and everywhere by its absolute path; a bind can
name it by its name if the container is the whole instance.  All of these lead to the one path.
-/

namespace SurveyForm

open Xml (Element Node Place IsPlainName IsPlainPath)

theorem Xml.Place.basePath_of_getLast? {place : Place} {nodeset : String}
    (hnearest : place.nodesetsAround.getLast? = some nodeset)
    (habsolute : Path.IsAbsolute nodeset) (root : String) : place.basePath root = nodeset := by
  obtain ⟨front, hfront⟩ := List.getLast?_eq_some_iff.mp hnearest
  rw [basePath, hfront, List.foldl_append, List.foldl_cons, List.foldl_nil, habsolute.resolve_eq]

/-- What is found wrong with a setting is that an expression could not be read. -/
theorem Setting.kind_of_mem_diagnostics {path : String} {setting : Setting} {found : Diagnostic}
    (hfound : found ∈ setting.diagnostics path) : found.kind = .unrecognizedExpression := by
  rw [diagnostics_eq] at hfound
  obtain ⟨expr, -, hexpr⟩ := List.mem_filterMap.mp hfound
  cases expr with
  | unparsed text =>
      obtain rfl := Option.some.inj hexpr
      rfl
  | _ => contradiction

namespace Definitions

variable {options : Options} {definitions bound : Definitions} {bind : Element} {path : String}

/-- If all binds come to their end, so does each of them after those before it. -/
theorem ended_of_applyBinds {before rest : List Element}
    (hbinds : definitions.applyBinds options (before ++ bind :: rest) = (bound, true)) :
    ((definitions.applyEach options before).applyBind options bind).2 ≠ .brokenOff := by
  induction before generalizing definitions with
  | nil => exact (applyBinds_cons hbinds).1
  | cons first before ih => exact ih (applyBinds_cons hbinds).2

/-- Whether a bind makes its settings at a path, and is not reported as a mismatch. -/
structure SetsAt (options : Options) (definitions : Definitions) (bind : Element)
    (path : String) : Prop where
  applied : (definitions.applyBind options bind).2 = .applied
  fields_eq : (definitions.applyBind options bind).1.fields =
    definitions.fields.modify path fun field =>
      (Setting.madeBy options path bind).foldl Setting.apply field
  reports : ∃ found : List Diagnostic,
    (definitions.applyBind options bind).1.diagnostics = definitions.diagnostics ++ found ∧
      ∀ diagnostic ∈ found, diagnostic.kind ≠ .bindMismatch

/-- So does a bind that comes to its end and means a field. -/
theorem setsAt_of_mem (hmeant : definitions.pathOf? bind = some path)
    (hpath : path ∈ definitions.fields.paths)
    (hended : (definitions.applyBind options bind).2 ≠ .brokenOff) :
    definitions.SetsAt options bind path := by
  obtain ⟨nodeset, hnodeset, rfl⟩ := Option.map_eq_some_iff.mp hmeant
  have happlies := applies_applyBind options definitions bind
  generalize hresult : definitions.applyBind options bind = result at happlies hended
  cases happlies with
  | unnamed hnone =>
      rw [hnodeset] at hnone
      contradiction
  | mismatched hother hmissing =>
      obtain rfl := Option.some.inj (hnodeset.symm.trans hother)
      exact absurd hpath hmissing
  | brokenOff => exact absurd rfl hended
  | @applied other settings hother _ hfound =>
      obtain rfl := Option.some.inj (hnodeset.symm.trans hother)
      have hmade : Setting.madeBy options (definitions.resolveNodeset nodeset) bind = settings := by
        rw [Setting.madeBy, hfound, (Setting.beforeBreak_map_some settings []).2]
      constructor
      case applied => rw [hresult]
      case fields_eq =>
        rw [hresult, hmade]
        rfl
      case reports =>
        rw [hresult]
        refine ⟨_, diagnostics_reportSettings .., fun diagnostic hdiagnostic => ?_⟩
        obtain ⟨setting, -, hmem⟩ := List.mem_flatMap.mp hdiagnostic
        rw [Setting.kind_of_mem_diagnostics hmem]
        decide

end Definitions

namespace Form

variable {options : Options} {root : Element} {form : Form} {container name other : String}

/-- Two fields right inside one container, of which the names are local names without blanks. -/
structure Siblings (form : Form) (container name other : String) : Prop where
  container_mem : container ∈ form.fields.paths
  name_mem : container ++ "/" ++ name ∈ form.fields.paths
  other_mem : container ++ "/" ++ other ∈ form.fields.paths
  container_plain : IsPlainPath container
  name_plain : IsPlainName name
  other_plain : IsPlainName other

/-- The ways to write the sibling of a field in the logic of the field: by a step up, and by its
absolute path. -/
def siblingReferences (container other : String) : List String :=
  ["../" ++ other, container ++ "/" ++ other]

/-- Whether what a reference was resolved to is the path of a field, and is reported neither as
unknown nor as a question without a field. -/
def Finds (form : Form) (target : String) (resolved : Option String) : Prop :=
  resolved = some target ∧ ∀ path, resolved = some path → ∀ depthLimit,
    path ∉ (Report.ofForm form depthLimit).logic.undefinedReferences ∧
      path ∉ (Report.ofForm form depthLimit).unboundQuestions

/-- Whether an expression is read from an attribute at a field, and finds the sibling of the
field wherever an operand is written as a reference to it. -/
def ReadsSibling (options : Options) (form : Form) (container name other attrName raw : String)
    (expr : Expr) : Prop :=
  Expr.readUnder? options (container ++ "/" ++ name) attrName raw = some expr ∧
    ∃ text, Expr.plainText? raw = some text ∧
      Expr.Refers (container ++ "/" ++ name) (siblingReferences container other)
        (fun node => form.Finds (container ++ "/" ++ other) node.ownPath?) expr text

/-- All ways to name a field agree that its sibling in the same container can use: in the binds
of the sibling, in a body, and in the nodesets of binds.  What they name is never reported. -/
structure NamesSibling (options : Options) (form : Form) (model data body : Element)
    (container name other : String) : Prop where
  /-- A bind that means the sibling sets what its attributes state, and they find the field
  wherever an operand is written so. -/
  stated : ∀ before bind rest, model.childrenNamed "bind" = before ++ bind :: rest →
    (Definitions.ofInstance data).pathOf? bind = some (container ++ "/" ++ name) →
    ((Definitions.ofInstance data).applyEach options before).SetsAt options bind
        (container ++ "/" ++ name) ∧
      ∀ attr ∈ bind.tag.attributes,
        bind.tag.attributeName attr ∈ ["calculate", "constraint", "relevant"] →
        ∃ expr ∈ Setting.statedBy options (container ++ "/" ++ name) bind
            (bind.tag.attributeName attr),
          form.ReadsSibling options container name other (bind.tag.attributeName attr)
            attr.value expr
  /-- The logic that the sibling is left with has been read so from such a bind. -/
  logic : ∀ field ∈ form.fields, field.path = container ++ "/" ++ name →
    ∀ attrName expr, field.expr? attrName = some expr →
      ∃ bind ∈ model.childrenNamed "bind",
        (Definitions.ofInstance data).pathOf? bind = some (container ++ "/" ++ name) ∧
        ∃ attr ∈ bind.tag.attributes, bind.tag.attributeName attr = attrName ∧
          form.ReadsSibling options container name other attrName attr.value expr
  /-- A bind that means the sibling and has a test in the documented syntax as a value states
  this test of the field. -/
  tests : ∀ bind ∈ model.childrenNamed "bind",
    (Definitions.ofInstance data).pathOf? bind = some (container ++ "/" ++ name) →
    ∀ attr ∈ bind.tag.attributes, ∀ test, Expr.Tests test →
      ∀ reference ∈ siblingReferences container other,
        attr.value = String.ofList (Expr.written (test reference)) →
        (bind.tag.attributeName attr = "calculate" →
          test (container ++ "/" ++ other) ∈
            Setting.statedBy options (container ++ "/" ++ name) bind "calculate") ∧
        ∀ condition ∈ ["constraint", "relevant"], bind.tag.attributeName attr = condition →
          .group [.one (test (container ++ "/" ++ other))] ∈
            Setting.statedBy options (container ++ "/" ++ name) bind condition
  /-- Each control of the body that is written so finds the field, by the name alone where the
  nearest repeat with a nodeset is over the container. -/
  controls : List.Forall₂
    (fun place control =>
      (place.element.attribute? "ref" = some other ∧
          place.nodesetsAround.getLast? = some container ∨
        place.element.attribute? "ref" = some (container ++ "/" ++ other)) →
      form.Finds (container ++ "/" ++ other) control.ref)
    ((Place.below body).filter Place.isControl) form.allControls
  /-- Each bind of the model that is written so makes its settings at the field, by the name
  alone if the container is the whole instance. -/
  binds : ∀ before bind rest, model.childrenNamed "bind" = before ++ bind :: rest →
    (bind.attribute? "nodeset" = some other ∧ container = form.basePath ∨
      bind.attribute? "nodeset" = some (container ++ "/" ++ other)) →
    ((Definitions.ofInstance data).applyEach options before).SetsAt options bind
      (container ++ "/" ++ other)

namespace Siblings

theorem resolve_eq (hsiblings : form.Siblings container name other)
    (habsolute : Path.IsAbsolute container) :
    ∀ reference ∈ siblingReferences container other,
      Expr.WrapperText reference ∧
        Path.resolve reference (container ++ "/" ++ name) = container ++ "/" ++ other := by
  have hother : Path.IsAbsolute (container ++ "/" ++ other) :=
    (habsolute.append "/").append other
  have hplain : IsPlainPath (container ++ "/" ++ other) := by
    apply IsPlainPath.append _ hsiblings.other_plain.isPlainPath
    exact hsiblings.container_plain.append (by decide)
  intro reference hreference
  simp only [siblingReferences, List.mem_cons, List.not_mem_nil, or_false] at hreference
  rcases hreference with rfl | rfl
  · exact ⟨hsiblings.other_plain.wrapperText_up,
      Path.resolve_up container other hsiblings.name_plain.slash_not_mem⟩
  · exact ⟨(hplain.pathText hother).toWrapperText, hother.resolve_eq _⟩

end Siblings

/-- Whatever is read from an attribute at a field finds the sibling of the field. -/
theorem Siblings.readsSibling (hsiblings : form.Siblings container name other)
    (habsolute : Path.IsAbsolute container)
    (hfound : form.Finds (container ++ "/" ++ other) (some (container ++ "/" ++ other)))
    {attrName raw : String} {expr : Expr}
    (hread : Expr.readUnder? options (container ++ "/" ++ name) attrName raw = some expr) :
    form.ReadsSibling options container name other attrName raw expr := by
  obtain ⟨text, htext, hsliced⟩ :=
    Expr.exists_sliced_of_read (Expr.parse?_or_parseGroup?_of_readUnder? hread)
  refine ⟨hread, text, htext, hsliced.refers fun reference hreference node hnode => ?_⟩
  rw [(hsiblings.resolve_eq habsolute reference hreference).2] at hnode
  rwa [hnode]

theorem finds_of_mem_paths (hload : Form.ofTree options root = .ok form) {path : String}
    (hpath : path ∈ form.fields.paths) : form.Finds path (some path) := by
  have hrefs := isAbsolute_ref_of_mem_questions hload
  have habsolute := isAbsolute_of_mem_paths hload path hpath
  refine ⟨rfl, fun found hfound depthLimit => ?_⟩
  obtain rfl := Option.some.inj hfound
  constructor
  · exact fun hunknown => (mem_undefinedReferences_iff.mp hunknown).2 hpath
  · intro hunbound
    rcases (mem_unboundQuestions_iff hrefs).mp hunbound with ⟨-, hmissing⟩ | ⟨hlisted, -⟩
    · exact hmissing hpath
    · rw [hlisted] at habsolute
      revert habsolute
      decide

theorem Source.builtAt (source : Source options root) :
    List.Forall₂
      (BodyReader.BuiltAt ⟨source.form.basePath, source.form.fields, options⟩)
      ((Place.below source.frame.body).filter Place.isControl) source.form.allControls :=
  BodyReader.forall₂_builtAt source.frame.body

theorem Source.mem_paths_iff (source : Source options root) {path : String} :
    path ∈ (Definitions.ofInstance source.data).fields.paths ↔ path ∈ source.form.fields.paths := by
  rw [← FieldMap.paths_eq_of_outline_eq source.outline_fields]

/-- Whatever binds came before, a bind that means a field makes its settings there. -/
theorem Source.setsAt_of_bind (source : Source options root) {before rest : List Element}
    {bind : Element} {path : String}
    (hbinds : source.model.childrenNamed "bind" = before ++ bind :: rest)
    (hmeant : (Definitions.ofInstance source.data).pathOf? bind = some path)
    (hpath : path ∈ source.form.fields.paths) :
    ((Definitions.ofInstance source.data).applyEach options before).SetsAt options bind path := by
  have happlied := source.binds_eq
  rw [hbinds] at happlied
  obtain ⟨houtline, hbase⟩ := Definitions.outline_foldl_applyBind options
    (Definitions.ofInstance source.data) before
  apply Definitions.setsAt_of_mem _ _ (Definitions.ended_of_applyBinds happlied)
  · rwa [Definitions.applyEach, Definitions.pathOf?_congr hbase]
  · rwa [Definitions.applyEach, FieldMap.paths_eq_of_outline_eq houtline, source.mem_paths_iff]

theorem Source.isUnreadable_eq_false (source : Source options root) {bind : Element}
    {path : String} (hbind : bind ∈ source.model.childrenNamed "bind")
    (hmeant : (Definitions.ofInstance source.data).pathOf? bind = some path)
    (hpath : path ∈ source.form.fields.paths) : bind.isUnreadable = false :=
  Definitions.isUnreadable_of_applyBinds rfl source.binds_eq hbind hmeant
    (source.mem_paths_iff.mpr hpath)

/-- Whatever form loads, all ways to name a sibling agree in it. -/
theorem namesSibling_of_ofTree (hload : Form.ofTree options root = .ok form)
    (hsiblings : form.Siblings container name other) :
    ∃ frame model data, Frame.ofRoot root = .ok frame ∧
      Definitions.instanceRoot? frame.head = .ok (model, data) ∧
      form.NamesSibling options model data frame.body container name other := by
  have habsolute := isAbsolute_of_mem_paths hload container hsiblings.container_mem
  have hother := isAbsolute_of_mem_paths hload _ hsiblings.other_mem
  have hfound := finds_of_mem_paths hload hsiblings.other_mem
  have hpaths := nodup_paths_of_ofTree hload
  obtain ⟨source, rfl⟩ := exists_source_of_ofTree hload
  refine ⟨source.frame, source.model, source.data, source.frame_eq, source.instance_eq, ?_⟩
  constructor
  case stated =>
    intro before bind rest hbinds hmeant
    have hbind : bind ∈ source.model.childrenNamed "bind" := by simp [hbinds]
    have hreadable := source.isUnreadable_eq_false hbind hmeant hsiblings.name_mem
    refine ⟨source.setsAt_of_bind hbinds hmeant hsiblings.name_mem, fun attr hattr hname => ?_⟩
    obtain ⟨expr, hexpr, hread⟩ := Setting.exists_mem_statedBy hreadable hattr hname
    exact ⟨expr, hexpr, hsiblings.readsSibling habsolute hfound hread⟩
  case logic =>
    intro field hfield hpath attrName expr hexpr
    obtain ⟨bind, hbind, hmeant, attr, hattr, hname, hread⟩ :=
      Definitions.exists_readUnder?_of_expr? source.binds_eq hpaths
        (fun _ => Definitions.logic_of_mem_ofInstance) hfield hexpr
    rw [hpath] at hmeant hread
    exact ⟨bind, hbind, hmeant, attr, hattr, hname,
      hsiblings.readsSibling habsolute hfound hread⟩
  case tests =>
    intro bind hbind hmeant attr hattr test htest reference hreference hvalue
    obtain ⟨hword, hresolve⟩ := hsiblings.resolve_eq habsolute reference hreference
    have hreadable := source.isUnreadable_eq_false hbind hmeant hsiblings.name_mem
    have hparse := @Expr.Tests.parse_eq (container ++ "/" ++ name) reference test htest hword
      options.maxExpressionDepth
    rw [← hvalue, hresolve] at hparse
    constructor
    · intro hname
      exact Setting.mem_statedBy hreadable hattr hname List.mem_cons_self hparse.1
    · intro condition hcondition hname
      apply Setting.mem_statedBy hreadable hattr hname (List.mem_cons_of_mem _ hcondition)
      exact (Expr.readUnder?_condition hcondition).trans hparse.2
  case controls =>
    apply source.builtAt.imp
    intro place control hbuilt hwritten
    have href : control.ref = some (container ++ "/" ++ other) := by
      rw [hbuilt.ref_eq]
      rcases hwritten with ⟨href, hnearest⟩ | href
      · rw [href, Option.map_some, Place.basePath_of_getLast? hnearest habsolute,
          Path.resolve_name container hsiblings.other_plain]
      · rw [href, Option.map_some, hother.resolve_eq]
    rwa [href]
  case binds =>
    intro before bind rest hbinds hnodeset
    apply source.setsAt_of_bind hbinds _ hsiblings.other_mem
    have hresolve := @Definitions.resolveNodeset_of_basePath (Definitions.ofInstance source.data)
      source.form.basePath rfl
    rcases hnodeset with ⟨hnodeset, hcontainer⟩ | hnodeset
    · rw [Definitions.pathOf?, hnodeset, Option.map_some, hresolve, hcontainer]
      exact congrArg some (if_neg hsiblings.other_plain.not_isAbsolute)
    · rw [Definitions.pathOf?, hnodeset, Option.map_some, hresolve]
      exact congrArg some (if_pos hother)

/-- A form with two fields right inside its instance and two in a group of it, which name one
another in all of these ways. -/
def siblingForm : Element :=
  let leaf (name : String) := Node.ofParts name [] []
  let bind (attributes : List (String × String)) := Node.ofParts "bind" attributes []
  let input (ref : String) := Node.ofParts "input" [("ref", ref)] [Node.ofParts "label" [] []]
  documentOf [.text "Siblings"]
    [Node.ofParts "instance" []
        [Node.ofParts "data" [] [leaf "a", leaf "b", Node.ofParts "g" [] [leaf "n", leaf "s.1"]]],
      bind [("nodeset", "a"), ("constraint", "../b = 'x'"),
        ("relevant", "../b != 'x' or regex(/data/b, 'y')")],
      bind [("nodeset", "b"), ("required", "true()")],
      bind [("nodeset", "g/n"), ("calculate", "if(count(../s.1) > 1, ../s.1 = '', 'z')")],
      bind [("nodeset", "/data/g/s.1"), ("type", "int")]]
    [input "a", input "/data/b",
      Node.ofParts "group" []
        [Node.ofParts "repeat" [("nodeset", "/data/g")]
          [input "n", Node.ofParts "repeat" [] [input "s.1"]]]]

theorem namesSibling_of_ofTree_siblingForm :
    ∃ form frame model data, Form.ofTree {} siblingForm = .ok form ∧
      form.fields.map (fun field => (field.path, field.logic.map ExprOver.referencedPaths)) =
        [("/data", []), ("/data/a", [["/data/b"], ["/data/b"]]), ("/data/b", []),
          ("/data/g", []), ("/data/g/n", [["/data/g/s.1"]]), ("/data/g/s.1", [])] ∧
      form.allControls.map Control.ref =
        [some "/data/a", some "/data/b", none, some "/data/g/n", some "/data/g/s.1"] ∧
      form.diagnostics = [] ∧
      form.Siblings "/data" "a" "b" ∧ form.Siblings "/data/g" "n" "s.1" ∧
      Frame.ofRoot siblingForm = .ok frame ∧
      Definitions.instanceRoot? frame.head = .ok (model, data) ∧
      form.NamesSibling {} model data frame.body "/data" "a" "b" ∧
      form.NamesSibling {} model data frame.body "/data/g" "n" "s.1" := by
  have hshown : (Form.ofTree {} siblingForm).map (fun form =>
      (form.fields.map (fun field => (field.path, field.logic.map ExprOver.referencedPaths)),
        form.allControls.map Control.ref, form.diagnostics)) =
      .ok ([("/data", []), ("/data/a", [["/data/b"], ["/data/b"]]), ("/data/b", []),
          ("/data/g", []), ("/data/g/n", [["/data/g/s.1"]]), ("/data/g/s.1", [])],
        [some "/data/a", some "/data/b", none, some "/data/g/n", some "/data/g/s.1"], []) := by
    decide +kernel
  obtain ⟨form, hload, hview⟩ := exists_ofTree_of_map_eq hshown
  obtain ⟨hfields, hview⟩ := Prod.mk.inj hview
  obtain ⟨hcontrols, hdiagnostics⟩ := Prod.mk.inj hview
  have hpaths : form.fields.paths =
      ["/data", "/data/a", "/data/b", "/data/g", "/data/g/n", "/data/g/s.1"] := by
    have hfirst := congrArg (List.map Prod.fst) hfields
    rwa [List.map_map] at hfirst
  have htop : form.Siblings "/data" "a" "b" := by
    constructor
    case container_mem | name_mem | other_mem => rw [hpaths]; decide
    case container_plain | name_plain | other_plain => decide
  have hinside : form.Siblings "/data/g" "n" "s.1" := by
    constructor
    case container_mem | name_mem | other_mem => rw [hpaths]; decide
    case container_plain | name_plain | other_plain => decide
  obtain ⟨frame, model, data, hframe, hinstance, hnames⟩ := namesSibling_of_ofTree hload htop
  obtain ⟨frame', model', data', hframe', hinstance', hnames'⟩ :=
    namesSibling_of_ofTree hload hinside
  obtain rfl := Except.ok.inj (hframe.symm.trans hframe')
  obtain ⟨rfl, rfl⟩ := Prod.mk.inj (Except.ok.inj (hinstance.symm.trans hinstance'))
  exact ⟨form, frame, model, data, hload, hfields, hcontrols, hdiagnostics, htop, hinside, hframe,
    hinstance, hnames, hnames'⟩

end Form

end SurveyForm
