import Mathlib.Logic.Function.Basic
import SurveyForm.Proofs.Bind.Steps
import SurveyForm.Proofs.Form.Loading
/-!
Binds that do not overlap can be applied in either order.  A bind only changes the field that
it means, and only under the names of its settings; what it finds is said by its attributes,
the base path and the paths that there are.
-/

namespace SurveyForm

open Xml (Element Node)

/-! ### Settings of different names -/

/-- A field whose other attributes are a map without an order. -/
structure FieldView where
  properties : Field
  attribute? : String → Option String

def Field.view (field : Field) : FieldView :=
  ⟨{ field with attributes := [] }, field.attributes.get?⟩

/-- What a setting changes when other attributes have no order. -/
def FieldView.set (view : FieldView) : Setting → FieldView
  | .attribute name value =>
      { view with attribute? := Function.update view.attribute? name (some value) }
  | setting => { view with properties := setting.apply view.properties }

theorem Entries.get?_put {α : Type} (entries : Entries α) (key : String) (value : α) :
    (entries.put key value).get? = Function.update entries.get? key (some value) := by
  funext other
  by_cases hother : other = key
  · subst hother
    rw [get?_put_self, Function.update_self]
  · rw [get?_put_of_ne entries value hother, Function.update_of_ne hother]

theorem Field.view_apply (field : Field) (setting : Setting) :
    (setting.apply field).view = field.view.set setting := by
  match setting with
  | .attribute name value =>
      exact congrArg (FieldView.mk { field with attributes := [] })
        (Entries.get?_put field.attributes name value)
  | .required _ | .readonly _ | .calculate _ | .constraint _ | .relevant _ | .type _ => rfl

theorem Field.view_foldl_apply (settings : List Setting) (field : Field) :
    (settings.foldl Setting.apply field).view = settings.foldl FieldView.set field.view :=
  (List.foldl_hom Field.view fun field setting => (view_apply field setting).symm).symm

/-- The name of the attribute that makes a setting. -/
def Setting.name : Setting → String
  | .required _ => "required"
  | .readonly _ => "readonly"
  | .calculate _ => "calculate"
  | .constraint _ => "constraint"
  | .relevant _ => "relevant"
  | .type _ => "type"
  | .attribute name _ => name

theorem Setting.name_of_ofNamed? {options : Options} {path : String} {message : Option String}
    {name raw : String} {setting : Setting}
    (hsetting : ofNamed? options path message name raw = some setting) : setting.name = name := by
  cases reads_of_ofNamed? hsetting <;> rfl

namespace FieldView

variable {view : FieldView} {setting other : Setting} {settings others : List Setting}

theorem set_comm (hne : setting.name ≠ other.name) :
    (view.set setting).set other = (view.set other).set setting := by
  -- Two settings of one property have its name; all others change different parts.
  cases setting <;> cases other
  all_goals first
    | rfl
    | exact (hne rfl).elim
    | exact congrArg (mk view.properties) (Function.update_comm hne _ _ _)

theorem foldl_set_set (hne : ∀ other ∈ settings, setting.name ≠ other.name) :
    settings.foldl set (view.set setting) = (settings.foldl set view).set setting := by
  induction settings generalizing view with
  | nil => rfl
  | cons first rest ih =>
      obtain ⟨hfirst, hrest⟩ := List.forall_mem_cons.mp hne
      rw [List.foldl_cons, List.foldl_cons, set_comm hfirst, ih hrest]

theorem path_foldl_set (settings : List Setting) (view : FieldView) :
    (settings.foldl set view).properties.path = view.properties.path := by
  induction settings generalizing view with
  | nil => rfl
  | cons setting rest ih =>
      rw [List.foldl_cons, ih]
      cases setting <;> rfl

/-- Two runs of settings that share no name can change places. -/
theorem foldl_set_foldl_set
    (hne : ∀ setting ∈ settings, ∀ other ∈ others, setting.name ≠ other.name) :
    others.foldl set (settings.foldl set view) = settings.foldl set (others.foldl set view) := by
  induction settings generalizing view with
  | nil => rfl
  | cons first rest ih =>
      obtain ⟨hfirst, hrest⟩ := List.forall_mem_cons.mp hne
      rw [List.foldl_cons, List.foldl_cons, ih hrest, foldl_set_set hfirst]

end FieldView

/-! ### What one bind does -/

/-- The names of the settings of a bind: those of its attributes, without the path and the
message. -/
def Xml.Element.settingNames (bind : Element) : List String :=
  (bind.tag.attributes.filter (!·.isBindFrame)).map bind.tag.attributeName

/-- The settings that a bind makes at a field, up to the first one that cannot be read. -/
def Setting.madeBy (options : Options) (path : String) (bind : Element) : List Setting :=
  beforeBreak (ofBind options path bind)

theorem Setting.some_mem_of_mem_beforeBreak {found : List (Option Setting)} {setting : Setting}
    (hmem : setting ∈ beforeBreak found) : some setting ∈ found := by
  rcases exists_eq_map_some found with ⟨settings, rfl⟩ | ⟨settings, rest, rfl⟩
  · rw [(beforeBreak_map_some settings []).2] at hmem
    exact List.mem_map_of_mem hmem
  · rw [(beforeBreak_map_some settings rest).1] at hmem
    exact List.mem_append_left _ (List.mem_map_of_mem hmem)

theorem Setting.name_mem_of_mem_madeBy {options : Options} {path : String} {bind : Element}
    {setting : Setting} (hmem : setting ∈ madeBy options path bind) :
    setting.name ∈ bind.settingNames := by
  obtain ⟨attr, hattr, hsetting⟩ := List.mem_map.mp (some_mem_of_mem_beforeBreak hmem)
  obtain ⟨-, hread⟩ := Xml.Tag.bind_attributeName?_eq_some_iff.mp hsetting
  rw [name_of_ofNamed? hread]
  exact List.mem_map_of_mem hattr

/-- What changes no path is seen at every path. -/
theorem FieldMap.get?_map {change : Field → Field}
    (hchange : ∀ field, (change field).path = field.path) (fields : FieldMap) (path : String) :
    get? (fields.map change) path = (fields.get? path).map change := by
  rw [get?, List.find?_map, get?]
  simp only [Function.comp_def, hchange]

namespace Definitions

variable {options : Options} {definitions other : Definitions} {bind first second : Element}

/-- The path that a bind means, if it names one. -/
def pathOf? (definitions : Definitions) (bind : Element) : Option String :=
  (bind.attribute? "nodeset").map definitions.resolveNodeset

/-- What a bind makes of a field. -/
def fieldAfter (options : Options) (definitions : Definitions) (bind : Element) (field : Field) :
    Field :=
  if definitions.pathOf? bind = some field.path then
    (Setting.madeBy options field.path bind).foldl Setting.apply field
  else field

theorem resolveNodeset_congr (hbase : definitions.basePath = other.basePath) :
    definitions.resolveNodeset = other.resolveNodeset := by
  funext nodeset
  rw [resolveNodeset, resolveNodeset, hbase]

theorem pathOf?_congr (hbase : definitions.basePath = other.basePath) :
    definitions.pathOf? = other.pathOf? := by
  funext bind
  rw [pathOf?, pathOf?, resolveNodeset_congr hbase]

theorem path_fieldAfter (options : Options) (definitions : Definitions) (bind : Element)
    (field : Field) : (fieldAfter options definitions bind field).path = field.path := by
  unfold fieldAfter
  split
  · exact congrArg Prod.fst (Setting.outline_foldl_apply _ field)
  · rfl

theorem fields_reportSettings {nodeset : String}
    (hnodeset : bind.attribute? "nodeset" = some nodeset) {settings : List Setting}
    (hmade : Setting.madeBy options (definitions.resolveNodeset nodeset) bind = settings) :
    (definitions.reportSettings options (definitions.resolveNodeset nodeset) settings).fields =
      definitions.fields.map (fieldAfter options definitions bind) := by
  refine List.map_congr_left fun field _ => ?_
  by_cases hpath : field.path = definitions.resolveNodeset nodeset
  · have hmeant : definitions.pathOf? bind = some field.path := by
      rw [pathOf?, hnodeset, hpath, Option.map_some]
    rw [if_pos hpath, fieldAfter, if_pos hmeant, hpath, hmade]
  · have hother : definitions.pathOf? bind ≠ some field.path := by
      rw [pathOf?, hnodeset, Option.map_some]
      exact fun heq => hpath (Option.some.inj heq).symm
    rw [if_neg hpath, fieldAfter, if_neg hother]

/-- A bind changes every field as its path says, and there is no other change. -/
theorem fields_applyBind (options : Options) (definitions : Definitions) (bind : Element) :
    (definitions.applyBind options bind).1.fields =
      definitions.fields.map (fieldAfter options definitions bind) := by
  have hkept
      (hother : ∀ field ∈ definitions.fields, definitions.pathOf? bind ≠ some field.path) :
      definitions.fields = definitions.fields.map (fieldAfter options definitions bind) :=
    ((List.map_congr_left fun field hfield => if_neg (hother field hfield)).trans
      (List.map_id _)).symm
  have happlies := applies_applyBind options definitions bind
  generalize definitions.applyBind options bind = result at happlies ⊢
  cases happlies with
  | unnamed hnodeset => exact hkept fun field _ => by simp [pathOf?, hnodeset]
  | mismatched hnodeset hpath =>
      refine hkept fun field hfield heq => hpath ?_
      rw [pathOf?, hnodeset] at heq
      exact Option.some.inj heq ▸ List.mem_map_of_mem hfield
  | applied hnodeset hpath hfound =>
      refine fields_reportSettings hnodeset ?_
      rw [Setting.madeBy, hfound, (Setting.beforeBreak_map_some _ []).2]
  | brokenOff hnodeset hpath hfound =>
      refine fields_reportSettings hnodeset ?_
      rw [Setting.madeBy, hfound, (Setting.beforeBreak_map_some _ _).1]

/-- What a bind finds, and how it ends, is the same wherever the base path and the paths are
the same. -/
theorem exists_diagnostics_applyBind (options : Options) (bind : Element)
    (hbase : definitions.basePath = other.basePath)
    (hpaths : definitions.fields.paths = other.fields.paths) :
    (∃ found, (definitions.applyBind options bind).1.diagnostics =
          definitions.diagnostics ++ found ∧
        (other.applyBind options bind).1.diagnostics = other.diagnostics ++ found) ∧
      (definitions.applyBind options bind).2 = (other.applyBind options bind).2 := by
  have hcontains : ∀ path, definitions.fields.contains path = other.fields.contains path := by
    intro path
    rw [Bool.eq_iff_iff, FieldMap.contains_iff, FieldMap.contains_iff, hpaths]
  unfold applyBind
  cases bind.attribute? "nodeset" with
  | none => exact ⟨⟨_, diagnostics_report .., diagnostics_report ..⟩, rfl⟩
  | some nodeset =>
      simp only [resolveNodeset_congr hbase, hcontains]
      split
      · exact ⟨⟨_, diagnostics_report .., diagnostics_report ..⟩, rfl⟩
      · exact ⟨⟨_, diagnostics_report .., diagnostics_report ..⟩, rfl⟩

/-! ### Two binds -/

/-- What a bind makes of a field when other attributes have no order. -/
def viewAfter (options : Options) (definitions : Definitions) (bind : Element)
    (view : FieldView) : FieldView :=
  if definitions.pathOf? bind = some view.properties.path then
    (Setting.madeBy options view.properties.path bind).foldl FieldView.set view
  else view

theorem view_fieldAfter (options : Options) (definitions : Definitions) (bind : Element)
    (field : Field) :
    (fieldAfter options definitions bind field).view =
      viewAfter options definitions bind field.view := by
  rw [fieldAfter, apply_ite Field.view, Field.view_foldl_apply]
  rfl

/-- Definitions that differ at most in the order of findings and of other attributes. -/
structure Alike (definitions other : Definitions) : Prop where
  basePath_eq : definitions.basePath = other.basePath
  views_eq : definitions.fields.map Field.view = other.fields.map Field.view
  diagnostics_perm : definitions.diagnostics.Perm other.diagnostics

theorem Alike.trans {last : Definitions} (halike : definitions.Alike other)
    (hlast : other.Alike last) : definitions.Alike last :=
  ⟨halike.basePath_eq.trans hlast.basePath_eq, halike.views_eq.trans hlast.views_eq,
    halike.diagnostics_perm.trans hlast.diagnostics_perm⟩

theorem Alike.paths_eq (halike : definitions.Alike other) :
    definitions.fields.paths = other.fields.paths := by
  have hpaths : ∀ fields : FieldMap,
      fields.paths = (fields.map Field.view).map (·.properties.path) := by
    intro fields
    rw [FieldMap.paths, List.map_map]
    rfl
  rw [hpaths, hpaths, halike.views_eq]

theorem map_view_applyBind (options : Options) (definitions : Definitions) (bind : Element) :
    (definitions.applyBind options bind).1.fields.map Field.view =
      (definitions.fields.map Field.view).map (viewAfter options definitions bind) := by
  rw [fields_applyBind, List.map_map, List.map_map]
  exact List.map_congr_left fun field _ => view_fieldAfter options definitions bind field

theorem viewAfter_congr (hbase : definitions.basePath = other.basePath) :
    viewAfter options definitions = viewAfter options other := by
  funext bind view
  simp only [viewAfter, pathOf?_congr hbase]

/-- A bind makes like definitions of like ones. -/
theorem Alike.applyBind (halike : definitions.Alike other) (options : Options) (bind : Element) :
    (definitions.applyBind options bind).1.Alike (other.applyBind options bind).1 := by
  obtain ⟨⟨found, hfound, hother⟩, -⟩ :=
    exists_diagnostics_applyBind options bind halike.basePath_eq halike.paths_eq
  refine ⟨?_, ?_, ?_⟩
  · rw [(outline_applyBind ..).2, (outline_applyBind ..).2, halike.basePath_eq]
  · rw [map_view_applyBind, map_view_applyBind, halike.views_eq,
      viewAfter_congr halike.basePath_eq]
  · rw [hfound, hother]
    exact halike.diagnostics_perm.append_right found

/-- Two binds overlap if they mean the same path and have settings of one name. -/
def Overlap (definitions : Definitions) (first second : Element) : Prop :=
  ∃ path, definitions.pathOf? first = some path ∧ definitions.pathOf? second = some path ∧
    ∃ name ∈ first.settingNames, name ∈ second.settingNames

theorem Overlap.symm (hoverlap : definitions.Overlap first second) :
    definitions.Overlap second first := by
  obtain ⟨path, hfirst, hsecond, name, hname, hother⟩ := hoverlap
  exact ⟨path, hsecond, hfirst, name, hother, hname⟩

theorem overlap_congr (hbase : definitions.basePath = other.basePath) :
    definitions.Overlap = other.Overlap := by
  funext first second
  simp only [Overlap, pathOf?_congr hbase]

theorem path_viewAfter (options : Options) (definitions : Definitions) (bind : Element)
    (view : FieldView) :
    (viewAfter options definitions bind view).properties.path = view.properties.path := by
  unfold viewAfter
  split
  · exact FieldView.path_foldl_set _ view
  · rfl

theorem viewAfter_viewAfter (hfree : ¬ definitions.Overlap first second) (view : FieldView) :
    viewAfter options definitions second (viewAfter options definitions first view) =
      viewAfter options definitions first (viewAfter options definitions second view) := by
  have hpath := path_viewAfter options definitions
  by_cases hfirst : definitions.pathOf? first = some view.properties.path
  · by_cases hsecond : definitions.pathOf? second = some view.properties.path
    · rw [viewAfter, hpath, if_pos hsecond, viewAfter, if_pos hfirst]
      conv_rhs => rw [viewAfter, hpath, if_pos hfirst, viewAfter, if_pos hsecond]
      refine FieldView.foldl_set_foldl_set fun setting hsetting other hother heq => hfree ?_
      refine ⟨view.properties.path, hfirst, hsecond, setting.name, ?_, heq ▸ ?_⟩
      · exact Setting.name_mem_of_mem_madeBy hsetting
      · exact Setting.name_mem_of_mem_madeBy hother
    · have hkept : ∀ made : FieldView, made.properties.path = view.properties.path →
          viewAfter options definitions second made = made :=
        fun made hmade => if_neg (hmade ▸ hsecond)
      rw [hkept _ (hpath first view), hkept view rfl]
  · have hkept : ∀ made : FieldView, made.properties.path = view.properties.path →
        viewAfter options definitions first made = made :=
      fun made hmade => if_neg (hmade ▸ hfirst)
    rw [hkept _ (hpath second view), hkept view rfl]

/-- Two binds that do not overlap can change places, also where one of them breaks off. -/
theorem alike_applyBind_applyBind (options : Options)
    (hfree : ¬ definitions.Overlap first second) :
    Alike ((definitions.applyBind options first).1.applyBind options second).1
      ((definitions.applyBind options second).1.applyBind options first).1 := by
  obtain ⟨hfirstOutline, hfirstBase⟩ := outline_applyBind options definitions first
  obtain ⟨hsecondOutline, hsecondBase⟩ := outline_applyBind options definitions second
  have hfirstPaths := FieldMap.paths_eq_of_outline_eq hfirstOutline
  have hsecondPaths := FieldMap.paths_eq_of_outline_eq hsecondOutline
  refine ⟨?_, ?_, ?_⟩
  · exact ((outline_applyBind options _ second).2.trans hfirstBase).trans
      ((outline_applyBind options _ first).2.trans hsecondBase).symm
  · simp only [map_view_applyBind, List.map_map, viewAfter_congr hfirstBase,
      viewAfter_congr hsecondBase]
    exact List.map_congr_left fun field _ => viewAfter_viewAfter hfree field.view
  · -- Each bind finds the same before and after the other one.
    obtain ⟨⟨before, hbefore, hafter⟩, -⟩ :=
      exists_diagnostics_applyBind options first hsecondBase.symm hsecondPaths.symm
    obtain ⟨⟨found, hfound, hlater⟩, -⟩ :=
      exists_diagnostics_applyBind options second hfirstBase.symm hfirstPaths.symm
    rw [hlater, hbefore, hafter, hfound, List.append_assoc, List.append_assoc]
    exact List.perm_append_comm.append_left definitions.diagnostics

/-! ### Any number of binds -/

/-- The definitions after binds that are applied one after the other. -/
def applyEach (options : Options) (definitions : Definitions) (binds : List Element) :
    Definitions :=
  binds.foldl (fun made bind => (made.applyBind options bind).1) definitions

/-- What the binds that mean a path make of a field, one after the other. -/
def fieldAfterEach (options : Options) (path : String) (binds : List Element) (field : Field) : Field :=
  binds.foldl (fun made bind => (Setting.madeBy options path bind).foldl Setting.apply made) field

theorem Alike.applyEach (halike : definitions.Alike other) (options : Options)
    (binds : List Element) :
    (definitions.applyEach options binds).Alike (other.applyEach options binds) := by
  induction binds generalizing definitions other with
  | nil => exact halike
  | cons bind rest ih => exact ih (halike.applyBind options bind)

/-- However many binds are applied, if no two of them overlap, their order does not matter. -/
theorem alike_applyEach_of_perm {binds others : List Element} (hperm : binds.Perm others)
    (hfree : binds.Pairwise fun first second => ¬ definitions.Overlap first second) :
    (definitions.applyEach options binds).Alike (definitions.applyEach options others) := by
  induction hperm generalizing definitions with
  | nil => exact ⟨rfl, rfl, .rfl⟩
  | cons bind _ ih =>
      -- Whether binds overlap is said by the base path, which the first one leaves as it is.
      refine ih ?_
      rw [overlap_congr (outline_applyBind options definitions bind).2]
      exact (List.pairwise_cons.mp hfree).2
  | swap first second rest =>
      have hswap := (List.pairwise_cons.mp hfree).1 first List.mem_cons_self
      exact (alike_applyBind_applyBind options hswap).applyEach options rest
  | trans hperm _ ihfirst ihsecond =>
      have hsymm : ∀ {first second : Element},
          ¬ definitions.Overlap first second → ¬ definitions.Overlap second first :=
        fun hfree hoverlap => hfree hoverlap.symm
      exact (ihfirst hfree).trans (ihsecond ((hperm.pairwise_iff hsymm).mp hfree))

/-- The record of a path is what the binds that mean it make of the record there was. -/
theorem get?_applyEach (options : Options) (definitions : Definitions) (binds : List Element)
    (path : String) :
    (definitions.applyEach options binds).fields.get? path =
      (definitions.fields.get? path).map
        (fieldAfterEach options path
          (binds.filter fun bind => definitions.pathOf? bind = some path)) := by
  induction binds generalizing definitions with
  | nil => exact Option.map_id'.symm
  | cons bind rest ih =>
      have hbase := (outline_applyBind options definitions bind).2
      rw [applyEach, List.foldl_cons, ← applyEach, ih, fields_applyBind,
        FieldMap.get?_map (path_fieldAfter options definitions bind), pathOf?_congr hbase,
        Option.map_map]
      refine Option.map_congr fun field hfield => ?_
      have hpath := FieldMap.path_of_get? hfield
      rw [Function.comp_apply, fieldAfter, hpath, List.filter_cons]
      split
      · next hmeant => rw [if_pos (decide_eq_true hmeant), fieldAfterEach, fieldAfterEach, List.foldl_cons]
      · next hother => rw [if_neg (by simpa using hother)]

/-- Binds that do not overlap give like definitions in either order, and each of them ends in
the same way.  So the record of a path depends on the binds that mean it, and on the record
that there was. -/
theorem alike_swap_and_get?_applyEach (options : Options)
    (hfree : ¬ definitions.Overlap first second) (binds : List Element) (path : String) :
    (((definitions.applyBind options first).1.applyBind options second).1.Alike
          ((definitions.applyBind options second).1.applyBind options first).1 ∧
        ((definitions.applyBind options first).1.applyBind options second).2 =
          (definitions.applyBind options second).2 ∧
        ((definitions.applyBind options second).1.applyBind options first).2 =
          (definitions.applyBind options first).2) ∧
      ((definitions.applyBinds options binds).2 = true →
        (definitions.applyBinds options binds).1 = definitions.applyEach options binds) ∧
      (definitions.applyEach options binds).fields.get? path =
        (definitions.fields.get? path).map
          (fieldAfterEach options path
            (binds.filter fun bind => definitions.pathOf? bind = some path)) := by
  have hended (earlier later : Element) :
      ((definitions.applyBind options earlier).1.applyBind options later).2 =
        (definitions.applyBind options later).2 := by
    obtain ⟨houtline, hbase⟩ := outline_applyBind options definitions earlier
    have hpaths := FieldMap.paths_eq_of_outline_eq houtline
    exact (exists_diagnostics_applyBind options later hbase hpaths).2
  refine ⟨⟨alike_applyBind_applyBind options hfree, hended first second, hended second first⟩,
    fun hcomplete => ?_, get?_applyEach options definitions binds path⟩
  exact applyBinds_eq_foldl (Prod.ext rfl hcomplete)

/-- The definitions after the walk over an instance with two questions. -/
def ofTwoQuestions : Definitions :=
  ofInstance ⟨⟨none, "data", [], [], []⟩, [Node.ofParts "a" [] [], Node.ofParts "b" [] []]⟩

/-- A bind with a message for its conditions. -/
def bindWithMessage (message : String) (attributes : List (String × String)) : Element :=
  ⟨⟨none, "bind", ⟨some javarosaUri, "constraintMsg", message⟩ ::
      attributes.map fun attr => ⟨none, attr.1, attr.2⟩, [⟨"jr", javarosaUri⟩], []⟩, []⟩

def boundedBind : Element :=
  bindWithMessage "too low" [("nodeset", "a"), ("constraint", ". > 1"), ("hint", "x")]

def relevantBind : Element :=
  bindWithMessage "not shown" [("unit", "m"), ("relevant", "f(1)"), ("nodeset", "/data/a")]

def typedBind : Element :=
  bindWithMessage "" [("nodeset", "b"), ("type", "int")]

/-- Two binds for one question that both have a message keep it apart. -/
theorem alike_swap_and_get?_applyEach_boundedBind :
    ¬ ofTwoQuestions.Overlap boundedBind relevantBind ∧
      ((ofTwoQuestions.applyBind {} boundedBind).1.applyBind {} relevantBind).1.Alike
        ((ofTwoQuestions.applyBind {} relevantBind).1.applyBind {} boundedBind).1 ∧
      (ofTwoQuestions.applyBinds {} [boundedBind, typedBind, relevantBind]).2 = true ∧
      (ofTwoQuestions.applyBinds {} [boundedBind, typedBind, relevantBind]).1.fields.get?
          "/data/a" =
        (ofTwoQuestions.fields.get? "/data/a").map
          (fieldAfterEach {} "/data/a" [boundedBind, relevantBind]) ∧
      ((ofTwoQuestions.fields.get? "/data/a").map
          (fieldAfterEach {} "/data/a" [boundedBind, relevantBind])).map
            (fun field => (field.constraint.bind (·.message), field.relevant.bind (·.message),
              field.attributes)) =
        some (some "too low", some "not shown", [("hint", "x"), ("unit", "m")]) := by
  have hnames : ∀ name ∈ boundedBind.settingNames, name ∉ relevantBind.settingNames := by
    decide +kernel
  have hfree : ¬ ofTwoQuestions.Overlap boundedBind relevantBind := by
    rintro ⟨path, -, -, name, hname, hother⟩
    exact hnames name hname hother
  have hcomplete :
      (ofTwoQuestions.applyBinds {} [boundedBind, typedBind, relevantBind]).2 = true := by
    decide +kernel
  obtain ⟨⟨halike, -⟩, hmade, hrecord⟩ := alike_swap_and_get?_applyEach
    {} hfree [boundedBind, typedBind, relevantBind] "/data/a"
  have hmeant : [boundedBind, typedBind, relevantBind].filter
      (fun bind => ofTwoQuestions.pathOf? bind = some "/data/a") = [boundedBind, relevantBind] := by
    rfl
  rw [hmeant, ← hmade hcomplete] at hrecord
  refine ⟨hfree, halike, hcomplete, hrecord, ?_⟩
  decide +kernel

end Definitions

end SurveyForm
