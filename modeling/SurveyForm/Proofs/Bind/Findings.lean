import SurveyForm.Proofs.Bind.Steps
import SurveyForm.Proofs.Xml.Search
/-!
What is found wrong with binds.  The findings of a bind are said by its attributes alone;
those of several binds come one bind after the other.  Whatever stays of them in the fields
has been reported.
-/

namespace SurveyForm

open Xml (Element)

/-- The members of a condition's disjuncts. -/
def Condition.members (condition : Condition) : List Expr :=
  condition.expr.disjuncts.flatten

/-- The expressions that a field states as a whole: its calculation, and the members of its
conditions. -/
def Field.wholes (field : Field) : List Expr :=
  field.calculate.toList ++
    (field.relevant.toList.flatMap Condition.members ++
      field.constraint.toList.flatMap Condition.members)

/-- The expressions that an attribute of the given name and value states as a whole. -/
def declaredWholes (options : Options) (path name raw : String) : List Expr :=
  let limit : Int := options.maxExpressionDepth
  if name = "calculate" then (Expr.parse? raw path limit).toList
  else if name = "constraint" ∨ name = "relevant" then
    (Expr.parseGroup? raw path limit).toList.flatMap (·.disjuncts.flatten)
  else []

/-- The findings of a bind below a base path, if there are fields at the given paths. -/
def bindFindings (options : Options) (basePath : String) (paths : List String)
    (bind : Element) : List Diagnostic :=
  match bind.attribute? "nodeset" with
  | none => [.bindWithoutNodeset]
  | some nodeset =>
      let path := if nodeset.toList.head? = some '/' then nodeset else basePath ++ "/" ++ nodeset
      if path ∈ paths then
        bind.tag.attributes.flatMap fun attr =>
          (declaredWholes options path (bind.tag.attributeName attr) attr.value).filterMap
            (Setting.unrecognized? path)
      else [.bindToNoField nodeset path]

theorem Xml.Tag.attributeName_of_isBindFrame (tag : Xml.Tag) {attr : Xml.Attribute}
    (hframe : attr.isBindFrame = true) :
    tag.attributeName attr = "nodeset" ∨
      ∃ front, tag.attributeName attr = front ++ "constraintMsg" := by
  simp only [Xml.Attribute.isBindFrame, Bool.or_eq_true, Bool.and_eq_true, decide_eq_true_eq,
    Option.isNone_iff_eq_none] at hframe
  unfold attributeName
  rcases hframe with ⟨huri, hname⟩ | ⟨huri, hname⟩
  · exact .inl (by simp [huri, hname])
  · refine .inr ?_
    simp only [huri, hname]
    split
    · next binding _ => exact ⟨binding.prefixName ++ ":", rfl⟩
    · exact ⟨"", by simp⟩

/-- The names of the attributes that are properties of fields. -/
def Setting.propertyNames : List String :=
  ["required", "readonly", "calculate", "constraint", "relevant", "type"]

/-- The attributes that are no settings do not go by the names of properties. -/
theorem Xml.Tag.attributeName_not_mem_propertyNames (tag : Xml.Tag) {attr : Xml.Attribute}
    (hframe : attr.isBindFrame = true) : tag.attributeName attr ∉ Setting.propertyNames := by
  intro hmem
  rcases tag.attributeName_of_isBindFrame hframe with hnodeset | ⟨front, hfront⟩
  · rw [hnodeset] at hmem
    revert hmem
    decide
  · have hlength : (tag.attributeName attr).length = front.length + 13 := by
      rw [hfront, String.length_append]
      rfl
    have hshort : ∀ name ∈ Setting.propertyNames, name.length < 13 := by
      decide
    have := hshort _ hmem
    omega

/-- So they are not among those that state an expression. -/
theorem Xml.Tag.attributeName_not_mem_of_isBindFrame (tag : Xml.Tag) {attr : Xml.Attribute}
    (hframe : attr.isBindFrame = true) :
    tag.attributeName attr ∉ ["calculate", "constraint", "relevant"] := by
  have hsubset : ["calculate", "constraint", "relevant"] ⊆ Setting.propertyNames := by
    decide
  exact fun hmem => tag.attributeName_not_mem_propertyNames hframe (hsubset hmem)

namespace Setting

variable {options : Options} {path : String} {message : Option String}

/-- The expressions that a setting states as a whole. -/
def wholes : Setting → List Expr
  | .calculate expr => [expr]
  | .constraint condition => condition.members
  | .relevant condition => condition.members
  | _ => []

theorem diagnostics_eq (path : String) (setting : Setting) :
    setting.diagnostics path = setting.wholes.filterMap (unrecognized? path) := by
  cases setting with
  | calculate expr => cases hfound : unrecognized? path expr <;> simp [diagnostics, wholes, hfound]
  | _ => rfl

/-- A setting states what its attribute does. -/
theorem wholes_of_ofNamed? {name raw : String} {setting : Setting}
    (hsetting : ofNamed? options path message name raw = some setting) :
    setting.wholes = declaredWholes options path name raw := by
  cases reads_of_ofNamed? hsetting with
  | calculate hparse => simp [wholes, declaredWholes, hparse]
  | constraint hparse | relevant hparse =>
      simp [wholes, declaredWholes, Condition.members, hparse]
  | required | readonly | type => simp [wholes, declaredWholes]
  | other hname => simp_all [wholes, declaredWholes]

/-- The attributes that are no settings state nothing. -/
theorem declaredWholes_of_isBindFrame {tag : Xml.Tag} {attr : Xml.Attribute}
    (hframe : attr.isBindFrame = true) (raw : String) :
    declaredWholes options path (tag.attributeName attr) raw = [] := by
  have hnames := tag.attributeName_not_mem_of_isBindFrame hframe
  simp only [List.mem_cons, List.not_mem_nil, or_false, not_or] at hnames
  simp [declaredWholes, hnames]

/-- What is found at the settings of a bind is what its attributes state. -/
theorem flatMap_diagnostics_ofBind {bind : Element} {settings : List Setting}
    (hfound : ofBind options path bind = settings.map some) :
    settings.flatMap (diagnostics path) = bind.tag.attributes.flatMap fun attr =>
      (declaredWholes options path (bind.tag.attributeName attr) attr.value).filterMap
        (unrecognized? path) := by
  unfold ofBind at hfound
  generalize bind.tag.attributes = attributes at hfound ⊢
  induction attributes generalizing settings with
  | nil =>
      obtain rfl := List.map_eq_nil_iff.mp hfound.symm
      rfl
  | cons attr rest ih =>
      rw [List.flatMap_cons]
      cases hframe : attr.isBindFrame with
      | true =>
          rw [List.filter_cons_of_neg (by simp [hframe])] at hfound
          rw [declaredWholes_of_isBindFrame hframe]
          exact ih hfound
      | false =>
          rw [List.filter_cons_of_pos (by simp [hframe]), List.map_cons] at hfound
          cases settings with
          | nil => simp at hfound
          | cons setting settings =>
              obtain ⟨hfirst, hrest⟩ := List.cons.inj hfound
              obtain ⟨-, hread⟩ := Xml.Tag.bind_attributeName?_eq_some_iff.mp hfirst
              rw [List.flatMap_cons, ih hrest, diagnostics_eq, wholes_of_ofNamed? hread]

theorem wholes_apply_subset (field : Field) (setting : Setting) :
    (apply field setting).wholes ⊆ field.wholes ++ setting.wholes := by
  intro expr hexpr
  cases setting with
  | calculate new =>
      rcases List.mem_append.mp hexpr with hnew | hconditions
      · exact List.mem_append_right _ hnew
      · exact List.mem_append_left _ (List.mem_append_right _ hconditions)
  | relevant condition =>
      rcases List.mem_append.mp hexpr with hcalculate | hconditions
      · exact List.mem_append_left _ (List.mem_append_left _ hcalculate)
      · rcases List.mem_append.mp hconditions with hnew | hconstraint
        · exact List.mem_append_right _ (by simpa [wholes, apply] using hnew)
        · exact List.mem_append_left _
            (List.mem_append_right _ (List.mem_append_right _ hconstraint))
  | constraint condition =>
      rcases List.mem_append.mp hexpr with hcalculate | hconditions
      · exact List.mem_append_left _ (List.mem_append_left _ hcalculate)
      · rcases List.mem_append.mp hconditions with hrelevant | hnew
        · exact List.mem_append_left _ (List.mem_append_right _ (List.mem_append_left _ hrelevant))
        · exact List.mem_append_right _ (by simpa [wholes, apply] using hnew)
  | _ => exact List.mem_append_left _ hexpr

/-- A field states what it did before, and what is set. -/
theorem wholes_foldl_apply_subset (settings : List Setting) (field : Field) :
    (settings.foldl apply field).wholes ⊆ field.wholes ++ settings.flatMap wholes := by
  induction settings generalizing field with
  | nil => simp
  | cons setting rest ih =>
      intro expr hexpr
      rw [List.flatMap_cons, ← List.append_assoc]
      rcases List.mem_append.mp (ih (apply field setting) hexpr) with hfield | hrest
      · exact List.mem_append_left _ (wholes_apply_subset field setting hfield)
      · exact List.mem_append_right _ hrest

theorem unrecognized_mem_of_unparsed {settings : List Setting} {text : String}
    (htext : .unparsed text ∈ settings.flatMap wholes) :
    .unrecognized text path ∈ settings.flatMap (diagnostics path) := by
  obtain ⟨setting, hsetting, hwhole⟩ := List.mem_flatMap.mp htext
  refine List.mem_flatMap.mpr ⟨setting, hsetting, ?_⟩
  rw [diagnostics_eq]
  exact List.mem_filterMap.mpr ⟨_, hwhole, rfl⟩

end Setting

namespace Definitions

variable {options : Options} {definitions bound : Definitions}

/-- Whatever could not be read and stays in a field has been reported for the path of the
field. -/
def Reported (definitions : Definitions) : Prop :=
  ∀ field ∈ definitions.fields, ∀ text, .unparsed text ∈ field.wholes →
    .unrecognized text field.path ∈ definitions.diagnostics

theorem Reported.report (hreported : definitions.Reported) (options : Options)
    (found : List Diagnostic) : (definitions.report options found).Reported := by
  intro field hfield text htext
  rw [diagnostics_report]
  exact List.mem_append_left found (hreported field hfield text htext)

theorem Reported.reportSettings (hreported : definitions.Reported) (options : Options)
    (path : String) (settings : List Setting) :
    (definitions.reportSettings options path settings).Reported := by
  intro field hfield text htext
  rw [diagnostics_reportSettings]
  obtain ⟨old, hold, rfl⟩ := List.mem_map.mp hfield
  by_cases hpath : old.path = path
  · simp only [hpath, if_true] at htext ⊢
    have hkept : (settings.foldl Setting.apply old).path = path :=
      (congrArg Prod.fst (Setting.outline_foldl_apply settings old)).trans hpath
    rw [hkept]
    rcases List.mem_append.mp (Setting.wholes_foldl_apply_subset settings old htext) with
      hbefore | hset
    · exact List.mem_append_left _ (hpath ▸ hreported old hold text hbefore)
    · exact List.mem_append_right _ (Setting.unrecognized_mem_of_unparsed hset)
  · simp only [hpath, if_false] at htext ⊢
    exact List.mem_append_left _ (hreported old hold text htext)

theorem Reported.applyBind (hreported : definitions.Reported) (options : Options)
    (bind : Element) : (definitions.applyBind options bind).1.Reported := by
  have happlies := applies_applyBind options definitions bind
  generalize definitions.applyBind options bind = result at happlies ⊢
  cases happlies with
  | unnamed | mismatched => exact hreported.report options _
  | applied | brokenOff => exact hreported.reportSettings options _ _

/-- A bind that comes to its end adds its findings to those before it. -/
theorem diagnostics_applyBind {bind : Element} {basePath : String}
    (hbase : definitions.basePath = some basePath)
    (hended : (definitions.applyBind options bind).2 ≠ .brokenOff) :
    (definitions.applyBind options bind).1.diagnostics =
      definitions.diagnostics ++ bindFindings options basePath definitions.fields.paths bind := by
  have happlies := applies_applyBind options definitions bind
  generalize definitions.applyBind options bind = result at happlies hended ⊢
  have hresolve := resolveNodeset_of_basePath hbase
  cases happlies with
  | unnamed hnodeset => simp [bindFindings, hnodeset]
  | mismatched hnodeset hpath =>
      rw [hresolve] at hpath
      simp [bindFindings, hnodeset, hresolve, hpath]
  | applied hnodeset hpath hfound =>
      rw [hresolve] at hpath hfound
      simp only [bindFindings, hnodeset, if_pos hpath, ← Setting.flatMap_diagnostics_ofBind hfound,
        hresolve, diagnostics_reportSettings]
  | brokenOff => exact absurd rfl hended

/-- The findings of binds that all come to their end come one bind after the other. -/
theorem diagnostics_applyBinds {binds : List Element} {basePath : String}
    (hbase : definitions.basePath = some basePath)
    (hbinds : definitions.applyBinds options binds = (bound, true)) :
    bound.diagnostics = definitions.diagnostics ++
      binds.flatMap (bindFindings options basePath definitions.fields.paths) := by
  induction binds generalizing definitions with
  | nil =>
      obtain rfl := (Prod.mk.inj hbinds).1
      simp
  | cons bind rest ih =>
      obtain ⟨hended, hrest⟩ := applyBinds_cons hbinds
      obtain ⟨houtline, hkept⟩ := outline_applyBind options definitions bind
      rw [ih (hkept.trans hbase) hrest, FieldMap.paths_eq_of_outline_eq houtline,
        diagnostics_applyBind hbase hended, List.flatMap_cons, List.append_assoc]

/-- However a bind ends, there are warnings about just what has been found. -/
theorem announced_applyBind
    (hannounced : definitions.Announced options.warnOnDiagnostics) (bind : Element) :
    (definitions.applyBind options bind).1.Announced options.warnOnDiagnostics := by
  have happlies := applies_applyBind options definitions bind
  generalize definitions.applyBind options bind = result at happlies ⊢
  cases happlies with
  | unnamed | mismatched | applied | brokenOff => exact hannounced.reportAll _

theorem announced_applyBinds (hannounced : definitions.Announced options.warnOnDiagnostics)
    (binds : List Element) :
    (definitions.applyBinds options binds).1.Announced options.warnOnDiagnostics := by
  induction binds generalizing definitions with
  | nil => exact hannounced
  | cons bind rest ih =>
      have hmade := announced_applyBind hannounced bind
      rw [applyBinds]
      split
      · next heq => rwa [heq] at hmade
      · next heq =>
          rw [heq] at hmade
          exact ih hmade

theorem Reported.applyBinds (hreported : definitions.Reported) {binds : List Element}
    (hbinds : definitions.applyBinds options binds = (bound, true)) : bound.Reported :=
  holds_of_applyBinds (fun _ bind hmade => hmade.applyBind options bind) hreported hbinds

end Definitions

end SurveyForm
