import SurveyForm.Bind
import SurveyForm.Proofs.Findings
import SurveyForm.Proofs.Instance.Fields
/-!
What applying a bind can do.  It reports a mismatch or makes settings at one path, and
whatever it does, no field comes, goes, moves or becomes a container.
-/

namespace SurveyForm

open Xml (Element)

theorem FieldMap.outline_modify {change : Field → Field}
    (hchange : ∀ field, (change field).outline = field.outline) (fields : FieldMap)
    (path : String) : (fields.modify path change).outline = fields.outline := by
  rw [outline, outline, modify, List.map_map]
  refine List.map_congr_left fun field _ => ?_
  rw [Function.comp_apply]
  split
  · exact hchange field
  · rfl

theorem FieldMap.paths_eq_of_outline_eq {fields others : FieldMap}
    (houtline : fields.outline = others.outline) : fields.paths = others.paths := by
  rw [← map_fst_outline, houtline, map_fst_outline]

/-- What every setting leaves as it is, any number of settings leave as it is. -/
theorem Setting.keeps_foldl_apply {α : Type} {view : Field → α}
    (hview : ∀ field setting, view (apply field setting) = view field)
    (settings : List Setting) (field : Field) : view (settings.foldl apply field) = view field := by
  induction settings generalizing field with
  | nil => rfl
  | cons setting rest ih => rw [List.foldl_cons, ih, hview]

theorem Setting.outline_apply (field : Field) (setting : Setting) :
    (apply field setting).outline = field.outline := by
  cases setting <;> rfl

theorem Setting.path_apply (field : Field) (setting : Setting) :
    (apply field setting).path = field.path :=
  congrArg Prod.fst (outline_apply field setting)

theorem Setting.outline_foldl_apply (settings : List Setting) (field : Field) :
    (settings.foldl apply field).outline = field.outline :=
  keeps_foldl_apply outline_apply settings field

/-- The ways in which an attribute can be read as a setting. -/
inductive Setting.Reads (options : Options) (path : String) (message : Option String)
    (raw : String) : String → Setting → Prop
  | required : Reads options path message raw "required" (.required (isTrue raw))
  | readonly : Reads options path message raw "readonly" (.readonly (isTrue raw))
  | calculate {expr : Expr}
      (hparse : Expr.parse? raw path options.maxExpressionDepth = some expr) :
      Reads options path message raw "calculate" (.calculate expr)
  | constraint {expr : Expr}
      (hparse : Expr.parseGroup? raw path options.maxExpressionDepth = some expr) :
      Reads options path message raw "constraint" (.constraint ⟨expr, message⟩)
  | relevant {expr : Expr}
      (hparse : Expr.parseGroup? raw path options.maxExpressionDepth = some expr) :
      Reads options path message raw "relevant" (.relevant ⟨expr, message⟩)
  | type : Reads options path message raw "type" (.type raw)
  | other {name : String} (hname : name ∉ ["calculate", "constraint", "relevant"]) :
      Reads options path message raw name (.attribute name raw)

theorem Setting.reads_of_ofNamed? {options : Options} {path : String} {message : Option String}
    {name raw : String} {setting : Setting}
    (hsetting : ofNamed? options path message name raw = some setting) :
    Reads options path message raw name setting := by
  unfold ofNamed? at hsetting
  split at hsetting
  · obtain rfl := Option.some.inj hsetting
    exact .required
  · obtain rfl := Option.some.inj hsetting
    exact .readonly
  · obtain ⟨expr, hparse, rfl⟩ := Option.map_eq_some_iff.mp hsetting
    exact .calculate hparse
  · obtain ⟨expr, hparse, rfl⟩ := Option.map_eq_some_iff.mp hsetting
    exact .constraint hparse
  · obtain ⟨expr, hparse, rfl⟩ := Option.map_eq_some_iff.mp hsetting
    exact .relevant hparse
  · obtain rfl := Option.some.inj hsetting
    exact .type
  · obtain rfl := Option.some.inj hsetting
    exact .other (by simp_all)

theorem Setting.beforeBreak_map_some (settings : List Setting) (rest : List (Option Setting)) :
    beforeBreak (settings.map some ++ none :: rest) = settings ∧
      beforeBreak (settings.map some) = settings := by
  induction settings with
  | nil => exact ⟨rfl, rfl⟩
  | cons setting settings ih => simpa [beforeBreak] using ih

theorem Setting.exists_eq_map_some (found : List (Option Setting)) :
    (∃ settings : List Setting, found = settings.map some) ∨
      ∃ (settings : List Setting) (rest : List (Option Setting)),
        found = settings.map some ++ none :: rest := by
  induction found with
  | nil => exact .inl ⟨[], rfl⟩
  | cons first rest ih =>
      cases first with
      | none => exact .inr ⟨[], rest, rfl⟩
      | some setting =>
          rcases ih with ⟨settings, rfl⟩ | ⟨settings, last, rfl⟩
          · exact .inl ⟨setting :: settings, rfl⟩
          · exact .inr ⟨setting :: settings, last, rfl⟩

namespace Definitions

variable {options : Options} {definitions : Definitions} {bind : Element}

@[simp]
theorem diagnostics_report (options : Options) (definitions : Definitions)
    (found : List Diagnostic) :
    (definitions.report options found).diagnostics = definitions.diagnostics ++ found :=
  Findings.diagnostics_reportAll ..

/-- The definitions after settings at a path, with what is found wrong with them. -/
def reportSettings (options : Options) (definitions : Definitions) (path : String)
    (settings : List Setting) : Definitions :=
  (definitions.set path settings).report options (settings.flatMap (Setting.diagnostics path))

@[simp]
theorem diagnostics_reportSettings (options : Options) (definitions : Definitions)
    (path : String) (settings : List Setting) :
    (definitions.reportSettings options path settings).diagnostics =
      definitions.diagnostics ++ settings.flatMap (Setting.diagnostics path) :=
  diagnostics_report options (definitions.set path settings) _

/-- The four ways in which applying a bind can end. -/
inductive Applies (options : Options) (definitions : Definitions) (bind : Element) :
    Definitions × BindOutcome → Prop
  | unnamed (hnodeset : bind.attribute? "nodeset" = none) :
      Applies options definitions bind (definitions.report options [.bindWithoutNodeset], .dropped)
  | mismatched {nodeset : String} (hnodeset : bind.attribute? "nodeset" = some nodeset)
      (hpath : definitions.resolveNodeset nodeset ∉ definitions.fields.paths) :
      Applies options definitions bind
        (definitions.report options
          [.bindToNoField nodeset (definitions.resolveNodeset nodeset)], .dropped)
  | applied {nodeset : String} {settings : List Setting}
      (hnodeset : bind.attribute? "nodeset" = some nodeset)
      (hpath : definitions.resolveNodeset nodeset ∈ definitions.fields.paths)
      (hfound : Setting.ofBind options (definitions.resolveNodeset nodeset) bind =
        settings.map some) :
      Applies options definitions bind
        (definitions.reportSettings options (definitions.resolveNodeset nodeset) settings,
          .applied)
  | brokenOff {nodeset : String} {settings : List Setting} {rest : List (Option Setting)}
      (hnodeset : bind.attribute? "nodeset" = some nodeset)
      (hpath : definitions.resolveNodeset nodeset ∈ definitions.fields.paths)
      (hfound : Setting.ofBind options (definitions.resolveNodeset nodeset) bind =
        settings.map some ++ none :: rest) :
      Applies options definitions bind
        (definitions.reportSettings options (definitions.resolveNodeset nodeset) settings,
          .brokenOff)

theorem applies_applyBind (options : Options) (definitions : Definitions) (bind : Element) :
    Applies options definitions bind (definitions.applyBind options bind) := by
  unfold applyBind
  cases hnodeset : bind.attribute? "nodeset" with
  | none => exact .unnamed hnodeset
  | some nodeset =>
      by_cases hpath : definitions.resolveNodeset nodeset ∈ definitions.fields.paths
      · simp only [FieldMap.contains_iff.mpr hpath, if_true]
        rcases Setting.exists_eq_map_some
          (Setting.ofBind options (definitions.resolveNodeset nodeset) bind) with
          ⟨settings, hfound⟩ | ⟨settings, rest, hfound⟩
        · rw [hfound, (Setting.beforeBreak_map_some settings []).2, if_pos (by simp)]
          exact .applied hnodeset hpath hfound
        · rw [hfound, (Setting.beforeBreak_map_some settings rest).1, if_neg (by simp)]
          exact .brokenOff hnodeset hpath hfound
      · rw [← FieldMap.contains_iff] at hpath
        simp only [hpath]
        rw [FieldMap.contains_iff] at hpath
        exact .mismatched hnodeset hpath

/-- The path that a bind means when there is a base path. -/
theorem resolveNodeset_of_basePath {basePath : String}
    (hbase : definitions.basePath = some basePath) (nodeset : String) :
    definitions.resolveNodeset nodeset =
      if nodeset.toList.head? = some '/' then nodeset else basePath ++ "/" ++ nodeset := by
  rw [resolveNodeset, hbase, Option.getD_some]

theorem outline_reportSettings (options : Options) (definitions : Definitions) (path : String)
    (settings : List Setting) :
    (definitions.reportSettings options path settings).fields.outline =
      definitions.fields.outline :=
  FieldMap.outline_modify (Setting.outline_foldl_apply settings) definitions.fields path

/-- A bind leaves the paths and the containers as they are, and the base path too. -/
theorem outline_applyBind (options : Options) (definitions : Definitions) (bind : Element) :
    (definitions.applyBind options bind).1.fields.outline = definitions.fields.outline ∧
      (definitions.applyBind options bind).1.basePath = definitions.basePath := by
  have happlies := applies_applyBind options definitions bind
  generalize definitions.applyBind options bind = result at happlies ⊢
  cases happlies with
  | unnamed | mismatched => exact ⟨rfl, rfl⟩
  | applied | brokenOff => exact ⟨outline_reportSettings .., rfl⟩

/-- However many binds are applied, and however each of them ends. -/
theorem outline_foldl_applyBind (options : Options) (definitions : Definitions)
    (binds : List Element) :
    let made := binds.foldl (fun made bind => (made.applyBind options bind).1) definitions
    made.fields.outline = definitions.fields.outline ∧ made.basePath = definitions.basePath := by
  induction binds generalizing definitions with
  | nil => exact ⟨rfl, rfl⟩
  | cons bind rest ih =>
      obtain ⟨houtline, hbase⟩ := outline_applyBind options definitions bind
      obtain ⟨hrest, hbaseRest⟩ := ih (definitions.applyBind options bind).1
      exact ⟨hrest.trans houtline, hbaseRest.trans hbase⟩

/-- If all binds come to their end, so does the first one, and the others go on from what it
left. -/
theorem applyBinds_cons {bound : Definitions} {binds : List Element}
    (hbinds : definitions.applyBinds options (bind :: binds) = (bound, true)) :
    (definitions.applyBind options bind).2 ≠ .brokenOff ∧
      (definitions.applyBind options bind).1.applyBinds options binds = (bound, true) := by
  rw [applyBinds] at hbinds
  split at hbinds
  · simp at hbinds
  · next made outcome hended hmade =>
      rw [hmade]
      exact ⟨hended, hbinds⟩

/-- What every bind keeps, binds that all come to their end keep. -/
theorem holds_of_applyBinds {holds : Definitions → Prop}
    (hstep : ∀ (made : Definitions) (bind : Element), holds made →
      holds (made.applyBind options bind).1)
    (hstart : holds definitions) {bound : Definitions} {binds : List Element}
    (hbinds : definitions.applyBinds options binds = (bound, true)) : holds bound := by
  induction binds generalizing definitions with
  | nil =>
      obtain rfl := (Prod.mk.inj hbinds).1
      exact hstart
  | cons bind rest ih => exact ih (hstep definitions bind hstart) (applyBinds_cons hbinds).2

/-- Binds that all come to their end are applied one after the other. -/
theorem applyBinds_eq_foldl {bound : Definitions} {binds : List Element}
    (hbinds : definitions.applyBinds options binds = (bound, true)) :
    bound = binds.foldl (fun made bind => (made.applyBind options bind).1) definitions := by
  induction binds generalizing definitions with
  | nil => exact (Prod.mk.inj hbinds).1.symm
  | cons bind rest ih => exact ih (applyBinds_cons hbinds).2

end Definitions

end SurveyForm
