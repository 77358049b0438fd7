import Mathlib.Data.List.Perm.Basic
import SurveyForm.Proofs.Bind.Replacement
import SurveyForm.Proofs.Form.Findings
import SurveyForm.Report.Basic
/-!
What the number of unparsed expressions in a report counts.  Each bind reports what it declares
before a later one can take its place, so the number agrees with what the fields state in the end
exactly if nothing unread has been replaced.
-/

namespace SurveyForm

open Xml (Element Node)

/-! ### Grouping by key -/

section Grouping

variable {α β γ : Type} {keys : List β}

theorem flatMap_ite_eq_filter (keys : List β) (chosen : β → Bool) (parts : β → List γ) :
    (keys.flatMap fun key => if chosen key then parts key else []) =
      (keys.filter chosen).flatMap parts := by
  induction keys with
  | nil => rfl
  | cons key rest ih =>
      rw [List.flatMap_cons, ih, List.filter_cons]
      cases chosen key <;> rfl

/-- Parts come up as often whether they are gathered key by key or item by item. -/
theorem flatMap_filter_perm (belongs : α → β → Bool) (parts : β → α → List γ) (keys : List β)
    (items : List α) :
    (keys.flatMap fun key => (items.filter (belongs · key)).flatMap (parts key)).Perm
      (items.flatMap fun item => (keys.filter (belongs item)).flatMap (parts · item)) := by
  induction items with
  | nil => simp
  | cons item rest ih =>
      have hsplit : ∀ key, ((item :: rest).filter (belongs · key)).flatMap (parts key) =
          (if belongs item key then parts key item else []) ++
            (rest.filter (belongs · key)).flatMap (parts key) := by
        intro key
        rw [List.filter_cons]
        cases belongs item key <;> rfl
      simp only [hsplit]
      rw [List.flatMap_cons, ← flatMap_ite_eq_filter]
      exact (List.flatMap_append_perm keys _ _).symm.trans (ih.append_left _)

/-- Of keys that are all different, at most one is a given one. -/
theorem filter_eq_some_of_nodup [DecidableEq β] (hkeys : keys.Nodup) (key : Option β) :
    (keys.filter fun other => key = some other) = key.toList.filter (· ∈ keys) := by
  cases key with
  | none => simp
  | some key =>
      simp only [Option.some.injEq, Option.toList_some, @eq_comm _ key]
      rw [List.filter_eq, hkeys.count]
      by_cases hmem : key ∈ keys <;> simp [hmem]

end Grouping

/-- Fields side by side: a sum is kept exactly if each summand is. -/
theorem unreadCount_flatMap_le {α : Type} {items : List α} {kept stated : α → List Expr}
    (hle : ∀ item ∈ items, unreadCount (kept item) ≤ unreadCount (stated item)) :
    unreadCount (items.flatMap kept) ≤ unreadCount (items.flatMap stated) ∧
      (unreadCount (items.flatMap stated) = unreadCount (items.flatMap kept) ↔
        ∀ item ∈ items, unreadCount (stated item) = unreadCount (kept item)) := by
  induction items with
  | nil => simp
  | cons item rest ih =>
      rw [List.forall_mem_cons] at hle
      obtain ⟨hrest, hiff⟩ := ih hle.2
      simp only [List.flatMap_cons, unreadCount_append, List.forall_mem_cons, ← hiff]
      omega

/-! ### What is reported -/

/-- The number of findings about expressions that could not be read. -/
def unrecognizedCount (found : List Diagnostic) : Nat :=
  found.countP (·.kind = .unrecognizedExpression)

theorem unrecognizedCount_append (found others : List Diagnostic) :
    unrecognizedCount (found ++ others) = unrecognizedCount found + unrecognizedCount others :=
  List.countP_append

theorem unrecognizedCount_eq_zero {found : List Diagnostic}
    (hfound : ∀ diagnostic ∈ found, diagnostic.kind ≠ .unrecognizedExpression) :
    unrecognizedCount found = 0 := by
  simpa [unrecognizedCount, List.countP_eq_zero] using hfound

/-- There is one finding for each expression that could not be read. -/
theorem unrecognizedCount_filterMap (path : String) (exprs : List Expr) :
    unrecognizedCount (exprs.filterMap (Setting.unrecognized? path)) = unreadCount exprs := by
  rw [unrecognizedCount, List.countP_filterMap, unreadCount]
  congr 1
  funext expr
  cases expr <;> rfl

theorem unrecognizedCount_flatMap_diagnostics (path : String) (settings : List Setting) :
    unrecognizedCount (settings.flatMap (Setting.diagnostics path)) =
      unreadCount (settings.flatMap Setting.wholes) := by
  rw [← unrecognizedCount_filterMap path, List.filterMap_flatMap]
  simp only [← Setting.diagnostics_eq]

theorem unrecognizedCount_diagnosticsOf (itext : Option Element) :
    unrecognizedCount (TranslationTable.diagnosticsOf itext) = 0 := by
  apply unrecognizedCount_eq_zero
  intro diagnostic hmem
  cases itext with
  | none => contradiction
  | some itext =>
      obtain ⟨block, -, hfinding⟩ := List.mem_flatMap.mp hmem
      unfold TranslationTable.diagnosticsIn at hfinding
      split at hfinding
      · obtain rfl := List.mem_singleton.mp hfinding
        decide
      · obtain ⟨entry, -, rfl⟩ := List.mem_map.mp hfinding
        exact nofun

theorem unrecognizedCount_bodyFindings (visits : List BodyVisit) :
    unrecognizedCount (visits.filterMap BodyVisit.diagnostic?) = 0 := by
  apply unrecognizedCount_eq_zero
  intro diagnostic hmem
  obtain ⟨visit, -, hfinding⟩ := List.mem_filterMap.mp hmem
  unfold BodyVisit.diagnostic? at hfinding
  split at hfinding
  · obtain rfl := Option.some.inj hfinding
    exact nofun
  · contradiction

namespace Definitions

variable {options : Options} {definitions bound : Definitions} {basePath : String}
  {binds : List Element}

/-- A bind reports what it declares, if it means a field. -/
theorem unrecognizedCount_bindFindings (hbase : definitions.basePath = some basePath)
    (hbinds : definitions.applyBinds options binds = (bound, true)) {bind : Element}
    (hbind : bind ∈ binds) :
    unrecognizedCount (bindFindings options basePath definitions.fields.paths bind) =
      unreadCount (((definitions.pathOf? bind).toList.filter
        (· ∈ definitions.fields.paths)).flatMap fun path =>
          (Declaration.ofBind options path bind).flatMap Declaration.wholes) := by
  have hresolve := resolveNodeset_of_basePath hbase
  unfold bindFindings pathOf?
  cases hnodeset : bind.attribute? "nodeset" with
  | none => rfl
  | some nodeset =>
      dsimp only
      rw [← hresolve, Option.map_some, Option.toList_some]
      by_cases hpath : definitions.resolveNodeset nodeset ∈ definitions.fields.paths
      · have hmeant : definitions.pathOf? bind = some (definitions.resolveNodeset nodeset) := by
          rw [pathOf?, hnodeset, Option.map_some]
        have hreadable := isUnreadable_of_applyBinds hbase hbinds hbind hmeant hpath
        have hfound := @Setting.ofBind_eq_map_some options (definitions.resolveNodeset nodeset)
          bind hreadable
        rw [if_pos hpath, ← Setting.flatMap_diagnostics_ofBind hfound]
        rw [unrecognizedCount_flatMap_diagnostics, ← Setting.flatMap_wholes_map_declaration,
          Setting.map_declaration_of_ofBind hfound]
        simp [hpath]
      · rw [if_neg hpath]
        simp [hpath, unrecognizedCount, Diagnostic.bindToNoField]

/-- Binds that all come to their end report what they declare at the fields. -/
theorem unrecognizedCount_applyBinds (hbase : definitions.basePath = some basePath)
    (hbinds : definitions.applyBinds options binds = (bound, true))
    (hpaths : definitions.fields.paths.Nodup) :
    unrecognizedCount (binds.flatMap (bindFindings options basePath definitions.fields.paths)) =
      unreadCount (definitions.fields.paths.flatMap fun path =>
        (definitions.declaredAt options binds path).flatMap Declaration.wholes) := by
  have hgrouped := (flatMap_filter_perm
    (fun bind path => decide (definitions.pathOf? bind = some path))
    (fun path bind => (Declaration.ofBind options path bind).flatMap Declaration.wholes)
    definitions.fields.paths binds).countP_eq ExprOver.isUnparsed
  simp only [declaredAt, List.flatMap_assoc]
  rw [unreadCount, hgrouped, unrecognizedCount, List.countP_flatMap, List.countP_flatMap]
  congr 1
  apply List.map_congr_left
  intro bind hbind
  have hreported := unrecognizedCount_bindFindings hbase hbinds hbind
  rw [← filter_eq_some_of_nodup hpaths] at hreported
  exact hreported

end Definitions

namespace Form

variable {options : Options} {root : Element} {form : Form}

/-- What the binds of a form declare at a path. -/
def Source.declaredAt (source : Source options root) (path : String) : List Declaration :=
  (Definitions.ofInstance source.data).declaredAt options (source.model.childrenNamed "bind") path

/-- Translations and the body report no expressions, and binds all that they declare. -/
theorem Source.length_diagnosticsOf (source : Source options root) :
    (source.form.diagnosticsOf .unrecognizedExpression).length =
      unreadCount (source.form.fields.flatMap fun field =>
        (source.declaredAt field.path).flatMap Declaration.wholes) := by
  have hpaths := FieldMap.paths_eq_of_outline_eq source.outline_fields
  have hbinds := Definitions.unrecognizedCount_applyBinds rfl source.binds_eq
    (Definitions.nodup_paths_ofInstance source.data)
  have hfound := Definitions.diagnostics_applyBinds rfl source.binds_eq
  rw [diagnosticsOf, ← List.countP_eq_length_filter]
  change unrecognizedCount source.form.diagnostics = _
  rw [source.diagnostics_form, unrecognizedCount_append, unrecognizedCount_append, unrecognizedCount_diagnosticsOf,
    unrecognizedCount_bodyFindings, hfound, unrecognizedCount_append, hbinds, ← hpaths,
    FieldMap.paths, List.flatMap_map]
  simp [unrecognizedCount, Definitions.ofInstance, declaredAt]

/-- A field of a form is left with what its binds declare, unless something unread got lost. -/
theorem Source.unreadCount_wholes (source : Source options root) {field : Field}
    (hfield : field ∈ source.form.fields) :
    unreadCount field.wholes ≤
        unreadCount ((source.declaredAt field.path).flatMap Declaration.wholes) ∧
      (unreadCount ((source.declaredAt field.path).flatMap Declaration.wholes) =
          unreadCount field.wholes ↔ Declaration.NothingLost (source.declaredAt field.path)) := by
  apply Definitions.unreadCount_wholes_of_applyBinds rfl source.binds_eq source.nodup_paths _ hfield
  intro initial hinitial
  exact Definitions.wholes_of_mem_ofInstance hinitial

end Form

namespace Report

variable {options : Options} {root : Element} {form : Form}

/-- The number of unparsed expressions in the report on a form that loads counts what the binds
declare at its fields.  It is never less than the number of those that the fields state in the
end, and the two are equal exactly if nothing unread has been declared again. -/
theorem unparsedExpressions_of_ofTree (hload : Form.ofTree options root = .ok form)
    (depthLimit : Option Int) :
    ∃ frame model data, Frame.ofRoot root = .ok frame ∧
      Definitions.instanceRoot? frame.head = .ok (model, data) ∧
      let reported := (ofForm form depthLimit).logic.unparsedExpressions
      let stated := unreadCount (form.fields.flatMap Field.wholes)
      let declared := (Definitions.ofInstance data).declaredAt options (model.childrenNamed "bind")
      reported = unreadCount (form.fields.flatMap fun field =>
          (declared field.path).flatMap Declaration.wholes) ∧
        stated ≤ reported ∧
        (reported = stated ↔
          ∀ field ∈ form.fields, Declaration.NothingLost (declared field.path)) := by
  obtain ⟨source, rfl⟩ := Form.exists_source_of_ofTree hload
  refine ⟨source.frame, source.model, source.data, source.frame_eq, source.instance_eq, ?_⟩
  intro reported stated declared
  have hreported : reported = unreadCount (source.form.fields.flatMap fun field =>
      (declared field.path).flatMap Declaration.wholes) := source.length_diagnosticsOf
  obtain ⟨hle, hequal⟩ := unreadCount_flatMap_le fun field hfield =>
    (source.unreadCount_wholes hfield).1
  refine ⟨hreported, hle.trans_eq hreported.symm, ?_⟩
  rw [hreported]
  apply hequal.trans
  exact forall₂_congr fun field hfield => (source.unreadCount_wholes hfield).2

/-- A form with a question and the given binds. -/
def formWithBinds (binds : List (List (String × String))) : Element :=
  Form.documentOf [.text "Binds"]
    (Node.ofParts "instance" [] [Node.ofParts "data" [] [Node.ofParts "a" [] []]] ::
      binds.map fun attributes => Node.ofParts "bind" attributes [])
    []

/-- A form with a calculation that cannot be read in place of one that could be, and with two
conditions that cannot be read. -/
def unreadAtTheEnd : Element :=
  formWithBinds
    [[("nodeset", "/data/a"), ("calculate", "uuid()"), ("constraint", ". > 1 and g(2) or h(3)")],
      [("nodeset", "a"), ("calculate", "count(1)")]]

theorem unparsedExpressions_of_ofTree_unreadAtTheEnd :
    ∃ form frame model data, Form.ofTree {} unreadAtTheEnd = .ok form ∧
      Frame.ofRoot unreadAtTheEnd = .ok frame ∧
      Definitions.instanceRoot? frame.head = .ok (model, data) ∧
      (ofForm form standardDepthLimit).logic.unparsedExpressions = 3 ∧
      unreadCount (form.fields.flatMap Field.wholes) = 3 ∧
      ∀ field ∈ form.fields, Declaration.NothingLost
        ((Definitions.ofInstance data).declaredAt {} (model.childrenNamed "bind") field.path) := by
  have hcounts : (Form.ofTree {} unreadAtTheEnd).map (fun form =>
      ((form.diagnosticsOf .unrecognizedExpression).length,
        unreadCount (form.fields.flatMap Field.wholes))) = .ok (3, 3) := by
    decide +kernel
  obtain ⟨form, hload, hview⟩ := Form.exists_ofTree_of_map_eq hcounts
  obtain ⟨hreported, hstated⟩ := Prod.mk.inj hview
  obtain ⟨frame, model, data, hframe, hinstance, -, -, hiff⟩ :=
    unparsedExpressions_of_ofTree hload standardDepthLimit
  exact ⟨form, frame, model, data, hload, hframe, hinstance, hreported, hstated,
    hiff.mp (hreported.trans hstated.symm)⟩

/-- A form with a calculation that cannot be read, in place of which another one comes. -/
def unreadAtFirst : Element :=
  formWithBinds
    [[("nodeset", "/data/a"), ("calculate", "count(1)")],
      [("nodeset", "a"), ("calculate", "uuid()")]]

/-- What is reported need not be in any field. -/
theorem unparsedExpressions_ne_of_unreadAtFirst :
    ∃ form, Form.ofTree {} unreadAtFirst = .ok form ∧
      (ofForm form standardDepthLimit).logic.unparsedExpressions = 1 ∧
      unreadCount (form.fields.flatMap Field.wholes) = 0 := by
  have hcounts : (Form.ofTree {} unreadAtFirst).map (fun form =>
      ((form.diagnosticsOf .unrecognizedExpression).length,
        unreadCount (form.fields.flatMap Field.wholes))) = .ok (1, 0) := by
    decide +kernel
  obtain ⟨form, hload, hview⟩ := Form.exists_ofTree_of_map_eq hcounts
  obtain ⟨hreported, hstated⟩ := Prod.mk.inj hview
  exact ⟨form, hload, hreported, hstated⟩

end Report

end SurveyForm
