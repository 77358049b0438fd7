import Mathlib.Data.List.Nodup
import SurveyForm.Proofs.Entries
import SurveyForm.Proofs.Expr.Mentions
import SurveyForm.Proofs.Form.Layout
import SurveyForm.Report.Basic
/-!
What a report says about references.  It lists exactly what the logic of the fields mentions,
wherever a path stands in it, and the other ways in which it can be asked say the same.
-/

namespace SurveyForm

open Xml (Element Node)

variable {texts : List String} {text path : String}

theorem mem_sortedSet_iff : text ∈ sortedSet texts ↔ text ∈ texts := by
  rw [sortedSet, List.mem_mergeSort, mem_firstOccurrences_iff]

theorem nodup_sortedSet (texts : List String) : (sortedSet texts).Nodup := by
  have hperm := List.mergeSort_perm (firstOccurrences texts) fun a b => decide (a ≤ b)
  exact hperm.nodup_iff.mpr (nodup_firstOccurrences texts)

namespace Field

/-- Whether the logic of a field mentions a path: its calculation, or the condition of its
relevance or of its constraint. -/
def Mentions (path : String) (field : Field) : Prop :=
  (∃ expr, field.calculate = some expr ∧ expr.Mentions path) ∨
    (∃ condition, field.relevant = some condition ∧ condition.expr.Mentions path) ∨
      ∃ condition, field.constraint = some condition ∧ condition.expr.Mentions path

theorem mem_references_iff {field : Field} : path ∈ field.references ↔ field.Mentions path := by
  rw [references, mem_sortedSet_iff, List.mem_flatMap]
  simp only [ExprOver.mem_referencedPaths_iff, logic, List.mem_append, Option.mem_toList,
    Option.map_eq_some_iff]
  constructor
  · rintro ⟨expr, (hcalculate | ⟨condition, hrelevant, rfl⟩) | ⟨condition, hconstraint, rfl⟩,
      hmentions⟩
    · exact .inl ⟨expr, hcalculate, hmentions⟩
    · exact .inr (.inl ⟨condition, hrelevant, hmentions⟩)
    · exact .inr (.inr ⟨condition, hconstraint, hmentions⟩)
  · rintro (⟨expr, hcalculate, hmentions⟩ | ⟨condition, hrelevant, hmentions⟩ |
      ⟨condition, hconstraint, hmentions⟩)
    · exact ⟨expr, .inl (.inl hcalculate), hmentions⟩
    · exact ⟨_, .inl (.inr ⟨condition, hrelevant, rfl⟩), hmentions⟩
    · exact ⟨_, .inr ⟨condition, hconstraint, rfl⟩, hmentions⟩

theorem references_ne_nil_iff {field : Field} :
    field.references ≠ [] ↔ ∃ path, field.Mentions path := by
  constructor
  · intro hreferences
    obtain ⟨path, hpath⟩ := List.exists_mem_of_ne_nil _ hreferences
    exact ⟨path, mem_references_iff.mp hpath⟩
  · rintro ⟨path, hmentions⟩
    exact List.ne_nil_of_mem (mem_references_iff.mpr hmentions)

end Field

namespace Form

variable {form : Form} {field : Field}

/-- The dependencies have an entry for each field with references. -/
theorem mem_dependencies_iff {entry : String × List String} :
    entry ∈ form.dependencies ↔
      ∃ field ∈ form.fields, (field.path, field.references) = entry ∧ field.references ≠ [] := by
  rw [dependencies, List.mem_filter, List.mem_map]
  constructor
  · rintro ⟨⟨field, hfield, rfl⟩, hreferences⟩
    exact ⟨field, hfield, rfl, by simpa using hreferences⟩
  · rintro ⟨field, hfield, rfl, hreferences⟩
    exact ⟨⟨field, hfield, rfl⟩, by simpa using hreferences⟩

theorem nodup_keys_dependencies (hpaths : form.fields.paths.Nodup) :
    form.dependencies.keys.Nodup := by
  have hsublist : form.dependencies.keys.Sublist form.fields.paths := by
    have hkeys := (List.filter_sublist (p := fun entry => !entry.2.isEmpty)
      (l := form.fields.map fun field => (field.path, field.references))).map Prod.fst
    rwa [List.map_map] at hkeys
  exact hpaths.sublist hsublist

/-- The entry of a field is that of its references. -/
theorem get?_dependencies_iff (hpaths : form.fields.paths.Nodup) (hfield : field ∈ form.fields)
    {references : List String} :
    form.dependencies.get? field.path = some references ↔
      field.references = references ∧ references ≠ [] := by
  rw [Entries.get?_eq_some_iff (nodup_keys_dependencies hpaths), mem_dependencies_iff]
  constructor
  · rintro ⟨other, hother, heq, hreferences⟩
    obtain ⟨hpath, rfl⟩ := Prod.mk.inj heq
    obtain rfl := List.inj_on_of_nodup_map hpaths hother hfield hpath
    exact ⟨rfl, hreferences⟩
  · rintro ⟨rfl, hreferences⟩
    exact ⟨field, hfield, rfl, hreferences⟩

theorem mem_get?_dependencies_iff (hpaths : form.fields.paths.Nodup)
    (hfield : field ∈ form.fields) {path : String} :
    (∃ references, form.dependencies.get? field.path = some references ∧ path ∈ references) ↔
      field.Mentions path := by
  rw [← Field.mem_references_iff]
  constructor
  · rintro ⟨references, hget, hmem⟩
    obtain ⟨rfl, -⟩ := (get?_dependencies_iff hpaths hfield).mp hget
    exact hmem
  · intro hmem
    have hreferences := List.ne_nil_of_mem hmem
    exact ⟨_, (get?_dependencies_iff hpaths hfield).mpr ⟨rfl, hreferences⟩, hmem⟩

theorem mem_keys_dependencies_iff (hpaths : form.fields.paths.Nodup)
    (hfield : field ∈ form.fields) :
    field.path ∈ form.dependencies.keys ↔ ∃ path, field.Mentions path := by
  rw [← Field.references_ne_nil_iff, Entries.mem_keys_iff, Option.isSome_iff_exists]
  constructor
  · rintro ⟨references, hget⟩
    obtain ⟨rfl, hreferences⟩ := (get?_dependencies_iff hpaths hfield).mp hget
    exact hreferences
  · intro hreferences
    exact ⟨_, (get?_dependencies_iff hpaths hfield).mpr ⟨rfl, hreferences⟩⟩

theorem keys_dependencies_subset (form : Form) : form.dependencies.keys ⊆ form.fields.paths := by
  intro key hkey
  obtain ⟨entry, hentry, rfl⟩ := List.mem_map.mp hkey
  obtain ⟨field, hfield, rfl, -⟩ := mem_dependencies_iff.mp hentry
  exact List.mem_map_of_mem hfield

theorem nodup_of_mem_dependencies {entry : String × List String}
    (hentry : entry ∈ form.dependencies) : entry.2.Nodup := by
  obtain ⟨field, -, rfl, -⟩ := mem_dependencies_iff.mp hentry
  exact nodup_sortedSet _

theorem mem_undefinedReferences_iff {path : String} :
    path ∈ form.undefinedReferences ↔
      (∃ field ∈ form.fields, field.Mentions path) ∧ path ∉ form.fields.paths := by
  rw [undefinedReferences, mem_sortedSet_iff, List.mem_filter, List.mem_flatMap]
  simp only [Field.mem_references_iff, ← FieldMap.contains_iff, Bool.not_eq_true']
  simp

theorem undefinedReferences_eq_nil_iff :
    form.undefinedReferences = [] ↔
      ∀ field ∈ form.fields, ∀ path, field.Mentions path → path ∈ form.fields.paths := by
  rw [List.eq_nil_iff_forall_not_mem]
  constructor
  · intro hnone field hfield path hmentions
    by_contra hpath
    exact hnone path (mem_undefinedReferences_iff.mpr ⟨⟨field, hfield, hmentions⟩, hpath⟩)
  · intro hall path hundefined
    obtain ⟨⟨field, hfield, hmentions⟩, hpath⟩ := mem_undefinedReferences_iff.mp hundefined
    exact hpath (hall field hfield path hmentions)

end Form

namespace Report

variable {form : Form}

/-- The references in a report are those that the logic of the fields mentions, neither more
nor fewer, and each of them is listed once. -/
structure RefersExactly (report : Report) (fields : FieldMap) : Prop where
  dependency_iff : ∀ field ∈ fields, ∀ path,
    (∃ references, report.logic.dependencies.get? field.path = some references ∧
      path ∈ references) ↔ field.Mentions path
  key_iff : ∀ field ∈ fields,
    field.path ∈ report.logic.dependencies.keys ↔ ∃ path, field.Mentions path
  keys_subset : report.logic.dependencies.keys ⊆ fields.paths
  dependents_iff : ∀ path owner,
    owner ∈ report.dependentsOf path ↔ ∃ field ∈ fields, field.path = owner ∧ field.Mentions path
  undefined_iff : ∀ path,
    path ∈ report.logic.undefinedReferences ↔
      (∃ field ∈ fields, field.Mentions path) ∧ path ∉ fields.paths
  undefined_eq_nil_iff : report.logic.undefinedReferences = [] ↔
    ∀ field ∈ fields, ∀ path, field.Mentions path → path ∈ fields.paths
  nodup_keys : report.logic.dependencies.keys.Nodup
  nodup_dependencies : ∀ entry ∈ report.logic.dependencies, entry.2.Nodup
  nodup_dependents : ∀ path, (report.dependentsOf path).Nodup
  nodup_undefined : report.logic.undefinedReferences.Nodup

theorem mem_dependentsOf_iff {depthLimit : Option Int} {path owner : String} :
    owner ∈ (ofForm form depthLimit).dependentsOf path ↔
      ∃ field ∈ form.fields, field.path = owner ∧ field.Mentions path := by
  rw [dependentsOf, mem_sortedSet_iff, List.mem_map]
  constructor
  · rintro ⟨entry, hentry, rfl⟩
    obtain ⟨hmem, hcontains⟩ := List.mem_filter.mp hentry
    obtain ⟨field, hfield, rfl, -⟩ := Form.mem_dependencies_iff.mp hmem
    exact ⟨field, hfield, rfl, Field.mem_references_iff.mp (List.contains_iff_mem.mp hcontains)⟩
  · rintro ⟨field, hfield, rfl, hmentions⟩
    have hreference := Field.mem_references_iff.mpr hmentions
    refine ⟨(field.path, field.references), List.mem_filter.mpr ⟨?_, ?_⟩, rfl⟩
    · exact Form.mem_dependencies_iff.mpr ⟨field, hfield, rfl, List.ne_nil_of_mem hreference⟩
    · exact List.contains_iff_mem.mpr hreference

/-- Where no two fields have one path, a report refers exactly to what their logic mentions.
That is what the lists of the expressions hold: each path that is mentioned anywhere in an
expression once, in the order in which the paths first occur. -/
theorem refersExactly_ofForm (hpaths : form.fields.paths.Nodup) (depthLimit : Option Int) :
    (ofForm form depthLimit).RefersExactly form.fields ∧
      ∀ expr : Expr, (∀ path, path ∈ expr.referencedPaths ↔ expr.Mentions path) ∧
        expr.referencedPaths.Nodup ∧
        expr.referencedPaths.Pairwise fun first second =>
          (expr.walk.filterMap ExprOver.ownPath?).idxOf first <
            (expr.walk.filterMap ExprOver.ownPath?).idxOf second := by
  constructor
  · constructor
    case dependency_iff =>
      exact fun field hfield path => Form.mem_get?_dependencies_iff hpaths hfield
    case key_iff => exact fun field hfield => Form.mem_keys_dependencies_iff hpaths hfield
    case keys_subset => exact form.keys_dependencies_subset
    case dependents_iff => exact fun path owner => mem_dependentsOf_iff
    case undefined_iff => exact fun path => Form.mem_undefinedReferences_iff
    case undefined_eq_nil_iff => exact Form.undefinedReferences_eq_nil_iff
    case nodup_keys => exact Form.nodup_keys_dependencies hpaths
    case nodup_dependencies => exact fun entry hentry => Form.nodup_of_mem_dependencies hentry
    case nodup_dependents => exact fun path => nodup_sortedSet _
    case nodup_undefined => exact nodup_sortedSet _
  · intro expr
    refine ⟨fun path => ExprOver.mem_referencedPaths_iff, ?_, ?_⟩
    · exact nodup_firstOccurrences _
    · exact pairwise_idxOf_firstOccurrences _

/-- A form with references in calculations and conditions: in the arguments of calls, in tests
and in what they decide between, in single terms and in conjunctions. -/
def referringForm : Element :=
  let bind (attributes : List (String × String)) := Node.ofParts "bind" attributes []
  let leaf (name : String) := Node.ofParts name [] []
  Form.documentOf [.text "Referring"]
    [Node.ofParts "instance" [] [Node.ofParts "data" [] [leaf "a", leaf "b", leaf "c"]],
      bind [("nodeset", "a"), ("relevant", "selected(../b, 'x')"),
        ("calculate", "concat(if(../b = 1 and ../c = 2 or ../d > 2, 'y', concat(../c)))")],
      bind [("nodeset", "b"), ("constraint", ". > 1 and regex(., 'x') or ../z = 3"),
        ("calculate", "if(../c = 1, concat(../y = 2), 'x')")]]
    []

theorem refersExactly_ofForm_referringForm :
    ∃ form, Form.ofTree {} referringForm = .ok form ∧
      form.fields.map (fun field => (field.path, field.logic.map ExprOver.referencedPaths)) =
        [("/data", []),
          ("/data/a", [["/data/b", "/data/c", "/data/d"], ["/data/b"]]),
          ("/data/b", [["/data/c", "/data/y"], ["/data/b", "/data/z"]]),
          ("/data/c", [])] ∧
      form.fields.paths.Nodup ∧ (ofForm form none).RefersExactly form.fields := by
  have hlists : (Form.ofTree {} referringForm).map (fun form =>
      form.fields.map fun field => (field.path, field.logic.map ExprOver.referencedPaths)) =
        .ok [("/data", []),
          ("/data/a", [["/data/b", "/data/c", "/data/d"], ["/data/b"]]),
          ("/data/b", [["/data/c", "/data/y"], ["/data/b", "/data/z"]]),
          ("/data/c", [])] := by
    decide +kernel
  obtain ⟨form, hload, hview⟩ := Form.exists_ofTree_of_map_eq hlists
  have hpaths := Form.nodup_paths_of_ofTree hload
  exact ⟨form, hload, hview, hpaths, (refersExactly_ofForm hpaths none).1⟩

end Report

end SurveyForm
