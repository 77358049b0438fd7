import SurveyForm.Proofs.Form.Loading
import SurveyForm.Proofs.Instance.Fields
import SurveyForm.Proofs.Xml.Levels
/-!
Leaves and containers.  All elements of one path share a field, and each visit to the path
leaves its marks there: one to a leaf sets the type and the value, one to a container only
says so.  A field is of one kind exactly if the elements at its path are.
-/

namespace SurveyForm

open Xml (Element Node Place)

namespace Field

/-- Whether a field is as a leaf of the instance leaves it. -/
def IsLeaf (field : Field) : Prop :=
  field.isContainer = false ∧ field.type = some "string"

/-- Whether a field is a container and has neither a type nor a value. -/
def IsBareContainer (field : Field) : Prop :=
  field.isContainer = true ∧ field.type = none ∧ field.defaultValue = none

instance (field : Field) : Decidable field.IsLeaf :=
  inferInstanceAs (Decidable (_ ∧ _))

instance (field : Field) : Decidable field.IsBareContainer :=
  inferInstanceAs (Decidable (_ ∧ _))

end Field

namespace InstanceVisit

variable {visits : List InstanceVisit} {path : String}

theorem path_change (visit : InstanceVisit) (field : Field) :
    (visit.change field).path = field.path :=
  congrArg Prod.fst (visit.outline_change field)

/-- The visits to a path. -/
def visitsTo (visits : List InstanceVisit) (path : String) : List InstanceVisit :=
  visits.filter (·.path = path)

/-- The visits to a path that find a leaf there. -/
def leavesAt (visits : List InstanceVisit) (path : String) : List InstanceVisit :=
  (visitsTo visits path).filter (!·.isContainer)

/-- The field that visits make at a path, one after the other. -/
def fieldAt (visits : List InstanceVisit) (path : String) : Field :=
  (visitsTo visits path).foldl (fun field visit => visit.change field) { path }

theorem visitsTo_concat_of_ne {last : InstanceVisit} (hne : last.path ≠ path) :
    visitsTo (visits ++ [last]) path = visitsTo visits path := by
  simp [visitsTo, List.filter_append, hne]

theorem visitsTo_concat_self (visits : List InstanceVisit) (last : InstanceVisit) :
    visitsTo (visits ++ [last]) last.path = visitsTo visits last.path ++ [last] := by
  simp [visitsTo, List.filter_append]

theorem fieldAt_concat_of_ne {last : InstanceVisit} (hne : last.path ≠ path) :
    fieldAt (visits ++ [last]) path = fieldAt visits path := by
  rw [fieldAt, visitsTo_concat_of_ne hne, fieldAt]

theorem fieldAt_concat_self (visits : List InstanceVisit) (last : InstanceVisit) :
    fieldAt (visits ++ [last]) last.path = last.change (fieldAt visits last.path) := by
  rw [fieldAt, visitsTo_concat_self, List.foldl_append]
  rfl

theorem fieldAt_of_not_visited (hnew : ∀ visit ∈ visits, visit.path ≠ path) :
    fieldAt visits path = { path } := by
  rw [fieldAt, visitsTo, List.filter_eq_nil_iff.mpr (by simpa using hnew)]
  rfl

/-- A field is a container if one of the visits to its path says so, and the last leaf that is
found there gives it its type and its value. -/
theorem fieldAt_eq (visits : List InstanceVisit) (path : String) :
    fieldAt visits path =
      { path
        isContainer := (visitsTo visits path).any (·.isContainer)
        type := (leavesAt visits path).getLast?.map fun _ => "string"
        defaultValue := (leavesAt visits path).getLast?.bind (·.text) } := by
  rw [fieldAt, leavesAt]
  induction visitsTo visits path using List.reverseRecOn with
  | nil => rfl
  | append_singleton visits last ih =>
      rw [List.foldl_append, ih, List.foldl_cons, List.foldl_nil, change]
      cases hkind : last.isContainer with
      | true => simp [hkind]
      | false => simp [hkind]

theorem mem_paths_foldl_record_iff :
    path ∈ FieldMap.paths (visits.foldl record []) ↔ ∃ visit ∈ visits, visit.path = path := by
  rw [← FieldMap.map_fst_outline, outline_foldl_record, List.map_map, Function.comp_def,
    List.map_id', mem_firstOccurrences_iff, List.mem_map]

/-- After a walk, each field is the one that the visits to its path make. -/
theorem eq_fieldAt_of_mem {field : Field} (hfield : field ∈ visits.foldl record []) :
    field = fieldAt visits field.path := by
  induction visits using List.reverseRecOn generalizing field with
  | nil => contradiction
  | append_singleton visits last ih =>
      rw [List.foldl_append, List.foldl_cons, List.foldl_nil, record, FieldMap.modifyOrAdd] at hfield
      split at hfield
      · obtain ⟨old, hold, rfl⟩ := List.mem_map.mp hfield
        by_cases hpath : old.path = last.path
        · rw [if_pos hpath, path_change, hpath, fieldAt_concat_self, ← hpath, ← ih hold]
        · rw [if_neg hpath, fieldAt_concat_of_ne (Ne.symm hpath)]
          exact ih hold
      · next hnew =>
          rw [FieldMap.contains_iff] at hnew
          rcases List.mem_append.mp hfield with hold | hadded
          · have hne : last.path ≠ field.path := by
              intro heq
              exact hnew (heq ▸ List.mem_map_of_mem hold)
            rw [fieldAt_concat_of_ne hne]
            exact ih hold
          · have hfirst : ∀ visit ∈ visits, visit.path ≠ last.path := by
              intro visit hvisit heq
              exact hnew (mem_paths_foldl_record_iff.mpr ⟨visit, hvisit, heq⟩)
            rw [List.mem_singleton.mp hadded, path_change, fieldAt_concat_self,
              fieldAt_of_not_visited hfirst]

theorem fieldAt_of_leaves_only (hvisited : visitsTo visits path ≠ [])
    (hleaves : ∀ visit ∈ visitsTo visits path, visit.isContainer = false) :
    (fieldAt visits path).IsLeaf := by
  have hall : leavesAt visits path = visitsTo visits path := by
    rw [leavesAt, List.filter_eq_self]
    simpa using hleaves
  rw [fieldAt_eq, hall]
  constructor
  · simpa using hleaves
  · obtain ⟨last, hlast⟩ := Option.ne_none_iff_exists'.mp (mt List.getLast?_eq_none_iff.mp hvisited)
    simp [hlast]

theorem fieldAt_of_containers_only (hvisited : visitsTo visits path ≠ [])
    (hcontainers : ∀ visit ∈ visitsTo visits path, visit.isContainer = true) :
    (fieldAt visits path).IsBareContainer := by
  have hnone : leavesAt visits path = [] := by
    rw [leavesAt, List.filter_eq_nil_iff]
    simpa using hcontainers
  rw [fieldAt_eq, hnone]
  refine ⟨?_, rfl, rfl⟩
  obtain ⟨first, hfirst⟩ := List.exists_mem_of_ne_nil _ hvisited
  exact List.any_eq_true.mpr ⟨first, hfirst, hcontainers first hfirst⟩

/-- A leaf and a container at one path make a container with the type of a leaf. -/
theorem fieldAt_of_both
    (hleaf : ∃ visit ∈ visitsTo visits path, visit.isContainer = false)
    (hcontainer : ∃ visit ∈ visitsTo visits path, visit.isContainer = true) :
    (fieldAt visits path).isContainer = true ∧ (fieldAt visits path).type = some "string" := by
  have hleaves : leavesAt visits path ≠ [] := by
    obtain ⟨leaf, hmem, hkind⟩ := hleaf
    apply List.ne_nil_of_mem
    exact List.mem_filter.mpr ⟨hmem, by simpa using hkind⟩
  rw [fieldAt_eq]
  constructor
  · exact List.any_eq_true.mpr hcontainer
  · obtain ⟨last, hlast⟩ := Option.ne_none_iff_exists'.mp (mt List.getLast?_eq_none_iff.mp hleaves)
    simp [hlast]

/-- The visits to a path find leaves and containers as there are elements of the path. -/
theorem exists_mem_visitsTo_iff {root : Element} {kind : Bool} :
    (∃ visit ∈ visitsTo (ofRoot root) path, visit.isContainer = kind) ↔
      ∃ place ∈ Place.within root, place.path = path ∧
        (!place.element.elements.isEmpty) = kind := by
  have hentry : (path, kind) ∈ (ofRoot root).map (fun visit => (visit.path, visit.isContainer)) ↔
      (path, kind) ∈ (Place.within root).map fun place =>
        (place.path, !place.element.elements.isEmpty) := by
    rw [map_ofRoot]
  simp only [List.mem_map, Prod.mk.injEq] at hentry
  simp only [visitsTo, List.mem_filter, decide_eq_true_eq, and_assoc]
  exact hentry

end InstanceVisit

/-- Whether an element with child elements and one without any share a path. -/
def Xml.Element.MixesAt (root : Element) (path : String) : Prop :=
  (∃ place ∈ Place.within root, place.path = path ∧ place.element.elements = []) ∧
    ∃ place ∈ Place.within root, place.path = path ∧ place.element.elements ≠ []

instance (root : Element) (path : String) : Decidable (root.MixesAt path) :=
  inferInstanceAs (Decidable (_ ∧ _))

namespace InstanceVisit

theorem mixesAt_iff {root : Element} {path : String} :
    root.MixesAt path ↔
      (∃ visit ∈ visitsTo (ofRoot root) path, visit.isContainer = false) ∧
        ∃ visit ∈ visitsTo (ofRoot root) path, visit.isContainer = true := by
  rw [exists_mem_visitsTo_iff, exists_mem_visitsTo_iff, Element.MixesAt]
  simp

end InstanceVisit

open InstanceVisit (visitsTo)

namespace Definitions

variable {limit : Nat} {root : Element}

/-- A walk that meets no name it cannot ask for and no level too many records everything. -/
theorem recordInstance_eq_of_levels_le
    (hplain : ∀ element ∈ root :: root.descendants, element.hasPlainName = true)
    (hfits : root.levels ≤ limit) : recordInstance limit {} root = ofInstance root := by
  apply recordInstance_eq_ofInstance
  rw [InstanceVisit.findSome?_stop?_ofRoot, InstanceVisit.levelsOf_eq hplain,
    if_neg (Nat.not_lt.mpr hfits), if_pos (List.all_eq_true.mpr hplain)]

/-- After the walk over an instance, a field is a leaf or a bare container exactly if the
elements of its path are all leaves or all containers.  Where they are mixed, it is a container
that has the type of a leaf. -/
theorem isLeaf_or_isBareContainer_iff
    (hplain : ∀ element ∈ root :: root.descendants, element.hasPlainName = true)
    (hfits : root.levels ≤ limit) :
    ∀ field ∈ (recordInstance limit {} root).fields,
      (field.IsLeaf ∨ field.IsBareContainer ↔ ¬root.MixesAt field.path) ∧
        (root.MixesAt field.path → field.isContainer = true ∧ field.type = some "string") := by
  intro field hfield
  rw [recordInstance_eq_of_levels_le hplain hfits, ofInstance] at hfield
  have hvisited : visitsTo (InstanceVisit.ofRoot root) field.path ≠ [] := by
    obtain ⟨visit, hvisit, hpath⟩ :=
      InstanceVisit.mem_paths_foldl_record_iff.mp (List.mem_map_of_mem hfield)
    exact List.ne_nil_of_mem (List.mem_filter.mpr ⟨hvisit, decide_eq_true hpath⟩)
  have hmade := InstanceVisit.eq_fieldAt_of_mem hfield
  have hmixed : root.MixesAt field.path → field.isContainer = true ∧ field.type = some "string" := by
    rw [InstanceVisit.mixesAt_iff]
    rintro ⟨hleaf, hcontainer⟩
    rw [hmade]
    exact InstanceVisit.fieldAt_of_both hleaf hcontainer
  refine ⟨⟨?_, ?_⟩, hmixed⟩
  · intro hkind hboth
    obtain ⟨hcontainer, htype⟩ := hmixed hboth
    rcases hkind with ⟨hleaf, -⟩ | ⟨-, hnone, -⟩
    · simp [hcontainer] at hleaf
    · simp [htype] at hnone
  · intro hpure
    rw [InstanceVisit.mixesAt_iff, not_and_or] at hpure
    rw [hmade]
    rcases hpure with hleafless | hcontainerless
    · right
      apply InstanceVisit.fieldAt_of_containers_only hvisited
      simpa using hleafless
    · left
      apply InstanceVisit.fieldAt_of_leaves_only hvisited
      simpa using hcontainerless

/-- An instance with leaves that share a path, with containers that do, and with a leaf and a
container that do. -/
def mixedInstance : Element :=
  let leaf (name text : String) := Node.ofParts name [] [.text text]
  ⟨⟨none, "data", [], [], []⟩,
    [Node.ofParts "c" [] [leaf "d" "1", .comment, leaf "d" "2"], leaf "a" "3",
      Node.ofParts "c" [] [leaf "e" ""], Node.ofParts "a" [] [leaf "b" "4"]]⟩

theorem isLeaf_or_isBareContainer_mixedInstance :
    (∀ element ∈ mixedInstance :: mixedInstance.descendants, element.hasPlainName = true) ∧
      mixedInstance.levels ≤ 3 ∧
      (recordInstance 3 {} mixedInstance).fields.map
          (fun field => (field.path, field.isContainer, field.type, field.defaultValue)) =
        [("/data", true, none, none), ("/data/c", true, none, none),
          ("/data/c/d", false, some "string", some "2"), ("/data/a", true, some "string", some "3"),
          ("/data/c/e", false, some "string", some ""),
          ("/data/a/b", false, some "string", some "4")] ∧
      ¬mixedInstance.MixesAt "/data/c" ∧ mixedInstance.MixesAt "/data/a" ∧
      ∀ field ∈ (recordInstance 3 {} mixedInstance).fields,
        (field.IsLeaf ∨ field.IsBareContainer ↔ ¬mixedInstance.MixesAt field.path) ∧
          (mixedInstance.MixesAt field.path →
            field.isContainer = true ∧ field.type = some "string") := by
  have hplain : ∀ element ∈ mixedInstance :: mixedInstance.descendants,
      element.hasPlainName = true := by
    decide
  have hfits : mixedInstance.levels ≤ 3 := by decide
  exact ⟨hplain, hfits, by decide +kernel, by decide, by decide,
    isLeaf_or_isBareContainer_iff hplain hfits⟩

/-- The field of a leaf and a container is neither the one nor the other. -/
theorem exists_not_isLeaf_of_mixedInstance :
    mixedInstance.levels ≤ 3 ∧
      ∃ field ∈ (recordInstance 3 {} mixedInstance).fields,
        ¬(field.IsLeaf ∨ field.IsBareContainer) := by
  decide +kernel

end Definitions

end SurveyForm
