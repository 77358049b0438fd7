import SurveyForm.Proofs.Instance.Paths
/-!
The fields that an instance makes.  There is one for each path, in the order in which the
paths first occur, and it is a container if an element at the path holds others.
-/

namespace SurveyForm

open Xml (Element Place)

/-- What stays of a field whatever is declared about it. -/
def Field.outline (field : Field) : String × Bool :=
  (field.path, field.isContainer)

namespace FieldMap

/-- The fields in order, with what stays of them. -/
def outline (fields : FieldMap) : List (String × Bool) :=
  fields.map Field.outline

theorem map_fst_outline (fields : FieldMap) : fields.outline.map (·.1) = fields.paths := by
  rw [outline, List.map_map]
  rfl

end FieldMap

namespace InstanceVisit

/-- What a visit adds to what is known of a path. -/
def mark (visit : InstanceVisit) (entry : String × Bool) : String × Bool :=
  (entry.1, entry.2 || (visit.path = entry.1 && visit.isContainer))

theorem outline_change (visit : InstanceVisit) (field : Field) :
    (visit.change field).outline = (field.path, field.isContainer || visit.isContainer) := by
  unfold change
  split
  · next hcontainer => simp [Field.outline, hcontainer]
  · next hleaf => simp [Field.outline, hleaf]

theorem outline_record_of_mem {fields : FieldMap} {visit : InstanceVisit}
    (hmem : visit.path ∈ fields.paths) :
    (record fields visit).outline = fields.outline.map visit.mark := by
  rw [record, FieldMap.modifyOrAdd, if_pos (FieldMap.contains_iff.mpr hmem), FieldMap.outline,
    FieldMap.outline, FieldMap.modify, List.map_map, List.map_map]
  refine List.map_congr_left fun field _ => ?_
  simp only [Function.comp_apply]
  split
  · next heq =>
      rw [outline_change, mark, Field.outline, heq]
      simp
  · next hne => simp [mark, Field.outline, Ne.symm hne]

theorem outline_record_of_not_mem {fields : FieldMap} {visit : InstanceVisit}
    (hmem : visit.path ∉ fields.paths) :
    (record fields visit).outline = fields.outline ++ [(visit.path, visit.isContainer)] := by
  rw [record, FieldMap.modifyOrAdd, if_neg (by rwa [FieldMap.contains_iff]), FieldMap.outline,
    List.map_append, List.map_singleton, outline_change, Bool.false_or]
  rfl

/-- What holds of new fields and is kept by each visit holds of all fields that a walk
makes. -/
theorem forall_mem_foldl_record {holds : Field → Prop} (hnew : ∀ path, holds { path })
    (hchange : ∀ (visit : InstanceVisit) (field : Field), holds field → holds (visit.change field))
    (visits : List InstanceVisit) {fields : FieldMap} (hfields : ∀ field ∈ fields, holds field) :
    ∀ field ∈ visits.foldl record fields, holds field := by
  induction visits generalizing fields with
  | nil => exact hfields
  | cons visit rest ih =>
      refine ih fun field hfield => ?_
      rw [record, FieldMap.modifyOrAdd] at hfield
      split at hfield
      · obtain ⟨old, hold, rfl⟩ := List.mem_map.mp hfield
        split
        · exact hchange visit old (hfields old hold)
        · exact hfields old hold
      · rcases List.mem_append.mp hfield with hold | hadded
        · exact hfields field hold
        · rw [List.mem_singleton.mp hadded]
          exact hchange visit _ (hnew visit.path)

/-- The walk makes a field for each path, which is a container if one of the visits to the
path says so. -/
theorem outline_foldl_record (visits : List InstanceVisit) :
    FieldMap.outline (visits.foldl record []) =
      (firstOccurrences (visits.map (·.path))).map fun path =>
        (path, visits.any fun visit => visit.path = path && visit.isContainer) := by
  induction visits using List.reverseRecOn with
  | nil => rfl
  | append_singleton visits last ih =>
      have hpaths : FieldMap.paths (visits.foldl record []) =
          firstOccurrences (visits.map (·.path)) := by
        rw [← FieldMap.map_fst_outline, ih, List.map_map]
        exact List.map_id _
      rw [List.foldl_append, List.foldl_cons, List.foldl_nil, List.map_append, List.map_singleton]
      by_cases hmem : last.path ∈ visits.map (·.path)
      · have hknown : last.path ∈ FieldMap.paths (visits.foldl record []) := by
          rwa [hpaths, mem_firstOccurrences_iff]
        rw [firstOccurrences_concat_of_mem hmem, outline_record_of_mem hknown, ih, List.map_map]
        refine List.map_congr_left fun path _ => ?_
        simp [mark]
      · have hnew : last.path ∉ FieldMap.paths (visits.foldl record []) := by
          rwa [hpaths, mem_firstOccurrences_iff]
        rw [firstOccurrences_concat_of_not_mem hmem, outline_record_of_not_mem hnew, ih,
          List.map_append, List.map_singleton]
        congr 1
        · refine List.map_congr_left fun path hpath => ?_
          have hne : last.path ≠ path := by
            rintro rfl
            exact hmem (mem_firstOccurrences_iff.mp hpath)
          simp [hne]
        · have hnone : visits.any (fun visit => visit.path = last.path && visit.isContainer) =
              false := by
            rw [List.any_eq_false]
            intro visit hvisit hsame
            simp only [Bool.and_eq_true, decide_eq_true_eq] at hsame
            exact hmem (List.mem_map.mpr ⟨visit, hvisit, hsame.1⟩)
          simp [hnone]

/-- What the visits to an instance say of its places. -/
theorem map_ofRoot (root : Element) :
    (ofRoot root).map (fun visit => (visit.path, visit.isContainer)) =
      (Place.within root).map fun place => (place.path, !place.element.elements.isEmpty) := by
  have hvisits := @Place.map_visit_ofNodes [] 0 0 [.element root]
  rwa [ofNodes, ofNodes, List.append_nil, ← Place.ofElement_eq_ofNodes] at hvisits

theorem map_path_ofRoot (root : Element) :
    (ofRoot root).map (·.path) = (Place.within root).map Place.path := by
  have hvisits := congrArg (List.map (·.1)) (map_ofRoot root)
  rwa [List.map_map, List.map_map] at hvisits

/-- The paths of the fields are those of the places, each once. -/
theorem paths_foldl_record (root : Element) :
    FieldMap.paths ((ofRoot root).foldl record []) =
      firstOccurrences ((Place.within root).map Place.path) := by
  rw [← FieldMap.map_fst_outline, outline_foldl_record, map_path_ofRoot, List.map_map]
  exact List.map_id _

theorem any_ofRoot_iff {root : Element} {path : String} :
    (ofRoot root).any (fun visit => visit.path = path && visit.isContainer) = true ↔
      ∃ place ∈ Place.within root, place.path = path ∧ place.element.elements ≠ [] := by
  have hvisits := congrArg (List.any · fun entry => entry.1 = path && entry.2) (map_ofRoot root)
  rw [List.any_map, List.any_map] at hvisits
  rw [show (ofRoot root).any (fun visit => visit.path = path && visit.isContainer) = _ from hvisits]
  simp

end InstanceVisit

/-- The fields are laid out like the instance: their paths are those of its elements, each
once and in the order of its first occurrence, and a field is a container exactly if its
path is extended by a name. -/
structure FieldMap.Follows (fields : FieldMap) (root : Element) : Prop where
  paths_eq : fields.paths = firstOccurrences ((Place.within root).map Place.path)
  nodup : fields.paths.Nodup
  head : fields.paths.head? = some ("/" ++ root.name)
  start : ∀ path ∈ fields.paths, path ≠ "/" ++ root.name →
    ∃ rest, path = "/" ++ root.name ++ "/" ++ rest
  get : ∀ path field, fields.get? path = some field → field.path = path
  parents : Path.ParentsFirst ("/" ++ root.name) fields.paths
  containers : ∀ field ∈ fields, field.isContainer = true ↔
    ∃ name, Path.IsName name ∧ field.path ++ "/" ++ name ∈ fields.paths

/-- Fields with the paths and the containers of an instance are laid out like it. -/
theorem FieldMap.follows_of_outline_eq {fields : FieldMap} {root : Element}
    (hnames : root.HasNames)
    (houtline : fields.outline =
      FieldMap.outline ((InstanceVisit.ofRoot root).foldl InstanceVisit.record [])) :
    fields.Follows root := by
  have hpaths : fields.paths = firstOccurrences ((Place.within root).map Place.path) := by
    rw [← map_fst_outline, houtline, map_fst_outline, InstanceVisit.paths_foldl_record]
  rw [InstanceVisit.outline_foldl_record, InstanceVisit.map_path_ofRoot] at houtline
  have hmem : ∀ path, path ∈ fields.paths ↔ path ∈ (Place.within root).map Place.path := by
    intro path
    rw [hpaths, mem_firstOccurrences_iff]
  refine ⟨hpaths, hpaths ▸ nodup_firstOccurrences _, ?_, ?_, fun _ _ => path_of_get?, ?_, ?_⟩
  · rw [hpaths, head?_firstOccurrences, Place.map_path_within, List.head?_cons]
  · intro path hpath hne
    obtain ⟨place, hplace, rfl⟩ := List.mem_map.mp ((hmem path).mp hpath)
    exact Place.exists_path_within_eq hplace hne
  · exact hpaths ▸ (Place.parentsFirst_within hnames).firstOccurrences
  · intro field hfield
    have hentry : field.outline ∈ fields.outline := List.mem_map_of_mem hfield
    rw [houtline] at hentry
    obtain ⟨path, hpath, heq⟩ := List.mem_map.mp hentry
    obtain ⟨rfl, hcontainer⟩ := Prod.mk.inj heq
    rw [mem_firstOccurrences_iff] at hpath
    rw [← hcontainer, InstanceVisit.any_ofRoot_iff, Place.exists_filled_iff hnames hpath]
    simp only [hmem]

end SurveyForm
