import Mathlib.Data.List.Forall2
import SurveyForm.Proofs.Control.Traversal
import SurveyForm.Proofs.Form.Layout
/-!
How far the names of controls tell the fields apart.  A name is a path with its slashes
written as underscores, and an underscore may also stand in the name of an element.  So two
fields share a name if one path has slashes where the other one has underscores, and in no
other case.
-/

namespace SurveyForm

open Xml (Element Node Place nodesInduction)

namespace Path

/-- Whether two characters come out the same in a flat name. -/
def SameFlat (c d : Char) : Prop :=
  c = d ∨ (c = '/' ∧ d = '_') ∨ (c = '_' ∧ d = '/')

/-- Whether two paths differ only in slashes where the other one has underscores. -/
def FlatAlike (path other : String) : Prop :=
  List.Forall₂ SameFlat path.toList other.toList

theorem sameFlat_iff {c d : Char} :
    (if c = '/' then '_' else c) = (if d = '/' then '_' else d) ↔ SameFlat c d := by
  unfold SameFlat
  by_cases hc : c = '/'
  · by_cases hd : d = '/'
    · simp [hc, hd]
    · simp [hc, hd, Ne.symm hd, eq_comm]
  · by_cases hd : d = '/'
    · simp [hc, hd]
    · simp [hc, hd]

/-- Flat names are the same exactly for paths that are alike in this way. -/
theorem flatName_eq_iff {path other : String} :
    flatName path = flatName other ↔ FlatAlike path other := by
  rw [flatName, flatName, String.ofList_inj, ← List.forall₂_eq_eq_eq, List.forall₂_map_left_iff,
    List.forall₂_map_right_iff, FlatAlike]
  simp only [sameFlat_iff]

/-- Underscores are the only way to confuse paths. -/
theorem eq_of_forall₂_sameFlat {chars others : List Char}
    (halike : List.Forall₂ SameFlat chars others) (hchars : '_' ∉ chars) (hothers : '_' ∉ others) :
    chars = others := by
  induction halike with
  | nil => rfl
  | cons hhead _ ih =>
      rw [List.mem_cons, not_or] at hchars hothers
      rw [ih hchars.2 hothers.2]
      rcases hhead with rfl | ⟨-, rfl⟩ | ⟨rfl, -⟩
      · rfl
      · exact absurd rfl hothers.1
      · exact absurd rfl hchars.1

theorem FlatAlike.eq_of_no_underscore {path other : String} (halike : FlatAlike path other)
    (hpath : '_' ∉ path.toList) (hother : '_' ∉ other.toList) : path = other :=
  String.toList_inj.mp (eq_of_forall₂_sameFlat halike hpath hother)

theorem flatName_child (parent : String) {name : String} (hname : '/' ∉ name.toList) :
    flatName (parent ++ "/" ++ name) = flatName parent ++ "_" ++ name := by
  have hplain : name.toList.map (fun c => if c = '/' then '_' else c) = name.toList := by
    refine (List.map_congr_left fun c hc => ?_).trans (List.map_id _)
    have hne : c ≠ '/' := fun heq => hname (heq ▸ hc)
    exact if_neg hne
  rw [← String.toList_inj]
  simp [flatName, hplain]

/-- Paths that extend one path by a name never come out the same. -/
theorem IsChild.flatName_ne {parent path other : String} (hpath : IsChild parent path)
    (hother : IsChild parent other) (hne : path ≠ other) : flatName path ≠ flatName other := by
  obtain ⟨name, hname, rfl⟩ := hpath
  obtain ⟨last, hlast, rfl⟩ := hother
  intro heq
  rw [flatName_child parent hname.2, flatName_child parent hlast.2] at heq
  have hnames : name = last := String.append_right_inj _ |>.mp heq
  exact hne (by rw [hnames])

end Path

namespace Xml.Place

/-- A path is written with slashes and the characters of the names that it goes through. -/
theorem mem_path_of_mem {around : List (Nat × Element)} {first : Nat} {nodes : List Node}
    {place : Place} {c : Char} (hplace : place ∈ ofNodes around first nodes)
    (hc : c ∈ place.path.toList) :
    c ∈ (pathAround around).toList ∨ c = '/' ∨
      ∃ element ∈ elementsBelow nodes, c ∈ element.name.toList := by
  induction nodes using nodesInduction generalizing around first with
  | nil => simp at hplace
  | other node rest hnode ih =>
      rw [ofNodes_other hnode] at hplace
      rw [elementsBelow_other hnode]
      exact ih hplace
  | element tag children rest ihInside ihRest =>
      simp only [ofNodes_element, ofElement_mk, List.cons_append, List.mem_cons,
        List.mem_append] at hplace
      simp only [elementsBelow_element, descendants_mk, List.mem_cons, List.mem_append]
      rcases hplace with rfl | hinside | hrest
      · simp only [path, String.toList_append, List.mem_append] at hc
        rcases hc with (hc | hc) | hc
        · exact .inl hc
        · exact .inr (.inl (by simpa using hc))
        · exact .inr (.inr ⟨_, .inl rfl, hc⟩)
      · rcases ihInside hinside with hc | hc | ⟨element, helement, hc⟩
        · simp only [pathAround_cons, String.toList_append, List.mem_append] at hc
          rcases hc with (hc | hc) | hc
          · exact .inl hc
          · exact .inr (.inl (by simpa using hc))
          · exact .inr (.inr ⟨_, .inl rfl, hc⟩)
        · exact .inr (.inl hc)
        · exact .inr (.inr ⟨element, .inr (.inl helement), hc⟩)
      · rcases ihRest hrest with hc | hc | ⟨element, helement, hc⟩
        · exact .inl hc
        · exact .inr (.inl hc)
        · exact .inr (.inr ⟨element, .inr (.inr helement), hc⟩)

end Xml.Place

namespace Form

variable {options : Options} {root : Element} {form : Form}

/-- Without underscores in the names of the instance, there are none in the paths. -/
theorem Source.no_underscore_of_mem_paths (source : Source options root)
    (hnames : ∀ element ∈ source.data :: source.data.descendants, '_' ∉ element.name.toList)
    {path : String} (hpath : path ∈ source.form.fields.paths) : '_' ∉ path.toList := by
  rw [FieldMap.paths_eq_of_outline_eq source.outline_fields, Definitions.ofInstance,
    InstanceVisit.paths_foldl_record, mem_firstOccurrences_iff] at hpath
  obtain ⟨place, hplace, rfl⟩ := List.mem_map.mp hpath
  rw [Place.within, Place.ofElement_eq_ofNodes] at hplace
  intro hunderscore
  rcases Place.mem_path_of_mem hplace hunderscore with hc | hc | ⟨element, helement, hc⟩
  · simp [Place.pathAround] at hc
  · exact absurd hc (by decide)
  · exact hnames element (by simpa using helement) hc

/-- Whether a control of a form, at whatever depth, refers to a path. -/
def Shows (form : Form) (control : Control) (path : String) : Prop :=
  Control.Within control form.controls ∧ control.ref = some path

/-- How far the names of controls tell the fields of a form apart, the instance of which has
the given root.  Two names are the same exactly if the paths are alike but for slashes in one
where the other has underscores.  So they differ for fields side by side in the instance,
and for all fields if no element of the instance has an underscore in its name. -/
structure NamesFields (form : Form) (data : Element) : Prop where
  eq_iff : ∀ control other path otherPath,
    form.Shows control path → form.Shows other otherPath →
      (control.heading.elementName = other.heading.elementName ↔ Path.FlatAlike path otherPath)
  ne_of_siblings : ∀ control other parent path otherPath,
    form.Shows control path → form.Shows other otherPath → path ≠ otherPath →
    Path.IsChild parent path → Path.IsChild parent otherPath →
      control.heading.elementName ≠ other.heading.elementName
  ne_of_no_underscore : ∀ control other path otherPath,
    form.Shows control path → form.Shows other otherPath → path ≠ otherPath →
    path ∈ form.fields.paths → otherPath ∈ form.fields.paths →
    (∀ element ∈ data :: data.descendants, '_' ∉ element.name.toList) →
      control.heading.elementName ≠ other.heading.elementName

theorem Shows.elementName_eq {control : Control} {path : String}
    (hshows : form.Shows control path) : control.heading.elementName = Path.flatName path := by
  have href : control.heading.ref = some path := hshows.2
  rw [Heading.elementName, href, Option.getD_some]

/-- The paths that controls refer to are read off their traversal. -/
theorem exists_shows_iff {path : String} :
    (∃ control, form.Shows control path) ↔ some path ∈ form.allControls.map Control.ref := by
  rw [List.mem_map]
  simp only [Shows, allControls, Control.mem_traverse_iff]

/-- The names of controls tell fields apart as far as slashes and underscores allow, in every
form that loads. -/
theorem namesFields_of_ofTree (hload : Form.ofTree options root = .ok form) :
    ∃ frame model data, Frame.ofRoot root = .ok frame ∧
      Definitions.instanceRoot? frame.head = .ok (model, data) ∧ form.NamesFields data := by
  obtain ⟨source, rfl⟩ := exists_source_of_ofTree hload
  refine ⟨source.frame, source.model, source.data, source.frame_eq, source.instance_eq, ?_⟩
  constructor
  case eq_iff =>
    intro control other path otherPath hcontrol hother
    rw [hcontrol.elementName_eq, hother.elementName_eq]
    exact Path.flatName_eq_iff
  case ne_of_siblings =>
    intro control other parent path otherPath hcontrol hother hne hpath hotherPath
    rw [hcontrol.elementName_eq, hother.elementName_eq]
    exact hpath.flatName_ne hotherPath hne
  case ne_of_no_underscore =>
    intro control other path otherPath hcontrol hother hne hpath hotherPath hnames
    rw [hcontrol.elementName_eq, hother.elementName_eq, Ne, Path.flatName_eq_iff]
    intro halike
    apply hne
    apply halike.eq_of_no_underscore
    · exact source.no_underscore_of_mem_paths hnames hpath
    · exact source.no_underscore_of_mem_paths hnames hotherPath

/-- A form that asks for a field inside a group and for one beside it, the name of which is
what the slash of the first one's path becomes. -/
def underscoredForm : Element :=
  let leaf (name : String) := Node.ofParts name [] []
  let input (path : String) := Node.ofParts "input" [("ref", path)] [Node.ofParts "label" [] []]
  documentOf [.text "Underscores"]
    [Node.ofParts "instance" []
      [Node.ofParts "data" [] [leaf "a_b", Node.ofParts "a" [] [leaf "b", leaf "c"]]]]
    [input "a_b", Node.ofParts "group" [] [input "/data/a/b", input "/data/a/c"]]

theorem namesFields_of_ofTree_underscoredForm :
    ∃ form, Form.ofTree {} underscoredForm = .ok form ∧
      (form.allControls.map fun control => (control.ref, control.heading.elementName)) =
        [(some "/data/a_b", "_data_a_b"), (none, ""), (some "/data/a/b", "_data_a_b"),
          (some "/data/a/c", "_data_a_c")] ∧
      ∃ data, form.NamesFields data := by
  have hshown : (Form.ofTree {} underscoredForm).map (fun form =>
      form.allControls.map fun control => (control.ref, control.heading.elementName)) =
      .ok [(some "/data/a_b", "_data_a_b"), (none, ""), (some "/data/a/b", "_data_a_b"),
        (some "/data/a/c", "_data_a_c")] := by
    decide +kernel
  obtain ⟨form, hload, hcontrols⟩ := exists_ofTree_of_map_eq hshown
  obtain ⟨-, -, data, -, -, hnames⟩ := namesFields_of_ofTree hload
  exact ⟨form, hload, hcontrols, data, hnames⟩

/-- Two fields of that form share a name. -/
theorem elementName_eq_of_underscoredForm :
    ∃ form control other, Form.ofTree {} underscoredForm = .ok form ∧
      form.Shows control "/data/a_b" ∧ form.Shows other "/data/a/b" ∧
      "/data/a_b" ∈ form.fields.paths ∧ "/data/a/b" ∈ form.fields.paths ∧
      control.heading.elementName = "_data_a_b" ∧ other.heading.elementName = "_data_a_b" := by
  have hshown : (Form.ofTree {} underscoredForm).map (fun form =>
      (form.allControls.map Control.ref, form.fields.paths)) =
      .ok ([some "/data/a_b", none, some "/data/a/b", some "/data/a/c"],
        ["/data", "/data/a_b", "/data/a", "/data/a/b", "/data/a/c"]) := by
    decide +kernel
  obtain ⟨form, hload, hview⟩ := exists_ofTree_of_map_eq hshown
  obtain ⟨hrefs, hpaths⟩ := Prod.mk.inj hview
  have hbeside : some "/data/a_b" ∈ form.allControls.map Control.ref := by simp [hrefs]
  have hinside : some "/data/a/b" ∈ form.allControls.map Control.ref := by simp [hrefs]
  obtain ⟨control, hcontrol⟩ := exists_shows_iff.mpr hbeside
  obtain ⟨other, hother⟩ := exists_shows_iff.mpr hinside
  refine ⟨form, control, other, hload, hcontrol, hother, by simp [hpaths], by simp [hpaths], ?_, ?_⟩
  · rw [hcontrol.elementName_eq]
    decide
  · rw [hother.elementName_eq]
    decide

end Form

end SurveyForm
