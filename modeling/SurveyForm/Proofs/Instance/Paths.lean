import SurveyForm.Instance
import SurveyForm.Proofs.Occurrences
import SurveyForm.Proofs.Xml.Places
/-!
The paths of the elements of an instance.  A path is made of the names of the elements
around a place and of its own.  Every path comes after the one that it extends.
-/

namespace SurveyForm

open Xml (Element Node Place nodesInduction)

namespace Path

/-- A name as it stands between the slashes of a path. -/
def IsName (name : String) : Prop :=
  name ≠ "" ∧ '/' ∉ name.toList

instance (name : String) : Decidable (IsName name) :=
  inferInstanceAs (Decidable (_ ∧ _))

/-- A path that extends another one by a name. -/
def IsChild (parent path : String) : Prop :=
  ∃ name, IsName name ∧ path = parent ++ "/" ++ name

theorem toList_append_name (parent name : String) :
    (parent ++ "/" ++ name).toList = parent.toList ++ '/' :: name.toList := by
  simp

theorem bne_slash_of_mem_reverse {name : String} (hname : '/' ∉ name.toList) :
    ∀ c ∈ name.toList.reverse, (c != '/') = true := by
  intro c hc
  rw [List.mem_reverse] at hc
  exact bne_iff_ne.mpr fun heq => hname (heq ▸ hc)

theorem lastName_append (parent : String) {name : String} (hname : '/' ∉ name.toList) :
    lastName (parent ++ "/" ++ name) = name := by
  rw [lastName, toList_append_name, List.reverse_append, List.reverse_cons, List.append_assoc,
    List.takeWhile_append_of_pos (bne_slash_of_mem_reverse hname)]
  simp

/-- A path extends only one other path. -/
theorem eq_of_append_eq {parent other name last : String} (hname : '/' ∉ name.toList)
    (hlast : '/' ∉ last.toList) (heq : parent ++ "/" ++ name = other ++ "/" ++ last) :
    parent = other := by
  have hnames : name = last := by
    rw [← lastName_append parent hname, heq, lastName_append other hlast]
  subst hnames
  exact String.append_left_inj _ |>.mp (String.append_left_inj _ |>.mp heq)

/-- Every path but the base comes after a path that it extends. -/
def ParentsFirst (base : String) (paths : List String) : Prop :=
  ∀ before path after, paths = before ++ path :: after →
    path = base ∨ ∃ parent ∈ before, IsChild parent path

theorem parentsFirst_nil (base : String) : ParentsFirst base [] := by
  intro before path after heq
  simp at heq

theorem parentsFirst_concat_iff {base path : String} {paths : List String} :
    ParentsFirst base (paths ++ [path]) ↔
      ParentsFirst base paths ∧ (path = base ∨ ∃ parent ∈ paths, IsChild parent path) := by
  constructor
  · intro hpaths
    refine ⟨fun before other after heq => hpaths before other (after ++ [path]) ?_,
      hpaths paths path [] rfl⟩
    simp [heq]
  · rintro ⟨hpaths, hpath⟩ before other after heq
    rcases List.eq_nil_or_concat after with rfl | ⟨rest, last, hafter⟩
    · obtain ⟨rfl, hlast⟩ := List.append_inj' heq rfl
      obtain rfl : path = other := by simpa using hlast
      exact hpath
    · rw [hafter, List.concat_eq_append, ← List.cons_append, ← List.append_assoc] at heq
      exact hpaths before other rest (List.append_inj' heq rfl).1

/-- The order stays right when repetitions are left out. -/
theorem ParentsFirst.firstOccurrences {base : String} {paths : List String}
    (hpaths : ParentsFirst base paths) : ParentsFirst base (firstOccurrences paths) := by
  induction paths using List.reverseRecOn with
  | nil => exact hpaths
  | append_singleton paths last ih =>
      obtain ⟨hfirst, hlast⟩ := parentsFirst_concat_iff.mp hpaths
      by_cases hmem : last ∈ paths
      · rw [firstOccurrences_concat_of_mem hmem]
        exact ih hfirst
      · rw [firstOccurrences_concat_of_not_mem hmem, parentsFirst_concat_iff]
        simp only [mem_firstOccurrences_iff]
        exact ⟨ih hfirst, hlast⟩

end Path

end SurveyForm

namespace SurveyForm.Xml

open SurveyForm.Path (IsName ParentsFirst)

/-- Whether all names in a tree can stand in paths, as the names of every document can. -/
def Element.HasNames (root : Element) : Prop :=
  ∀ element ∈ root :: root.descendants, IsName element.name

instance (root : Element) : Decidable root.HasNames :=
  inferInstanceAs (Decidable (∀ element ∈ root :: root.descendants, IsName element.name))

theorem Element.HasNames.child {root child : Element} (hnames : root.HasNames)
    (hchild : child ∈ root.elements) : child.HasNames := by
  obtain ⟨tag, children⟩ := root
  intro element helement
  refine hnames element (List.mem_cons_of_mem _ ?_)
  rw [descendants_mk]
  exact below_of_mem_elementsOf hchild element helement

namespace Place

/-- The path that the names of elements make up, the innermost of which comes first. -/
def pathAround (around : List (Nat × Element)) : String :=
  around.foldr (fun outer path => path ++ "/" ++ outer.2.name) ""

/-- The path of a place: the names of the elements around it and its own, each after a
slash. -/
def path (place : Place) : String :=
  pathAround place.around ++ "/" ++ place.element.name

variable {around : List (Nat × Element)} {first : Nat} {nodes : List Node} {place : Place}

theorem pathAround_cons (outer : Nat × Element) (around : List (Nat × Element)) :
    pathAround (outer :: around) = pathAround around ++ "/" ++ outer.2.name :=
  rfl

/-- The visits to an instance are those of its places. -/
theorem map_visit_ofNodes (depth : Nat) (nodes : List Node) :
    (InstanceVisit.ofNodes (pathAround around) depth nodes).map
        (fun visit => (visit.path, visit.isContainer)) =
      (ofNodes around first nodes).map fun place =>
        (place.path, !place.element.elements.isEmpty) := by
  induction nodes using nodesInduction generalizing around first depth with
  | nil => simp [InstanceVisit.ofNodes]
  | other node rest hnode ih =>
      rw [ofNodes_other hnode, InstanceVisit.ofNodes_other hnode]
      exact ih depth
  | element tag children rest ihInside ihRest =>
      have hinside := @ihInside ((first, ⟨tag, children⟩) :: around) (first + 1) (depth + 1)
      have hrest := @ihRest around (first + ((elementsBelow children).length + 1)) depth
      rw [InstanceVisit.ofNodes, InstanceVisit.ofElement, ofNodes_element, ofElement_mk,
        descendants_mk, List.map_append, List.map_append, List.map_cons, List.map_cons, ← hinside,
        ← hrest]
      rfl

/-- An element that holds others has one whose path extends its own. -/
theorem exists_inside (hplace : place ∈ ofNodes around first nodes)
    (hfilled : place.element.elements ≠ []) :
    ∃ inner ∈ ofNodes around first nodes, inner.path = place.path ++ "/" ++ inner.element.name := by
  obtain ⟨child, hchild⟩ := List.exists_mem_of_ne_nil _ hfilled
  obtain ⟨inner, hinner, -, haround⟩ := exists_inner hplace hchild
  refine ⟨inner, hinner, ?_⟩
  rw [path, haround]
  rfl

/-- The path of a place extends that of the element around it, which holds others. -/
theorem exists_outer (hplace : place ∈ ofNodes around first nodes) :
    place.around = around ∨ ∃ outer ∈ ofNodes around first nodes,
      outer.path = pathAround place.around ∧ outer.element.elements ≠ [] := by
  rcases top_or_exists_outer hplace with ⟨haround, -⟩ | ⟨outer, houter, haround, hheld⟩
  · exact .inl haround
  · refine .inr ⟨outer, houter, ?_, List.ne_nil_of_mem hheld⟩
    rw [haround]
    rfl

theorem exists_path_eq (hplace : place ∈ ofNodes around first nodes) :
    ∃ rest, place.path = pathAround around ++ "/" ++ rest := by
  obtain ⟨inner, haround, -⟩ := around_of_mem hplace
  rw [path, haround]
  clear haround
  generalize place.element.name = name
  induction inner generalizing name with
  | nil => exact ⟨name, rfl⟩
  | cons outer inner ih =>
      obtain ⟨rest, hrest⟩ := ih outer.2.name
      refine ⟨rest ++ "/" ++ name, ?_⟩
      rw [List.cons_append, pathAround_cons, hrest]
      simp only [String.append_assoc]

/-- The walk adds to known paths in the right order, if it starts inside one of them. -/
theorem parentsFirst_ofNodes {base : String} {known : List String}
    (hnames : ∀ element ∈ elementsBelow nodes, IsName element.name)
    (hknown : ParentsFirst base known) (hmem : pathAround around ∈ known) :
    ParentsFirst base (known ++ (ofNodes around first nodes).map path) := by
  induction nodes using nodesInduction generalizing around first known with
  | nil => simpa using hknown
  | other node rest hnode ih =>
      rw [elementsBelow_other hnode] at hnames
      rw [ofNodes_other hnode]
      exact ih hnames hknown hmem
  | element tag children rest ihInside ihRest =>
      simp only [elementsBelow_element, descendants_mk, List.mem_cons, List.mem_append] at hnames
      let own := pathAround around ++ "/" ++ tag.name
      have hown : ParentsFirst base (known ++ [own]) := by
        rw [Path.parentsFirst_concat_iff]
        exact ⟨hknown, .inr ⟨_, hmem, tag.name, hnames _ (.inl rfl), rfl⟩⟩
      have hinside := @ihInside ((first, ⟨tag, children⟩) :: around) (first + 1) _
        (fun element hbelow => hnames element (.inr (.inl hbelow))) hown
        (List.mem_append_right known (List.mem_singleton_self own))
      have hrest := @ihRest around (first + ((elementsBelow children).length + 1)) _
        (fun element hbelow => hnames element (.inr (.inr hbelow))) hinside
        (by simp [hmem])
      simpa [path, own] using hrest

section Root

variable {root : Element}

/-- The first path is that of the root. -/
theorem map_path_within (root : Element) :
    (within root).map path = ("/" ++ root.name) ::
      (ofNodes [(0, root)] 1 root.children).map path := by
  obtain ⟨tag, children⟩ := root
  rw [within, ofElement_mk, List.map_cons]
  rfl

theorem parentsFirst_within (hnames : root.HasNames) :
    ParentsFirst ("/" ++ root.name) ((within root).map path) := by
  obtain ⟨tag, children⟩ := root
  rw [map_path_within]
  have hbelow : ∀ element ∈ elementsBelow children, IsName element.name := by
    intro element hmem
    exact hnames element (List.mem_cons_of_mem _ (by rwa [descendants_mk]))
  have hroot : ParentsFirst ("/" ++ tag.name) ["/" ++ tag.name] :=
    Path.parentsFirst_concat_iff.mpr ⟨Path.parentsFirst_nil _, .inl rfl⟩
  exact parentsFirst_ofNodes hbelow hroot (by simp [pathAround])

/-- All other paths start with that of the root. -/
theorem exists_path_within_eq (hplace : place ∈ within root)
    (hne : place.path ≠ "/" ++ root.name) :
    ∃ rest, place.path = "/" ++ root.name ++ "/" ++ rest := by
  obtain ⟨tag, children⟩ := root
  rw [within, ofElement_mk, List.mem_cons] at hplace
  rcases hplace with rfl | hplace
  · exact absurd rfl hne
  · exact exists_path_eq hplace

theorem path_ne_empty (place : Place) : place.path ≠ "" := by
  intro hempty
  have hlength := congrArg String.length hempty
  simp [path] at hlength

theorem isName_of_mem_within (hnames : root.HasNames) (hplace : place ∈ within root) :
    IsName place.element.name := by
  obtain ⟨tag, children⟩ := root
  rw [within, ofElement_eq_ofNodes] at hplace
  exact hnames _ (by simpa using element_of_mem hplace)

/-- The element at a path holds others exactly if the path is extended by a name. -/
theorem exists_filled_iff (hnames : root.HasNames) {target : String}
    (htarget : target ∈ (within root).map path) :
    (∃ place ∈ within root, place.path = target ∧ place.element.elements ≠ []) ↔
      ∃ name, IsName name ∧ target ++ "/" ++ name ∈ (within root).map path := by
  constructor
  · rintro ⟨place, hplace, rfl, hfilled⟩
    have hnodes := hplace
    rw [within, ofElement_eq_ofNodes] at hnodes
    obtain ⟨inner, hinner, hpath⟩ := exists_inside hnodes hfilled
    rw [← ofElement_eq_ofNodes, ← within] at hinner
    exact ⟨inner.element.name, isName_of_mem_within hnames hinner,
      hpath ▸ List.mem_map_of_mem hinner⟩
  · rintro ⟨name, hname, hmem⟩
    obtain ⟨place, hplace, hpath⟩ := List.mem_map.mp hmem
    have hparent : pathAround place.around = target :=
      Path.eq_of_append_eq (isName_of_mem_within hnames hplace).2 hname.2 hpath
    rw [within, ofElement_eq_ofNodes] at hplace
    rcases exists_outer hplace with haround | ⟨outer, houter, hpath, hfilled⟩
    · obtain ⟨other, -, hother⟩ := List.mem_map.mp htarget
      rw [haround] at hparent
      exact absurd (hother.trans hparent.symm) other.path_ne_empty
    · rw [← ofElement_eq_ofNodes, ← within] at houter
      exact ⟨outer, houter, hpath.trans hparent, hfilled⟩

end Root

end Place

end SurveyForm.Xml
