import SurveyForm.Proofs.Body.Reach
/-!
How the controls of a body are arranged.  Each place that becomes a control has exactly
one, in document order, and a control lies directly in the group that is nearest around
its place.
-/

namespace SurveyForm

open Xml (Element Node Place nodesInduction)

variable {reader : BodyReader} {base : String} {outer target : Option Nat}
  {first middle last : Nat} {around : List (Nat × Element)}

namespace BodyReader

/-- The kinds of controls that an element can become, each with the heading that is read
off the element. -/
inductive Represents (reader : BodyReader) (element : Element) : Control → Prop
  | group {base : String} {repeats : Bool} {children : List Control}
      (hname : element.name = "group") :
      Represents reader element (.group (reader.heading base element) repeats children)
  | selection {base : String} {bound : BoundData} {selection : Selection}
      (hname : element.name = "select" ∨ element.name = "select1") :
      Represents reader element
        (.question ⟨reader.heading base element, element.name, bound, some selection⟩)
  | plain {base : String} {bound : BoundData}
      (hname : element.name ∉ ["group", "select", "select1"]) :
      Represents reader element
        (.question ⟨reader.heading base element, element.name, bound, none⟩)

/-- Controls arranged like places: the pairs go through both in document order.  The nearest
group around a place is the one around them all or has a control too.  The controls of the
former kind are at the top, and each group holds those that it is the nearest group of. -/
structure Arranged (reader : BodyReader) (outer : Option Nat) (places : List Place)
    (controls : List Control) (pairs : List (Place × Control)) : Prop where
  places_eq : pairs.map (·.1) = places
  controls_eq : pairs.map (·.2) = Control.traverse controls
  represents : ∀ pair ∈ pairs, reader.Represents pair.1.element pair.2
  held : ∀ pair ∈ pairs, pair.1.groupAround? = outer ∨
    ∃ group ∈ pairs, group.1.element.name = "group" ∧
      pair.1.groupAround? = some group.1.number
  top : controls = (pairs.filter (·.1.groupAround? = outer)).map (·.2)
  inside : ∀ pair ∈ pairs, pair.1.element.name = "group" →
    pair.2.children = (pairs.filter (·.1.groupAround? = some pair.1.number)).map (·.2)

theorem Arranged.mem_places {places : List Place} {controls : List Control}
    {pairs : List (Place × Control)} (harranged : reader.Arranged outer places controls pairs)
    {pair : Place × Control} (hmem : pair ∈ pairs) : pair.1 ∈ places :=
  harranged.places_eq ▸ List.mem_map_of_mem hmem

/-- No place of a stretch belongs to a group that is neither in the stretch nor the one
around it. -/
theorem Arranged.filter_eq_nil {places : List Place} {controls : List Control}
    {pairs : List (Place × Control)} (harranged : reader.Arranged outer places controls pairs)
    (hplaces : ∀ place ∈ places, place.LiesIn outer first last) (hne : target ≠ outer)
    (hout : ∀ number, target = some number → number < first ∨ last ≤ number) :
    pairs.filter (·.1.groupAround? = target) = [] := by
  rw [List.filter_eq_nil_iff]
  intro pair hmem hgroup
  rw [decide_eq_true_iff] at hgroup
  obtain ⟨-, hgiven | ⟨number, hnumber, hfirst, hlast⟩⟩ := hplaces _ (harranged.mem_places hmem)
  · exact hne (hgroup.symm.trans hgiven)
  · have := hout number (hgroup.symm.trans hnumber)
    omega

theorem arranged_nil : reader.Arranged outer [] [] [] :=
  ⟨rfl, by simp [Control.traverse_eq_preorderAll, Control.preorderAll], by simp, by simp, rfl,
    by simp⟩

theorem Arranged.append {places others : List Place} {controls more : List Control}
    {left right : List (Place × Control)}
    (hplaces : ∀ place ∈ places, place.LiesIn outer first middle)
    (hothers : ∀ place ∈ others, place.LiesIn outer middle last)
    (houter : ∀ number, outer = some number → number < first) (hle : first ≤ middle)
    (hleft : reader.Arranged outer places controls left)
    (hright : reader.Arranged outer others more right) :
    reader.Arranged outer (places ++ others) (controls ++ more) (left ++ right) where
  places_eq := by rw [List.map_append, hleft.places_eq, hright.places_eq]
  controls_eq := by
    simp only [List.map_append, hleft.controls_eq, hright.controls_eq,
      Control.traverse_eq_preorderAll, Control.preorderAll_append]
  represents := by
    intro pair hmem
    rcases List.mem_append.mp hmem with hmem | hmem
    · exact hleft.represents pair hmem
    · exact hright.represents pair hmem
  held := by
    intro pair hmem
    rcases List.mem_append.mp hmem with hmem | hmem
    · rcases hleft.held pair hmem with htop | ⟨group, hgroup, hheld⟩
      · exact .inl htop
      · exact .inr ⟨group, List.mem_append_left right hgroup, hheld⟩
    · rcases hright.held pair hmem with htop | ⟨group, hgroup, hheld⟩
      · exact .inl htop
      · exact .inr ⟨group, List.mem_append_right left hgroup, hheld⟩
  top := by rw [List.filter_append, List.map_append, ← hleft.top, ← hright.top]
  inside := by
    intro pair hmem hname
    rw [List.filter_append]
    have hnot : ∀ {number : Nat}, first ≤ number → outer ≠ some number := by
      intro number hnumber heq
      have := houter number heq
      omega
    rcases List.mem_append.mp hmem with hmem | hmem
    · obtain ⟨⟨hfirst, hmiddle⟩, -⟩ := hplaces _ (hleft.mem_places hmem)
      rw [hright.filter_eq_nil hothers (hnot hfirst).symm (by simp; omega), List.append_nil]
      exact hleft.inside pair hmem hname
    · obtain ⟨⟨hmiddle, hlast⟩, -⟩ := hothers _ (hright.mem_places hmem)
      rw [hleft.filter_eq_nil hplaces (hnot (by omega)).symm (by simp; omega), List.nil_append]
      exact hright.inside pair hmem hname

/-- A group stands at its place and holds what is arranged inside it. -/
theorem Arranged.group {place : Place} {inner : List Place} {heading : Heading} {repeats : Bool}
    {children : List Control} {pairs : List (Place × Control)}
    (hrepresents : reader.Represents place.element (.group heading repeats children))
    (hname : place.element.name = "group") (hplace : place.groupAround? = outer)
    (houter : ∀ number, outer = some number → number < place.number)
    (hinner : ∀ other ∈ inner, other.LiesIn (some place.number) (place.number + 1) last)
    (hinside : reader.Arranged (some place.number) inner children pairs) :
    reader.Arranged outer (place :: inner) [.group heading repeats children]
      ((place, .group heading repeats children) :: pairs) where
  places_eq := by rw [List.map_cons, hinside.places_eq]
  controls_eq := by
    rw [List.map_cons, hinside.controls_eq]
    simp [Control.traverse_eq_preorderAll, Control.preorderAll, Control.preorder]
  represents := by
    intro pair hmem
    rcases List.mem_cons.mp hmem with rfl | hmem
    · exact hrepresents
    · exact hinside.represents pair hmem
  held := by
    intro pair hmem
    rcases List.mem_cons.mp hmem with rfl | hmem
    · exact .inl hplace
    · rcases hinside.held pair hmem with htop | ⟨group, hgroup, hheld⟩
      · exact .inr ⟨_, List.mem_cons_self, hname, htop⟩
      · exact .inr ⟨group, List.mem_cons_of_mem _ hgroup, hheld⟩
  top := by
    have hne : outer ≠ some place.number := fun heq => Nat.lt_irrefl _ (houter _ heq)
    rw [List.filter_cons_of_pos (by simpa using hplace),
      hinside.filter_eq_nil hinner hne fun number heq => .inl (by have := houter number heq; omega)]
    rfl
  inside := by
    intro pair hmem hname
    have hskip : ∀ {number : Nat}, place.number ≤ number → place.groupAround? ≠ some number := by
      intro number hnumber heq
      have := houter number (hplace ▸ heq)
      omega
    rcases List.mem_cons.mp hmem with rfl | hmem
    · rw [List.filter_cons_of_neg (by simpa using hskip (Nat.le_refl _))]
      exact hinside.top
    · obtain ⟨⟨hfirst, -⟩, -⟩ := hinner _ (hinside.mem_places hmem)
      rw [List.filter_cons_of_neg (by simpa using hskip (by omega))]
      exact hinside.inside pair hmem hname

theorem arranged_question {place : Place} {question : Question}
    (hrepresents : reader.Represents place.element (.question question))
    (hname : place.element.name ≠ "group") (hplace : place.groupAround? = outer) :
    reader.Arranged outer [place] [.question question] [(place, .question question)] where
  places_eq := rfl
  controls_eq := by simp [Control.traverse_eq_preorderAll, Control.preorderAll, Control.preorder]
  represents := by simpa using hrepresents
  held := by simp [hplace]
  top := by simp [hplace]
  inside := by simp [hname]

theorem represents_question {element : Element} (hname : element.name ≠ "group") :
    reader.Represents element (.question (reader.question base element)) := by
  unfold question selection?
  split
  · next hselect => exact .selection (isSelection_iff.mp hselect)
  · next hselect =>
      refine .plain ?_
      simp only [isSelection_iff, not_or] at hselect
      simp [hname, hselect]

/-- Nodes become controls that are arranged like their places, wherever the walk reaches
them. -/
def Arranges (reader : BodyReader) (nodes : List Node) : Prop :=
  ∀ (around : List (Nat × Element)) (first : Nat) (base : String), Place.Leads around first →
    ∃ pairs, reader.Arranged (Place.nearestGroup? around)
      ((Place.ofNodes around first nodes).filter Place.isControl)
      (buildNodes reader base nodes).controls pairs

section Element

variable {tag : Xml.Tag} {children : List Node}

theorem Arranges.group (hinside : reader.Arranges children) (hleads : Place.Leads around first)
    (hname : tag.name = "group") :
    ∃ pairs, reader.Arranged (Place.nearestGroup? around)
      (⟨first, ⟨tag, children⟩, around⟩ ::
        (Place.ofNodes ((first, ⟨tag, children⟩) :: around) (first + 1) children).filter
          Place.isControl)
      [.group (reader.heading base ⟨tag, children⟩) (buildNodes reader base children).repeats
        (buildNodes reader base children).controls] pairs := by
  have hopen : isOpenElement ⟨tag, children⟩ = true := isOpenElement_iff.mpr (.inl hname)
  have hnearest : Place.nearestGroup? ((first, ⟨tag, children⟩) :: around) = some first := by
    simp [Place.nearestGroup?, hname]
  obtain ⟨pairs, hpairs⟩ := hinside _ _ base (hleads.inside hopen)
  rw [hnearest] at hpairs
  have hinner : ∀ other ∈ (Place.ofNodes ((first, ⟨tag, children⟩) :: around) (first + 1)
      children).filter Place.isControl, other.LiesIn (some first) (first + 1)
        (first + 1 + (Xml.elementsBelow children).length) := by
    intro other hmem
    exact hnearest ▸ Place.liesIn_of_mem (List.mem_filter.mp hmem).1
  exact ⟨_, .group (.group hname) hname rfl hleads.lt_of_nearestGroup? hinner hpairs⟩

/-- A repeat leaves no trace in the arrangement. -/
theorem Arranges.repetition (hinside : reader.Arranges children)
    (hleads : Place.Leads around first) (hname : tag.name = "repeat") :
    ∃ pairs, reader.Arranged (Place.nearestGroup? around)
      ((Place.ofNodes ((first, ⟨tag, children⟩) :: around) (first + 1) children).filter
        Place.isControl)
      (buildNodes reader (repeatBase base tag) children).controls pairs := by
  have hopen : isOpenElement ⟨tag, children⟩ = true := isOpenElement_iff.mpr (.inr hname)
  have hnearest : Place.nearestGroup? ((first, ⟨tag, children⟩) :: around) =
      Place.nearestGroup? around := by
    simp [Place.nearestGroup?, hname]
  obtain ⟨pairs, hpairs⟩ := hinside _ _ (repeatBase base tag) (hleads.inside hopen)
  rw [hnearest] at hpairs
  exact ⟨pairs, hpairs⟩

theorem Arranges.element (hinside : reader.Arranges children) (hleads : Place.Leads around first) :
    ∃ pairs, reader.Arranged (Place.nearestGroup? around)
      ((Place.ofElement around first ⟨tag, children⟩).filter Place.isControl)
      (buildElement reader base ⟨tag, children⟩).controls pairs := by
  have hbecomes := becomes reader base hleads tag children
  generalize (Place.ofElement around first ⟨tag, children⟩).filter Place.isControl = places,
    buildElement reader base ⟨tag, children⟩ = built at hbecomes ⊢
  cases hbecomes with
  | nothing => exact ⟨[], arranged_nil⟩
  | question hname => exact ⟨_, arranged_question (represents_question hname) hname rfl⟩
  | group hname => exact hinside.group hleads hname
  | repetition hname => exact hinside.repetition hleads hname

end Element

theorem arranges (nodes : List Node) : reader.Arranges nodes := by
  intro around first base hleads
  induction nodes using nodesInduction generalizing around first base with
  | nil => exact ⟨[], by simpa [buildNodes, Built.nothing] using arranged_nil⟩
  | other node rest hnode ih =>
      rw [Place.ofNodes_other hnode, buildNodes_other hnode]
      exact ih around first base hleads
  | element tag children rest ihInside ihRest =>
      have hle : first ≤ first + ((Xml.elementsBelow children).length + 1) := Nat.le_add_right ..
      obtain ⟨left, hleft⟩ := @Arranges.element reader base first around tag children ihInside hleads
      obtain ⟨right, hright⟩ := ihRest _ _ base (hleads.after hle)
      rw [Place.ofNodes_element, List.filter_append, buildNodes_element, Xml.descendants_mk]
      refine ⟨left ++ right, hleft.append ?_
        (fun place hmem => Place.liesIn_of_mem (List.mem_filter.mp hmem).1)
        hleads.lt_of_nearestGroup? hle hright⟩
      intro place hmem
      simpa using Place.liesIn_of_mem_element (List.mem_filter.mp hmem).1

/-- A body that can be built becomes one control for each place in it that is reached, has
children and is neither a repeat nor a caption.  They come in document order, and each
lies directly in the group that is the nearest one around its place. -/
theorem exists_arranged_build {body : Element} {controls : List Control}
    (hbuild : reader.build body = .ok controls) :
    ∃ pairs, reader.Arranged none ((Place.below body).filter Place.isControl) controls pairs := by
  obtain ⟨-, rfl⟩ := build_eq_ok_iff.mp hbuild
  exact arranges body.children [] 0 reader.basePath Place.leads_nil

/-- A body with a group in a repeat in a group, a group that is inside a question, and a
question without children. -/
def nestedBody : Element :=
  let caption := Node.ofParts "label" [] [.text "A"]
  let item := Node.ofParts "item" [] [caption, Node.ofParts "value" [] [.text "a"]]
  let choice := Node.ofParts "select1" [("ref", "b")] [item]
  let inner := Node.ofParts "group" [] [.comment, choice]
  let rows := Node.ofParts "repeat" [("nodeset", "/data/r")]
    [Node.ofParts "input" [("ref", "a")] [caption], inner]
  let stray := Node.ofParts "group" [] [Node.ofParts "input" [] [caption]]
  ⟨⟨none, "body", [], [], []⟩,
    [Node.ofParts "group" [] [caption, rows], Node.ofParts "input" [] [.text "empty"],
      Node.ofParts "repeat" [] [Node.ofParts "upload" [("ref", "c")] [caption, stray]]]⟩

theorem exists_arranged_build_nestedBody :
    ∃ controls, build ⟨"/data", [], {}⟩ nestedBody = .ok controls ∧
      (Control.traverse controls).map Control.kind =
        ["group", "input", "group", "select", "upload"] ∧
      ∃ pairs, BodyReader.Arranged ⟨"/data", [], {}⟩ none
        ((Place.below nestedBody).filter Place.isControl) controls pairs := by
  have hbuild : build ⟨"/data", [], {}⟩ nestedBody =
      .ok (buildNodes ⟨"/data", [], {}⟩ "/data" nestedBody.children).controls :=
    build_eq_ok_iff.mpr ⟨by decide +kernel, rfl⟩
  exact ⟨_, hbuild, by decide +kernel, exists_arranged_build hbuild⟩

end BodyReader

end SurveyForm
