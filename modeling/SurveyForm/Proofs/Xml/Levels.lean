import Mathlib.Data.Nat.Basic
import Mathlib.Order.Basic
import SurveyForm.Instance
import SurveyForm.Proofs.Body.LooseRepeats
import SurveyForm.Proofs.Xml.Search
/-!
How deep elements lie inside each other.  A walk that enters some elements goes as deep as
the levels that it meets, so a limit stops it exactly if there are more of them.  It meets all
levels that there are unless a name cannot be had.
-/

namespace SurveyForm.Xml

mutual

/-- The levels from an element on down, if only the given elements are entered. -/
def Element.levelsWithin (isEntered : Element → Bool) : Element → Nat
  | ⟨tag, children⟩ =>
      (if isEntered ⟨tag, children⟩ then nodesLevels isEntered children else 0) + 1

/-- The levels of elements among nodes and below them. -/
def nodesLevels (isEntered : Element → Bool) : List Node → Nat
  | [] => 0
  | .element child :: rest => max (child.levelsWithin isEntered) (nodesLevels isEntered rest)
  | .text _ :: rest => nodesLevels isEntered rest
  | .comment :: rest => nodesLevels isEntered rest
  | .instruction :: rest => nodesLevels isEntered rest
  | .reference _ :: rest => nodesLevels isEntered rest

end

/-- The levels of all elements from an element on down. -/
def Element.levels (element : Element) : Nat :=
  element.levelsWithin fun _ => true

/-- The levels below an element, if only groups and repeats are entered. -/
def Element.openLevels (element : Element) : Nat :=
  nodesLevels isOpenElement element.children

variable {isEntered : Element → Bool} {tag : Tag} {children : List Node}

theorem levelsWithin_entered (hentered : isEntered ⟨tag, children⟩ = true) :
    (Element.mk tag children).levelsWithin isEntered = nodesLevels isEntered children + 1 := by
  rw [Element.levelsWithin, if_pos hentered]

theorem levelsWithin_closed (hclosed : isEntered ⟨tag, children⟩ = false) :
    (Element.mk tag children).levelsWithin isEntered = 1 := by
  rw [Element.levelsWithin, hclosed]
  rfl

@[simp]
theorem nodesLevels_nil : nodesLevels isEntered [] = 0 := by
  rw [nodesLevels]

@[simp]
theorem nodesLevels_element (child : Element) (rest : List Node) :
    nodesLevels isEntered (.element child :: rest) =
      max (child.levelsWithin isEntered) (nodesLevels isEntered rest) := by
  rw [nodesLevels]

theorem nodesLevels_other {node : Node} (hnode : node.element? = none) (rest : List Node) :
    nodesLevels isEntered (node :: rest) = nodesLevels isEntered rest := by
  cases node <;> simp_all [Node.element?, nodesLevels]

end SurveyForm.Xml

namespace SurveyForm

open Xml (Element Node nodesInduction nodesLevels nodesLevels_nil nodesLevels_element
  nodesLevels_other levelsWithin_entered levelsWithin_closed)

section Walk

variable {α : Type} {depth : α → Nat} {isReadable : α → Bool} {visits : List α}

/-- The levels that a walk meets if nothing limits it: it ends where a name cannot be had. -/
def levelsMet (depth : α → Nat) (isReadable : α → Bool) : List α → Nat
  | [] => 0
  | visit :: rest =>
      if isReadable visit then max (depth visit + 1) (levelsMet depth isReadable rest)
      else depth visit + 1

/-- Whether a walk is stopped, and by what: by the limit if there are more levels to meet, and
else by a name that cannot be had. -/
theorem findSome?_ofVisit? (part : FormPart) (limit : Nat) (visits : List α) :
    visits.findSome? (fun visit => LoadError.ofVisit? part limit (depth visit) (isReadable visit)) =
      if limit < levelsMet depth isReadable visits then some (.tooDeep part limit)
      else if visits.all isReadable then none
      else some .brokenOff := by
  induction visits with
  | nil => rfl
  | cons visit rest ih =>
      rw [List.findSome?_cons, ih, levelsMet, List.all_cons, LoadError.ofVisit?]
      by_cases hdeep : limit ≤ depth visit
      · have hmet : limit < if isReadable visit then
            max (depth visit + 1) (levelsMet depth isReadable rest) else depth visit + 1 := by
          split
          · exact Nat.lt_of_lt_of_le (Nat.lt_succ_of_le hdeep) (Nat.le_max_left _ _)
          · exact Nat.lt_succ_of_le hdeep
        rw [if_pos hdeep, if_pos hmet]
      · rw [if_neg hdeep]
        cases isReadable visit with
        | true =>
            have hrest : limit < max (depth visit + 1) (levelsMet depth isReadable rest) ↔
                limit < levelsMet depth isReadable rest := by
              omega
            simp only [if_true, hrest, Bool.true_and]
        | false =>
            have hfits : ¬limit < depth visit + 1 := by
              omega
            simp only [Bool.false_eq_true, if_false, hfits, Bool.false_and]

theorem levelsMet_le_iff (hreadable : ∀ visit ∈ visits, isReadable visit = true) {limit : Nat} :
    levelsMet depth isReadable visits ≤ limit ↔ ∀ visit ∈ visits, depth visit < limit := by
  induction visits with
  | nil => simp [levelsMet]
  | cons visit rest ih =>
      obtain ⟨hfirst, hrest⟩ := List.forall_mem_cons.mp hreadable
      rw [levelsMet, if_pos hfirst, Nat.max_le, ih hrest, List.forall_mem_cons, Nat.succ_le_iff]

end Walk

variable {limit : Nat}

namespace InstanceVisit

/-- The walk over an instance enters every element. -/
theorem depth_lt_ofNodes_iff (nodes : List Node) (parent : String) (depth : Nat) :
    (∀ visit ∈ ofNodes parent depth nodes, visit.depth < limit) ↔
      nodesLevels (fun _ => true) nodes ≤ limit - depth := by
  induction nodes using nodesInduction generalizing parent depth with
  | nil => simp [ofNodes]
  | other node rest hnode ih =>
      rw [ofNodes_other hnode, nodesLevels_other hnode]
      exact ih parent depth
  | element tag children rest ihInside ihRest =>
      rw [ofNodes, ofElement, List.forall_mem_append, List.forall_mem_cons, ihInside, ihRest,
        nodesLevels_element, levelsWithin_entered rfl]
      dsimp only
      omega

/-- The names that the walk asks for are those of all elements. -/
theorem isReadable_ofNodes_iff (nodes : List Node) (parent : String) (depth : Nat) :
    (∀ visit ∈ ofNodes parent depth nodes, visit.isReadable = true) ↔
      ∀ element ∈ Xml.elementsBelow nodes, element.hasPlainName = true := by
  induction nodes using nodesInduction generalizing parent depth with
  | nil => simp [ofNodes]
  | other node rest hnode ih =>
      rw [ofNodes_other hnode, Xml.elementsBelow_other hnode]
      exact ih parent depth
  | element tag children rest ihInside ihRest =>
      rw [ofNodes, ofElement, List.forall_mem_append, List.forall_mem_cons, ihInside, ihRest,
        Xml.elementsBelow_element, List.forall_mem_cons, List.forall_mem_append,
        Xml.descendants_mk, and_assoc]
      rfl

/-- The levels that the walk over an instance meets. -/
def levelsOf (root : Element) : Nat :=
  levelsMet (·.depth) (·.isReadable) (ofRoot root)

theorem all_isReadable_ofRoot (root : Element) :
    (ofRoot root).all (·.isReadable) = (root :: root.descendants).all (·.hasPlainName) := by
  have hnames := isReadable_ofNodes_iff [.element root] "" 0
  rw [ofNodes, ofNodes, List.append_nil, Xml.elementsBelow_element, Xml.elementsBelow_nil,
    List.append_nil] at hnames
  rw [Bool.eq_iff_iff, List.all_eq_true, List.all_eq_true]
  exact hnames

/-- Where all names can be had, these are all levels. -/
theorem levelsOf_eq {root : Element}
    (hplain : ∀ element ∈ root :: root.descendants, element.hasPlainName = true) :
    levelsOf root = root.levels := by
  have hreadable : ∀ visit ∈ ofRoot root, visit.isReadable = true := by
    rw [← List.all_eq_true, all_isReadable_ofRoot, List.all_eq_true]
    exact hplain
  apply eq_of_forall_ge_iff
  intro limit
  have hfits := @depth_lt_ofNodes_iff limit [.element root] "" 0
  rw [ofNodes, ofNodes, List.append_nil, nodesLevels_element, nodesLevels_nil, Nat.max_zero,
    Nat.sub_zero] at hfits
  rw [levelsOf, levelsMet_le_iff hreadable, Element.levels, ← hfits]
  rfl

/-- What stops the walk over an instance. -/
theorem findSome?_stop?_ofRoot (limit : Nat) (root : Element) :
    (ofRoot root).findSome? (stop? limit) =
      if limit < levelsOf root then some (.tooDeep .instanceData limit)
      else if (root :: root.descendants).all (·.hasPlainName) then none
      else some .brokenOff := by
  rw [← all_isReadable_ofRoot]
  exact findSome?_ofVisit? .instanceData limit (ofRoot root)

end InstanceVisit

namespace BodyVisit

variable {tag : Xml.Tag} {children : List Node}

/-- In a group or a repeat the walk goes on with the children, and it comes back to a group. -/
theorem exists_ofElement_eq (hopen : isOpenElement ⟨tag, children⟩ = true) (base : String)
    (inGroup : Bool) (depth : Nat) :
    ∃ inner within, ofElement base inGroup depth ⟨tag, children⟩ =
      ⟨⟨tag, children⟩, base, inGroup, depth, false⟩ ::
        (ofNodes inner within (depth + 1) children ++
          returns base inGroup depth ⟨tag, children⟩) := by
  rw [ofElement]
  rcases isOpenElement_iff.mp hopen with hname | hname
  · rw [show BodyRole.ofName tag.name = .group from BodyRole.ofName_eq_group_iff.mpr hname]
    refine ⟨base, true, ?_⟩
    simp [returns, hname]
  · rw [show BodyRole.ofName tag.name = .repetition from
      BodyRole.ofName_eq_repetition_iff.mpr hname]
    refine ⟨repeatBase base tag, inGroup, ?_⟩
    simp [returns, hname]

theorem depth_of_mem_returns {base : String} {inGroup : Bool} {depth : Nat} {element : Element}
    {visit : BodyVisit} (hvisit : visit ∈ returns base inGroup depth element) :
    visit.depth = depth := by
  unfold returns at hvisit
  split at hvisit
  · obtain rfl := List.mem_singleton.mp hvisit
    rfl
  · contradiction

/-- The walk over a body enters groups and repeats only. -/
theorem depth_lt_ofNodes_iff (nodes : List Node) (base : String) (inGroup : Bool) (depth : Nat) :
    (∀ visit ∈ ofNodes base inGroup depth nodes, visit.depth < limit) ↔
      nodesLevels isOpenElement nodes ≤ limit - depth := by
  induction nodes using nodesInduction generalizing base inGroup depth with
  | nil => simp [ofNodes]
  | other node rest hnode ih =>
      rw [ofNodes_other hnode, nodesLevels_other hnode]
      exact ih base inGroup depth
  | element tag children rest ihInside ihRest =>
      rw [ofNodes_element, List.forall_mem_append, ihRest, nodesLevels_element]
      cases hopen : isOpenElement ⟨tag, children⟩ with
      | true =>
          obtain ⟨inner, within, hvisits⟩ := exists_ofElement_eq hopen base inGroup depth
          -- The way back is no deeper than the way in.
          have hback : depth < limit →
              ∀ visit ∈ returns base inGroup depth ⟨tag, children⟩, visit.depth < limit :=
            fun hdepth visit hvisit => (depth_of_mem_returns hvisit).symm ▸ hdepth
          rw [hvisits, List.forall_mem_cons, List.forall_mem_append, ihInside,
            levelsWithin_entered hopen]
          dsimp only
          constructor
          · rintro ⟨⟨hdepth, hinside, -⟩, hrest⟩
            omega
          · intro hlevels
            exact ⟨⟨by omega, by omega, hback (by omega)⟩, by omega⟩
      | false =>
          rw [ofElement_closed hopen, List.forall_mem_singleton, levelsWithin_closed hopen]
          dsimp only
          omega

/-- How deep a visit is and whether it can be made does not depend on the base path. -/
theorem map_stop?_ofNodes {β : Type} (view : Nat → Bool → β) (nodes : List Node)
    (base other : String) (inGroup within : Bool) (depth : Nat) :
    (ofNodes base inGroup depth nodes).map (fun visit => view visit.depth visit.isReadable) =
      (ofNodes other within depth nodes).map
        (fun visit => view visit.depth visit.isReadable) := by
  induction nodes using nodesInduction generalizing base other inGroup within depth with
  | nil => simp [ofNodes]
  | other node rest hnode ih =>
      rw [ofNodes_other hnode, ofNodes_other hnode]
      exact ih base other inGroup within depth
  | element tag children rest ihInside ihRest =>
      rw [ofNodes_element, ofNodes_element, List.map_append, List.map_append,
        ihRest base other inGroup within, ofElement, ofElement, List.map_cons, List.map_cons]
      congr 2
      cases BodyRole.ofName tag.name with
      | group =>
          dsimp only
          rw [List.map_append, List.map_append, ihInside base other true true]
          rfl
      | repetition => exact ihInside _ _ _ _ _
      | caption => rfl
      | question => rfl

theorem canSeek_of_hasPlainName {element : Element} (names : List String)
    (hplain : ∀ child ∈ element.elements, child.hasPlainName = true) :
    canSeek element names = true := by
  rw [canSeek, List.all_eq_true]
  exact fun name _ => Element.isSome_seekAmong? hplain

/-- Where the names of an element and of all elements below it can be had, so can those that are
asked for there. -/
theorem isReadable_of_hasPlainName {visit : BodyVisit}
    (hplain : ∀ element ∈ visit.element :: visit.element.descendants,
      element.hasPlainName = true) : visit.isReadable = true := by
  obtain ⟨hown, hbelow⟩ := List.forall_mem_cons.mp hplain
  have hchildren : ∀ child ∈ visit.element.elements, child.hasPlainName = true := by
    intro child hchild
    exact hbelow child (Xml.mem_descendants_of_mem_elements hchild child List.mem_cons_self)
  have hitems : (visit.element.childrenNamed "item").all (canSeek · ["label", "value"]) = true := by
    rw [List.all_eq_true]
    intro item hitem
    apply canSeek_of_hasPlainName
    intro child hchild
    have hmem := (List.mem_filter.mp hitem).1
    have hinside := Xml.mem_descendants_of_mem_elements hchild child List.mem_cons_self
    exact hbelow child
      (Xml.mem_descendants_of_mem_elements hmem child (List.mem_cons_of_mem item hinside))
  have hquestion : isReadableQuestion visit.element = true := by
    rw [isReadableQuestion, canSeek_of_hasPlainName _ hchildren, hitems,
      List.all_eq_true.mpr hchildren, Bool.and_true, Bool.or_true, Bool.and_true]
  rw [isReadable, hown, hquestion, canSeek_of_hasPlainName _ hchildren]
  simp

theorem isReadable_of_mem_ofNodes (nodes : List Node) (base : String) (inGroup : Bool)
    (depth : Nat) (hplain : ∀ element ∈ Xml.elementsBelow nodes, element.hasPlainName = true) :
    ∀ visit ∈ ofNodes base inGroup depth nodes, visit.isReadable = true := by
  induction nodes using nodesInduction generalizing base inGroup depth with
  | nil => simp [ofNodes]
  | other node rest hnode ih =>
      rw [Xml.elementsBelow_other hnode] at hplain
      rw [ofNodes_other hnode]
      exact ih base inGroup depth hplain
  | element tag children rest ihInside ihRest =>
      rw [Xml.elementsBelow_element, ← List.cons_append, List.forall_mem_append] at hplain
      obtain ⟨hown, hrest⟩ := hplain
      have hinside : ∀ element ∈ Xml.elementsBelow children, element.hasPlainName = true := by
        rw [Xml.descendants_mk, List.forall_mem_cons] at hown
        exact hown.2
      have hhere : ∀ isReturn : Bool,
          (⟨⟨tag, children⟩, base, inGroup, depth, isReturn⟩ : BodyVisit).isReadable = true :=
        fun _ => isReadable_of_hasPlainName hown
      rw [ofNodes_element, List.forall_mem_append, ofElement, List.forall_mem_cons]
      refine ⟨⟨hhere false, ?_⟩, ihRest base inGroup depth hrest⟩
      cases BodyRole.ofName tag.name with
      | group =>
          rw [List.forall_mem_append, List.forall_mem_singleton]
          exact ⟨ihInside base true (depth + 1) hinside, hhere true⟩
      | repetition => exact ihInside (repeatBase base tag) inGroup (depth + 1) hinside
      | caption => exact List.forall_mem_nil _
      | question => exact List.forall_mem_nil _

/-- The levels that the walk over a body meets. -/
def levelsOf (body : Element) : Nat :=
  levelsMet (·.depth) (·.isReadable) (ofBody "" body)

/-- Whether all names can be had that the walk over a body asks for. -/
def areReadable (body : Element) : Bool :=
  (ofBody "" body).all (·.isReadable)

theorem areReadable_of_hasPlainName {body : Element}
    (hplain : ∀ element ∈ body.descendants, element.hasPlainName = true) :
    areReadable body = true := by
  obtain ⟨tag, children⟩ := body
  rw [Xml.descendants_mk] at hplain
  exact List.all_eq_true.mpr (isReadable_of_mem_ofNodes children "" false 0 hplain)

/-- Where they can be had, the walk meets all levels of groups and repeats. -/
theorem levelsOf_eq {body : Element} (hreadable : areReadable body = true) :
    levelsOf body = body.openLevels := by
  apply eq_of_forall_ge_iff
  intro limit
  have hfits := @depth_lt_ofNodes_iff limit body.children "" false 0
  rw [Nat.sub_zero] at hfits
  rw [levelsOf, levelsMet_le_iff (List.all_eq_true.mp hreadable), Element.openLevels, ← hfits]
  rfl

/-- What stops the walk over a body. -/
theorem findSome?_stop?_ofBody (limit : Nat) (base : String) (body : Element) :
    (ofBody base body).findSome? (stop? limit) =
      if limit < levelsOf body then some (.tooDeep .body limit)
      else if areReadable body then none
      else some .brokenOff := by
  have hstops : ((ofBody base body).map (stop? limit)).findSome? id =
      ((ofBody "" body).map (stop? limit)).findSome? id := by
    have hviews := map_stop?_ofNodes (LoadError.ofVisit? .body limit) body.children base "" false
      false 0
    exact congrArg (List.findSome? id) hviews
  rw [List.findSome?_map, List.findSome?_map] at hstops
  exact hstops.trans (findSome?_ofVisit? .body limit (ofBody "" body))

end BodyVisit

end SurveyForm
