import SurveyForm.Proofs.Occurrences
/-!
The paths that a tree mentions.  What lies inside a tree is said by its constructors alone, and
the walk meets exactly that, so no place of a tree escapes the list of its paths.
-/

namespace SurveyForm.ExprOver

variable {α : Type} {node expr : ExprOver α} {terms : List (Term (ExprOver α))} {path : α}

/-- `Inside node expr`: the node is the tree, or it lies below it. -/
inductive Inside (node : ExprOver α) : ExprOver α → Prop
  | here : Inside node node
  | argument {name : α} {args : List (ExprOver α)} {arg : ExprOver α} (harg : arg ∈ args)
      (hinside : Inside node arg) : Inside node (.call name args)
  | test {test whenTrue whenFalse : ExprOver α} (hinside : Inside node test) :
      Inside node (.conditional test whenTrue whenFalse)
  | whenTrue {test whenTrue whenFalse : ExprOver α} (hinside : Inside node whenTrue) :
      Inside node (.conditional test whenTrue whenFalse)
  | whenFalse {test whenTrue whenFalse : ExprOver α} (hinside : Inside node whenFalse) :
      Inside node (.conditional test whenTrue whenFalse)
  | single {terms : List (Term (ExprOver α))} {member : ExprOver α}
      (hterm : .one member ∈ terms) (hinside : Inside node member) : Inside node (.group terms)
  | conjunct {terms : List (Term (ExprOver α))} {members : List (ExprOver α)}
      {member : ExprOver α} (hterm : .all members ∈ terms) (hmember : member ∈ members)
      (hinside : Inside node member) : Inside node (.group terms)

/-- Whether a match or a comparison of a path lies anywhere in a tree. -/
def Mentions (path : α) (expr : ExprOver α) : Prop :=
  (∃ op value, Inside (.matching op path value) expr) ∨
    ∃ op value wrapper, Inside (.comparison op path value wrapper) expr

theorem Inside.of_member {member : ExprOver α} {term : Term (ExprOver α)} (hterm : term ∈ terms)
    (hmember : member ∈ term.members) (hinside : Inside node member) :
    Inside node (.group terms) := by
  cases term with
  | one first =>
      obtain rfl := List.mem_singleton.mp hmember
      exact .single hterm hinside
  | all members => exact .conjunct hterm hmember hinside

/-! ### The walk meets what lies inside -/

theorem mem_walk_call (name : α) (args : List (ExprOver α)) :
    node ∈ walk (.call name args) ↔ node = .call name args ∨ ∃ arg ∈ args, node ∈ arg.walk := by
  rw [walk, List.mem_cons, walkAll_eq_flatMap, List.mem_flatMap]

theorem mem_walk_conditional (test whenTrue whenFalse : ExprOver α) :
    node ∈ walk (.conditional test whenTrue whenFalse) ↔
      node = .conditional test whenTrue whenFalse ∨ node ∈ test.walk ∨ node ∈ whenTrue.walk ∨
        node ∈ whenFalse.walk := by
  rw [walk, List.mem_cons, List.mem_append, List.mem_append, or_assoc]

theorem mem_walk_group (terms : List (Term (ExprOver α))) :
    node ∈ walk (.group terms) ↔
      node = .group terms ∨ ∃ term ∈ terms, ∃ member ∈ term.members, node ∈ member.walk := by
  rw [walk, List.mem_cons, walkTerms_eq_flatMap, List.mem_flatMap]
  simp only [List.mem_flatMap]

theorem self_mem_walk (hexpr : expr ≠ .absent) : expr ∈ expr.walk := by
  cases expr with
  | absent => contradiction
  | _ => exact List.mem_cons_self

/-- Whatever lies inside a tree is met on the walk, unless nothing is there. -/
theorem Inside.mem_walk (hinside : Inside node expr) (hnode : node ≠ .absent) :
    node ∈ expr.walk := by
  induction hinside with
  | here => exact self_mem_walk hnode
  | argument harg _ ih => exact (mem_walk_call ..).mpr (.inr ⟨_, harg, ih⟩)
  | test _ ih => exact (mem_walk_conditional ..).mpr (.inr (.inl ih))
  | whenTrue _ ih => exact (mem_walk_conditional ..).mpr (.inr (.inr (.inl ih)))
  | whenFalse _ ih => exact (mem_walk_conditional ..).mpr (.inr (.inr (.inr ih)))
  | single hterm _ ih =>
      exact (mem_walk_group _).mpr (.inr ⟨_, hterm, _, List.mem_singleton_self _, ih⟩)
  | conjunct hterm hmember _ ih =>
      exact (mem_walk_group _).mpr (.inr ⟨_, hterm, _, hmember, ih⟩)

mutual

/-- Whatever the walk meets lies inside the tree. -/
theorem inside_of_mem_walk : ∀ {expr : ExprOver α}, node ∈ expr.walk → Inside node expr
  | .absent, hmem => by simp [walk] at hmem
  | .call name args, hmem => by
      rw [walk, List.mem_cons] at hmem
      rcases hmem with rfl | hargs
      · exact .here
      · obtain ⟨arg, harg, hinside⟩ := inside_of_mem_walkAll hargs
        exact .argument harg hinside
  | .conditional test whenTrue whenFalse, hmem => by
      rcases (mem_walk_conditional ..).mp hmem with rfl | htest | hwhenTrue | hwhenFalse
      · exact .here
      · exact .test (inside_of_mem_walk htest)
      · exact .whenTrue (inside_of_mem_walk hwhenTrue)
      · exact .whenFalse (inside_of_mem_walk hwhenFalse)
  | .matching op path value, hmem => by
      obtain rfl := List.mem_singleton.mp hmem
      exact .here
  | .comparison op path value wrapper, hmem => by
      obtain rfl := List.mem_singleton.mp hmem
      exact .here
  | .group terms, hmem => by
      rw [walk, List.mem_cons] at hmem
      rcases hmem with rfl | hterms
      · exact .here
      · obtain ⟨term, hterm, member, hmember, hinside⟩ := inside_of_mem_walkTerms hterms
        exact .of_member hterm hmember hinside
  | .unparsed text, hmem => by
      obtain rfl := List.mem_singleton.mp hmem
      exact .here

theorem inside_of_mem_walkAll : ∀ {exprs : List (ExprOver α)}, node ∈ walkAll exprs →
    ∃ expr ∈ exprs, Inside node expr
  | [], hmem => by simp [walkAll] at hmem
  | expr :: rest, hmem => by
      rw [walkAll, List.mem_append] at hmem
      rcases hmem with hfirst | hrest
      · exact ⟨expr, List.mem_cons_self, inside_of_mem_walk hfirst⟩
      · obtain ⟨other, hother, hinside⟩ := inside_of_mem_walkAll hrest
        exact ⟨other, List.mem_cons_of_mem expr hother, hinside⟩

theorem inside_of_mem_walkTerms : ∀ {terms : List (Term (ExprOver α))}, node ∈ walkTerms terms →
    ∃ term ∈ terms, ∃ member ∈ term.members, Inside node member
  | [], hmem => by simp [walkTerms] at hmem
  | .one member :: rest, hmem => by
      rw [walkTerms, List.mem_append] at hmem
      rcases hmem with hfirst | hrest
      · exact ⟨_, List.mem_cons_self, member, List.mem_singleton_self _, inside_of_mem_walk hfirst⟩
      · obtain ⟨term, hterm, hinside⟩ := inside_of_mem_walkTerms hrest
        exact ⟨term, List.mem_cons_of_mem _ hterm, hinside⟩
  | .all members :: rest, hmem => by
      rw [walkTerms, List.mem_append] at hmem
      rcases hmem with hfirst | hrest
      · exact ⟨_, List.mem_cons_self, inside_of_mem_walkAll hfirst⟩
      · obtain ⟨term, hterm, hinside⟩ := inside_of_mem_walkTerms hrest
        exact ⟨term, List.mem_cons_of_mem _ hterm, hinside⟩

end

/-- The walk meets the nodes inside a tree, apart from the places where nothing is. -/
theorem mem_walk_iff (hnode : node ≠ .absent) : node ∈ expr.walk ↔ Inside node expr := by
  constructor
  · exact inside_of_mem_walk
  · intro hinside
    exact hinside.mem_walk hnode

/-! ### The paths of a tree -/

theorem ownPath?_eq_some_iff :
    node.ownPath? = some path ↔
      (∃ op value, node = .matching op path value) ∨
        ∃ op value wrapper, node = .comparison op path value wrapper := by
  cases node <;> simp [ownPath?]

theorem mem_filterMap_ownPath?_iff :
    path ∈ expr.walk.filterMap ownPath? ↔ expr.Mentions path := by
  rw [List.mem_filterMap]
  constructor
  · rintro ⟨node, hmem, hpath⟩
    have hnode : node ≠ .absent := by
      rintro rfl
      contradiction
    rw [mem_walk_iff hnode] at hmem
    rcases ownPath?_eq_some_iff.mp hpath with ⟨op, value, rfl⟩ | ⟨op, value, wrapper, rfl⟩
    · exact .inl ⟨op, value, hmem⟩
    · exact .inr ⟨op, value, wrapper, hmem⟩
  · rintro (⟨op, value, hinside⟩ | ⟨op, value, wrapper, hinside⟩)
    · exact ⟨_, (mem_walk_iff (by nofun)).mpr hinside, rfl⟩
    · exact ⟨_, (mem_walk_iff (by nofun)).mpr hinside, rfl⟩

variable [BEq α] [LawfulBEq α]

theorem mem_referencedPaths_iff : path ∈ expr.referencedPaths ↔ expr.Mentions path := by
  rw [referencedPaths, mem_firstOccurrences_iff, mem_filterMap_ownPath?_iff]

end SurveyForm.ExprOver
