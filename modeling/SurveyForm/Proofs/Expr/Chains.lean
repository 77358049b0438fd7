import SurveyForm.Report.Basic
/-!
The chains of nodes in a tree.  A chain goes from the root down, part by part, and the depth that
a report gives a tree is how far its longest chain goes.
-/

namespace SurveyForm

namespace ExprOver

variable {α : Type}

/-- The trees directly below the root, from left to right. -/
def parts : ExprOver α → List (ExprOver α)
  | .call _ args => args
  | .conditional test whenTrue whenFalse => [test, whenTrue, whenFalse]
  | .group terms => terms.flatMap Term.members
  | _ => []

theorem sizeOf_lt_of_mem_parts {expr part : ExprOver α} (hpart : part ∈ expr.parts) :
    sizeOf part < sizeOf expr := by
  cases expr with
  | call name args =>
      have hlt : sizeOf part < sizeOf args := List.sizeOf_lt_of_mem hpart
      simp only [call.sizeOf_spec]
      omega
  | conditional test whenTrue whenFalse =>
      simp only [parts, List.mem_cons, List.not_mem_nil, or_false] at hpart
      rcases hpart with rfl | rfl | rfl <;> simp only [conditional.sizeOf_spec] <;> omega
  | group terms =>
      obtain ⟨term, hterm, hmember⟩ := List.mem_flatMap.mp hpart
      have hlt := List.sizeOf_lt_of_mem hterm
      simp only [group.sizeOf_spec]
      cases term with
      | one member =>
          obtain rfl := List.mem_singleton.mp hmember
          simp only [Term.one.sizeOf_spec] at hlt
          omega
      | all members =>
          have hinner : sizeOf part < sizeOf members := List.sizeOf_lt_of_mem hmember
          simp only [Term.all.sizeOf_spec] at hlt
          omega
  | absent | matching | comparison | unparsed => contradiction

/-- Induction on trees by their parts, whatever the root is. -/
@[elab_as_elim]
theorem partsInduction {motive : ExprOver α → Prop}
    (step : ∀ expr, (∀ part ∈ expr.parts, motive part) → motive expr) (expr : ExprOver α) :
    motive expr :=
  step expr fun part hpart =>
    have := sizeOf_lt_of_mem_parts hpart
    partsInduction step part
termination_by sizeOf expr

/-- After the root the walk goes over its parts, one after the other. -/
theorem walk_eq_cons {expr : ExprOver α} (hexpr : expr ≠ .absent) :
    expr.walk = expr :: expr.parts.flatMap walk := by
  cases expr with
  | absent => contradiction
  | call name args => rw [walk, walkAll_eq_flatMap, parts]
  | conditional test whenTrue whenFalse => simp [walk, parts]
  | group terms => rw [walk, walkTerms_eq_flatMap, parts, List.flatMap_assoc]
  | matching | comparison | unparsed => simp [walk, parts]

/-- `Descends expr chain`: the chain starts with the tree and goes on to a part each time, down
to a leaf or not so far. -/
inductive Descends : ExprOver α → List (ExprOver α) → Prop
  | here (expr : ExprOver α) : Descends expr [expr]
  | down {expr part : ExprOver α} {chain : List (ExprOver α)} (hpart : part ∈ expr.parts)
      (hchain : Descends part chain) : Descends expr (expr :: chain)

end ExprOver

namespace ExprSize

open ExprOver (Descends)

variable {expr part : Expr} {exprs : List Expr} {depth : Nat}

theorem beside_assoc (first second third : ExprSize) :
    (first.beside second).beside third = first.beside (second.beside third) := by
  simp only [beside, Nat.max_assoc, Nat.add_assoc]

theorem zero_beside (size : ExprSize) : zero.beside size = size := by
  simp [beside, zero]

theorem beside_zero (size : ExprSize) : size.beside zero = size := by
  simp [beside, zero]

theorem ofExprs_append (exprs others : List Expr) :
    ofExprs (exprs ++ others) = (ofExprs exprs).beside (ofExprs others) := by
  induction exprs with
  | nil => exact (zero_beside _).symm
  | cons expr rest ih => rw [List.cons_append, ofExprs, ih, ofExprs, beside_assoc]

/-- It does not matter which disjunct a member belongs to. -/
theorem ofTerms_eq (terms : List (Term Expr)) :
    ofTerms terms = ofExprs (terms.flatMap Term.members) := by
  induction terms with
  | nil => rfl
  | cons term rest ih =>
      rw [List.flatMap_cons, ofExprs_append, ← ih]
      cases term with
      | one member => rw [ofTerms, Term.members, ofExprs, ofExprs, beside_zero]
      | all members => rfl

theorem isEmpty_members (terms : List (Term Expr)) :
    (terms.flatMap Term.members).isEmpty = terms.all (·.members.isEmpty) := by
  rw [Bool.eq_iff_iff, List.isEmpty_iff, List.flatMap_eq_nil_iff, List.all_eq_true]
  simp only [List.isEmpty_iff]

/-- A tree is as large as its parts side by side, with the root above them. -/
theorem ofExpr_eq (hexpr : expr ≠ .absent) :
    ofExpr expr = above (!expr.parts.isEmpty) (ofExprs expr.parts) := by
  cases expr with
  | absent => contradiction
  | conditional test whenTrue whenFalse =>
      rw [ofExpr, ExprOver.parts, ofExprs, ofExprs, ofExprs, ofExprs, beside_zero, beside_assoc]
      rfl
  | group terms =>
      rw [ofExpr, ExprOver.parts, ofTerms_eq, isEmpty_members, List.not_all_eq_any_not]
  | call | matching | comparison | unparsed => rfl

theorem depth_ofExprs_le_iff :
    (ofExprs exprs).depth ≤ depth ↔ ∀ expr ∈ exprs, (ofExpr expr).depth ≤ depth := by
  induction exprs with
  | nil => simp [ofExprs, zero]
  | cons expr rest ih => rw [ofExprs, beside, List.forall_mem_cons, ← ih, Nat.max_le]

theorem depth_eq_zero_of_parts (hparts : expr.parts = []) : (ofExpr expr).depth = 0 := by
  by_cases hexpr : expr = .absent
  · subst hexpr
    rfl
  · rw [ofExpr_eq hexpr, hparts]
    rfl

theorem depth_of_parts (hparts : expr.parts ≠ []) :
    (ofExpr expr).depth = (ofExprs expr.parts).depth + 1 := by
  have hexpr : expr ≠ .absent := by
    rintro rfl
    contradiction
  rw [ofExpr_eq hexpr]
  simp [above, hparts]

theorem depth_le_zero_iff : (ofExpr expr).depth ≤ 0 ↔ expr.parts = [] := by
  constructor
  · intro hdepth
    by_cases hparts : expr.parts = []
    · exact hparts
    · rw [depth_of_parts hparts] at hdepth
      contradiction
  · intro hparts
    exact Nat.le_of_eq (depth_eq_zero_of_parts hparts)

theorem depth_le_succ_iff :
    (ofExpr expr).depth ≤ depth + 1 ↔ ∀ part ∈ expr.parts, (ofExpr part).depth ≤ depth := by
  by_cases hparts : expr.parts = []
  · rw [depth_eq_zero_of_parts hparts, hparts]
    simp
  · rw [depth_of_parts hparts, Nat.succ_le_succ_iff, depth_ofExprs_le_iff]

/-- The depth of a tree is the number of steps in its longest chain. -/
theorem depth_le_iff :
    (ofExpr expr).depth ≤ depth ↔ ∀ chain, Descends expr chain → chain.length ≤ depth + 1 := by
  induction depth generalizing expr with
  | zero =>
      rw [depth_le_zero_iff]
      constructor
      · intro hparts chain hchain
        cases hchain with
        | here => exact Nat.le_refl 1
        | down hpart =>
            rw [hparts] at hpart
            contradiction
      · intro hchains
        apply List.eq_nil_iff_forall_not_mem.mpr
        intro part hpart
        have hlength := hchains _ (.down hpart (.here part))
        contradiction
  | succ depth ih =>
      rw [depth_le_succ_iff]
      constructor
      · intro hparts chain hchain
        cases hchain with
        | here => exact Nat.le_add_left 1 _
        | down hpart hchain => exact Nat.succ_le_succ (ih.mp (hparts _ hpart) _ hchain)
      · intro hchains part hpart
        apply ih.mpr
        intro chain hchain
        exact Nat.le_of_succ_le_succ (hchains _ (.down hpart hchain))

/-- One of several trees is as deep as they all are side by side. -/
theorem exists_depth_eq (hexprs : exprs ≠ []) :
    ∃ expr ∈ exprs, (ofExpr expr).depth = (ofExprs exprs).depth := by
  induction exprs with
  | nil => contradiction
  | cons expr rest ih =>
      rw [ofExprs, beside]
      by_cases hrest : rest = []
      · subst hrest
        exact ⟨expr, List.mem_cons_self, (Nat.max_zero _).symm⟩
      · obtain ⟨deepest, hmem, hdepth⟩ := ih hrest
        rcases Nat.le_total (ofExprs rest).depth (ofExpr expr).depth with hle | hle
        · exact ⟨expr, List.mem_cons_self, (Nat.max_eq_left hle).symm⟩
        · refine ⟨deepest, List.mem_cons_of_mem expr hmem, ?_⟩
          rw [hdepth]
          exact (Nat.max_eq_right hle).symm

/-- Some chain goes down as many steps as the tree is deep. -/
theorem exists_descends_of_depth (expr : Expr) :
    ∃ chain, Descends expr chain ∧ chain.length = (ofExpr expr).depth + 1 := by
  induction expr using ExprOver.partsInduction with
  | step expr ih =>
      by_cases hparts : expr.parts = []
      · exact ⟨[expr], .here expr, by rw [depth_eq_zero_of_parts hparts]; rfl⟩
      · obtain ⟨part, hpart, hdepth⟩ := exists_depth_eq hparts
        obtain ⟨chain, hchain, hlength⟩ := ih part hpart
        refine ⟨expr :: chain, .down hpart hchain, ?_⟩
        rw [List.length_cons, hlength, hdepth, depth_of_parts hparts]

end ExprSize

end SurveyForm
