import SurveyForm.Proofs.Report.Depth
/-!
The complexity that a report gives.  The nodes of an expression are counted and its depth is
measured by a recursion of its own, which agrees with the walk over the expression.
-/

namespace SurveyForm

open ExprOver (Descends Everywhere Inside)

/-- Whether some chain of a tree goes down that many steps from its root. -/
def ExprOver.Reaches {α : Type} (expr : ExprOver α) (steps : Nat) : Prop :=
  ∃ chain, Descends expr chain ∧ chain.length = steps + 1

namespace ExprSize

variable {expr : Expr} {steps : Nat}

theorem nodes_ofExprs (exprs : List Expr) :
    (ofExprs exprs).nodes = (exprs.map fun expr => (ofExpr expr).nodes).sum := by
  induction exprs with
  | nil => rfl
  | cons expr rest ih => rw [ofExprs, beside, ih, List.map_cons, List.sum_cons]

/-- A tree has as many nodes as the walk meets; what is missing is no node for either. -/
theorem nodes_ofExpr (expr : Expr) : (ofExpr expr).nodes = expr.walk.length := by
  induction expr using ExprOver.partsInduction with
  | step expr ih =>
      by_cases hexpr : expr = .absent
      · subst hexpr
        rfl
      · rw [ofExpr_eq hexpr, above, nodes_ofExprs, ExprOver.walk_eq_cons hexpr, List.length_cons,
          List.length_flatMap, List.map_congr_left ih]

/-- A size that agrees with the walk over a tree.  From each node the walk goes into the parts
and nowhere else, so that chains of parts are the paths of the tree that it goes through. -/
structure Measures (size : ExprSize) (expr : Expr) : Prop where
  walk_eq : ∀ node, Inside node expr → node.walk = node :: node.parts.flatMap ExprOver.walk
  nodes_eq : size.nodes = expr.walk.length
  depth_isGreatest : IsGreatest {steps | expr.Reaches steps} size.depth

theorem reaches_depth (expr : Expr) : expr.Reaches (ofExpr expr).depth :=
  exists_descends_of_depth expr

theorem le_depth_of_reaches (hreaches : expr.Reaches steps) : steps ≤ (ofExpr expr).depth := by
  obtain ⟨chain, hchain, hlength⟩ := hreaches
  have hle := depth_le_iff.mp (Nat.le_refl _) chain hchain
  omega

theorem measures_ofExpr (hwhole : Everywhere (· ≠ .absent) expr) :
    (ofExpr expr).Measures expr where
  walk_eq := fun node hinside => ExprOver.walk_eq_cons (hwhole node hinside)
  nodes_eq := nodes_ofExpr expr
  depth_isGreatest := ⟨reaches_depth expr, fun _ => le_depth_of_reaches⟩

end ExprSize

namespace Field

variable {field : Field} {expr : Expr}

/-- Whether a field has an expression as its calculation, or as the condition of its relevance
or of its constraint. -/
def HasLogic (expr : Expr) (field : Field) : Prop :=
  field.calculate = some expr ∨
    (∃ condition, field.relevant = some condition ∧ condition.expr = expr) ∨
    ∃ condition, field.constraint = some condition ∧ condition.expr = expr

/-- The number of nodes that the walks over the calculation and the two conditions meet. -/
def walkedNodes (field : Field) : Nat :=
  field.calculate.elim 0 (·.walk.length) + field.relevant.elim 0 (·.expr.walk.length) +
    field.constraint.elim 0 (·.expr.walk.length)

theorem mem_logic_iff : expr ∈ field.logic ↔ field.HasLogic expr := by
  simp only [logic, HasLogic, List.mem_append, Option.mem_toList, Option.map_eq_some_iff, or_assoc]

theorem sum_nodes_logic (field : Field) :
    (field.logic.map fun expr => (ExprSize.ofExpr expr).nodes).sum = field.walkedNodes := by
  simp only [ExprSize.nodes_ofExpr, logic, walkedNodes]
  cases field.calculate <;> cases field.relevant <;> cases field.constraint <;>
    simp [Nat.add_assoc]

end Field

namespace Form

variable {form : Form} {steps : Nat}

theorem nodes_logicSize (form : Form) :
    form.logicSize.nodes = (form.fields.map Field.walkedNodes).sum := by
  rw [logicSize_eq, ExprSize.nodes_ofExprs, List.map_flatMap, List.flatMap, List.sum_flatten,
    List.map_map]
  congr 1
  apply List.map_congr_left
  intro field _
  exact field.sum_nodes_logic

theorem mem_logic_iff {expr : Expr} :
    expr ∈ form.fields.flatMap Field.logic ↔ ∃ field ∈ form.fields, field.HasLogic expr := by
  simp only [List.mem_flatMap, Field.mem_logic_iff]

/-- The depth of all logic is attained in one of the expressions, if there are any. -/
theorem depth_logicSize_mem (form : Form) :
    form.logicSize.depth = 0 ∨
      ∃ field ∈ form.fields, ∃ expr, field.HasLogic expr ∧ expr.Reaches form.logicSize.depth := by
  rw [logicSize_eq]
  by_cases hnone : form.fields.flatMap Field.logic = []
  · rw [hnone]
    exact .inl rfl
  · obtain ⟨expr, hexpr, hdepth⟩ := ExprSize.exists_depth_eq hnone
    obtain ⟨field, hfield, hlogic⟩ := mem_logic_iff.mp hexpr
    rw [← hdepth]
    exact .inr ⟨field, hfield, expr, hlogic, ExprSize.reaches_depth expr⟩

theorem le_depth_logicSize {field : Field} {expr : Expr} (hfield : field ∈ form.fields)
    (hlogic : field.HasLogic expr) (hreaches : expr.Reaches steps) :
    steps ≤ form.logicSize.depth := by
  rw [logicSize_eq]
  have hexpr := mem_logic_iff.mpr ⟨field, hfield, hlogic⟩
  have hdepth := ExprSize.depth_ofExprs_le_iff.mp (Nat.le_refl _) expr hexpr
  exact (ExprSize.le_depth_of_reaches hreaches).trans hdepth

end Form

namespace Report

/-- The size of a tree in which nothing is missing agrees with the walk over it: as many nodes
as the walk meets, and as deep as the walk goes.  So the nodes of a report are those that the
walks over all logic meet, and its depth is the largest that they go down, or none at all. -/
theorem complexity_agrees_with_walk :
    (∀ expr : Expr, Everywhere (· ≠ .absent) expr → (ExprSize.ofExpr expr).Measures expr) ∧
      ∀ (form : Form) (depthLimit : Option Int),
        (ofForm form depthLimit).logic.totalNodes = (form.fields.map Field.walkedNodes).sum ∧
        IsGreatest
          (insert 0 {steps | ∃ field ∈ form.fields, ∃ expr, field.HasLogic expr ∧
            expr.Reaches steps})
          (ofForm form depthLimit).logic.maxDepth := by
  refine ⟨fun expr => ExprSize.measures_ofExpr, fun form depthLimit => ⟨?nodes, ?attained, ?bound⟩⟩
  case nodes => exact form.nodes_logicSize
  case attained => exact form.depth_logicSize_mem
  case bound =>
    rintro steps (rfl | ⟨field, hfield, expr, hlogic, hreaches⟩)
    · exact Nat.zero_le _
    · exact Form.le_depth_logicSize hfield hlogic hreaches

/-- A group of single terms, tuples and an empty tuple, with calls without arguments and a test
without terms. -/
def mixedGroup : Expr :=
  .group
    [.one (.call "uuid" []), .all [], .all [.comparison "=" "/data/a" "1" none, .unparsed "b"],
      .one (.conditional (.group []) (.call "concat" [.call "concat" [], .unparsed "c"])
        (.matching .regex "/data/a" "d"))]

/-- A form with that group as a relevance, beside a calculation. -/
def formWithMixedGroup : Form :=
  { basePath := "/data"
    fields :=
      [{ path := "/data", relevant := some ⟨mixedGroup, none⟩ },
        { path := "/data/a", calculate := some (.call "concat" [.unparsed "e"]) }]
    translations := {}
    controls := []
    title := "Mixed group"
    diagnostics := [] }

theorem complexity_agrees_with_walk_mixedGroup :
    Everywhere (· ≠ .absent) mixedGroup ∧
      ExprSize.ofExpr mixedGroup = ⟨3, 10⟩ ∧ mixedGroup.walk.length = 10 ∧
      IsGreatest {steps | mixedGroup.Reaches steps} 3 ∧
      (ofForm formWithMixedGroup none).logic.totalNodes = 12 ∧
      IsGreatest
        (insert 0 {steps | ∃ field ∈ formWithMixedGroup.fields, ∃ expr, field.HasLogic expr ∧
          expr.Reaches steps})
        3 := by
  obtain ⟨htree, hform⟩ := complexity_agrees_with_walk
  have hleaf (leaf : Expr) (hleaf : leaf.isLeaf = true) (hpresent : leaf ≠ .absent) :
      Everywhere (· ≠ .absent) leaf := (ExprOver.everywhere_leaf_iff hleaf).mpr hpresent
  have hwhole : Everywhere (· ≠ .absent) mixedGroup := by
    simp only [mixedGroup, ExprOver.everywhere_group_iff, ExprOver.everywhere_call_iff,
      ExprOver.everywhere_conditional_iff, Term.members, List.mem_cons, List.not_mem_nil, or_false,
      forall_eq_or_imp, forall_eq, IsEmpty.forall_iff, implies_true, ne_eq, reduceCtorEq,
      not_false_eq_true, true_and, and_self]
    refine ⟨⟨hleaf _ rfl ?_, hleaf _ rfl ?_⟩, hleaf _ rfl ?_, hleaf _ rfl ?_⟩ <;> simp
  have hsize : ExprSize.ofExpr mixedGroup = ⟨3, 10⟩ := by decide +kernel
  obtain ⟨-, hnodes, hdepth⟩ := htree mixedGroup hwhole
  obtain ⟨hsum, hgreatest⟩ := hform formWithMixedGroup none
  rw [hsize] at hnodes hdepth
  refine ⟨hwhole, hsize, hnodes.symm, hdepth, ?_, ?_⟩
  · rw [hsum]
    decide +kernel
  · have hmax : (ofForm formWithMixedGroup none).logic.maxDepth = 3 := by decide +kernel
    rwa [hmax] at hgreatest

end Report

end SurveyForm
