import SurveyForm.Proofs.Bind.Logic
import SurveyForm.Proofs.Expr.Chains
import SurveyForm.Proofs.Expr.Pruning
import SurveyForm.Proofs.Expr.Shape
import SurveyForm.Proofs.Form.Loading
/-!
How deep the logic of a form can be.  The limit of an expression counts calls, a report counts
nodes.  On the way down a tree, each call brings at most one group with it, as the test of a
conditional, so that a chain has at most two nodes for each call.
-/

namespace SurveyForm

open ExprOver (Descends)

namespace Expr

variable {path : String} {deeper : List Char → Expr} {expr : Expr}
  {calls lessCalls nodes lessNodes levels : Nat}

/-- Whether every chain of a tree has at most so many calls among at most so many nodes. -/
def Within (calls nodes : Nat) (expr : Expr) : Prop :=
  ∀ chain, Descends expr chain → chain.countP isNestingCall ≤ calls ∧ chain.length ≤ nodes

theorem Within.mono (hwithin : expr.Within lessCalls lessNodes) (hcalls : lessCalls ≤ calls)
    (hnodes : lessNodes ≤ nodes) : expr.Within calls nodes := by
  intro chain hchain
  obtain ⟨hcount, hlength⟩ := hwithin chain hchain
  exact ⟨hcount.trans hcalls, hlength.trans hnodes⟩

/-- A node is one more than the longest chain of its parts, and one more call if it is one. -/
theorem within_of_parts (hparts : ∀ part ∈ expr.parts, Within calls nodes part) :
    expr.Within (calls + [expr].countP isNestingCall) (nodes + 1) := by
  intro chain hchain
  cases hchain with
  | here => exact ⟨Nat.le_add_left _ _, Nat.le_add_left _ _⟩
  | down hpart hchain =>
      obtain ⟨hcount, hlength⟩ := hparts _ hpart _ hchain
      constructor
      · rw [List.countP_cons, List.countP_singleton]
        exact Nat.add_le_add_right hcount _
      · exact Nat.succ_le_succ hlength

theorem within_of_isLeaf (hleaf : expr.isLeaf = true) : expr.Within 0 1 := by
  cases expr with
  | call | conditional | group => contradiction
  | _ => exact within_of_parts (List.forall_mem_nil _)

/-- A group is a node above its members, but no call. -/
theorem within_groupOf (hdeeper : ∀ text, Within calls nodes (deeper text)) (text : List Char) :
    (groupOf deeper text).Within calls (nodes + 1) := by
  apply within_of_parts
  intro part hpart
  obtain ⟨term, hterm, hmember⟩ := List.mem_flatMap.mp hpart
  obtain ⟨tokens, -, rfl⟩ := List.mem_map.mp hterm
  obtain ⟨member, rfl⟩ := exists_of_mem_disjunctOf hmember
  exact hdeeper member

/-- One level of reading adds a call and at most two nodes. -/
theorem within_of_readBy {text : List Char}
    (hdeeper : ∀ text, (read path levels text).Within calls nodes)
    (hread : ReadBy path levels text expr) : expr.Within (calls + 1) (nodes + 2) := by
  cases hread with
  | @value name inner =>
      have hcall : Within (calls + 1) (nodes + 1)
          (.call name (arguments (read path levels) inner)) := by
        apply within_of_parts
        intro arg harg
        obtain ⟨part, rfl⟩ := exists_of_mem_arguments harg
        exact hdeeper part
      exact hcall.mono (Nat.le_refl _) (Nat.le_succ _)
  | conditional =>
      apply within_of_parts
      intro part hpart
      simp only [ExprOver.parts, List.mem_cons, List.not_mem_nil, or_false] at hpart
      rcases hpart with rfl | rfl | rfl
      · exact within_groupOf hdeeper _
      · exact (hdeeper _).mono (Nat.le_refl _) (Nat.le_succ _)
      · exact (hdeeper _).mono (Nat.le_refl _) (Nat.le_succ _)
  | matching | comparison | unparsed =>
      exact (within_of_isLeaf rfl).mono (Nat.zero_le _) (Nat.le_add_left _ _)

/-- By induction on the levels; where they end, there is one node and no call. -/
theorem within_read (path : String) (levels : Nat) (text : List Char) :
    (read path levels text).Within levels (2 * levels + 1) := by
  induction levels generalizing text with
  | zero => exact within_of_isLeaf rfl
  | succ levels ih => exact within_of_readBy ih (readBy_read path levels text)

theorem within_of_parse? {raw : String} {maxDepth : Nat}
    (hparse : parse? raw path maxDepth = some expr) :
    expr.Within (maxDepth + 1) (2 * (maxDepth + 1) + 1) := by
  obtain ⟨text, -, rfl⟩ := Option.map_eq_some_iff.mp hparse
  exact within_read path (maxDepth + 1) text

theorem within_of_parseGroup? {raw : String} {maxDepth : Nat}
    (hparse : parseGroup? raw path maxDepth = some expr) :
    expr.Within (maxDepth + 1) (2 * (maxDepth + 1) + 2) := by
  obtain ⟨text, -, rfl⟩ := Option.map_eq_some_iff.mp hparse
  exact within_groupOf (within_read path (maxDepth + 1)) text

theorem Within.depth_le (hwithin : expr.Within calls (nodes + 1)) :
    (ExprSize.ofExpr expr).depth ≤ nodes := by
  apply ExprSize.depth_le_iff.mpr
  intro chain hchain
  exact (hwithin chain hchain).2

/-- What is read as a group may go one node deeper than what is read alone. -/
theorem IsReadAt.depth_le {options : Options} (hread : expr.IsReadAt options path) :
    (ExprSize.ofExpr expr).depth ≤ 2 * (options.maxExpressionDepth + 1) + 1 := by
  obtain ⟨raw, hsingle | hgroup⟩ := hread
  · exact (within_of_parse? hsingle).depth_le.trans (Nat.le_succ _)
  · exact (within_of_parseGroup? hgroup).depth_le

end Expr

namespace Form

variable {options : Options} {root : Xml.Element} {form : Form}

/-- All logic of a form is measured as the parts of one expression are. -/
theorem logicSize_eq (form : Form) :
    form.logicSize = ExprSize.ofExprs (form.fields.flatMap Field.logic) := by
  rw [logicSize]
  induction form.fields.flatMap Field.logic using List.reverseRecOn with
  | nil => rfl
  | append_singleton exprs expr ih =>
      rw [List.map_append, List.foldl_append, ih, ExprSize.ofExprs_append, ExprSize.ofExprs,
        ExprSize.ofExprs, ExprSize.beside_zero]
      rfl

/-- All logic of a form that loads has been read from its binds. -/
theorem statesRead_of_ofTree (hload : ofTree options root = .ok form) :
    ∀ field ∈ form.fields, field.StatesRead options := by
  obtain ⟨source, rfl⟩ := exists_source_of_ofTree hload
  exact Definitions.statesRead_of_applyBinds source.binds_eq

theorem depth_logicSize_le (hload : ofTree options root = .ok form) :
    form.logicSize.depth ≤ 2 * (options.maxExpressionDepth + 1) + 1 := by
  rw [logicSize_eq, ExprSize.depth_ofExprs_le_iff]
  intro expr hexpr
  obtain ⟨field, hfield, hlogic⟩ := List.mem_flatMap.mp hexpr
  exact (statesRead_of_ofTree hload field hfield expr hlogic).depth_le

end Form

namespace Report

open SurveyForm.Expr (parse? parseGroup? isNestingCall)

/-- A limit of calls bounds every tree that is read under it.  No chain has more calls than the
limit allows levels, and the depth that is reported is at most twice as much, or one more for a
group; so no form that loads is reported to be deeper. -/
theorem depth_le_of_limit (maxDepth : Nat) :
    (∀ raw path expr, parse? raw path maxDepth = some expr →
      (∀ chain, Descends expr chain → chain.countP isNestingCall ≤ maxDepth + 1) ∧
        (ExprSize.ofExpr expr).depth ≤ 2 * (maxDepth + 1)) ∧
    (∀ raw path group, parseGroup? raw path maxDepth = some group →
      (∀ chain, Descends group chain → chain.countP isNestingCall ≤ maxDepth + 1) ∧
        (ExprSize.ofExpr group).depth ≤ 2 * (maxDepth + 1) + 1) ∧
    ∀ options root form depthLimit, options.maxExpressionDepth = maxDepth →
      Form.ofTree options root = .ok form →
        (ofForm form depthLimit).logic.maxDepth ≤ 2 * (maxDepth + 1) + 1 := by
  refine ⟨?single, ?group, ?form⟩
  case single =>
    intro raw path expr hparse
    have hwithin := Expr.within_of_parse? hparse
    exact ⟨fun chain hchain => (hwithin chain hchain).1, hwithin.depth_le⟩
  case group =>
    intro raw path group hparse
    have hwithin := Expr.within_of_parseGroup? hparse
    exact ⟨fun chain hchain => (hwithin chain hchain).1, hwithin.depth_le⟩
  case form =>
    intro options root form depthLimit hdepth hload
    subst hdepth
    exact Form.depth_logicSize_le hload

/-- A conditional as the test of another one. -/
def nestedTest : String :=
  "if(if(a,b,c),d,e)"

def nestedTestTree : Expr :=
  .conditional
    (.group [.one (.conditional (.group [.one (.unparsed "a")]) (.unparsed "b") (.unparsed "c"))])
    (.unparsed "d") (.unparsed "e")

/-- A form with that text as a constraint. -/
def formWithNestedTest : Xml.Element :=
  Form.documentOf [.text "Nested tests"]
    [Xml.Node.ofParts "instance" [] [Xml.Node.ofParts "data" [] []],
      Xml.Node.ofParts "bind" [("nodeset", "/data"), ("constraint", nestedTest)] []]
    []

/-- Under a limit of one, nested tests are as deep as a tree can be, alone and as a group. -/
theorem depth_le_of_limit_nestedTest :
    let group : Expr := .group [.one nestedTestTree]
    parse? nestedTest "/data" 1 = some nestedTestTree ∧
      parseGroup? nestedTest "/data" 1 = some group ∧
      (∀ chain, Descends nestedTestTree chain → chain.countP isNestingCall ≤ 2) ∧
      (∀ chain, Descends group chain → chain.countP isNestingCall ≤ 2) ∧
      (ExprSize.ofExpr nestedTestTree).depth = 4 ∧ (ExprSize.ofExpr group).depth = 5 ∧
      ∃ form, Form.ofTree { maxExpressionDepth := 1 } formWithNestedTest = .ok form ∧
        (ofForm form standardDepthLimit).logic.maxDepth = 5 := by
  intro group
  have hparse : parse? nestedTest "/data" 1 = some nestedTestTree := by cbv
  have hgroup : parseGroup? nestedTest "/data" 1 = some group := by cbv
  have hdepth : (Form.ofTree { maxExpressionDepth := 1 } formWithNestedTest).map
      (·.logicSize.depth) = .ok 5 := by
    decide +kernel
  obtain ⟨form, hload, hform⟩ := Form.exists_ofTree_of_map_eq hdepth
  obtain ⟨hsingles, hgroups, hforms⟩ := depth_le_of_limit 1
  obtain ⟨hcalls, hle⟩ := hsingles _ _ _ hparse
  obtain ⟨hgroupCalls, hgroupLe⟩ := hgroups _ _ _ hgroup
  have hformLe := hforms _ _ _ standardDepthLimit rfl hload
  refine ⟨hparse, hgroup, hcalls, hgroupCalls, hle.antisymm ?_, hgroupLe.antisymm ?_, form, hload,
    hformLe.antisymm ?_⟩
  · decide
  · decide
  · exact hform.ge

end Report

end SurveyForm
