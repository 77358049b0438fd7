import Mathlib
import SurveyForm.Proofs.Bind.References
import SurveyForm.Proofs.Expr.Mentions
import SurveyForm.Proofs.Expr.Written
/-!
The shape of what is read.  Nothing is missing in a tree that comes from a text, groups stand
only at the root and as tests, and every node is one that the syntax has, however malformed
the text is and wherever the depth limit cuts.
-/

namespace SurveyForm

namespace ExprOver

variable {α : Type} {holds : ExprOver α → Prop}

def isGroup : ExprOver α → Bool
  | .group _ => true
  | _ => false

/-- Whether something holds of a tree and of all that lies below it. -/
def Everywhere (holds : ExprOver α → Prop) (expr : ExprOver α) : Prop :=
  ∀ node, Inside node expr → holds node

theorem everywhere_call_iff {name : α} {args : List (ExprOver α)} :
    Everywhere holds (.call name args) ↔
      holds (.call name args) ∧ ∀ arg ∈ args, Everywhere holds arg := by
  constructor
  · intro heverywhere
    exact ⟨heverywhere _ .here, fun arg harg node hinside =>
      heverywhere node (.argument harg hinside)⟩
  · rintro ⟨hhere, hargs⟩ node hinside
    cases hinside with
    | here => exact hhere
    | argument harg hinside => exact hargs _ harg node hinside

theorem everywhere_conditional_iff {test whenTrue whenFalse : ExprOver α} :
    Everywhere holds (.conditional test whenTrue whenFalse) ↔
      holds (.conditional test whenTrue whenFalse) ∧ Everywhere holds test ∧
        Everywhere holds whenTrue ∧ Everywhere holds whenFalse := by
  constructor
  · intro heverywhere
    exact ⟨heverywhere _ .here, fun node hinside => heverywhere node (.test hinside),
      fun node hinside => heverywhere node (.whenTrue hinside),
      fun node hinside => heverywhere node (.whenFalse hinside)⟩
  · rintro ⟨hhere, htest, hwhenTrue, hwhenFalse⟩ node hinside
    cases hinside with
    | here => exact hhere
    | test hinside => exact htest node hinside
    | whenTrue hinside => exact hwhenTrue node hinside
    | whenFalse hinside => exact hwhenFalse node hinside

theorem everywhere_group_iff {terms : List (Term (ExprOver α))} :
    Everywhere holds (.group terms) ↔
      holds (.group terms) ∧ ∀ term ∈ terms, ∀ member ∈ term.members, Everywhere holds member := by
  constructor
  · intro heverywhere
    exact ⟨heverywhere _ .here, fun term hterm member hmember node hinside =>
      heverywhere node (.of_member hterm hmember hinside)⟩
  · rintro ⟨hhere, hmembers⟩ node hinside
    cases hinside with
    | here => exact hhere
    | single hterm hinside => exact hmembers _ hterm _ (List.mem_singleton_self _) node hinside
    | conjunct hterm hmember hinside => exact hmembers _ hterm _ hmember node hinside

/-- Whether a node never has anything below it. -/
def isLeaf : ExprOver α → Bool
  | .absent | .matching .. | .comparison .. | .unparsed _ => true
  | .call .. | .conditional .. | .group _ => false

theorem everywhere_leaf_iff {expr : ExprOver α} (hleaf : expr.isLeaf = true) :
    Everywhere holds expr ↔ holds expr := by
  constructor
  · intro heverywhere
    exact heverywhere expr .here
  · intro hhere node hinside
    cases hinside with
    | here => exact hhere
    | _ => contradiction

end ExprOver

namespace Expr

open ExprOver (Everywhere)
open Token (split isWord ofText atOperator?)

variable {path : String} {deeper : List Char → Expr}

/-- What the syntax allows at one node.  Nothing is allowed to be absent, and a group is a
child of conditionals alone, where it is the test. -/
inductive Proper : Expr → Prop
  | call {name : String} {args : List Expr} (hname : name = "concat" ∨ name = "uuid")
      (hargs : ∀ arg ∈ args, arg.isGroup = false) : Proper (.call name args)
  | conditional {test whenTrue whenFalse : Expr} (htest : test.isGroup = true)
      (hwhenTrue : whenTrue.isGroup = false) (hwhenFalse : whenFalse.isGroup = false) :
      Proper (.conditional test whenTrue whenFalse)
  | matching (op : MatchOp) (path value : String) : Proper (.matching op path value)
  | comparison {op : String} (path value : String) (wrapper : Option String)
      (hop : OperatorText op) : Proper (.comparison op path value wrapper)
  | group {terms : List (Term Expr)} (hne : terms ≠ [])
      (hproper : ∀ term ∈ terms, ProperTerm term)
      (hmembers : ∀ term ∈ terms, ∀ member ∈ term.members, member.isGroup = false) :
      Proper (.group terms)
  | unparsed (text : String) : Proper (.unparsed text)

/-- A condition that is no group and has the right shape at every depth. -/
structure Single (expr : Expr) : Prop where
  isGroup_eq_false : expr.isGroup = false
  everywhere : Everywhere Proper expr

/-- A group that has the right shape at every depth. -/
structure Grouped (expr : Expr) : Prop where
  isGroup_eq_true : expr.isGroup = true
  everywhere : Everywhere Proper expr

theorem single_unparsed (text : String) : Single (.unparsed text) where
  isGroup_eq_false := rfl
  everywhere := (ExprOver.everywhere_leaf_iff rfl).mpr (.unparsed text)

/-! ### The parts of a node -/

/-- An argument stands for one part between commas. -/
theorem exists_of_mem_arguments {inner : List Token} {arg : Expr}
    (harg : arg ∈ arguments deeper inner) : ∃ text, arg = deeper text := by
  rw [arguments] at harg
  split_ifs at harg with hblank
  · contradiction
  · obtain ⟨part, -, rfl⟩ := List.mem_map.mp harg
    exact ⟨operand part, rfl⟩

theorem properTerm_termOf {members : List Expr} (hne : members ≠ []) :
    ProperTerm (termOf members) := by
  obtain ⟨first, rest, rfl⟩ := List.exists_cons_of_ne_nil hne
  cases rest with
  | nil => trivial
  | cons second rest => simp [termOf, ProperTerm]

/-- Cutting always leaves a first part, so no disjunct is without members. -/
theorem properTerm_disjunctOf (deeper : List Char → Expr) (tokens : List Token) :
    ProperTerm (disjunctOf deeper tokens) :=
  properTerm_termOf (by simp [split])

theorem exists_of_mem_disjunctOf {tokens : List Token} {member : Expr}
    (hmember : member ∈ (disjunctOf deeper tokens).members) : ∃ text, member = deeper text := by
  rw [members_disjunctOf] at hmember
  obtain ⟨part, -, rfl⟩ := List.mem_map.mp hmember
  exact ⟨operand part, rfl⟩

/-- The group of a text has the right shape if its members have it, whatever they are read
from. -/
theorem grouped_groupOf (hdeeper : ∀ text, Single (deeper text)) (text : List Char) :
    Grouped (groupOf deeper text) where
  isGroup_eq_true := rfl
  everywhere := by
    have hmembers : ∀ term ∈ (split (isWord "or") none (Token.unwrap (ofText text))).map
        (disjunctOf deeper), ∀ member ∈ term.members, Single member := by
      intro term hterm member hmember
      obtain ⟨tokens, -, rfl⟩ := List.mem_map.mp hterm
      obtain ⟨part, rfl⟩ := exists_of_mem_disjunctOf hmember
      exact hdeeper part
    rw [groupOf_eq, ExprOver.everywhere_group_iff]
    refine ⟨.group ?_ ?_ ?_, ?_⟩
    · simp [split]
    · intro term hterm
      obtain ⟨tokens, -, rfl⟩ := List.mem_map.mp hterm
      exact properTerm_disjunctOf deeper tokens
    · intro term hterm member hmember
      exact (hmembers term hterm member hmember).isGroup_eq_false
    · intro term hterm member hmember
      exact (hmembers term hterm member hmember).everywhere

theorem operatorText_of_reads {operator : Token} {after : List Char}
    (hreads : Token.Reads operator after) (hkind : operator.kind = .operator) :
    OperatorText (String.ofList operator.text) := by
  cases hreads with
  | unequal => exact .unequal
  | run hrun hfirst hrest =>
      cases hrun with
      | operators =>
          refine .run (by simp) ?_
          rw [String.toList_ofList, List.forall_mem_cons]
          exact ⟨hfirst, hrest⟩
      | blanks | words => contradiction
  | _ => contradiction

theorem operatorText_of_atOperator? {text : List Char} {left right : List Token}
    {operator : Token} (hoperator : atOperator? 0 (ofText text) = some (left, operator, right)) :
    OperatorText (String.ofList operator.text) := by
  obtain ⟨htokens, hkind, -, -⟩ := Token.atOperator?_eq_some_iff.mp hoperator
  have hmem : operator ∈ ofText text := by
    rw [htokens]
    simp
  obtain ⟨after, hreads⟩ := (Token.lexed_ofText text).2.reads_of_mem hmem
  exact operatorText_of_reads hreads hkind

/-! ### Whole trees -/

/-- Each rule makes a proper node out of proper parts. -/
theorem single_of_readBy {levels : Nat} {text : List Char} {expr : Expr}
    (hdeeper : ∀ text, Single (read path levels text)) (hread : ReadBy path levels text expr) :
    Single expr := by
  cases hread with
  | @value name inner hcall hname =>
      have hargs : ∀ arg ∈ arguments (read path levels) inner, Single arg := by
        intro arg harg
        obtain ⟨part, rfl⟩ := exists_of_mem_arguments harg
        exact hdeeper part
      refine ⟨rfl, ExprOver.everywhere_call_iff.mpr ⟨.call ?_ ?_, ?_⟩⟩
      · exact mem_valueFunctions_iff.mp hname
      · exact fun arg harg => (hargs arg harg).isGroup_eq_false
      · exact fun arg harg => (hargs arg harg).everywhere
  | @conditional inner test whenTrue whenFalse hcall hsplit hfilled =>
      have htest := grouped_groupOf hdeeper (Token.source test)
      have hwhenTrue := hdeeper (operand whenTrue)
      have hwhenFalse := hdeeper (operand whenFalse)
      refine ⟨rfl, ExprOver.everywhere_conditional_iff.mpr ⟨.conditional htest.isGroup_eq_true
        hwhenTrue.isGroup_eq_false hwhenFalse.isGroup_eq_false, ?_⟩⟩
      exact ⟨htest.everywhere, hwhenTrue.everywhere, hwhenFalse.everywhere⟩
  | matching hcall hname hsplit hfilled =>
      exact ⟨rfl, (ExprOver.everywhere_leaf_iff rfl).mpr (.matching _ _ _)⟩
  | comparison hoperator hfilled =>
      exact ⟨rfl, (ExprOver.everywhere_leaf_iff rfl).mpr
        (.comparison _ _ _ (operatorText_of_atOperator? hoperator))⟩
  | unparsed hnot => exact single_unparsed _

/-- By induction on the levels; where they end, the text is kept unparsed. -/
theorem single_read (path : String) (levels : Nat) (text : List Char) :
    Single (read path levels text) := by
  induction levels generalizing text with
  | zero => exact single_unparsed _
  | succ levels ih => exact single_of_readBy ih (readBy_read path levels text)

theorem RefersAbsolutely.isAbsolute_of_mentions {expr : Expr} {field : String}
    (hexpr : expr.RefersAbsolutely) (hfield : expr.Mentions field) : Path.IsAbsolute field :=
  hexpr field (ExprOver.mem_referencedPaths_iff.mpr hfield)

/-- Whatever the text, the path and the depth limit are, a single condition is never a group,
what a group is read as always is one, and all nodes of either are proper ones.  At an absolute
path, the paths in the tree are absolute too. -/
theorem shape_of_parse (raw path : String) (maxDepth : Int) :
    (∀ expr, parse? raw path maxDepth = some expr →
      expr.isGroup = false ∧ Everywhere Proper expr ∧
        (Path.IsAbsolute path → ∀ field, expr.Mentions field → Path.IsAbsolute field)) ∧
    ∀ group, parseGroup? raw path maxDepth = some group →
      group.isGroup = true ∧ Everywhere Proper group ∧
        (Path.IsAbsolute path → ∀ field, group.Mentions field → Path.IsAbsolute field) := by
  constructor
  · intro expr hparse
    have hpaths : Path.IsAbsolute path → expr.RefersAbsolutely := fun hpath =>
      refersAbsolutely_of_parse? hpath hparse
    obtain ⟨text, -, rfl⟩ := Option.map_eq_some_iff.mp hparse
    have hsingle := single_read path (levelsOf maxDepth) text
    exact ⟨hsingle.isGroup_eq_false, hsingle.everywhere, fun hpath field =>
      (hpaths hpath).isAbsolute_of_mentions⟩
  · intro group hparse
    have hpaths : Path.IsAbsolute path → group.RefersAbsolutely := fun hpath =>
      refersAbsolutely_of_parseGroup? hpath hparse
    obtain ⟨text, -, rfl⟩ := Option.map_eq_some_iff.mp hparse
    have hgrouped := grouped_groupOf (single_read path (levelsOf maxDepth)) text
    exact ⟨hgrouped.isGroup_eq_true, hgrouped.everywhere, fun hpath field =>
      (hpaths hpath).isAbsolute_of_mentions⟩

/-- What is read where operands and operators are missing, at two levels. -/
def incompleteTree : Expr :=
  .conditional (.group [.one (.unparsed ""), .one (.comparison "=>" "/d/x/a" "1" none)])
    (.call "concat" [.unparsed "uuid()", .unparsed ""]) (.unparsed "!")

def incompleteGroup : Expr :=
  .group [.all [.unparsed "(b or)", .matching .regex "/d/c" "z"], .one (.unparsed "")]

theorem shape_of_parse_incomplete :
    parse? "if(or a => 1,concat(uuid(),),!)" "/d/x" 1 = some incompleteTree ∧
      parseGroup? "(b or) and regex(../c,z) or " "/d/x" 0 = some incompleteGroup ∧
      Path.IsAbsolute "/d/x" ∧
      (incompleteTree.isGroup = false ∧ Everywhere Proper incompleteTree ∧
        ∀ field, incompleteTree.Mentions field → Path.IsAbsolute field) ∧
      incompleteGroup.isGroup = true ∧ Everywhere Proper incompleteGroup ∧
        ∀ field, incompleteGroup.Mentions field → Path.IsAbsolute field := by
  have hsingle : parse? "if(or a => 1,concat(uuid(),),!)" "/d/x" 1 = some incompleteTree := by cbv
  have hgroup : parseGroup? "(b or) and regex(../c,z) or " "/d/x" 0 = some incompleteGroup := by cbv
  have hpath : Path.IsAbsolute "/d/x" := by decide
  obtain ⟨hkind, hnodes, hpaths⟩ := (shape_of_parse _ _ _).1 _ hsingle
  obtain ⟨hgroupKind, hgroupNodes, hgroupPaths⟩ := (shape_of_parse _ _ _).2 _ hgroup
  exact ⟨hsingle, hgroup, hpath, ⟨hkind, hnodes, hpaths hpath⟩, hgroupKind, hgroupNodes,
    hgroupPaths hpath⟩

end Expr

end SurveyForm
