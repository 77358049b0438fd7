/-!
Condition expressions: the trees that the logic attributes of a bind are read
into.  They describe structure only; nothing here evaluates a condition.
-/

namespace SurveyForm

/-- What `selected` and `regex` test. -/
inductive MatchOp where
  | selected
  | regex
deriving DecidableEq, Repr

/-- One disjunct of a group: a single member, or several that must all hold. -/
inductive Term (α : Type) where
  | one (member : α)
  | all (members : List α)
deriving BEq, DecidableEq

/-- The members of a disjunct, whichever way it is written. -/
def Term.members {α : Type} : Term α → List α
  | .one member => [member]
  | .all members => members

/-- A condition whose names, paths and texts are of one type: texts in a condition
that was read, and any values in one that was stored.  `absent` stands where an
expression is missing; the parser never produces it, but stored trees may hold it. -/
inductive ExprOver (α : Type) where
  | absent
  | call (name : α) (args : List (ExprOver α))
  | conditional (test whenTrue whenFalse : ExprOver α)
  | matching (op : MatchOp) (path value : α)
  | comparison (op path value : α) (wrapper : Option α)
  | group (terms : List (Term (ExprOver α)))
  | unparsed (text : α)

/-- A condition as it is written in a form. -/
abbrev Expr : Type :=
  ExprOver String

/-- The list without its repetitions, each element where it first stood. -/
def firstOccurrences {α : Type} [BEq α] (items : List α) : List α :=
  items.foldl (fun seen item => if seen.contains item then seen else seen ++ [item]) []

namespace ExprOver

variable {α : Type}

def isUnparsed : ExprOver α → Bool
  | .unparsed _ => true
  | _ => false

/-- The disjuncts of a group as lists of members; other nodes have none. -/
def disjuncts : ExprOver α → List (List (ExprOver α))
  | .group terms => terms.map Term.members
  | _ => []

/-- The field path that a node itself refers to. -/
def ownPath? : ExprOver α → Option α
  | .matching _ path _ => some path
  | .comparison _ path _ _ => some path
  | _ => none

mutual

/-- Every node of the tree, each before its children, from left to right. -/
def walk : ExprOver α → List (ExprOver α)
  | .absent => []
  | .call name args => .call name args :: walkAll args
  | .conditional test whenTrue whenFalse =>
      .conditional test whenTrue whenFalse ::
        (walk test ++ walk whenTrue ++ walk whenFalse)
  | .matching op path value => [.matching op path value]
  | .comparison op path value wrapper => [.comparison op path value wrapper]
  | .group terms => .group terms :: walkTerms terms
  | .unparsed text => [.unparsed text]

def walkAll : List (ExprOver α) → List (ExprOver α)
  | [] => []
  | expr :: rest => walk expr ++ walkAll rest

def walkTerms : List (Term (ExprOver α)) → List (ExprOver α)
  | [] => []
  | .one member :: rest => walk member ++ walkTerms rest
  | .all members :: rest => walkAll members ++ walkTerms rest

end

/-- The field paths that a tree refers to, in order, without repetition. -/
def referencedPaths [BEq α] (expr : ExprOver α) : List α :=
  firstOccurrences (expr.walk.filterMap ownPath?)

mutual

/-- Whether two trees are the same, node for node. -/
def same [BEq α] : ExprOver α → ExprOver α → Bool
  | .absent, .absent => true
  | .call name args, .call name' args' => name == name' && sameAll args args'
  | .conditional test whenTrue whenFalse, .conditional test' whenTrue' whenFalse' =>
      same test test' && same whenTrue whenTrue' && same whenFalse whenFalse'
  | .matching op path value, .matching op' path' value' =>
      op = op' && path == path' && value == value'
  | .comparison op path value wrapper, .comparison op' path' value' wrapper' =>
      op == op' && path == path' && value == value' && wrapper == wrapper'
  | .group terms, .group terms' => sameTerms terms terms'
  | .unparsed text, .unparsed text' => text == text'
  | _, _ => false

def sameAll [BEq α] : List (ExprOver α) → List (ExprOver α) → Bool
  | [], [] => true
  | expr :: rest, expr' :: rest' => same expr expr' && sameAll rest rest'
  | _, _ => false

def sameTerms [BEq α] : List (Term (ExprOver α)) → List (Term (ExprOver α)) → Bool
  | [], [] => true
  | .one member :: rest, .one member' :: rest' =>
      same member member' && sameTerms rest rest'
  | .all members :: rest, .all members' :: rest' =>
      sameAll members members' && sameTerms rest rest'
  | _, _ => false

end

instance [BEq α] : BEq (ExprOver α) :=
  ⟨same⟩

mutual

/-- The same tree with its names, paths and texts changed. -/
def map {β : Type} (f : α → β) : ExprOver α → ExprOver β
  | .absent => .absent
  | .call name args => .call (f name) (mapAll f args)
  | .conditional test whenTrue whenFalse =>
      .conditional (map f test) (map f whenTrue) (map f whenFalse)
  | .matching op path value => .matching op (f path) (f value)
  | .comparison op path value wrapper =>
      .comparison (f op) (f path) (f value) (wrapper.map f)
  | .group terms => .group (mapTerms f terms)
  | .unparsed text => .unparsed (f text)

def mapAll {β : Type} (f : α → β) : List (ExprOver α) → List (ExprOver β)
  | [] => []
  | expr :: rest => map f expr :: mapAll f rest

def mapTerms {β : Type} (f : α → β) : List (Term (ExprOver α)) → List (Term (ExprOver β))
  | [] => []
  | .one member :: rest => .one (map f member) :: mapTerms f rest
  | .all members :: rest => .all (mapAll f members) :: mapTerms f rest

end

theorem walkAll_eq_flatMap (exprs : List (ExprOver α)) :
    walkAll exprs = exprs.flatMap walk := by
  induction exprs with
  | nil => rfl
  | cons expr rest ih => simp [walkAll, ih]

theorem walkTerms_eq_flatMap (terms : List (Term (ExprOver α))) :
    walkTerms terms = terms.flatMap fun term => term.members.flatMap walk := by
  induction terms with
  | nil => rfl
  | cons term rest ih =>
      cases term <;> simp [walkTerms, Term.members, walkAll_eq_flatMap, ih]

end ExprOver

end SurveyForm
