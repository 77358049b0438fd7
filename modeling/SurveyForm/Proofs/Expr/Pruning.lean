import Mathlib
import SurveyForm.Proofs.Expr.Slices
/-!
What a depth limit does to a condition.  Which rule reads a text does not depend on
how its parts are read, so a lower limit only cuts subtrees off, and it cuts off none
once it allows as many levels as there are calls.
-/

namespace SurveyForm

/-- Two disjuncts of one shape whose members are related one by one. -/
inductive Term.Alike {α β : Type} (related : α → β → Prop) : Term α → Term β → Prop
  | one {member : α} {other : β} (hmember : related member other) :
      Alike related (.one member) (.one other)
  | all {members : List α} {others : List β} (hmembers : List.Forall₂ related members others) :
      Alike related (.all members) (.all others)

namespace Expr

open Token (Lexed source split trim isWord ofText textOf call? unwrap)

/-- `Pruned a b`: the condition `a` is `b` with some of its subtrees kept unparsed. -/
inductive Pruned : Expr → Expr → Prop
  | unparsed (text : String) (expr : Expr) : Pruned (.unparsed text) expr
  | absent : Pruned .absent .absent
  | call (name : String) {args others : List Expr} (hargs : List.Forall₂ Pruned args others) :
      Pruned (.call name args) (.call name others)
  | conditional {test whenTrue whenFalse test' whenTrue' whenFalse' : Expr}
      (htest : Pruned test test') (hwhenTrue : Pruned whenTrue whenTrue')
      (hwhenFalse : Pruned whenFalse whenFalse') :
      Pruned (.conditional test whenTrue whenFalse) (.conditional test' whenTrue' whenFalse')
  | matching (op : MatchOp) (path value : String) :
      Pruned (.matching op path value) (.matching op path value)
  | comparison (op path value : String) (wrapper : Option String) :
      Pruned (.comparison op path value wrapper) (.comparison op path value wrapper)
  | group {terms others : List (Term Expr)}
      (hterms : List.Forall₂ (Term.Alike Pruned) terms others) :
      Pruned (.group terms) (.group others)

variable {path : String} {levels more : Nat} {text : List Char}

/-! ### One level of reading -/

section Related

variable {related : Expr → Expr → Prop} {first second : List Char → Expr}

theorem forall₂_arguments (hrelated : ∀ text, related (first text) (second text))
    (inner : List Token) :
    List.Forall₂ related (arguments first inner) (arguments second inner) := by
  rw [arguments, arguments]
  split_ifs with hblank
  · exact .nil
  · rw [List.forall₂_map_left_iff, List.forall₂_map_right_iff, List.forall₂_same]
    exact fun part _ => hrelated (operand part)

theorem alike_termOf {members others : List Expr} (hmembers : List.Forall₂ related members others) :
    Term.Alike related (termOf members) (termOf others) := by
  cases hmembers with
  | nil => exact .all .nil
  | cons hfirst hrest =>
      cases hrest with
      | nil => exact .one hfirst
      | cons hsecond hrest => exact .all (.cons hfirst (.cons hsecond hrest))

theorem alike_disjunctOf (hrelated : ∀ text, related (first text) (second text))
    (tokens : List Token) :
    Term.Alike related (disjunctOf first tokens) (disjunctOf second tokens) := by
  rw [disjunctOf_eq, disjunctOf_eq]
  apply alike_termOf
  rw [List.forall₂_map_left_iff, List.forall₂_map_right_iff, List.forall₂_same]
  exact fun part _ => hrelated (operand part)

/-- The disjuncts of a group, wherever its members are read. -/
def disjunctsOf (term : List Char → Expr) (text : List Char) : List (Term Expr) :=
  (split (isWord "or") none (unwrap (ofText text))).map (disjunctOf term)

theorem forall₂_disjunctsOf (hrelated : ∀ text, related (first text) (second text))
    (text : List Char) :
    List.Forall₂ (Term.Alike related) (disjunctsOf first text) (disjunctsOf second text) := by
  rw [disjunctsOf, disjunctsOf, List.forall₂_map_left_iff, List.forall₂_map_right_iff,
    List.forall₂_same]
  exact fun tokens _ => alike_disjunctOf hrelated tokens

/-- Two conditions with the same node at the root, the parts of which are related if they
are read one level deeper. -/
inductive SameNode (related : Expr → Expr → Prop) : Expr → Expr → Prop
  | call (name : String) {args others : List Expr} (hargs : List.Forall₂ related args others) :
      SameNode related (.call name args) (.call name others)
  | conditional {terms others : List (Term Expr)} {whenTrue whenFalse whenTrue' whenFalse' : Expr}
      (hterms : List.Forall₂ (Term.Alike related) terms others)
      (hwhenTrue : related whenTrue whenTrue') (hwhenFalse : related whenFalse whenFalse') :
      SameNode related (.conditional (.group terms) whenTrue whenFalse)
        (.conditional (.group others) whenTrue' whenFalse')
  | matching (op : MatchOp) (path value : String) :
      SameNode related (.matching op path value) (.matching op path value)
  | comparison (op path value : String) (wrapper : Option String) :
      SameNode related (.comparison op path value wrapper) (.comparison op path value wrapper)
  | unparsed (text : String) : SameNode related (.unparsed text) (.unparsed text)

/-- The rule that reads a text never depends on what its parts become. -/
theorem sameNode_read
    (hrelated : ∀ text, related (read path levels text) (read path more text))
    (text : List Char) :
    SameNode related (read path (levels + 1) text) (read path (more + 1) text) := by
  have hread := readBy_read path levels text
  generalize read path (levels + 1) text = expr at hread
  cases hread with
  | value hcall hname =>
      rw [read_of_valueFunction hcall hname]
      exact .call _ (forall₂_arguments hrelated _)
  | conditional hcall hsplit hfilled =>
      rw [read_of_if hcall hsplit hfilled]
      exact .conditional (forall₂_disjunctsOf hrelated _) (hrelated _) (hrelated _)
  | matching hcall hname hsplit hfilled =>
      rw [read_of_match hcall hname hsplit hfilled]
      exact .matching _ _ _
  | comparison hoperator hfilled =>
      rw [read_of_operator hoperator hfilled]
      exact .comparison _ _ _ _
  | unparsed hnot =>
      rw [read_of_not_recognized hnot]
      exact .unparsed _

end Related

theorem SameNode.pruned {expr other : Expr} (hsame : SameNode Pruned expr other) :
    Pruned expr other := by
  cases hsame with
  | call name hargs => exact .call name hargs
  | conditional hterms hwhenTrue hwhenFalse =>
      exact .conditional (.group hterms) hwhenTrue hwhenFalse
  | matching => exact .matching _ _ _
  | comparison => exact .comparison _ _ _ _
  | unparsed => exact .unparsed _ _

/-- More levels only refine what is read. -/
theorem pruned_read (path : String) (hle : levels ≤ more) (text : List Char) :
    Pruned (read path levels text) (read path more text) := by
  induction levels generalizing more text with
  | zero => exact .unparsed _ _
  | succ levels ih =>
      obtain ⟨more, rfl⟩ := Nat.exists_eq_succ_of_ne_zero (Nat.ne_zero_of_lt hle)
      exact (sameNode_read (fun text => ih (Nat.le_of_succ_le_succ hle) text) text).pruned

theorem pruned_groupOf (path : String) (hle : levels ≤ more) (text : List Char) :
    Pruned (groupOf (read path levels) text) (groupOf (read path more) text) :=
  .group (forall₂_disjunctsOf (pruned_read path hle) text)

/-! ### Conditions with few calls -/

/-- Whether the parts of a node are read one level deeper than the node. -/
def isNestingCall : Expr → Bool
  | .call .. => true
  | .conditional .. => true
  | _ => false

/-- The number of calls that hold other conditions. -/
def callCount (expr : Expr) : Nat :=
  expr.walk.countP isNestingCall

theorem countP_le_flatMap {α β : Type} (counted : β → Bool) (parts : α → List β) {item : α}
    {items : List α} (hmem : item ∈ items) :
    (parts item).countP counted ≤ (items.flatMap parts).countP counted := by
  rw [List.flatMap_def]
  exact (List.sublist_flatten_of_mem (List.mem_map_of_mem hmem)).countP_le

theorem callCount_call (name : String) (args : List Expr) :
    callCount (.call name args) = (args.flatMap ExprOver.walk).countP isNestingCall + 1 := by
  rw [← ExprOver.walkAll_eq_flatMap]
  exact List.countP_cons_of_pos rfl

theorem callCount_group (terms : List (Term Expr)) :
    callCount (.group terms) =
      (terms.flatMap fun term => term.members.flatMap ExprOver.walk).countP isNestingCall := by
  rw [← ExprOver.walkTerms_eq_flatMap]
  exact List.countP_cons_of_neg Bool.false_ne_true

theorem callCount_conditional (test whenTrue whenFalse : Expr) :
    callCount (.conditional test whenTrue whenFalse) =
      test.callCount + whenTrue.callCount + whenFalse.callCount + 1 := by
  rw [callCount, ExprOver.walk, List.countP_cons_of_pos rfl, List.countP_append,
    List.countP_append]
  rfl

theorem callCount_le_group {member : Expr} {term : Term Expr} {terms : List (Term Expr)}
    (hterm : term ∈ terms) (hmember : member ∈ term.members) :
    member.callCount ≤ callCount (.group terms) := by
  rw [callCount_group]
  exact (countP_le_flatMap isNestingCall ExprOver.walk hmember).trans
    (countP_le_flatMap isNestingCall (fun term => term.members.flatMap ExprOver.walk) hterm)

theorem eq_of_forall₂ {α : Type} {settled : α → Prop} {items others : List α}
    (hitems : List.Forall₂ (fun item other => settled other → item = other) items others)
    (hsettled : ∀ other ∈ others, settled other) : items = others := by
  induction hitems with
  | nil => rfl
  | cons hitem _ ih =>
      rw [List.forall_mem_cons] at hsettled
      rw [hitem hsettled.1, ih hsettled.2]

theorem eq_of_alike {settled : Expr → Prop} {term other : Term Expr}
    (hterm : Term.Alike (fun expr other => settled other → expr = other) term other)
    (hsettled : ∀ member ∈ other.members, settled member) : term = other := by
  cases hterm with
  | one hmember => rw [hmember (hsettled _ (List.mem_singleton_self _))]
  | all hmembers => rw [eq_of_forall₂ hmembers hsettled]

theorem eq_of_terms {settled : Expr → Prop} {terms others : List (Term Expr)}
    (hterms : List.Forall₂
      (Term.Alike fun expr other => settled other → expr = other) terms others)
    (hsettled : ∀ other ∈ others, ∀ member ∈ other.members, settled member) :
    terms = others :=
  eq_of_forall₂ (hterms.imp fun _ _ => eq_of_alike) hsettled

/-- A node that holds parts is a call itself, so they have fewer calls than it has. -/
theorem SameNode.eq {expr other : Expr}
    (hsame : SameNode (fun expr other => other.callCount < levels → expr = other) expr other)
    (hcount : other.callCount < levels + 1) : expr = other := by
  cases hsame with
  | call name hargs =>
      rw [callCount_call] at hcount
      rw [eq_of_forall₂ hargs fun arg hmem => ?_]
      have hle : arg.callCount ≤ _ := countP_le_flatMap isNestingCall ExprOver.walk hmem
      omega
  | conditional hterms hwhenTrue hwhenFalse =>
      rw [callCount_conditional] at hcount
      rw [eq_of_terms hterms fun term hterm member hmember => ?_, hwhenTrue (by omega),
        hwhenFalse (by omega)]
      have hle := callCount_le_group hterm hmember
      omega
  | matching => rfl
  | comparison => rfl
  | unparsed => rfl

/-- A limit changes nothing about a condition with fewer calls than levels. -/
theorem read_eq_of_callCount_lt (hle : levels ≤ more)
    (hcount : (read path more text).callCount < levels) :
    read path levels text = read path more text := by
  induction levels generalizing more text with
  | zero => exact absurd hcount (Nat.not_lt_zero _)
  | succ levels ih =>
      obtain ⟨more, rfl⟩ := Nat.exists_eq_succ_of_ne_zero (Nat.ne_zero_of_lt hle)
      exact (sameNode_read (fun text => ih (Nat.le_of_succ_le_succ hle)) text).eq hcount

theorem groupOf_eq_of_callCount_lt (hle : levels ≤ more)
    (hcount : (groupOf (read path more) text).callCount < levels) :
    groupOf (read path levels) text = groupOf (read path more) text := by
  have hterms : List.Forall₂
      (Term.Alike fun expr other => other.callCount < levels → expr = other)
      (disjunctsOf (read path levels) text) (disjunctsOf (read path more) text) :=
    forall₂_disjunctsOf (fun _ => read_eq_of_callCount_lt hle) text
  refine congrArg ExprOver.group (eq_of_terms hterms fun term hterm member hmember => ?_)
  exact (callCount_le_group hterm hmember).trans_lt hcount

/-! ### Calls and parentheses -/

/-- Every call among the nodes has an opening parenthesis of its own in the text. -/
def Opened (nodes : List Expr) (text : List Char) : Prop :=
  nodes.countP isNestingCall ≤ text.count '('

variable {deeper : List Char → Expr} {tokens inner : List Token} {name : String}

theorem Opened.append {left right : List Token} {nodes others : List Expr}
    (hleft : Opened nodes (textOf left)) (hright : Opened others (textOf right)) :
    Opened (nodes ++ others) (textOf (left ++ right)) := by
  rw [Opened, List.countP_append, Token.textOf_append, List.count_append]
  exact Nat.add_le_add hleft hright

theorem count_source_le (c : Char) (tokens : List Token) :
    (source tokens).count c ≤ (textOf tokens).count c := by
  obtain ⟨before, after, htokens, -⟩ := Token.trim_decomposition tokens
  calc (source tokens).count c = (textOf (trim tokens)).count c := rfl
    _ ≤ (textOf (before ++ trim tokens ++ after)).count c := by
      simp only [Token.textOf_append, List.count_append]
      omega
    _ = (textOf tokens).count c := by rw [← htokens]

theorem count_operand_le (c : Char) (tokens : List Token) :
    (operand tokens).count c ≤ (textOf tokens).count c := by
  obtain ⟨before, after, hsource, -⟩ := stripQuotes_decomposition (source tokens)
  calc (operand tokens).count c ≤ (before ++ stripQuotes (source tokens) ++ after).count c := by
        simp only [operand, List.count_append]
        omega
    _ = (source tokens).count c := by rw [← hsource]
    _ ≤ (textOf tokens).count c := count_source_le c tokens

theorem opened_source (hdeeper : ∀ text, Opened (deeper text).walk text) (tokens : List Token) :
    Opened (deeper (source tokens)).walk (textOf tokens) :=
  (hdeeper (source tokens)).trans (count_source_le '(' tokens)

theorem opened_operand (hdeeper : ∀ text, Opened (deeper text).walk text) (tokens : List Token) :
    Opened (deeper (operand tokens)).walk (textOf tokens) :=
  (hdeeper (operand tokens)).trans (count_operand_le '(' tokens)

/-- The parts that a text is split into share its parentheses. -/
theorem opened_parts {separates : Token → Bool} {limit : Option Nat} {first : List Token}
    {parts : List (List Token)} (hsplit : split separates limit tokens = first :: parts)
    (hlexed : Lexed tokens) {nodes : List (List Expr)}
    (hparts : List.Forall₂ (fun part nodes => Lexed part → Opened nodes (textOf part))
      (first :: parts) nodes) : Opened nodes.flatten (textOf tokens) :=
  (Token.parted_split hsplit).combine Opened (fun _ _ _ _ _ => Opened.append)
    (fun _ _ _ _ => Nat.zero_le _) hlexed hparts

theorem opened_split {separates : Token → Bool} {limit : Option Nat}
    {nodes : List Token → List Expr}
    (hparts : ∀ part, Lexed part → Opened (nodes part) (textOf part)) (hlexed : Lexed tokens) :
    Opened ((split separates limit tokens).flatMap nodes) (textOf tokens) := by
  have hforall : List.Forall₂ (fun part nodes => Lexed part → Opened nodes (textOf part))
      (split separates limit tokens) ((split separates limit tokens).map nodes) := by
    rw [List.forall₂_map_right_iff, List.forall₂_same]
    exact fun part _ => hparts part
  rw [List.flatMap_def]
  exact opened_parts (show split separates limit tokens = _ :: _ from rfl) hlexed hforall

theorem opened_arguments (hdeeper : ∀ text, Opened (deeper text).walk text)
    (hlexed : Lexed inner) :
    Opened ((arguments deeper inner).flatMap ExprOver.walk) (textOf inner) := by
  rw [arguments]
  split_ifs with hblank
  · exact Nat.zero_le _
  · rw [List.flatMap_map]
    exact opened_split (fun part _ => opened_operand hdeeper part) hlexed

theorem opened_disjunct (hdeeper : ∀ text, Opened (deeper text).walk text)
    (hlexed : Lexed tokens) :
    Opened ((disjunctOf deeper tokens).members.flatMap ExprOver.walk) (textOf tokens) := by
  rw [members_disjunctOf, List.flatMap_map]
  exact opened_split (fun part _ => opened_operand hdeeper part) hlexed

theorem opened_groupOf (hdeeper : ∀ text, Opened (deeper text).walk text) (text : List Char) :
    Opened (groupOf deeper text).walk text := by
  obtain ⟨before, after, htokens, -⟩ := Token.unwrap_decomposition (ofText text)
  have hlexed := (Token.lexed_ofText text).2
  rw [htokens] at hlexed
  have hterms : Opened
      ((split (isWord "or") none (unwrap (ofText text))).flatMap fun tokens =>
        (disjunctOf deeper tokens).members.flatMap ExprOver.walk)
      (textOf (unwrap (ofText text))) :=
    opened_split (fun _ => opened_disjunct hdeeper) hlexed.left.right
  calc (groupOf deeper text).callCount ≤ (textOf (unwrap (ofText text))).count '(' := by
        rw [groupOf_eq, callCount_group, List.flatMap_map]
        exact hterms
    _ ≤ (textOf (before ++ unwrap (ofText text) ++ after)).count '(' := by
        simp only [Token.textOf_append, List.count_append]
        omega
    _ = text.count '(' := by rw [← htokens, Token.textOf_ofText]

/-- A call opens a parenthesis before what it holds. -/
theorem count_inner_lt (hlexed : Lexed tokens) (hcall : call? tokens = some (name, inner)) :
    (textOf inner).count '(' < (textOf tokens).count '(' := by
  obtain ⟨word, opening, closing, htrim, hparts, -, hopening, -⟩ :=
    exists_call_tokens hlexed hcall
  have hopen : opening.text = ['('] :=
    hparts.2.1.text_of_fixed (congrArg Token.fixedChar? hopening)
  calc (textOf inner).count '(' < (textOf (word :: opening :: inner ++ [closing])).count '(' := by
        rw [List.cons_append, Token.textOf_cons, List.cons_append, Token.textOf_cons, hopen,
          Token.textOf_append]
        simp only [List.count_append, List.count_singleton_self]
        omega
    _ = (source tokens).count '(' := by rw [← htrim]; rfl
    _ ≤ (textOf tokens).count '(' := count_source_le '(' tokens

/-- There are no more calls than opening parentheses, those inside quotes included. -/
theorem opened_read (path : String) (levels : Nat) (text : List Char) :
    Opened (read path levels text).walk text := by
  induction levels generalizing text with
  | zero => exact Nat.zero_le _
  | succ levels ih =>
      obtain ⟨htext, hlexed⟩ := Token.lexed_ofText text
      have hread := readBy_read path levels text
      generalize read path (levels + 1) text = expr at hread
      cases hread with
      | value hcall hname =>
          have hinner := opened_arguments ih (lexed_of_call? hlexed hcall)
          have hlt := hinner.trans_lt (count_inner_lt hlexed hcall)
          rw [htext] at hlt
          exact (callCount_call ..).trans_le hlt
      | conditional hcall hsplit hfilled =>
          have hinner := opened_parts hsplit (lexed_of_call? hlexed hcall)
            (.cons (fun _ => opened_source (opened_groupOf ih) _)
              (.cons (fun _ => opened_operand ih _) (.cons (fun _ => opened_operand ih _) .nil)))
          have hlt := hinner.trans_lt (count_inner_lt hlexed hcall)
          rw [htext] at hlt
          refine (callCount_conditional ..).trans_le (Nat.succ_le_of_lt ?_)
          simpa [callCount, Nat.add_assoc] using hlt
      | matching | comparison | unparsed => exact Nat.zero_le _

/-! ### Depth limits -/

theorem levelsOf_mono {maxDepth limit : Int} (hle : maxDepth ≤ limit) :
    levelsOf maxDepth ≤ levelsOf limit :=
  Int.toNat_le_toNat (Int.add_le_add_right hle 1)

theorem count_trim_le (c : Char) (text : List Char) :
    (Text.trim text).count c ≤ text.count c := by
  obtain ⟨before, after, htext, -⟩ := Text.trimList_decomposition Text.isBlank text
  calc (Text.trim text).count c ≤ (before ++ Text.trim text ++ after).count c := by
        simp only [List.count_append]
        omega
    _ = text.count c := congrArg (List.count c) htext.symm

/-- What both readers make of a text whose character references can be read. -/
theorem parse_of_plainText? {raw : String} (htext : plainText? raw = some text) (path : String)
    (maxDepth : Int) :
    parse? raw path maxDepth = some (read path (levelsOf maxDepth) text) ∧
      parseGroup? raw path maxDepth = some (groupOf (read path (levelsOf maxDepth)) text) := by
  rw [parse?, parseGroup?, htext]
  exact ⟨rfl, rfl⟩

theorem eq_trim_of_plainText? {raw : String} (htext : plainText? raw = some text) :
    text = Text.trim (Text.unescape raw.toList) := by
  rw [plainText?, Text.unescape?] at htext
  split_ifs at htext
  · exact (Option.some.inj htext).symm
  · contradiction

theorem parse_eq_none {raw : String} (htext : plainText? raw = none) (path : String)
    (maxDepth : Int) :
    parse? raw path maxDepth = none ∧ parseGroup? raw path maxDepth = none := by
  rw [parse?, parseGroup?, htext]
  exact ⟨rfl, rfl⟩

/-- Raising the depth limit only refines what is read.  Both readers return a pruning of
what they return with the higher limit.  They return the same if the limit is no less than
the number of calls that are read with the higher one, and so if it is no less than the
number of opening parentheses in the text. -/
theorem pruned_parse (raw path : String) {maxDepth limit : Int} (hle : maxDepth ≤ limit) :
    (Option.Rel Pruned (parse? raw path maxDepth) (parse? raw path limit) ∧
        Option.Rel Pruned (parseGroup? raw path maxDepth) (parseGroup? raw path limit)) ∧
      ((∀ expr ∈ parse? raw path limit, (expr.callCount : Int) ≤ maxDepth →
          parse? raw path maxDepth = some expr) ∧
        ∀ group ∈ parseGroup? raw path limit, (group.callCount : Int) ≤ maxDepth →
          parseGroup? raw path maxDepth = some group) ∧
      (((Text.unescape raw.toList).count '(' : Int) ≤ maxDepth →
        parse? raw path maxDepth = parse? raw path limit ∧
          parseGroup? raw path maxDepth = parseGroup? raw path limit) := by
  cases htext : plainText? raw with
  | none =>
      obtain ⟨hlower, hlowerGroup⟩ := parse_eq_none htext path maxDepth
      obtain ⟨hhigher, hhigherGroup⟩ := parse_eq_none htext path limit
      rw [hlower, hlowerGroup, hhigher, hhigherGroup]
      exact ⟨⟨.none, .none⟩, ⟨by simp, by simp⟩, fun _ => ⟨rfl, rfl⟩⟩
  | some text =>
      obtain ⟨hlower, hlowerGroup⟩ := parse_of_plainText? htext path maxDepth
      obtain ⟨hhigher, hhigherGroup⟩ := parse_of_plainText? htext path limit
      rw [hlower, hlowerGroup, hhigher, hhigherGroup]
      have hlevels := levelsOf_mono hle
      refine ⟨⟨.some (pruned_read path hlevels text), .some (pruned_groupOf path hlevels text)⟩,
        ⟨?_, ?_⟩, fun hcount => ?_⟩
      · rintro _ ⟨⟩ hcalls
        rw [read_eq_of_callCount_lt hlevels (lt_levelsOf hcalls)]
      · rintro _ ⟨⟩ hcalls
        rw [groupOf_eq_of_callCount_lt hlevels (lt_levelsOf hcalls)]
      · have htrim := count_trim_le '(' (Text.unescape raw.toList)
        rw [← eq_trim_of_plainText? htext] at htrim
        have hopenings := htrim.trans_lt (lt_levelsOf hcount)
        have hread := opened_read path (levelsOf limit)
        exact ⟨congrArg some (read_eq_of_callCount_lt hlevels ((hread text).trans_lt hopenings)),
          congrArg some (groupOf_eq_of_callCount_lt hlevels
            ((opened_groupOf hread text).trans_lt hopenings))⟩

/-- A call inside a call is cut off at depth zero, and two levels leave both as they are. -/
theorem pruned_parse_nestedCall :
    ((0 : Int) ≤ 5 ∧ (2 : Int) ≤ 5) ∧
      parse? "concat(uuid(), 'a')" "/data/x" 0 =
        some (.call "concat" [.unparsed "uuid()", .unparsed "a"]) ∧
      Option.Rel Pruned (parse? "concat(uuid(), 'a')" "/data/x" 0)
        (parse? "concat(uuid(), 'a')" "/data/x" 5) ∧
      parse? "concat(uuid(), 'a')" "/data/x" 2 = parse? "concat(uuid(), 'a')" "/data/x" 5 := by
  have hlow : (0 : Int) ≤ 5 := by decide
  have hhigh : (2 : Int) ≤ 5 := by decide
  have hcount : ((Text.unescape "concat(uuid(), 'a')".toList).count '(' : Int) ≤ 2 := by
    rw [Text.unescape_eq_self (by decide)]
    decide
  exact ⟨⟨hlow, hhigh⟩, by cbv, (pruned_parse _ _ hlow).1.1, ((pruned_parse _ _ hhigh).2.2 hcount).1⟩

end Expr

end SurveyForm
