import SurveyForm.Expr.Parser
import SurveyForm.Proofs.Token.Phrase
/-!
Which rule reads a text.  A call is read by its name alone, a text with an
operator at level zero as a comparison, and each rule is determined by what the
functions on nested tokens find.
-/

namespace SurveyForm.Expr

open Token (call? source split isComma isWord unwrap atOperator? ofText isOperatorChar)

variable {path : String} {levels : Nat} {text : List Char} {deeper : List Char → Expr}
  {tokens inner : List Token} {name : String}

/-- Without an ampersand there is nothing to replace in a text. -/
theorem plainText?_of_plain {raw : String} (hplain : '&' ∉ raw.toList) :
    plainText? raw = some (Text.trim raw.toList) := by
  rw [plainText?, Text.unescape?, if_pos (Text.hasShortReferences_of_not_mem hplain),
    Text.unescape_eq_self hplain, Option.map_some]

theorem plainText?_ofList (hplain : '&' ∉ text) (htrimmed : Text.Trimmed Text.isBlank text) :
    plainText? (String.ofList text) = some text := by
  rw [plainText?_of_plain (by rwa [String.toList_ofList]), String.toList_ofList, Text.trim,
    Text.trimList_eq_self htrimmed]

theorem read_succ (path : String) (levels : Nat) (text : List Char) :
    read path (levels + 1) text =
      (valueCall? (read path levels) (ofText text) <|>
        conditional? (read path levels) (ofText text) <|> matching? path (ofText text) <|>
          comparison? path (ofText text)).getD (.unparsed (String.ofList text)) :=
  rfl

/-- The arguments of a call: none at all when there is nothing but blanks. -/
def arguments (deeper : List Char → Expr) (inner : List Token) : List Expr :=
  if Token.trim inner = [] then []
  else (split isComma none inner).map fun part => deeper (operand part)

/-- One disjunct of a group: its members, and whether there is only one. -/
def disjunctOf (term : List Char → Expr) (tokens : List Token) : Term Expr :=
  match (split (isWord "and") none tokens).map fun part => term (operand part) with
  | [member] => .one member
  | members => .all members

/-- A disjunct of the given members: alone if there is only one. -/
def termOf : List Expr → Term Expr
  | [member] => .one member
  | members => .all members

theorem members_termOf (members : List Expr) : (termOf members).members = members := by
  unfold termOf
  split <;> rfl

theorem disjunctOf_eq (term : List Char → Expr) (tokens : List Token) :
    disjunctOf term tokens =
      termOf ((split (isWord "and") none tokens).map fun part => term (operand part)) :=
  rfl

theorem groupOf_eq (term : List Char → Expr) (text : List Char) :
    groupOf term text =
      .group ((split (isWord "or") none (unwrap (ofText text))).map (disjunctOf term)) :=
  rfl

theorem valueCall?_of_call? (hcall : call? tokens = some (name, inner)) :
    valueCall? deeper tokens =
      if name ∈ valueFunctions then some (.call name (arguments deeper inner)) else none := by
  simp [valueCall?, hcall, arguments]

theorem valueCall?_eq_none (hcall : call? tokens = none) : valueCall? deeper tokens = none := by
  simp [valueCall?, hcall]

theorem conditional?_eq_none (hcall : call? tokens = none) :
    conditional? deeper tokens = none := by
  simp [conditional?, hcall]

theorem matching?_eq_none (hcall : call? tokens = none) : matching? path tokens = none := by
  simp [matching?, hcall]

/-- A call shows no operator at level zero, so a comparison is no call. -/
theorem call?_eq_none_of_atOperator? {left right : List Token} {operator : Token}
    (hoperator : atOperator? 0 tokens = some (left, operator, right)) : call? tokens = none := by
  cases hcall : call? tokens with
  | none => rfl
  | some found =>
      rw [Token.atOperator?_eq_none_of_call? hcall] at hoperator
      contradiction

theorem read_of_valueFunction (hcall : call? (ofText text) = some (name, inner))
    (hname : name ∈ valueFunctions) :
    read path (levels + 1) text = .call name (arguments (read path levels) inner) := by
  rw [read_succ, valueCall?_of_call? hcall, if_pos hname]
  rfl

theorem mem_valueFunctions_iff : name ∈ valueFunctions ↔ name = "concat" ∨ name = "uuid" := by
  simp [valueFunctions]

theorem if_not_mem_valueFunctions : "if" ∉ valueFunctions := by
  decide

theorem name_of_matchFunction? {op : MatchOp} (hname : matchFunction? name = some op) :
    name ∈ Token.ownCalls ∧ name ∉ valueFunctions ∧ name ≠ "if" := by
  unfold matchFunction? at hname
  split at hname
  · decide
  · decide
  · contradiction

theorem read_of_if (hcall : call? (ofText text) = some ("if", inner))
    {test whenTrue whenFalse : List Token}
    (hsplit : split isComma (some 2) inner = [test, whenTrue, whenFalse])
    (hfilled : source test ≠ [] ∧ source whenTrue ≠ [] ∧ source whenFalse ≠ []) :
    read path (levels + 1) text =
      .conditional (groupOf (read path levels) (source test))
        (read path levels (operand whenTrue)) (read path levels (operand whenFalse)) := by
  rw [read_succ, valueCall?_of_call? hcall, if_neg if_not_mem_valueFunctions]
  simp [conditional?, hcall, hsplit, hfilled]

theorem read_of_match {op : MatchOp} (hcall : call? (ofText text) = some (name, inner))
    (hname : matchFunction? name = some op) {field value : List Token}
    (hsplit : split isComma (some 1) inner = [field, value])
    (hfilled : source field ≠ [] ∧ source value ≠ []) :
    read path (levels + 1) text =
      .matching op (Path.resolve (String.ofList (source field)) path)
        (String.ofList (operand value)) := by
  obtain ⟨-, hvalue, hif⟩ := name_of_matchFunction? hname
  rw [read_succ, valueCall?_of_call? hcall, if_neg hvalue]
  simp [conditional?, matching?, hcall, hif, hname, hsplit, hfilled]

theorem read_of_operator {left right : List Token} {operator : Token}
    (hoperator : atOperator? 0 (ofText text) = some (left, operator, right))
    (hfilled : source left ≠ [] ∧ source right ≠ []) :
    read path (levels + 1) text =
      .comparison (String.ofList operator.text)
        (Path.resolve (String.ofList (leftOperand left).2) path)
        (String.ofList (operand right)) (leftOperand left).1 := by
  have hcall := call?_eq_none_of_atOperator? hoperator
  rw [read_succ, valueCall?_eq_none hcall, conditional?_eq_none hcall, matching?_eq_none hcall]
  simp [comparison?, hoperator, hfilled]

/-- What the tokens of a text must be like for one of the rules to read it. -/
inductive Recognized (tokens : List Token) : Prop
  | value {name : String} {inner : List Token} (hcall : call? tokens = some (name, inner))
      (hname : name ∈ valueFunctions)
  | conditional {inner test whenTrue whenFalse : List Token}
      (hcall : call? tokens = some ("if", inner))
      (hsplit : split isComma (some 2) inner = [test, whenTrue, whenFalse])
      (hfilled : source test ≠ [] ∧ source whenTrue ≠ [] ∧ source whenFalse ≠ [])
  | matching {name : String} {inner field value : List Token} {op : MatchOp}
      (hcall : call? tokens = some (name, inner)) (hname : matchFunction? name = some op)
      (hsplit : split isComma (some 1) inner = [field, value])
      (hfilled : source field ≠ [] ∧ source value ≠ [])
  | comparison {left right : List Token} {operator : Token}
      (hoperator : atOperator? 0 tokens = some (left, operator, right))
      (hfilled : source left ≠ [] ∧ source right ≠ [])

theorem conditional?_eq_none_of_not_recognized (hnot : ¬Recognized tokens) :
    conditional? deeper tokens = none := by
  cases hcall : call? tokens with
  | none => exact conditional?_eq_none hcall
  | some found =>
      obtain ⟨name, inner⟩ := found
      simp only [conditional?, hcall, Option.bind_eq_bind, Option.bind_some]
      split_ifs with hname
      · split
        · rename_i test whenTrue whenFalse hsplit
          split_ifs with hblank
          · rfl
          · simp only [not_or] at hblank
            subst hname
            exact absurd (.conditional hcall hsplit hblank) hnot
        · rfl
      · rfl

theorem matching?_eq_none_of_not_recognized (hnot : ¬Recognized tokens) :
    matching? path tokens = none := by
  cases hcall : call? tokens with
  | none => exact matching?_eq_none hcall
  | some found =>
      obtain ⟨name, inner⟩ := found
      cases hname : matchFunction? name with
      | none => simp [matching?, hcall, hname]
      | some op =>
          simp only [matching?, hcall, hname, Option.bind_eq_bind, Option.bind_some]
          split
          · rename_i field value hsplit
            split_ifs with hblank
            · rfl
            · simp only [not_or] at hblank
              exact absurd (.matching hcall hname hsplit hblank) hnot
          · rfl

theorem comparison?_eq_none_of_not_recognized (hnot : ¬Recognized tokens) :
    comparison? path tokens = none := by
  cases hoperator : atOperator? 0 tokens with
  | none => simp [comparison?, hoperator]
  | some found =>
      obtain ⟨left, operator, right⟩ := found
      simp only [comparison?, hoperator, Option.bind_eq_bind, Option.bind_some]
      split_ifs with hblank
      · rfl
      · simp only [not_or] at hblank
        exact absurd (.comparison hoperator hblank) hnot

/-- A text that no rule reads is kept whole, whatever the depth limit. -/
theorem read_of_not_recognized (hnot : ¬Recognized (ofText text)) :
    read path levels text = .unparsed (String.ofList text) := by
  cases levels with
  | zero => rfl
  | succ levels =>
      have hvalue : valueCall? (read path levels) (ofText text) = none := by
        cases hcall : call? (ofText text) with
        | none => exact valueCall?_eq_none hcall
        | some found =>
            obtain ⟨name, inner⟩ := found
            rw [valueCall?_of_call? hcall, if_neg]
            exact fun hname => hnot (.value hcall hname)
      rw [read_succ, hvalue, conditional?_eq_none_of_not_recognized hnot,
        matching?_eq_none_of_not_recognized hnot, comparison?_eq_none_of_not_recognized hnot]
      rfl

/-- The rule by which one level of reading makes a tree out of a text. -/
inductive ReadBy (path : String) (levels : Nat) (text : List Char) : Expr → Prop
  | value {name : String} {inner : List Token} (hcall : call? (ofText text) = some (name, inner))
      (hname : name ∈ valueFunctions) :
      ReadBy path levels text (.call name (arguments (read path levels) inner))
  | conditional {inner test whenTrue whenFalse : List Token}
      (hcall : call? (ofText text) = some ("if", inner))
      (hsplit : split isComma (some 2) inner = [test, whenTrue, whenFalse])
      (hfilled : source test ≠ [] ∧ source whenTrue ≠ [] ∧ source whenFalse ≠ []) :
      ReadBy path levels text (.conditional (groupOf (read path levels) (source test))
        (read path levels (operand whenTrue)) (read path levels (operand whenFalse)))
  | matching {name : String} {inner field value : List Token} {op : MatchOp}
      (hcall : call? (ofText text) = some (name, inner)) (hname : matchFunction? name = some op)
      (hsplit : split isComma (some 1) inner = [field, value])
      (hfilled : source field ≠ [] ∧ source value ≠ []) :
      ReadBy path levels text (.matching op (Path.resolve (String.ofList (source field)) path)
        (String.ofList (operand value)))
  | comparison {left right : List Token} {operator : Token}
      (hoperator : atOperator? 0 (ofText text) = some (left, operator, right))
      (hfilled : source left ≠ [] ∧ source right ≠ []) :
      ReadBy path levels text (.comparison (String.ofList operator.text)
        (Path.resolve (String.ofList (leftOperand left).2) path)
        (String.ofList (operand right)) (leftOperand left).1)
  | unparsed (hnot : ¬Recognized (ofText text)) :
      ReadBy path levels text (.unparsed (String.ofList text))

theorem readBy_read (path : String) (levels : Nat) (text : List Char) :
    ReadBy path levels text (read path (levels + 1) text) := by
  by_cases hrecognized : Recognized (ofText text)
  · cases hrecognized with
    | value hcall hname =>
        rw [read_of_valueFunction hcall hname]
        exact .value hcall hname
    | conditional hcall hsplit hfilled =>
        rw [read_of_if hcall hsplit hfilled]
        exact .conditional hcall hsplit hfilled
    | matching hcall hname hsplit hfilled =>
        rw [read_of_match hcall hname hsplit hfilled]
        exact .matching hcall hname hsplit hfilled
    | comparison hoperator hfilled =>
        rw [read_of_operator hoperator hfilled]
        exact .comparison hoperator hfilled
  · rw [read_of_not_recognized hrecognized]
    exact .unparsed hrecognized

/-- A text without opening parentheses and operators is data to every rule. -/
theorem not_recognized_of_plain (hopening : '(' ∉ text)
    (hoperators : ∀ c ∈ text, isOperatorChar c = false) : ¬Recognized (ofText text) := by
  have hcall : call? (ofText text) = none := by
    rw [Option.eq_none_iff_forall_ne_some]
    rintro ⟨name, inner⟩ hcall
    obtain ⟨word, opening, closing, htrim, -, hkind, -⟩ := Token.call?_eq_some_iff.mp hcall
    obtain ⟨before, after, htokens, -⟩ := Token.trim_decomposition (ofText text)
    have hmem : opening ∈ ofText text := by
      rw [htokens, htrim]
      simp
    obtain ⟨rest, hreads⟩ := (Token.lexed_ofText text).2.reads_of_mem hmem
    have htext := hreads.text_of_fixed (congrArg Token.fixedChar? hkind)
    exact hopening (Token.subset_of_mem_ofText hmem (by simp [htext]))
  have hoperator : atOperator? 0 (ofText text) = none := by
    rw [Token.atOperator?_eq_none_iff]
    refine Token.hides_of_none fun token hmem => ?_
    by_contra hkind
    obtain ⟨rest, hreads⟩ := (Token.lexed_ofText text).2.reads_of_mem hmem
    obtain ⟨front, c, htoken, hchar⟩ :=
      hreads.exists_operator_last (by simpa [Token.isOperator] using hkind)
    rw [hoperators c (Token.subset_of_mem_ofText hmem (by simp [htoken]))] at hchar
    contradiction
  intro hrecognized
  cases hrecognized with
  | value hsome => simp [hcall] at hsome
  | conditional hsome => simp [hcall] at hsome
  | matching hsome => simp [hcall] at hsome
  | comparison hsome => simp [hoperator] at hsome

/-- Above the depth limit, a text is kept unparsed exactly when no rule reads it. -/
theorem isUnparsed_read_iff :
    (read path (levels + 1) text).isUnparsed = true ↔ ¬Recognized (ofText text) := by
  constructor
  · intro hunparsed
    have hread := readBy_read path levels text
    generalize read path (levels + 1) text = expr at hread hunparsed
    cases hread with
    | unparsed hnot => exact hnot
    | value | conditional | matching | comparison => contradiction
  · intro hnot
    rw [read_of_not_recognized hnot]
    rfl

theorem read_eq_unparsed_iff :
    read path (levels + 1) text = .unparsed (String.ofList text) ↔ ¬Recognized (ofText text) := by
  refine ⟨fun hread => ?_, read_of_not_recognized⟩
  have hunparsed : (read path (levels + 1) text).isUnparsed = true := by
    rw [hread]
    rfl
  exact isUnparsed_read_iff.mp hunparsed

/-- Only the last rule makes comparisons. -/
theorem read_eq_comparison {op field value : String} {wrapper : Option String}
    (hread : read path (levels + 1) text = .comparison op field value wrapper) :
    ∃ left operator right, atOperator? 0 (ofText text) = some (left, operator, right) ∧
      source left ≠ [] ∧ source right ≠ [] ∧ op = String.ofList operator.text ∧
      field = Path.resolve (String.ofList (leftOperand left).2) path ∧
      value = String.ofList (operand right) ∧ wrapper = (leftOperand left).1 := by
  have hby := readBy_read path levels text
  rw [hread] at hby
  cases hby with
  | @comparison left right operator hoperator hfilled =>
      exact ⟨left, operator, right, hoperator, hfilled.1, hfilled.2, rfl, rfl, rfl, rfl⟩

theorem lt_levelsOf {count : Nat} {maxDepth : Int} (hcount : (count : Int) ≤ maxDepth) :
    count < levelsOf maxDepth := by
  unfold levelsOf
  omega

end SurveyForm.Expr
