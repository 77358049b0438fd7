import Mathlib
import SurveyForm.Proofs.Expr.Quotes
import SurveyForm.Proofs.Expr.Rules
import SurveyForm.Proofs.Token.Layout
/-!
Where the nodes of a condition come from.  Every node stands for slices of the
text that was read, the slices of all nodes follow one another in the text, and
what lies between them says nothing.
-/

namespace SurveyForm.Expr

open Token (Lexed Yields source split trim isComma isWord isMark ofText textOf call? unwrap
  atOperator?)

variable {path : String} {levels : Nat} {deeper : List Char → Expr}

/-- The slices that one node stands for.  The path of a match or a comparison is
a slice that was resolved; nodes that only hold others together have none. -/
inductive NodeSlices (path : String) : Expr → List (List Char) → Prop
  | call (name : String) (args : List Expr) : NodeSlices path (.call name args) [name.toList]
  | conditional (test whenTrue whenFalse : Expr) :
      NodeSlices path (.conditional test whenTrue whenFalse) []
  | matching (op : MatchOp) (reference value : String) :
      NodeSlices path (.matching op (Path.resolve reference path) value)
        [reference.toList, value.toList]
  | comparison (op reference value : String) (wrapper : Option String) :
      NodeSlices path (.comparison op (Path.resolve reference path) value wrapper)
        (wrapper.toList.map String.toList ++
          [reference.toList, op.toList, value.toList])
  | group (terms : List (Term Expr)) : NodeSlices path (.group terms) []
  | unparsed (text : String) : NodeSlices path (.unparsed text) [text.toList]

/-- The nodes stand for slices that make up the text. -/
def Traced (path : String) (nodes : List Expr) (text : List Char) : Prop :=
  ∃ parts, List.Forall₂ (NodeSlices path) nodes parts ∧ Yields text parts.flatten

theorem traced_marks {text : List Char} (hmarks : ∀ c ∈ text, isMark c = true) :
    Traced path [] text :=
  ⟨[], .nil, Token.yields_marks hmarks⟩

theorem Traced.append {left right : List Token} {nodes others : List Expr}
    (hlexed : Lexed (left ++ right)) (hleft : Traced path nodes (textOf left))
    (hright : Traced path others (textOf right)) :
    Traced path (nodes ++ others) (textOf (left ++ right)) := by
  obtain ⟨front, hfront, hyields⟩ := hleft
  obtain ⟨back, hback, hrest⟩ := hright
  refine ⟨front ++ back, List.rel_append hfront hback, ?_⟩
  rw [List.flatten_append]
  exact hyields.append hlexed hrest

/-- A text keeps its nodes if it keeps its slices. -/
theorem Traced.imp {nodes : List Expr} {text other : List Char}
    (htext : Traced path nodes text)
    (himp : ∀ slices, Yields text slices → Yields other slices) :
    Traced path nodes other := by
  obtain ⟨parts, hparts, hyields⟩ := htext
  exact ⟨parts, hparts, himp _ hyields⟩

theorem traced_node {node : Expr} {slices : List (List Char)} {text : List Char}
    (hnode : NodeSlices path node slices) (hyields : Yields text slices) :
    Traced path [node] text :=
  ⟨[slices], .cons hnode .nil, by simpa using hyields⟩

/-- A text that is kept whole is its own slice. -/
theorem traced_unparsed (text : List Char) :
    Traced path (ExprOver.walk (.unparsed (String.ofList text))) text := by
  refine traced_node (.unparsed (String.ofList text)) ?_
  rw [String.toList_ofList]
  exact Token.yields_slice text

theorem Traced.cons {node : Expr} {nodes : List Expr} {text : List Char}
    {slices : List (List Char)} {inner : List Char} (hinner : Traced path nodes inner)
    (hnode : NodeSlices path node slices)
    (himp : ∀ others, Yields inner others → Yields text (slices ++ others)) :
    Traced path (node :: nodes) text := by
  obtain ⟨parts, hparts, hyields⟩ := hinner
  exact ⟨slices :: parts, .cons hnode hparts, himp _ hyields⟩

/-! ### Operands -/

theorem isMark_of_isQuote {c : Char} (hquote : Token.isQuote c = true) : isMark c = true := by
  simp [isMark, hquote]

/-- Quotes at the ends of an operand are no slices, those inside are. -/
theorem yields_of_operand {tokens : List Token} {slices : List (List Char)}
    (hlexed : Lexed tokens) (hoperand : Yields (operand tokens) slices) :
    Yields (textOf tokens) slices := by
  obtain ⟨before, after, hsource, hquotes⟩ := stripQuotes_decomposition (source tokens)
  apply Yields.of_source hlexed
  rw [hsource]
  exact hoperand.enclosed
    (fun c hc => isMark_of_isQuote (hquotes c (List.mem_append_left after hc)))
    (fun c hc => isMark_of_isQuote (hquotes c (List.mem_append_right before hc)))

theorem traced_operand (hdeeper : ∀ text, Traced path (deeper text).walk text)
    {tokens : List Token} (hlexed : Lexed tokens) :
    Traced path (deeper (operand tokens)).walk (textOf tokens) :=
  (hdeeper (operand tokens)).imp fun _ => yields_of_operand hlexed

/-- A call is its name before what its parentheses hold. -/
theorem exists_call_tokens {tokens inner : List Token} {name : String} (hlexed : Lexed tokens)
    (hcall : call? tokens = some (name, inner)) :
    ∃ word opening closing, trim tokens = word :: opening :: inner ++ [closing] ∧
      Lexed (word :: opening :: inner ++ [closing]) ∧ word.text = name.toList ∧
      opening.kind = .opening ∧ closing.kind = .closing := by
  obtain ⟨word, opening, closing, htrim, -, hopening, hclosing, hname, -⟩ :=
    Token.call?_eq_some_iff.mp hcall
  obtain ⟨before, after, htokens, -⟩ := Token.trim_decomposition tokens
  rw [htokens, htrim] at hlexed
  refine ⟨word, opening, closing, htrim, hlexed.left.right, ?_, hopening, hclosing⟩
  rw [hname, String.toList_ofList]

theorem lexed_of_call? {tokens inner : List Token} {name : String} (hlexed : Lexed tokens)
    (hcall : call? tokens = some (name, inner)) : Lexed inner := by
  obtain ⟨_, _, _, _, hparts, _⟩ := exists_call_tokens hlexed hcall
  exact hparts.2.2.left

theorem yields_parenthesized {opening closing : Token} {inner : List Token}
    {slices : List (List Char)} (hlexed : Lexed (opening :: inner ++ [closing]))
    (hopening : opening.kind = .opening) (hclosing : closing.kind = .closing)
    (hinner : Yields (textOf inner) slices) :
    Yields (textOf (opening :: inner ++ [closing])) slices := by
  refine hinner.wrapped (show Lexed ([opening] ++ inner ++ [closing]) from hlexed) ?_
  simp [Token.isWrapping, hopening, hclosing]

/-- The name of a call that stands for itself is a slice. -/
theorem yields_named {tokens inner : List Token} {name : String} {slices : List (List Char)}
    (hlexed : Lexed tokens) (hcall : call? tokens = some (name, inner))
    (hinner : Lexed inner → Yields (textOf inner) slices) :
    Yields (textOf tokens) (name.toList :: slices) := by
  obtain ⟨word, opening, closing, htrim, hparts, hword, hopening, hclosing⟩ :=
    exists_call_tokens hlexed hcall
  have hrest := yields_parenthesized hparts.2 hopening hclosing (hinner hparts.2.2.left)
  have hname : Yields (textOf [word]) [name.toList] := by
    rw [Token.textOf_cons, Token.textOf_nil, List.append_nil, hword]
    exact Token.yields_slice name.toList
  apply Yields.of_trim hlexed
  rw [htrim]
  exact hname.append (show Lexed ([word] ++ (opening :: inner ++ [closing])) from hparts) hrest

/-- The names of the calls that have nodes of their own kind are no slices. -/
theorem yields_unnamed {tokens inner : List Token} {name : String}
    {slices : List (List Char)} (hlexed : Lexed tokens)
    (hcall : call? tokens = some (name, inner)) (hname : name ∈ Token.ownCalls)
    (hinner : Lexed inner → Yields (textOf inner) slices) : Yields (textOf tokens) slices := by
  obtain ⟨word, opening, closing, htrim, hparts, hword, hopening, hclosing⟩ :=
    exists_call_tokens hlexed hcall
  have hrest := yields_parenthesized hparts.2 hopening hclosing (hinner hparts.2.2.left)
  apply Yields.of_trim hlexed
  rw [htrim]
  exact Token.yields_callName hparts hname hword hopening hrest

/-! ### Lists and groups -/

theorem traced_separator {separates : Token → Bool}
    (hgap : ∀ token after, Token.Reads token after → separates token = true →
      Yields token.text []) :
    ∀ token after, Token.Reads token after → separates token = true →
      Traced path [] token.text := fun token after hreads hseparates =>
  ⟨[], .nil, hgap token after hreads hseparates⟩

theorem traced_split {separates : Token → Bool} {limit : Option Nat}
    (hgap : ∀ token after, Token.Reads token after → separates token = true →
      Yields token.text [])
    {nodes : List Token → List Expr}
    (hparts : ∀ part, Lexed part → Traced path (nodes part) (textOf part))
    {tokens : List Token} (hlexed : Lexed tokens) :
    Traced path ((split separates limit tokens).flatMap nodes) (textOf tokens) := by
  rw [List.flatMap_def]
  refine (Token.parted_cut limit 0 tokens).combine (Traced path)
    (fun _ _ _ _ => Traced.append) (traced_separator hgap) hlexed ?_
  rw [← Token.split, List.forall₂_map_right_iff, List.forall₂_same]
  exact fun part _ => hparts part

theorem gap_comma (token : Token) (after : List Char) (hreads : Token.Reads token after)
    (hcomma : isComma token = true) : Yields token.text [] :=
  Token.yields_comma hreads hcomma

theorem gap_word {word : String} (hword : word ∈ Token.groupWords) (token : Token)
    (after : List Char) (_ : Token.Reads token after) (hseparates : isWord word token = true) :
    Yields token.text [] :=
  Token.yields_separator hword hseparates

theorem traced_arguments (hdeeper : ∀ text, Traced path (deeper text).walk text)
    {inner : List Token} (hlexed : Lexed inner) :
    Traced path (ExprOver.walkAll (arguments deeper inner)) (textOf inner) := by
  rw [ExprOver.walkAll_eq_flatMap, arguments]
  split_ifs with hblank
  · refine traced_marks (Token.isMark_of_isWrapping hlexed fun token hmem => ?_)
    exact Token.isWrapping_of_isBlank (Text.trimList_eq_nil_iff.mp hblank token hmem)
  · rw [List.flatMap_map]
    exact traced_split gap_comma (fun part hpart => traced_operand hdeeper hpart) hlexed

theorem members_disjunctOf (tokens : List Token) :
    (disjunctOf deeper tokens).members =
      (split (isWord "and") none tokens).map fun part => deeper (operand part) := by
  rw [disjunctOf_eq, members_termOf]

theorem traced_disjunct (hdeeper : ∀ text, Traced path (deeper text).walk text)
    {tokens : List Token} (hlexed : Lexed tokens) :
    Traced path ((disjunctOf deeper tokens).members.flatMap ExprOver.walk)
      (textOf tokens) := by
  rw [members_disjunctOf, List.flatMap_map]
  exact traced_split (gap_word (by decide)) (fun part hpart => traced_operand hdeeper hpart)
    hlexed

/-- A group is what is left of its text without the parentheses around it. -/
theorem traced_group (hdeeper : ∀ text, Traced path (deeper text).walk text)
    (text : List Char) : Traced path (groupOf deeper text).walk text := by
  obtain ⟨before, after, htokens, hwraps⟩ := Token.unwrap_decomposition (ofText text)
  have hlexed := (Token.lexed_ofText text).2
  rw [htokens] at hlexed
  have hterms : Traced path
      ((split (isWord "or") none (unwrap (ofText text))).flatMap fun tokens =>
        (disjunctOf deeper tokens).members.flatMap ExprOver.walk)
      (textOf (unwrap (ofText text))) :=
    traced_split (gap_word (by decide)) (fun _ hpart => traced_disjunct hdeeper hpart)
      hlexed.left.right
  rw [groupOf_eq, ExprOver.walk, ExprOver.walkTerms_eq_flatMap, List.flatMap_map]
  refine hterms.cons (.group _) fun slices hyields => ?_
  have hwhole := hyields.wrapped hlexed hwraps
  rwa [← htokens, Token.textOf_ofText] at hwhole

/-! ### Single conditions -/

theorem yields_parts {limit : Option Nat} {tokens first : List Token}
    {parts : List (List Token)} (hsplit : split isComma limit tokens = first :: parts)
    (hlexed : Lexed tokens) {slices : List (List (List Char))}
    (hparts : List.Forall₂ (fun part slices => Lexed part → Yields (textOf part) slices)
      (first :: parts) slices) : Yields (textOf tokens) slices.flatten :=
  (Token.parted_split hsplit).combine (fun slices text => Yields text slices)
    (fun _ _ _ _ => Yields.append) gap_comma hlexed hparts

theorem yields_source {tokens : List Token} (hlexed : Lexed tokens) :
    Yields (textOf tokens) [source tokens] :=
  Yields.of_source hlexed (Token.yields_slice _)

theorem yields_operand {tokens : List Token} (hlexed : Lexed tokens) :
    Yields (textOf tokens) [operand tokens] :=
  yields_of_operand hlexed (Token.yields_slice _)

theorem traced_conditional (hdeeper : ∀ text, Traced path (deeper text).walk text)
    {tokens inner test whenTrue whenFalse : List Token} (hlexed : Lexed tokens)
    (hcall : call? tokens = some ("if", inner))
    (hsplit : split isComma (some 2) inner = [test, whenTrue, whenFalse]) :
    Traced path (ExprOver.walk (.conditional (groupOf deeper (source test))
      (deeper (operand whenTrue)) (deeper (operand whenFalse)))) (textOf tokens) := by
  have hinner : Lexed inner → Traced path
      ((groupOf deeper (source test)).walk ++ (deeper (operand whenTrue)).walk ++
        (deeper (operand whenFalse)).walk) (textOf inner) := by
    intro hparts
    have hcombined := (Token.parted_split hsplit).combine (Traced path)
      (fun _ _ _ _ => Traced.append) (traced_separator gap_comma) hparts
      (.cons (fun hpart => (traced_group hdeeper (source test)).imp fun _ =>
          Yields.of_source hpart)
        (.cons (traced_operand hdeeper) (.cons (traced_operand hdeeper) .nil)))
    simpa using hcombined
  rw [ExprOver.walk]
  exact (hinner (lexed_of_call? hlexed hcall)).cons (.conditional _ _ _) fun slices hyields =>
    yields_unnamed hlexed hcall (by decide) fun _ => hyields

theorem traced_matching {tokens inner field value : List Token} {name : String} {op : MatchOp}
    (hlexed : Lexed tokens) (hcall : call? tokens = some (name, inner))
    (hname : matchFunction? name = some op)
    (hsplit : split isComma (some 1) inner = [field, value]) :
    Traced path (ExprOver.walk (.matching op (Path.resolve (String.ofList (source field)) path)
      (String.ofList (operand value)))) (textOf tokens) := by
  refine traced_node (.matching op (String.ofList (source field)) _) ?_
  rw [String.toList_ofList, String.toList_ofList]
  refine yields_unnamed hlexed hcall (name_of_matchFunction? hname).1 fun hinner => ?_
  exact yields_parts hsplit hinner (.cons yields_source (.cons yields_operand .nil))

/-- The left operand is its wrapper's name, if there is one, and the reference. -/
theorem yields_leftOperand {tokens : List Token} (hlexed : Lexed tokens) :
    Yields (textOf tokens)
      ((leftOperand tokens).1.toList.map String.toList ++ [(leftOperand tokens).2]) := by
  rw [leftOperand]
  split
  · rename_i name inner hcall
    split_ifs
    · exact yields_source hlexed
    · exact yields_named hlexed hcall yields_source
  · exact yields_source hlexed

theorem traced_comparison {tokens left right : List Token} {operator : Token}
    (hlexed : Lexed tokens) (hoperator : atOperator? 0 tokens = some (left, operator, right)) :
    Traced path (ExprOver.walk (.comparison (String.ofList operator.text)
      (Path.resolve (String.ofList (leftOperand left).2) path)
      (String.ofList (operand right)) (leftOperand left).1)) (textOf tokens) := by
  obtain ⟨rfl, -, -, -⟩ := Token.atOperator?_eq_some_iff.mp hoperator
  refine traced_node (.comparison _ (String.ofList (leftOperand left).2) _ _) ?_
  rw [String.toList_ofList, String.toList_ofList, String.toList_ofList]
  have hop : Yields (textOf [operator]) [operator.text] := by
    simpa using Token.yields_slice operator.text
  have hright := hop.append hlexed.right (yields_operand hlexed.right.2)
  have hwhole := (yields_leftOperand hlexed.left).append hlexed hright
  simpa using hwhole

/-- Whatever the text and however many levels are read, the nodes stand for
slices of it, in the order of the walk. -/
theorem traced_read (path : String) (levels : Nat) (text : List Char) :
    Traced path (read path levels text).walk text := by
  induction levels generalizing text with
  | zero => exact traced_unparsed text
  | succ levels ih =>
      obtain ⟨htext, hlexed⟩ := Token.lexed_ofText text
      have hread := readBy_read path levels text
      generalize read path (levels + 1) text = expr at hread
      cases hread with
      | @value name inner hcall hname =>
          have hparts := lexed_of_call? hlexed hcall
          rw [ExprOver.walk]
          refine (traced_arguments ih hparts).cons (.call name _) fun slices hyields => ?_
          have hwhole := yields_named hlexed hcall fun _ => hyields
          rwa [htext] at hwhole
      | conditional hcall hsplit _ => simpa [htext] using traced_conditional ih hlexed hcall hsplit
      | matching hcall hname hsplit _ =>
          have hwhole : Traced path _ _ := traced_matching hlexed hcall hname hsplit
          rwa [htext] at hwhole
      | comparison hoperator _ =>
          have hwhole : Traced path _ _ := traced_comparison hlexed hoperator
          rwa [htext] at hwhole
      | unparsed => exact traced_unparsed text

/-- Slices of the text for the nodes of a tree, one after another and with
nothing but gaps around them. -/
def Sliced (path : String) (expr : Expr) (text : List Char) : Prop :=
  ∃ parts, List.Forall₂ (NodeSlices path) expr.walk parts ∧
    Token.Laid [] parts.flatten text []

theorem Traced.sliced {expr : Expr} {text : List Char}
    (htraced : Traced path expr.walk text) : Sliced path expr text := by
  obtain ⟨parts, hparts, hyields⟩ := htraced
  exact ⟨parts, hparts, hyields [] [] (Token.fits_whole text)⟩

/-- Reading invents, reorders, repeats and drops nothing, whatever the text is
like: both readers return trees whose nodes, as they are walked, stand for
slices of the plain text from left to right, and every character between these
is a mark or belongs to a word of the grammar. -/
theorem sliced_parse {raw : String} {text : List Char} (htext : plainText? raw = some text)
    (path : String) (maxDepth : Int) :
    (∃ expr, parse? raw path maxDepth = some expr ∧ Sliced path expr text) ∧
      ∃ group, parseGroup? raw path maxDepth = some group ∧ Sliced path group text := by
  have hread := traced_read path (levelsOf maxDepth)
  constructor
  · refine ⟨_, ?_, (hread text).sliced⟩
    rw [parse?, htext, Option.map_some]
  · refine ⟨_, ?_, (traced_group hread text).sliced⟩
    rw [parseGroup?, htext, Option.map_some]

/-- An unclosed quote and unbalanced parentheses among them.  Alone, everything behind the
operator is the value of one comparison; as a group, there are four slices. -/
theorem sliced_parse_malformed :
    plainText? " a = 'b' and ((c, ), 'd) or e " = some "a = 'b' and ((c, ), 'd) or e".toList ∧
      parse? " a = 'b' and ((c, ), 'd) or e " "/data/x" 3 =
        some (.comparison "=" "/data/x/a" "b' and ((c, ), 'd) or e" none) ∧
      parseGroup? " a = 'b' and ((c, ), 'd) or e " "/data/x" 3 =
        some (.group [.all [.comparison "=" "/data/x/a" "b" none, .unparsed "((c, ), 'd)"],
          .one (.unparsed "e")]) ∧
      Sliced "/data/x" (.comparison "=" "/data/x/a" "b' and ((c, ), 'd) or e" none)
        "a = 'b' and ((c, ), 'd) or e".toList ∧
      Sliced "/data/x"
        (.group [.all [.comparison "=" "/data/x/a" "b" none, .unparsed "((c, ), 'd)"],
          .one (.unparsed "e")])
        "a = 'b' and ((c, ), 'd) or e".toList := by
  have htext : plainText? " a = 'b' and ((c, ), 'd) or e " =
      some "a = 'b' and ((c, ), 'd) or e".toList :=
    (plainText?_of_plain (by decide)).trans (by decide)
  have halone : parse? " a = 'b' and ((c, ), 'd) or e " "/data/x" 3 =
      some (.comparison "=" "/data/x/a" "b' and ((c, ), 'd) or e" none) := by
    cbv
  have hgroup : parseGroup? " a = 'b' and ((c, ), 'd) or e " "/data/x" 3 =
      some (.group [.all [.comparison "=" "/data/x/a" "b" none, .unparsed "((c, ), 'd)"],
        .one (.unparsed "e")]) := by
    cbv
  obtain ⟨⟨expr, hexpr, hsliced⟩, group, hmade, hparts⟩ := sliced_parse htext "/data/x" 3
  obtain rfl := Option.some.inj (halone.symm.trans hexpr)
  obtain rfl := Option.some.inj (hgroup.symm.trans hmade)
  exact ⟨htext, halone, hgroup, hsliced, hparts⟩

end SurveyForm.Expr
