import SurveyForm.Proofs.Expr.Joining
import SurveyForm.Proofs.Path.Absolute
/-!
Reading back what was written.  Every level of a tree is cut out of the tokens
of its text, loses a quote at each end and is read again; the tree that comes
out is the one that was written.
-/

namespace SurveyForm.Expr

open Token (Phrase IsName Hides callText inQuotes split trim isComma isOperator isQuote ofText
  call? unwrap atOperator?)

variable {deeper : List Char → Expr} {base : String} {levels : Nat}

/-! ### Members and arguments -/

/-- Texts that are read back one by one are read back in a list. -/
theorem map_stripQuotes_written {exprs : List Expr}
    (hread : ∀ expr ∈ exprs, deeper (stripQuotes (written expr)) = expr) :
    ((exprs.map written).map fun text => deeper (stripQuotes text)) = exprs := by
  rw [List.map_map]
  exact (List.map_congr_left hread).trans (List.map_id exprs)

theorem trim_ofText_ne_nil {text : List Char} (htext : Phrase text) :
    trim (ofText text) ≠ [] := by
  rw [Token.trim_ofText htext.trimmed]
  exact htext.ofText_ne_nil

theorem arguments_written {args : List Expr} (hargs : ∀ arg ∈ args, Sentence (written arg))
    (hread : ∀ arg ∈ args, deeper (stripQuotes (written arg)) = arg) :
    arguments deeper (ofText (", ".toList.intercalate (args.map written))) = args := by
  cases args with
  | nil =>
      rw [arguments, List.map_nil, List.intercalate_nil, Token.ofText_nil]
      rfl
  | cons first rest =>
      have hphrases : ∀ text ∈ (first :: rest).map written,
          Phrase text ∧ Hides isComma 0 (ofText text) := by
        simpa using ⟨⟨(hargs first (by simp)).toPhrase,
          (hargs first (by simp)).hides isSeparator_of_isComma⟩, fun arg hmem =>
          ⟨(hargs arg (by simp [hmem])).toPhrase,
            (hargs arg (by simp [hmem])).hides isSeparator_of_isComma⟩⟩
      have hwhole := Token.phrase_intercalate Token.glue_comma (by simp) fun text hmem =>
        (hphrases text hmem).1
      have hparts := Token.split_intercalate Token.glue_comma
        Token.isComma_eq_false_of_isBlank (by simp) hphrases
        (show ∀ n, none = some n → _ by simp) (Token.padded_ofText _)
      rw [arguments, if_neg (trim_ofText_ne_nil hwhole),
        map_operand hparts fun text hmem => (hphrases text hmem).1]
      exact map_stripQuotes_written hread

/-! ### Groups -/

theorem TermSentences.member {term : Term Expr} (hterm : TermSentences term) :
    ∀ text ∈ term.members.map written, Member text := by
  intro text htext
  obtain ⟨member, hmember, rfl⟩ := List.mem_map.mp htext
  have hsentence := hterm.members member hmember
  exact ⟨hsentence.toPhrase, hsentence.hides isSeparator_of_and,
    hsentence.hides isSeparator_of_or⟩

theorem written_group_eq_joined (terms : List (Term Expr)) :
    written (.group terms) = joined (terms.map fun term => term.members.map written) := by
  rw [written, writtenTerms_eq_map, joined, List.map_map]
  rfl

theorem unwrap_ofText {text : List Char} (htext : Legible text) :
    unwrap (ofText text) = ofText text := by
  have htrim := Token.trim_ofText htext.trimmed
  rw [Token.unwrap_eq_trim, htrim]
  intro first rest hfirst hopening
  rw [htrim, Token.ofText_eq_iff] at hfirst
  have hbegin := hfirst.2.1.text_of_fixed (congrArg Token.fixedChar? hopening)
  refine absurd ?_ htext.opening
  rw [← hfirst.1, Token.textOf_cons, hbegin]
  rfl

theorem groupOf_written {terms : List (Term Expr)} (hne : terms ≠ [])
    (hproper : ∀ term ∈ terms, ProperTerm term) (hterms : ∀ term ∈ terms, TermSentences term)
    (hread : ∀ term ∈ terms, ∀ member ∈ term.members,
      deeper (stripQuotes (written member)) = member) :
    groupOf deeper (written (.group terms)) = .group terms := by
  have hunwrap := unwrap_ofText (legible_group hne hterms)
  rw [written_group_eq_joined] at hunwrap ⊢
  rw [groupOf_joined (by simpa using hne) (by simpa using fun term hmem => (hterms term hmem).ne_nil)
    (by simpa using fun term hmem => (hterms term hmem).member) hunwrap, List.map_map]
  refine congrArg ExprOver.group ((List.map_congr_left fun term hmem => ?_).trans
    (List.map_id terms))
  rw [Function.comp_apply, map_stripQuotes_written (hread term hmem),
    termOf_members (hproper term hmem), id]

/-! ### Calls -/

theorem head_leftText {reference : String} {wrapper : Option String}
    (hreference : WrapperText reference) (hwrapper : ∀ name ∈ wrapper, WrapperText name) :
    ∀ c ∈ (leftText reference wrapper).head?, isQuote c = false := by
  cases wrapper with
  | none => simpa [leftText] using hreference.name.head_not_quote []
  | some name =>
      rw [leftText, callText, List.append_assoc]
      exact (hwrapper name rfl).name.head_not_quote _

theorem stripQuotes_callText {name inner : List Char} (hname : IsName name) :
    stripQuotes (callText name inner) = callText name inner := by
  apply stripQuotes_eq_self
  · rw [callText, List.append_assoc]
    exact hname.head_not_quote _
  · rw [callText, List.getLast?_append_of_ne_nil _ (by simp)]
    intro c hc
    obtain rfl : ')' = c := by simpa using hc
    decide

theorem read_valueFunction {name : String} {args : List Expr} (hname : name ∈ valueFunctions)
    (hargs : ∀ arg ∈ args, Sentence (written arg))
    (hread : ∀ arg ∈ args, read base levels (stripQuotes (written arg)) = arg) :
    read base (levels + 1) (written (.call name args)) = .call name args := by
  have hinner := insertable_arguments fun text hmem => by
    obtain ⟨arg, harg, rfl⟩ := List.mem_map.mp hmem
    exact (hargs arg harg).toLegible
  have hcall := Token.call?_ofText_callText (wrapperText_valueFunction hname).name hinner
  rw [String.ofList_toList] at hcall
  rw [written, writtenAll_eq_map, read_of_valueFunction hcall hname,
    arguments_written hargs hread]

theorem read_conditional {terms : List (Term Expr)} {whenTrue whenFalse : Expr}
    (htest : Legible (written (.group terms)))
    (hcomma : Hides isComma 0 (ofText (written (.group terms))))
    (htrue : Sentence (written whenTrue)) (hfalse : Sentence (written whenFalse))
    (hgroup : groupOf (read base levels) (written (.group terms)) = .group terms)
    (hreadTrue : read base levels (stripQuotes (written whenTrue)) = whenTrue)
    (hreadFalse : read base levels (stripQuotes (written whenFalse)) = whenFalse) :
    read base (levels + 1) (written (.conditional (.group terms) whenTrue whenFalse)) =
      .conditional (.group terms) whenTrue whenFalse := by
  have hphrases : ∀ text ∈ [written (.group terms), written whenTrue, written whenFalse],
      Phrase text ∧ Hides isComma 0 (ofText text) := by
    simpa using ⟨⟨htest.toPhrase, hcomma⟩,
      ⟨htrue.toPhrase, htrue.hides isSeparator_of_isComma⟩,
      hfalse.toPhrase, hfalse.hides isSeparator_of_isComma⟩
  have hwhole := Token.phrase_intercalate Token.glue_comma (by simp) fun text hmem =>
    (hphrases text hmem).1
  have hcall := Token.call?_ofText_callText
    wrapperText_if.name hwhole.insertable
  have hparts := Token.split_intercalate Token.glue_comma
    Token.isComma_eq_false_of_isBlank (by simp) hphrases
    (show ∀ n, some 2 = some n → _ by simp) (Token.padded_ofText _)
  generalize hsplit : split isComma (some 2) _ = parts at hparts
  obtain _ | ⟨hfirst, _ | ⟨hsecond, _ | ⟨hthird, ⟨⟩⟩⟩⟩ := hparts
  have htestSource := hfirst.source_eq htest.toPhrase
  have htrueSource := hsecond.source_eq htrue.toPhrase
  have hfalseSource := hthird.source_eq hfalse.toPhrase
  rw [written, read_of_if hcall hsplit
    (by rw [htestSource, htrueSource, hfalseSource]
        exact ⟨htest.ne_nil, htrue.ne_nil, hfalse.ne_nil⟩),
    operand, operand, htestSource, htrueSource, hfalseSource, hgroup, hreadTrue, hreadFalse]

theorem PathText.resolve_eq {path : String} (hpath : PathText path) (base : String) :
    Path.resolve path base = path :=
  Path.IsAbsolute.resolve_eq hpath.absolute base

theorem matchFunction?_wordOf (op : MatchOp) : matchFunction? (wordOf op) = some op := by
  cases op <;> rfl

/-- The reference of a match is read as the path that it means. -/
theorem read_matching {op : MatchOp} {reference value : String}
    (hreference : WrapperText reference) (hvalue : ValueText value) :
    read base (levels + 1) (written (.matching op reference value)) =
      .matching op (Path.resolve reference base) value := by
  have hfield := sentence_word hreference
  have hquoted := sentence_inQuotes hvalue.quote_not_mem hvalue.plain
  have hphrases : ∀ text ∈ [reference.toList, inQuotes value.toList],
      Phrase text ∧ Hides isComma 0 (ofText text) := by
    simpa using ⟨⟨hfield.toPhrase, hfield.hides isSeparator_of_isComma⟩,
      hquoted.toPhrase, hquoted.hides isSeparator_of_isComma⟩
  have hwhole := Token.phrase_intercalate Token.glue_comma (by simp) fun text hmem =>
    (hphrases text hmem).1
  have hcall := Token.call?_ofText_callText (wrapperText_wordOf op).name hwhole.insertable
  rw [String.ofList_toList] at hcall
  have hparts := Token.split_intercalate Token.glue_comma
    Token.isComma_eq_false_of_isBlank (by simp) hphrases
    (show ∀ n, some 1 = some n → _ by simp) (Token.padded_ofText _)
  generalize hsplit : split isComma (some 1) _ = parts at hparts
  obtain _ | ⟨hfirst, _ | ⟨hsecond, ⟨⟩⟩⟩ := hparts
  have hfieldSource := hfirst.source_eq hfield.toPhrase
  have hvalueSource := hsecond.source_eq hquoted.toPhrase
  rw [written, read_of_match hcall (matchFunction?_wordOf op) hsplit
    (by rw [hfieldSource, hvalueSource]
        exact ⟨hfield.ne_nil, hquoted.ne_nil⟩),
    operand, hfieldSource, hvalueSource, stripQuotes_inQuotes, String.ofList_toList,
    String.ofList_toList]

theorem read_stripQuotes_matching {op : MatchOp} {reference value : String}
    (hreference : WrapperText reference) (hvalue : ValueText value) :
    read base (levels + 1) (stripQuotes (written (.matching op reference value))) =
      .matching op (Path.resolve reference base) value := by
  have hstrip : stripQuotes (written (.matching op reference value)) =
      written (.matching op reference value) :=
    stripQuotes_callText (wrapperText_wordOf op).name
  rw [hstrip]
  exact read_matching hreference hvalue

/-! ### Comparisons -/

/-- A blank may follow the operand, as it does before the operator. -/
theorem leftOperand_written {reference : String} {wrapper : Option String}
    (hreference : WrapperText reference) (hwrapper : ∀ name ∈ wrapper, WrapperText name) :
    leftOperand (ofText (leftText reference wrapper) ++ [⟨.blank, [' ']⟩]) =
      (wrapper, reference.toList) := by
  have hsentence := sentence_word hreference
  have hblank : Token.isBlank ⟨.blank, [' ']⟩ = true := rfl
  rw [leftOperand, Token.call?_concat_blank hblank]
  cases wrapper with
  | none =>
      have hcall : call? (ofText (leftText reference none)) = none := by
        rw [leftText, Token.ofText_name hreference.name]
        rfl
      rw [hcall]
      simp only [leftText]
      rw [Token.source_concat_blank hblank, Token.source_ofText hsentence.trimmed]
  | some name =>
      rw [leftText, Token.call?_ofText_callText (hwrapper name rfl).name hsentence.insertable]
      simp only
      rw [if_neg (trim_ofText_ne_nil hsentence.toPhrase), String.ofList_toList,
        Token.source_ofText hsentence.trimmed]

theorem hides_isOperator_leftText {reference : String} {wrapper : Option String}
    (hreference : WrapperText reference) (hwrapper : ∀ name ∈ wrapper, WrapperText name) :
    Hides isOperator 0 (ofText (leftText reference wrapper)) := by
  cases wrapper with
  | none =>
      rw [leftText, Token.ofText_name hreference.name]
      exact Token.hides_of_none (by simp [isOperator])
  | some name =>
      exact Token.hides_callText (hwrapper name rfl).name (sentence_word hreference).insertable
        rfl rfl

/-- What follows the operator is the value, whether or not its last quote is there. -/
theorem read_comparison {op reference : String} {wrapper : Option String} {right : List Char}
    (hop : OperatorText op) (hreference : WrapperText reference)
    (hwrapper : ∀ name ∈ wrapper, WrapperText name)
    (hright : Text.Trimmed Text.isBlank right) (hne : right ≠ []) :
    read base (levels + 1) (leftText reference wrapper ++ (' ' :: op.toList ++ [' ']) ++ right) =
      .comparison op (Path.resolve reference base) (String.ofList (stripQuotes right))
        wrapper := by
  have hleft := sentence_leftText hreference hwrapper
  have htokens := hleft.ofText_glued (glue_operator hop) hright.head
  have hoperator : atOperator? 0
      (ofText (leftText reference wrapper ++ (' ' :: op.toList ++ [' ']) ++ right)) =
      some (ofText (leftText reference wrapper) ++ [⟨.blank, [' ']⟩], ⟨.operator, op.toList⟩,
        ⟨.blank, [' ']⟩ :: ofText right) := by
    rw [htokens, ofText_operator hop, Token.atOperator?_eq_some_iff]
    refine ⟨by simp, rfl, ?_, ?_⟩
    · rw [Token.level_append, hleft.level_eq_zero]
      rfl
    · rw [Token.hides_append_iff]
      exact ⟨hides_isOperator_leftText hreference hwrapper,
        Token.hides_of_none (by simp [isOperator])⟩
  have hblank : Token.isBlank ⟨.blank, [' ']⟩ = true := rfl
  have hleftSource := Token.source_concat_blank hblank (ofText (leftText reference wrapper))
  have hrightSource := Token.source_cons_blank hblank (ofText right)
  rw [Token.source_ofText hleft.trimmed] at hleftSource
  rw [Token.source_ofText hright] at hrightSource
  rw [read_of_operator hoperator (by
      rw [hleftSource, hrightSource]
      exact ⟨hleft.ne_nil, hne⟩),
    operand, hrightSource, leftOperand_written hreference hwrapper, String.ofList_toList,
    String.ofList_toList]

/-- The value that is left when the closing quote was taken off with the term's. -/
theorem trimmed_opened {value : String} (hvalue : ValueText value) :
    Text.Trimmed Text.isBlank ('\'' :: value.toList) := by
  have hquote : Text.isBlank '\'' = false := by decide
  refine ⟨by simpa using hquote, ?_⟩
  by_cases hnil : value.toList = []
  · rw [hnil]
    simpa using hquote
  · rw [← List.singleton_append, List.getLast?_append_of_ne_nil _ hnil]
    exact hvalue.last

theorem read_written_comparison {op reference value : String} {wrapper : Option String}
    (hop : OperatorText op) (hreference : WrapperText reference) (hvalue : ValueText value)
    (hwrapper : ∀ name ∈ wrapper, WrapperText name) :
    read base (levels + 1) (written (.comparison op reference value wrapper)) =
      .comparison op (Path.resolve reference base) value wrapper := by
  have hquoted := sentence_inQuotes hvalue.quote_not_mem hvalue.plain
  rw [written, read_comparison hop hreference hwrapper hquoted.trimmed hquoted.ne_nil,
    stripQuotes_inQuotes, String.ofList_toList]

theorem read_stripQuotes_comparison {op reference value : String} {wrapper : Option String}
    (hop : OperatorText op) (hreference : WrapperText reference) (hvalue : ValueText value)
    (hwrapper : ∀ name ∈ wrapper, WrapperText name) :
    read base (levels + 1) (stripQuotes (written (.comparison op reference value wrapper))) =
      .comparison op (Path.resolve reference base) value wrapper := by
  have hleft := sentence_leftText hreference hwrapper
  -- Only the closing quote of the value is at an end of the text.
  have hstrip : stripQuotes (written (.comparison op reference value wrapper)) =
      leftText reference wrapper ++ (' ' :: op.toList ++ [' ']) ++ '\'' :: value.toList := by
    rw [written, inQuotes, ← List.append_assoc]
    apply stripQuotes_closed (by decide) (by simp)
    rw [List.append_assoc, List.head?_append_of_ne_nil _ hleft.ne_nil]
    exact head_leftText hreference hwrapper
  have hlast : ∀ c ∈ value.toList.getLast?, isQuote c = false := fun c hc =>
    (hvalue.chars c (List.mem_of_mem_getLast? hc)).1
  rw [hstrip, read_comparison hop hreference hwrapper (trimmed_opened hvalue) (by simp),
    stripQuotes_opened hlast, String.ofList_toList]

/-! ### Whole trees -/

theorem LiteralText.isOperatorChar_eq_false {text : String} (htext : LiteralText text) :
    ∀ c ∈ text.toList, Token.isOperatorChar c = false := by
  intro c hmem
  have hchar := htext.chars c hmem
  simp only [List.mem_cons, List.not_mem_nil, or_false, not_or] at hchar
  simp [Token.isOperatorChar, hchar]

/-- A literal is data, in its quotes and without them. -/
theorem not_recognized_literal {text : String} (htext : LiteralText text) :
    ¬Recognized (ofText text.toList) ∧ ¬Recognized (ofText (inQuotes text.toList)) := by
  have hopening : '(' ∉ text.toList := fun hmem => htext.chars '(' hmem (by simp)
  refine ⟨not_recognized_of_plain hopening htext.isOperatorChar_eq_false,
    not_recognized_of_plain (by simpa [inQuotes] using hopening) ?_⟩
  have hquote : Token.isOperatorChar '\'' = false := by decide
  intro c hmem
  simp only [inQuotes, List.cons_append, List.mem_cons, List.mem_append, List.not_mem_nil,
    or_false] at hmem
  rcases hmem with rfl | hmem | rfl
  · exact hquote
  · exact htext.isOperatorChar_eq_false c hmem
  · exact hquote

theorem exists_succ_of_lt {levels n : Nat} (hlevels : n + 1 ≤ levels) :
    ∃ deeper, levels = deeper + 1 ∧ n ≤ deeper :=
  ⟨levels - 1, by omega, by omega⟩

/-- A tree is what its text is read as after losing its outer quotes, if enough
levels are read. -/
theorem read_written {expr : Expr} (hexpr : Documented expr)
    (hlevels : expr.levels ≤ levels) : read base levels (stripQuotes (written expr)) = expr := by
  induction hexpr generalizing levels with
  | literal htext =>
      rw [written, stripQuotes_inQuotes,
        read_of_not_recognized (not_recognized_literal htext).1, String.ofList_toList]
  | @call name args hname hargs ih =>
      obtain ⟨deeper, rfl, hdeeper⟩ := exists_succ_of_lt hlevels
      have hread : ∀ arg ∈ args, read base deeper (stripQuotes (written arg)) = arg :=
        fun arg hmem => ih arg hmem (Nat.le_trans (ExprOver.levels_le_levelsAll hmem) hdeeper)
      have hstrip : stripQuotes (written (.call name args)) = written (.call name args) :=
        stripQuotes_callText (wrapperText_valueFunction hname).name
      rw [hstrip]
      exact read_valueFunction hname (fun arg hmem => sentence_written (hargs arg hmem)) hread
  | @conditional terms whenTrue whenFalse hne hproper hmembers htrue hfalse ihmembers ihtrue
      ihfalse =>
      obtain ⟨deeper, rfl, hdeeper⟩ := exists_succ_of_lt hlevels
      obtain ⟨htest, hbranches⟩ := Nat.max_le.mp hdeeper
      obtain ⟨htrueLevels, hfalseLevels⟩ := Nat.max_le.mp hbranches
      have hterms : ∀ term ∈ terms, TermSentences term := fun term hterm =>
        ⟨members_ne_nil (hproper term hterm), fun member hmember =>
          sentence_written (hmembers term hterm member hmember)⟩
      have hgroup := groupOf_written hne hproper hterms fun term hterm member hmember =>
        ihmembers term hterm member hmember
          (Nat.le_trans (ExprOver.levels_le_levelsTerms hterm hmember) htest)
      have hstrip : stripQuotes (written (.conditional (.group terms) whenTrue whenFalse)) =
          written (.conditional (.group terms) whenTrue whenFalse) :=
        stripQuotes_callText wrapperText_if.name
      rw [hstrip]
      exact read_conditional (legible_group hne hterms) (hides_isComma_group hterms)
        (sentence_written htrue) (sentence_written hfalse) hgroup (ihtrue htrueLevels)
        (ihfalse hfalseLevels)
  | matching hpath hvalue =>
      obtain ⟨deeper, rfl, -⟩ := exists_succ_of_lt hlevels
      rw [read_stripQuotes_matching hpath.toWrapperText hvalue, hpath.resolve_eq]
  | comparison hop hpath hvalue hwrapper =>
      obtain ⟨deeper, rfl, -⟩ := exists_succ_of_lt hlevels
      rw [read_stripQuotes_comparison hop hpath.toWrapperText hvalue hwrapper, hpath.resolve_eq]

/-- Outside arguments and groups nothing takes the quotes off, and all but a
literal is read as well. -/
theorem read_written_whole {expr : Expr} (hexpr : Documented expr)
    (hform : expr.isUnparsed = false) (hlevels : expr.levels ≤ levels) :
    read base levels (written expr) = expr := by
  have hread : read base levels (stripQuotes (written expr)) = expr :=
    read_written hexpr hlevels
  cases hexpr with
  | literal => contradiction
  | call hname =>
      rwa [written, stripQuotes_callText (wrapperText_valueFunction hname).name] at hread
  | conditional =>
      rwa [written, stripQuotes_callText
        wrapperText_if.name] at hread
  | @matching op =>
      rwa [written, stripQuotes_callText (wrapperText_wordOf op).name] at hread
  | comparison hop hpath hvalue hwrapper =>
      obtain ⟨deeper, rfl, -⟩ := exists_succ_of_lt hlevels
      rw [read_written_comparison hop hpath.toWrapperText hvalue hwrapper, hpath.resolve_eq]

theorem DocumentedTerms.sentences {terms : List (Term Expr)} (hterms : DocumentedTerms terms) :
    ∀ term ∈ terms, TermSentences term := fun term hmem =>
  ⟨members_ne_nil (hterms.proper term hmem), fun member hmember =>
    sentence_written (hterms.members term hmem member hmember)⟩

/-- What is written in the documented syntax is read back as it was, when the
depth limit allows its levels: a group by the reader of groups, and any other
tree by the reader of single conditions.  That reader leaves a literal that
stands alone in its quotes, since only arguments and members lose theirs. -/
theorem parse_written (path : String) (maxDepth : Int) :
    (∀ terms : List (Term Expr), DocumentedTerms terms →
      ExprOver.levels (.group terms) ≤ levelsOf maxDepth →
        parseGroup? (String.ofList (written (.group terms))) path maxDepth =
          some (.group terms)) ∧
    (∀ expr : Expr, Documented expr → expr.levels ≤ levelsOf maxDepth →
      parse? (String.ofList (written expr)) path maxDepth =
        some (if expr.isUnparsed then .unparsed (String.ofList (written expr)) else expr)) := by
  constructor
  · intro terms hterms hlevels
    have hlegible := legible_group hterms.ne_nil hterms.sentences
    rw [parseGroup?, plainText?_ofList hlegible.plain hlegible.trimmed, Option.map_some,
      groupOf_written hterms.ne_nil hterms.proper hterms.sentences]
    intro term hterm member hmember
    exact read_written (hterms.members term hterm member hmember)
      (Nat.le_trans (ExprOver.levels_le_levelsTerms hterm hmember) hlevels)
  · intro expr hexpr hlevels
    have hsentence := sentence_written hexpr
    rw [parse?, plainText?_ofList hsentence.plain hsentence.trimmed, Option.map_some]
    split_ifs with hliteral
    · cases hexpr with
      | @literal text htext =>
          rw [written, read_of_not_recognized (not_recognized_literal htext).2]
      | _ => contradiction
    · rw [read_written_whole hexpr (by simpa using hliteral) hlevels]

/-- A group in which commas, parentheses and the words of the grammar stand in
quotes at every depth. -/
def sampleTerms : List (Term Expr) :=
  [.all [.comparison "<=" "/data/a" "x, (y) and z" none, .matching .selected "/data/b" " or"],
    .one (.conditional (.group [.one (.comparison "!=" "/data/n" "(" (some "count"))])
      (.unparsed "a, b or c") (.call "concat" [.unparsed "", .call "uuid" []]))]

theorem documented_sampleTerms : DocumentedTerms sampleTerms where
  ne_nil := by simp [sampleTerms]
  proper := by simp [sampleTerms, ProperTerm]
  members := by
    have hcount : WrapperText "count" := by decide
    have htest : Documented (.comparison "!=" "/data/n" "(" (some "count")) :=
      .comparison .unequal (by decide) (by decide) (by simpa using hcount)
    have hcall : Documented (.call "concat" [.unparsed "", .call "uuid" []]) := by
      refine .call (by decide) ?_
      simpa using ⟨Documented.literal (by decide), Documented.call (by decide) (by simp)⟩
    have hbound : Documented (.comparison "<=" "/data/a" "x, (y) and z" none) :=
      .comparison (.run (by decide) (by simp [Token.isOperatorChar])) (by decide) (by decide)
        (by simp)
    have hselected : Documented (.matching .selected "/data/b" " or") :=
      .matching (by decide) (by decide)
    have hchoice : Documented (.conditional
        (.group [.one (.comparison "!=" "/data/n" "(" (some "count"))])
        (.unparsed "a, b or c") (.call "concat" [.unparsed "", .call "uuid" []])) :=
      .conditional (by simp) (by simp [ProperTerm]) (by simpa [Term.members] using htest)
        (.literal (by decide)) hcall
    simpa [sampleTerms, Term.members] using ⟨⟨hbound, hselected⟩, hchoice⟩

theorem parse_written_sampleTerms :
    DocumentedTerms sampleTerms ∧ ExprOver.levels (.group sampleTerms) ≤ levelsOf 2 ∧
      parseGroup? ("/data/a <= 'x, (y) and z' and selected(/data/b, ' or') or " ++
        "if(count(/data/n) != '(', 'a, b or c', concat('', uuid()))") "/data/x" 2 =
          some (.group sampleTerms) := by
  have hlevels : ExprOver.levels (.group sampleTerms) ≤ levelsOf 2 := by decide
  exact ⟨documented_sampleTerms, hlevels,
    (parse_written "/data/x" 2).1 sampleTerms documented_sampleTerms hlevels⟩

end SurveyForm.Expr
