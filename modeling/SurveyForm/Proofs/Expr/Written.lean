import SurveyForm.Proofs.Expr.Quotes
import SurveyForm.Proofs.Expr.Rules
/-!
Conditions as they are written.  Every tree that the documented syntax can
express has a text, and such a text is a phrase that shows no comma and none of
the words `and` and `or` outside parentheses and quotes.
-/

namespace SurveyForm

namespace ExprOver

variable {α : Type}

mutual

/-- The levels of calls that reading a tree takes; what is kept unparsed takes none. -/
def levels : ExprOver α → Nat
  | .absent => 0
  | .call _ args => levelsAll args + 1
  | .conditional test whenTrue whenFalse =>
      max (levels test) (max (levels whenTrue) (levels whenFalse)) + 1
  | .matching _ _ _ => 1
  | .comparison _ _ _ _ => 1
  | .group terms => levelsTerms terms
  | .unparsed _ => 0

def levelsAll : List (ExprOver α) → Nat
  | [] => 0
  | expr :: rest => max (levels expr) (levelsAll rest)

def levelsTerms : List (Term (ExprOver α)) → Nat
  | [] => 0
  | .one member :: rest => max (levels member) (levelsTerms rest)
  | .all members :: rest => max (levelsAll members) (levelsTerms rest)

end

theorem levels_le_levelsAll {exprs : List (ExprOver α)} {expr : ExprOver α}
    (hmem : expr ∈ exprs) : expr.levels ≤ levelsAll exprs := by
  induction exprs with
  | nil => contradiction
  | cons first rest ih =>
      rw [levelsAll]
      rcases List.mem_cons.mp hmem with rfl | hrest
      · exact Nat.le_max_left _ _
      · exact Nat.le_trans (ih hrest) (Nat.le_max_right _ _)

theorem levels_le_levelsTerms {terms : List (Term (ExprOver α))}
    {term : Term (ExprOver α)} (hterm : term ∈ terms) {member : ExprOver α}
    (hmember : member ∈ term.members) : member.levels ≤ levelsTerms terms := by
  induction terms with
  | nil => contradiction
  | cons first rest ih =>
      rcases List.mem_cons.mp hterm with rfl | hrest
      · cases term with
        | one only =>
            obtain rfl : member = only := by simpa [Term.members] using hmember
            exact Nat.le_max_left _ _
        | all members =>
            exact Nat.le_trans (levels_le_levelsAll hmember) (Nat.le_max_left _ _)
      · cases first <;> exact Nat.le_trans (ih hrest) (Nat.le_max_right _ _)

end ExprOver

namespace Expr

open Token (Phrase Insertable IsName Glue Hides Reads callText inQuotes isComma isWord isOperator
  isQuote isOperatorChar ofText)

/-! ### The documented syntax -/

def wordOf : MatchOp → String
  | .selected => "selected"
  | .regex => "regex"

/-- The operand on the left of a comparison. -/
def leftText (path : String) : Option String → List Char
  | none => path.toList
  | some wrapper => callText wrapper.toList path.toList

mutual

/-- The text of a tree in the documented syntax. -/
def written : Expr → List Char
  | .absent => []
  | .call name args => callText name.toList (", ".toList.intercalate (writtenAll args))
  | .conditional test whenTrue whenFalse =>
      callText "if".toList
        (", ".toList.intercalate [written test, written whenTrue, written whenFalse])
  | .matching op path value =>
      callText (wordOf op).toList
        (", ".toList.intercalate [path.toList, inQuotes value.toList])
  | .comparison op path value wrapper =>
      leftText path wrapper ++ (' ' :: op.toList ++ [' ']) ++ inQuotes value.toList
  | .group terms => " or ".toList.intercalate (writtenTerms terms)
  | .unparsed text => inQuotes text.toList

def writtenAll : List Expr → List (List Char)
  | [] => []
  | expr :: rest => written expr :: writtenAll rest

def writtenTerms : List (Term Expr) → List (List Char)
  | [] => []
  | .one member :: rest => written member :: writtenTerms rest
  | .all members :: rest => " and ".toList.intercalate (writtenAll members) :: writtenTerms rest

end

theorem writtenAll_eq_map (exprs : List Expr) : writtenAll exprs = exprs.map written := by
  induction exprs with
  | nil => rfl
  | cons expr rest ih => simp [writtenAll, ih]

/-- A disjunct is its members with `and` between them, however many there are. -/
def termText (term : Term Expr) : List Char :=
  " and ".toList.intercalate (term.members.map written)

theorem writtenTerms_eq_map (terms : List (Term Expr)) :
    writtenTerms terms = terms.map termText := by
  induction terms with
  | nil => rfl
  | cons term rest ih =>
      cases term with
      | one member => simp [writtenTerms, ih, termText, Term.members]
      | all members => simp [writtenTerms, ih, termText, Term.members, writtenAll_eq_map]

/-- A word that means nothing to the grammar and starts no character reference. -/
structure WordText (text : String) : Prop where
  name : IsName text.toList
  plain : '&' ∉ text.toList

instance (text : String) : Decidable (WordText text) :=
  decidable_of_iff (IsName text.toList ∧ '&' ∉ text.toList)
    ⟨fun htext => ⟨htext.1, htext.2⟩, fun htext => ⟨htext.name, htext.plain⟩⟩

structure PathText (path : String) : Prop extends WordText path where
  absolute : path.toList.head? = some '/'

instance (path : String) : Decidable (PathText path) :=
  decidable_of_iff (WordText path ∧ path.toList.head? = some '/')
    ⟨fun hpath => ⟨hpath.1, hpath.2⟩, fun hpath => ⟨hpath.toWordText, hpath.absolute⟩⟩

structure WrapperText (wrapper : String) : Prop extends WordText wrapper where
  ne_and : wrapper ≠ "and"
  ne_or : wrapper ≠ "or"

instance (wrapper : String) : Decidable (WrapperText wrapper) :=
  decidable_of_iff (WordText wrapper ∧ wrapper ≠ "and" ∧ wrapper ≠ "or")
    ⟨fun hwrapper => ⟨hwrapper.1, hwrapper.2.1, hwrapper.2.2⟩,
      fun hwrapper => ⟨hwrapper.toWordText, hwrapper.ne_and, hwrapper.ne_or⟩⟩

/-- The operators of comparisons. -/
inductive OperatorText : String → Prop
  | unequal : OperatorText "!="
  | run {op : String} (hne : op.toList ≠ [])
      (hchars : ∀ c ∈ op.toList, isOperatorChar c = true) : OperatorText op

structure ValueText (value : String) : Prop where
  chars : ∀ c ∈ value.toList, isQuote c = false ∧ c ≠ '&'
  last : ∀ c ∈ value.toList.getLast?, Text.isBlank c = false

instance (value : String) : Decidable (ValueText value) :=
  decidable_of_iff ((value.toList.all fun c => !isQuote c && c != '&') = true ∧
      (value.toList.getLast?.all fun c => !Text.isBlank c) = true)
    ⟨fun hvalue => ⟨by simpa using hvalue.1, by simpa [Option.all_eq_true] using hvalue.2⟩,
      fun hvalue => ⟨by simpa using hvalue.chars, by simpa [Option.all_eq_true] using hvalue.last⟩⟩

structure LiteralText (text : String) : Prop where
  chars : ∀ c ∈ text.toList, c ∉ ['\'', '"', '(', ')', '<', '>', '=', '!', '&']

instance (text : String) : Decidable (LiteralText text) :=
  decidable_of_iff ((text.toList.all fun c =>
      c ∉ ['\'', '"', '(', ')', '<', '>', '=', '!', '&']) = true)
    ⟨fun htext => ⟨by simpa using htext⟩, fun htext => by simpa using htext.chars⟩

/-- A disjunct is written with `and` only if it has at least two members. -/
def ProperTerm : Term Expr → Prop
  | .one _ => True
  | .all members => 2 ≤ members.length

/-- The trees, other than groups, that the documented syntax can express. -/
inductive Documented : Expr → Prop
  | literal {text : String} (htext : LiteralText text) : Documented (.unparsed text)
  | call {name : String} {args : List Expr} (hname : name ∈ valueFunctions)
      (hargs : ∀ arg ∈ args, Documented arg) : Documented (.call name args)
  | conditional {terms : List (Term Expr)} {whenTrue whenFalse : Expr} (hne : terms ≠ [])
      (hproper : ∀ term ∈ terms, ProperTerm term)
      (hmembers : ∀ term ∈ terms, ∀ member ∈ term.members, Documented member)
      (htrue : Documented whenTrue) (hfalse : Documented whenFalse) :
      Documented (.conditional (.group terms) whenTrue whenFalse)
  | matching {op : MatchOp} {path value : String} (hpath : PathText path)
      (hvalue : ValueText value) : Documented (.matching op path value)
  | comparison {op path value : String} {wrapper : Option String} (hop : OperatorText op)
      (hpath : PathText path) (hvalue : ValueText value)
      (hwrapper : ∀ name ∈ wrapper, WrapperText name) :
      Documented (.comparison op path value wrapper)

/-- The disjuncts of a group that the documented syntax can express. -/
structure DocumentedTerms (terms : List (Term Expr)) : Prop where
  ne_nil : terms ≠ []
  proper : ∀ term ∈ terms, ProperTerm term
  members : ∀ term ∈ terms, ∀ member ∈ term.members, Documented member

/-! ### Texts that keep together -/

/-- What cuts an argument list or a group. -/
def isSeparator (token : Token) : Bool :=
  token.isComma || token.isWord "and" || token.isWord "or"

/-- A phrase that is read as it is written and does not begin in parentheses. -/
structure Legible (text : List Char) : Prop extends Phrase text where
  opening : text.head? ≠ some '('
  plain : '&' ∉ text

/-- A text that can be an argument of a call and a member of a group. -/
structure Sentence (text : List Char) : Prop extends Legible text where
  separators : Hides isSeparator 0 (ofText text)

theorem Sentence.hides {text : List Char} (htext : Sentence text) {separates : Token → Bool}
    (hseparates : ∀ token, separates token = true → isSeparator token = true) :
    Hides separates 0 (ofText text) :=
  htext.separators.imp hseparates

theorem isSeparator_of_isComma (token : Token) (hcomma : token.isComma = true) :
    isSeparator token = true := by
  simp [isSeparator, hcomma]

theorem isSeparator_of_and (token : Token) (hword : token.isWord "and" = true) :
    isSeparator token = true := by
  simp [isSeparator, hword]

theorem isSeparator_of_or (token : Token) (hword : token.isWord "or" = true) :
    isSeparator token = true := by
  simp [isSeparator, hword]

theorem isSeparator_word {text : String} (hand : text ≠ "and") (hor : text ≠ "or") :
    isSeparator ⟨.word, text.toList⟩ = false := by
  have hne : ∀ word : String, text ≠ word → text.toList ≠ word.toList := fun word hword heq =>
    hword (String.toList_inj.mp heq)
  simp only [isSeparator, Token.isComma, Token.isWord, hne _ hand, hne _ hor, Bool.or_eq_false_iff,
    decide_false, Bool.and_false, and_true]
  rfl

theorem mem_intercalate_imp {glue : List Char} {texts : List (List Char)} {c : Char}
    (hmem : c ∈ glue.intercalate texts) : c ∈ glue ∨ ∃ text ∈ texts, c ∈ text := by
  induction texts with
  | nil => simp at hmem
  | cons text rest ih =>
      cases rest with
      | nil =>
          rw [List.intercalate_singleton] at hmem
          exact .inr ⟨text, List.mem_cons_self, hmem⟩
      | cons next rest =>
          rw [List.intercalate_cons_cons, List.mem_append, List.mem_append] at hmem
          rcases hmem with (htext | hglue) | hrest
          · exact .inr ⟨text, List.mem_cons_self, htext⟩
          · exact .inl hglue
          · rcases ih hrest with hglue | ⟨other, hother, hc⟩
            · exact .inl hglue
            · exact .inr ⟨other, List.mem_cons_of_mem text hother, hc⟩

theorem plain_intercalate {glue : List Char} {texts : List (List Char)} (hglue : '&' ∉ glue)
    (htexts : ∀ text ∈ texts, '&' ∉ text) : '&' ∉ glue.intercalate texts := by
  intro hmem
  rcases mem_intercalate_imp hmem with hc | ⟨text, htext, hc⟩
  · exact hglue hc
  · exact htexts text htext hc

theorem opening_intercalate {glue : List Char} {texts : List (List Char)}
    (hne : ∀ text ∈ texts, text ≠ []) (hopening : ∀ text ∈ texts, text.head? ≠ some '(') :
    (glue.intercalate texts).head? ≠ some '(' := by
  cases texts with
  | nil => simp
  | cons text rest =>
      have hhead := hopening text List.mem_cons_self
      cases rest with
      | nil => rwa [List.intercalate_singleton]
      | cons next rest =>
          rwa [List.intercalate_cons_cons, List.append_assoc,
            List.head?_append_of_ne_nil _ (hne text List.mem_cons_self)]

theorem legible_intercalate {separates : Token → Bool} {glue : List Char}
    (hglue : Glue separates glue) (hplain : '&' ∉ glue) {texts : List (List Char)}
    (hne : texts ≠ []) (htexts : ∀ text ∈ texts, Legible text) :
    Legible (glue.intercalate texts) where
  toPhrase := Token.phrase_intercalate hglue hne fun text hmem => (htexts text hmem).toPhrase
  opening := opening_intercalate (fun text hmem => (htexts text hmem).ne_nil)
    fun text hmem => (htexts text hmem).opening
  plain := plain_intercalate hplain fun text hmem => (htexts text hmem).plain

/-- The names of the calls that the grammar knows are words like any wrapper. -/
theorem wrapperText_valueFunction {name : String} (hname : name ∈ valueFunctions) :
    WrapperText name := by
  simp only [valueFunctions, List.mem_cons, List.not_mem_nil, or_false] at hname
  rcases hname with rfl | rfl <;> decide

theorem wrapperText_if : WrapperText "if" := by
  decide

theorem wrapperText_wordOf (op : MatchOp) : WrapperText (wordOf op) := by
  cases op <;> decide

theorem opening_of_name {name : List Char} (hname : IsName name) (rest : List Char) :
    (name ++ rest).head? ≠ some '(' := by
  rw [List.head?_append_of_ne_nil _ hname.ne_nil]
  intro hhead
  have hchar := hname.chars '(' (List.mem_of_mem_head? hhead)
  revert hchar
  decide

theorem sentence_inQuotes {text : List Char} (hquote : '\'' ∉ text) (hplain : '&' ∉ text) :
    Sentence (inQuotes text) where
  toPhrase := Token.phrase_inQuotes hquote
  separators := by
    rw [Token.ofText_inQuotes hquote]
    exact Token.hides_of_none (by simp [isSeparator, Token.isComma, Token.isWord])
  opening := by simp [inQuotes]
  plain := by simpa [inQuotes] using hplain

theorem sentence_name {text : String} (htext : WordText text)
    (hseparator : isSeparator ⟨.word, text.toList⟩ = false) : Sentence text.toList where
  toPhrase := Token.phrase_name htext.name
  separators := by
    rw [Token.ofText_name htext.name]
    exact Token.hides_of_none (by simpa using hseparator)
  opening := by simpa using opening_of_name htext.name []
  plain := htext.plain

theorem sentence_word {word : String} (hword : WrapperText word) : Sentence word.toList :=
  sentence_name hword.toWordText (isSeparator_word hword.ne_and hword.ne_or)

/-- A word that starts with another letter does not stand between the members of a group. -/
theorem WordText.wrapperText {text : String} (htext : WordText text) {first : Char}
    (hhead : text.toList.head? = some first) (hfirst : first ≠ 'a' ∧ first ≠ 'o') :
    WrapperText text where
  toWordText := htext
  ne_and := by
    rintro rfl
    exact hfirst.1 (Option.some.inj hhead).symm
  ne_or := by
    rintro rfl
    exact hfirst.2 (Option.some.inj hhead).symm

theorem PathText.toWrapperText {path : String} (hpath : PathText path) : WrapperText path :=
  hpath.toWordText.wrapperText hpath.absolute (by decide)

theorem sentence_callText {name : String} {inner : List Char} (hname : WrapperText name)
    (hinner : Insertable inner) (hplain : '&' ∉ inner) :
    Sentence (callText name.toList inner) where
  toPhrase := Token.phrase_callText hname.name hinner
  separators := Token.hides_callText hname.name hinner
    (isSeparator_word hname.ne_and hname.ne_or) rfl
  opening := by
    rw [callText, List.append_assoc]
    exact opening_of_name hname.name _
  plain := by
    have hword := hname.plain
    simp [callText, hword, hplain]

theorem insertable_arguments {texts : List (List Char)}
    (htexts : ∀ text ∈ texts, Legible text) : Insertable (", ".toList.intercalate texts) := by
  cases texts with
  | nil => exact Token.insertable_nil
  | cons text rest =>
      exact (Token.phrase_intercalate Token.glue_comma (by simp) fun other hmem =>
        (htexts other hmem).toPhrase).insertable

/-- A call whose arguments keep together is a sentence. -/
theorem sentence_call {name : String} {texts : List (List Char)} (hname : WrapperText name)
    (htexts : ∀ text ∈ texts, Legible text) :
    Sentence (callText name.toList (", ".toList.intercalate texts)) :=
  sentence_callText hname (insertable_arguments htexts)
    (plain_intercalate (by decide) fun text hmem => (htexts text hmem).plain)

theorem sentence_leftText {reference : String} {wrapper : Option String}
    (hreference : WrapperText reference) (hwrapper : ∀ name ∈ wrapper, WrapperText name) :
    Sentence (leftText reference wrapper) := by
  cases wrapper with
  | none => exact sentence_word hreference
  | some name =>
      exact sentence_callText (hwrapper name rfl) (sentence_word hreference).insertable
        hreference.plain

theorem reads_operator {op : String} (hop : OperatorText op) (after : List Char) :
    Reads ⟨.operator, op.toList⟩ (' ' :: after) := by
  cases hop with
  | unequal => exact .unequal
  | run hne hchars =>
      obtain ⟨first, rest, htext⟩ := List.exists_cons_of_ne_nil hne
      rw [htext] at hchars ⊢
      refine .run .operators (hchars first List.mem_cons_self)
        (fun c hc => hchars c (List.mem_cons_of_mem first hc)) ?_
      intro c hc
      obtain rfl : ' ' = c := by simpa using hc
      decide

theorem glue_operator {op : String} (hop : OperatorText op) :
    Glue isOperator (' ' :: op.toList ++ [' ']) :=
  Token.glue_spaced (reads_operator hop) rfl rfl rfl

theorem ofText_operator {op : String} (hop : OperatorText op) :
    ofText (' ' :: op.toList ++ [' ']) =
      [⟨.blank, [' ']⟩, ⟨.operator, op.toList⟩, ⟨.blank, [' ']⟩] :=
  Token.ofText_spaced (reads_operator hop) rfl

theorem OperatorText.plain {op : String} (hop : OperatorText op) : '&' ∉ op.toList := by
  cases hop with
  | unequal => decide
  | run _ hchars =>
      intro hmem
      have hchar := hchars '&' hmem
      revert hchar
      decide

theorem ValueText.quote_not_mem {value : String} (hvalue : ValueText value) :
    '\'' ∉ value.toList := by
  intro hmem
  have hquote := (hvalue.chars '\'' hmem).1
  revert hquote
  decide

theorem ValueText.plain {value : String} (hvalue : ValueText value) : '&' ∉ value.toList :=
  fun hmem => (hvalue.chars '&' hmem).2 rfl

theorem LiteralText.quote_not_mem {text : String} (htext : LiteralText text) :
    '\'' ∉ text.toList :=
  fun hmem => htext.chars '\'' hmem (by simp)

theorem LiteralText.plain {text : String} (htext : LiteralText text) : '&' ∉ text.toList :=
  fun hmem => htext.chars '&' hmem (by simp)

theorem sentence_matching {op : MatchOp} {reference value : String}
    (hreference : WrapperText reference) (hvalue : ValueText value) :
    Sentence (written (.matching op reference value)) := by
  have hquoted := sentence_inQuotes hvalue.quote_not_mem hvalue.plain
  rw [written]
  refine sentence_call (wrapperText_wordOf op) ?_
  simpa using ⟨(sentence_word hreference).toLegible, hquoted.toLegible⟩

theorem sentence_comparison {op reference value : String} {wrapper : Option String}
    (hop : OperatorText op) (hreference : WrapperText reference) (hvalue : ValueText value)
    (hwrapper : ∀ name ∈ wrapper, WrapperText name) :
    Sentence (written (.comparison op reference value wrapper)) := by
  have hleft := sentence_leftText hreference hwrapper
  have hright := sentence_inQuotes hvalue.quote_not_mem hvalue.plain
  have hglue := glue_operator hop
  rw [written]
  refine ⟨⟨hleft.toPhrase.glued hglue hright.toPhrase, ?_, ?_⟩, ?_⟩
  · rw [List.append_assoc, List.head?_append_of_ne_nil _ hleft.ne_nil]
    exact hleft.opening
  · simp [hop.plain, hleft.plain, hright.plain]
  · rw [hleft.ofText_glued hglue hright.trimmed.head, ofText_operator hop,
      Token.hides_append_iff, Token.hides_append_iff, Token.level_append, hleft.level_eq_zero]
    refine ⟨⟨hleft.separators, Token.hides_of_none ?_⟩, hright.separators⟩
    simp [isSeparator, Token.isComma, Token.isWord]

/-- The members of a disjunct, when there is one in it and all are sentences. -/
structure TermSentences (term : Term Expr) : Prop where
  ne_nil : term.members ≠ []
  members : ∀ member ∈ term.members, Sentence (written member)

theorem members_ne_nil {term : Term Expr} (hproper : ProperTerm term) : term.members ≠ [] := by
  cases term with
  | one member => simp [Term.members]
  | all members =>
      rintro rfl
      simp [ProperTerm] at hproper

theorem isName_and : IsName "and".toList := by
  decide

theorem isName_or : IsName "or".toList := by
  decide

theorem glue_and : Glue (isWord "and") " and ".toList :=
  Token.glue_word isName_and

theorem glue_or : Glue (isWord "or") " or ".toList :=
  Token.glue_word isName_or

theorem TermSentences.legible {term : Term Expr} (hterm : TermSentences term) :
    Legible (termText term) := by
  refine legible_intercalate glue_and (by decide) (by simpa using hterm.ne_nil) ?_
  simpa using fun member hmem => (hterm.members member hmem).toLegible

/-- Between its members, a disjunct shows nothing but the word `and`. -/
theorem TermSentences.hides {term : Term Expr} (hterm : TermSentences term)
    {separates : Token → Bool}
    (hseparates : ∀ token, separates token = true → isSeparator token = true)
    (hand : separates ⟨.word, "and".toList⟩ = false) :
    Hides separates 0 (ofText (termText term)) := by
  refine Token.hides_intercalate glue_and ?_ ?_
  · have htokens := Token.ofText_spaced (Token.reads_name isName_and) rfl
    intro token hmem
    by_contra htoken
    have hseparator := hseparates token (Bool.not_eq_false _ ▸ htoken)
    change token ∈ ofText (' ' :: "and".toList ++ [' ']) at hmem
    rw [htokens] at hmem
    simp only [List.mem_cons, List.not_mem_nil, or_false] at hmem
    rcases hmem with rfl | rfl | rfl
    · simp [isSeparator, Token.isComma, Token.isWord] at hseparator
    · exact htoken hand
    · simp [isSeparator, Token.isComma, Token.isWord] at hseparator
  · simpa using fun member hmem =>
      ⟨(hterm.members member hmem).toPhrase, (hterm.members member hmem).hides hseparates⟩

theorem legible_group {terms : List (Term Expr)} (hne : terms ≠ [])
    (hterms : ∀ term ∈ terms, TermSentences term) : Legible (written (.group terms)) := by
  rw [written, writtenTerms_eq_map]
  refine legible_intercalate glue_or (by decide) (by simpa using hne) ?_
  simpa using fun term hmem => (hterms term hmem).legible

theorem hides_isComma_group {terms : List (Term Expr)}
    (hterms : ∀ term ∈ terms, TermSentences term) :
    Hides isComma 0 (ofText (written (.group terms))) := by
  rw [written, writtenTerms_eq_map]
  refine Token.hides_intercalate glue_or ?_ ?_
  · have htokens := Token.ofText_spaced (Token.reads_name isName_or) rfl
    change ∀ token ∈ ofText (' ' :: "or".toList ++ [' ']), isComma token = false
    rw [htokens]
    simp [Token.isComma]
  · simpa using fun term hmem => ⟨(hterms term hmem).legible.toPhrase,
      (hterms term hmem).hides isSeparator_of_isComma rfl⟩

/-- Every tree that the syntax can express, groups apart, is written as a sentence. -/
theorem sentence_written {expr : Expr} (hexpr : Documented expr) : Sentence (written expr) := by
  induction hexpr with
  | literal htext => exact sentence_inQuotes htext.quote_not_mem htext.plain
  | call hname _ ih =>
      rw [written, writtenAll_eq_map]
      refine sentence_call (wrapperText_valueFunction hname) ?_
      simpa using fun arg hmem => (ih arg hmem).toLegible
  | conditional hne hproper _ _ _ ihmembers ihtrue ihfalse =>
      have htest := legible_group hne fun term hterm =>
        ⟨members_ne_nil (hproper term hterm), ihmembers term hterm⟩
      have hparts := sentence_call wrapperText_if
        (show ∀ text ∈ [_, _, _], Legible text by
          simpa using ⟨htest, ihtrue.toLegible, ihfalse.toLegible⟩)
      rwa [written]
  | matching hpath hvalue => exact sentence_matching hpath.toWrapperText hvalue
  | comparison hop hpath hvalue hwrapper =>
      exact sentence_comparison hop hpath.toWrapperText hvalue hwrapper

end Expr

end SurveyForm
