import Mathlib
import SurveyForm.Proofs.Expr.Quotes
import SurveyForm.Proofs.Expr.Rules
/-!
A single term as a condition and as a group.  The reader of groups takes a
quote off each end of the term before it is read, the reader of conditions does
not, and so the two agree only where no operand minds.
-/

namespace SurveyForm.Expr

open Token (Lexed Hides source split isWord isQuote isOperatorChar ofText textOf call? unwrap
  atOperator?)

variable {path : String} {levels : Nat} {deeper : List Char → Expr} {text : List Char}

/-! ### The group of a single term -/

/-- A text that some rule reads is not enclosed in parentheses. -/
theorem unwrap_of_recognized (htext : Text.Trimmed Text.isBlank text)
    (hrecognized : Recognized (ofText text)) : unwrap (ofText text) = ofText text := by
  have htrim := Token.trim_ofText htext
  rw [Token.unwrap_eq_trim, htrim]
  intro first rest hfirst hopening
  have hno : ∀ {name inner}, call? (ofText text) ≠ some (name, inner) := by
    intro name inner hcall
    obtain ⟨word, _, _, hcalls, hword, -⟩ := Token.call?_eq_some_iff.mp hcall
    rw [hfirst, List.cons_append] at hcalls
    obtain ⟨rfl, -⟩ := List.cons_eq_cons.mp hcalls
    rw [hword] at hopening
    contradiction
  cases hrecognized with
  | value hcall => exact absurd hcall hno
  | conditional hcall => exact absurd hcall hno
  | matching hcall => exact absurd hcall hno
  | comparison hoperator =>
      by_contra hends
      have hhides := Token.hides_of_endsEnclosure hopening (Bool.not_eq_false _ ▸ hends)
        (show Token.isOperator first = false by simp [Token.isOperator, hopening])
        (fun token hkind => by simp [Token.isOperator, hkind])
      rw [← hfirst, htrim, ← Token.atOperator?_eq_none_iff, hoperator] at hhides
      contradiction

theorem groupOf_single (htext : Text.Trimmed Text.isBlank text)
    (hrecognized : Recognized (ofText text)) (hand : Hides (isWord "and") 0 (ofText text))
    (hor : Hides (isWord "or") 0 (ofText text)) :
    groupOf deeper text = .group [.one (deeper (stripQuotes text))] := by
  have hterm : disjunctOf deeper (ofText text) = .one (deeper (stripQuotes text)) := by
    rw [disjunctOf, Token.split_of_hides hand, List.map_singleton, operand,
      Token.source_ofText htext]
  rw [groupOf_eq, unwrap_of_recognized htext hrecognized, Token.split_of_hides hor,
    List.map_singleton, hterm]

/-! ### When the quotes matter -/

/-- The quotes at the ends of a text mean nothing to its operands: it begins with
none, and if it ends with one, that is not all of the value, which is the same
with nothing more to trim or to take off behind it. -/
structure QuoteSafe (text : List Char) : Prop where
  head : ∀ c ∈ text.head?, isQuote c = false
  last : ∀ left operator right, atOperator? 0 (ofText text) = some (left, operator, right) →
    (∃ c ∈ text.getLast?, isQuote c = true) → 2 ≤ (source right).length ∧
      ∀ c ∈ (operand right).getLast?, Text.isBlank c = false ∧ isQuote c = false

/-- A call ends in a parenthesis and begins with its name. -/
theorem quoteSafe_of_call {inner : List Token} {name : String}
    (htext : Text.Trimmed Text.isBlank text) (hcall : call? (ofText text) = some (name, inner))
    (hname : ∀ c ∈ name.toList.head?, isQuote c = false) :
    QuoteSafe text ∧ stripQuotes text = text := by
  obtain ⟨word, opening, closing, htrim, -, -, hkind, hword, -⟩ :=
    Token.call?_eq_some_iff.mp hcall
  rw [Token.trim_ofText htext, Token.ofText_eq_iff] at htrim
  obtain ⟨hcovers, hlexed⟩ := htrim
  have hhead : ∀ c ∈ text.head?, isQuote c = false := by
    rw [hword, String.toList_ofList] at hname
    rw [← hcovers, List.cons_append, Token.textOf_cons,
      List.head?_append_of_ne_nil _ hlexed.1.text_ne_nil]
    exact hname
  have hlast : ∀ c ∈ text.getLast?, isQuote c = false := by
    have hclosing := hlexed.right.1.text_of_fixed (congrArg Token.fixedChar? hkind)
    have hend : textOf [closing] = [')'] := by simp [hclosing]
    rw [← hcovers, Token.textOf_append, hend, List.getLast?_append_of_ne_nil _ (by simp)]
    simp [isQuote]
  refine ⟨⟨hhead, ?_⟩, stripQuotes_eq_self hhead hlast⟩
  intro left operator right hoperator
  rw [Token.atOperator?_eq_none_of_call? hcall] at hoperator
  contradiction

/-! ### A quote at the beginning -/

theorem length_resolveChars_le (base raw : List Char) :
    (Path.resolveChars base raw).length ≤ base.length + 1 + raw.length := by
  have hparent : (Path.parent base).length ≤ base.length := by
    unfold Path.parent
    split_ifs
    · have hsuffix := (List.dropWhile_suffix (· != '/') (l := base.reverse)).length_le
      simp only [List.length_reverse, List.length_tail] at hsuffix ⊢
      omega
    · simp
  unfold Path.resolveChars
  split
  · simp
  · simp only [List.length_append, List.length_cons]
    omega
  · unfold Path.below Path.sameLevelName
    split <;> split_ifs <;> simp <;> omega

theorem resolveChars_quote {quote : Char} (hquote : isQuote quote = true)
    (base rest : List Char) :
    Path.resolveChars base (quote :: rest) = base ++ '/' :: quote :: rest := by
  simp only [isQuote, Bool.or_eq_true, decide_eq_true_eq] at hquote
  rcases hquote with rfl | rfl <;> rfl

/-- Taking a quote off the front makes an operand that ends no later shorter. -/
theorem length_trim_lt {quote : Char} (hquote : isQuote quote = true) (front back : List Char) :
    (Text.trim front).length < (Text.trim (quote :: front ++ back)).length := by
  have hblank : Text.isBlank quote = false := Token.isBlank_eq_false_of_special (.inl hquote)
  have hwhole : Text.trim (quote :: front ++ back) =
      quote :: Text.dropTrailing Text.isBlank (front ++ back) :=
    Text.trimList_kept hblank [] (front ++ back)
  have hstretch := Text.length_dropTrailing_le_append Text.isBlank
    (front.takeWhile Text.isBlank) (front.dropWhile Text.isBlank) back
  rw [List.takeWhile_append_dropWhile] at hstretch
  rw [hwhole, List.length_cons]
  exact Nat.lt_succ_of_le hstretch

/-- What follows an operator that stands further back is a shorter value. -/
theorem length_operand_lt {right right' : List Token} {front back : List Char} {last : Char}
    (hright : Lexed right) (hright' : Lexed right') (hlast : isOperatorChar last = true)
    (htext : textOf right = front ++ last :: back) (hne : back ≠ [])
    (hend : ∀ c ∈ back.getLast?, Text.isBlank c = false)
    (hback : dropLastQuote back = textOf right') :
    (operand right').length < (operand right).length := by
  have hblank : Text.isBlank last = false :=
    Token.isBlank_eq_false_of_special (.inr (.inl hlast))
  have hquote : isQuote last = false := by
    simp only [isOperatorChar, Bool.or_eq_true, decide_eq_true_eq] at hlast
    rcases hlast with (rfl | rfl) | rfl <;> decide
  have hsource : source right = front.dropWhile Text.isBlank ++ last :: back := by
    rw [Token.source_eq_trim hright, htext, Text.trim, Text.trimList_kept hblank,
      Text.dropTrailing_eq_self hend]
  have hkept : ∃ kept, dropFirstQuote (source right) = kept ++ [last] ++ back := by
    rw [hsource]
    by_cases hnil : front.dropWhile Text.isBlank = []
    · refine ⟨[], ?_⟩
      rw [hnil, dropFirstQuote_eq_self (by simpa using hquote)]
      rfl
    · refine ⟨dropFirstQuote (front.dropWhile Text.isBlank), ?_⟩
      rw [dropFirstQuote_append hnil]
      simp
  obtain ⟨kept, hkept⟩ := hkept
  have hvalue : operand right = kept ++ [last] ++ textOf right' := by
    rw [operand, stripQuotes_eq, hkept, dropLastQuote_append_of_ne_nil _ hne, hback]
  have hshort : (operand right').length ≤ (textOf right').length := by
    refine Nat.le_trans (length_stripQuotes_le (source right')) ?_
    rw [Token.source_eq_trim hright']
    exact Text.length_trimList_le Text.isBlank _
  rw [hvalue]
  simp only [List.length_append, List.length_singleton]
  omega

/-- A word that begins with a quote is that quote, and nothing after it closes it. -/
theorem word_of_quote {token : Token} {after rest : List Char} {quote : Char}
    (hreads : Token.Reads token after) (hquote : isQuote quote = true)
    (hkind : token.kind = .word) (htext : token.text ++ after = quote :: rest) :
    token.text = [quote] ∧ quote ∉ rest := by
  cases hreads with
  | unclosed _ hafter =>
      obtain ⟨rfl, rfl⟩ := List.cons_eq_cons.mp htext
      exact ⟨rfl, hafter⟩
  | exclamation =>
      obtain ⟨rfl, -⟩ := List.cons_eq_cons.mp htext
      exact absurd hquote (by decide)
  | run hrun hfirst =>
      obtain ⟨rfl, -⟩ := List.cons_eq_cons.mp htext
      cases hrun with
      | words => simp [Token.isWordChar, hquote] at hfirst
      | operators => contradiction
      | blanks => contradiction
  | _ => contradiction

/-- A call whose name begins with a quote has an unclosed one as its name. -/
theorem name_of_quote {tokens others inner : List Token} {name : String} {quote : Char}
    {rest : List Char} (hquote : isQuote quote = true) (hlexed : Lexed (tokens ++ others))
    (htext : textOf (tokens ++ others) = quote :: rest)
    (hcall : call? tokens = some (name, inner)) :
    name.toList = [quote] ∧ quote ∉ rest := by
  obtain ⟨word, _, _, htrim, hword, -, -, hname, -⟩ := Token.call?_eq_some_iff.mp hcall
  obtain ⟨before, after, htokens, hblanks⟩ := Token.trim_decomposition tokens
  rw [htrim] at htokens
  rw [hname, String.toList_ofList]
  rw [htokens] at hlexed htext
  cases before with
  | nil => exact word_of_quote hlexed.1 hquote hword htext
  | cons blank before =>
      obtain ⟨first, more, hfirst⟩ := List.exists_cons_of_ne_nil hlexed.1.text_ne_nil
      obtain rfl : first = quote := by
        simpa [hfirst] using congrArg List.head? htext
      have hblank := hlexed.1.isBlank_of_mem (hblanks blank (by simp))
        (show first ∈ blank.text by simp [hfirst])
      rw [Token.isBlank_eq_false_of_special (.inl hquote)] at hblank
      contradiction

theorem name_subset_of_call? {tokens inner : List Token} {name : String}
    (hcall : call? tokens = some (name, inner)) : name.toList ⊆ textOf tokens := by
  obtain ⟨word, _, _, htrim, -, -, -, hname, -⟩ := Token.call?_eq_some_iff.mp hcall
  obtain ⟨before, after, htokens, -⟩ := Token.trim_decomposition tokens
  rw [hname, String.toList_ofList, htokens, htrim]
  intro c hc
  simp [hc]

theorem exists_call_of_leftOperand {tokens : List Token} {name : String}
    (hwrapper : (leftOperand tokens).1 = some name) :
    ∃ inner, call? tokens = some (name, inner) := by
  unfold leftOperand at hwrapper
  split at hwrapper
  · rename_i other inner hcall
    split_ifs at hwrapper
    obtain rfl : other = name := Option.some.inj hwrapper
    exact ⟨inner, hcall⟩
  · contradiction

theorem leftOperand_of_none {tokens : List Token} (hnone : (leftOperand tokens).1 = none) :
    (leftOperand tokens).2 = source tokens := by
  unfold leftOperand at hnone ⊢
  split
  · split_ifs
    · rfl
    · rename_i hcall hinner
      simp [hcall, hinner] at hnone
  · rfl

theorem textOf_ne_nil {tokens : List Token} (hlexed : Lexed tokens)
    (hsource : source tokens ≠ []) : textOf tokens ≠ [] := by
  intro hnil
  rw [Token.source_eq_trim hlexed, hnil] at hsource
  exact hsource rfl

theorem source_of_quote {tokens others : List Token} {quote : Char} {rest : List Char}
    (hquote : isQuote quote = true) (hlexed : Lexed (tokens ++ others))
    (htext : textOf (tokens ++ others) = quote :: rest) (hsource : source tokens ≠ []) :
    ∃ reference, source tokens = quote :: reference := by
  obtain ⟨first, more, hfirst⟩ :=
    List.exists_cons_of_ne_nil (textOf_ne_nil hlexed.left hsource)
  obtain rfl : first = quote := by
    simpa [hfirst] using congrArg List.head? htext
  refine ⟨Text.dropTrailing Text.isBlank more, ?_⟩
  rw [Token.source_eq_trim hlexed.left, hfirst]
  exact Text.trimList_kept (Token.isBlank_eq_false_of_special (.inl hquote)) [] more

/-- A wrapper that begins with a quote is lost with that quote. -/
theorem leftOperand_eq_none {left others left' : List Token} {quote : Char}
    {rest : List Char} (hquote : isQuote quote = true) (hlexed : Lexed (left ++ others))
    (htext : textOf (left ++ others) = quote :: rest) (hsubset : textOf left' ⊆ rest)
    (hsame : (leftOperand left).1 = (leftOperand left').1) : (leftOperand left).1 = none := by
  cases hwrapper : (leftOperand left).1 with
  | none => rfl
  | some name =>
      obtain ⟨inner, hcall⟩ := exists_call_of_leftOperand hwrapper
      obtain ⟨inner', hcall'⟩ := exists_call_of_leftOperand (hsame.symm.trans hwrapper)
      obtain ⟨hname, hunclosed⟩ := name_of_quote hquote hlexed htext hcall
      refine absurd (hsubset (name_subset_of_call? hcall' ?_)) hunclosed
      simp [hname]

/-- A reference that begins with a quote is below the base, and nothing shorter
resolves to the same path. -/
theorem length_le_of_resolve_eq {quote : Char} {reference raw : List Char}
    (hquote : isQuote quote = true) {base : String}
    (hsame : Path.resolve (String.ofList (quote :: reference)) base =
      Path.resolve (String.ofList raw) base) : (quote :: reference).length ≤ raw.length := by
  have hchars := congrArg (fun path => path.toList.length) hsame
  simp only [Path.resolve, String.toList_ofList, resolveChars_quote hquote,
    List.length_append, List.length_cons] at hchars
  have hbound := length_resolveChars_le base.toList raw
  simp only [List.length_cons]
  omega

theorem exists_after_operator {op front more right back : List Char} {last : Char}
    (hop : op = front ++ [last]) (hmore : more ≠ [])
    (htext : op ++ right = more ++ (op ++ back)) : ∃ begin, right = begin ++ last :: back := by
  have hparts : op ++ right = (more ++ front) ++ last :: back := by
    rw [htext, hop]
    simp
  rcases List.append_eq_append_iff.mp hparts with ⟨begin, -, hright⟩ | ⟨excess, hexcess, hback⟩
  · exact ⟨begin, hright⟩
  · have hlength := congrArg List.length hexcess
    have hpositive := List.length_pos_iff.mpr hmore
    rw [hop] at hlength
    simp only [List.length_append, List.length_singleton] at hlength
    obtain rfl : excess = [] := List.length_eq_zero_iff.mp (by omega)
    exact ⟨[], hback.symm⟩

/-- Read without its first quote, a comparison that begins with one is another:
its operator stands where it stood or earlier, and the path is shorter, or it
stands further back, and the value is. -/
theorem read_stripQuotes_ne {quote : Char} {rest : List Char} (hquote : isQuote quote = true)
    (htrimmed : Text.Trimmed Text.isBlank (quote :: rest)) {left right : List Token}
    {operator : Token}
    (hoperator : atOperator? 0 (ofText (quote :: rest)) = some (left, operator, right))
    (hfilled : source left ≠ [] ∧ source right ≠ []) :
    read path (levels + 1) (stripQuotes (quote :: rest)) ≠
      read path (levels + 1) (quote :: rest) := by
  intro hsame
  rw [read_of_operator hoperator hfilled] at hsame
  obtain ⟨left', operator', right', hoperator', -, hfilled', hop, hpath, hvalue, hwrapper⟩ :=
    read_eq_comparison hsame
  rw [stripQuotes_eq, dropFirstQuote_cons hquote] at hoperator'
  obtain ⟨tail, hrest, -⟩ := dropLastQuote_decomposition rest
  obtain ⟨htokens, hkind, -, -⟩ := Token.atOperator?_eq_some_iff.mp hoperator
  obtain ⟨htokens', -, -, -⟩ := Token.atOperator?_eq_some_iff.mp hoperator'
  obtain ⟨hcovers, hlexed⟩ := Token.ofText_eq_iff.mp htokens
  obtain ⟨hcovers', hlexed'⟩ := Token.ofText_eq_iff.mp htokens'
  have hsameOp : operator.text = operator'.text := by
    simpa using congrArg String.toList hop
  have hstripped : textOf left' ++ (operator.text ++ textOf right') = dropLastQuote rest := by
    rw [hsameOp, ← hcovers', Token.textOf_append, Token.textOf_cons]
  -- The two readings of the same characters, from the first quote on.
  have hwhole : textOf left ++ (operator.text ++ textOf right) =
      (quote :: textOf left') ++ (operator.text ++ (textOf right' ++ tail)) := by
    rw [← Token.textOf_cons, ← Token.textOf_append, hcovers, hrest, ← hstripped]
    simp
  have hsubset : textOf left' ⊆ rest := by
    rw [hrest, ← hstripped]
    exact fun c hc => by simp [hc]
  have hnone := leftOperand_eq_none hquote hlexed hcovers hsubset hwrapper
  rw [leftOperand_of_none hnone, leftOperand_of_none (hwrapper.symm.trans hnone)] at hpath
  obtain ⟨reference, hreference⟩ := source_of_quote hquote hlexed hcovers hfilled.1
  have hlength : (source left).length ≤ (source left').length := by
    rw [hreference] at hpath ⊢
    exact length_le_of_resolve_eq hquote hpath
  rw [Token.source_eq_trim hlexed.left, Token.source_eq_trim hlexed'.left] at hlength
  have hearlier : ∀ more, textOf left ≠ quote :: textOf left' ++ more := by
    intro more heq
    have hlt := length_trim_lt hquote (textOf left') more
    rw [← heq] at hlt
    omega
  rcases List.append_eq_append_iff.mp hwhole with ⟨more, hleft, hright⟩ | ⟨more, hleft, -⟩
  · have hmore : more ≠ [] := by
      rintro rfl
      exact hearlier [] (by simpa using hleft.symm)
    obtain ⟨front, last, hlastText, hlast⟩ := hlexed.right.1.exists_operator_last hkind
    obtain ⟨begin, hbegin⟩ := exists_after_operator hlastText hmore hright
    have hne : textOf right' ++ tail ≠ [] :=
      List.append_ne_nil_of_left_ne_nil (textOf_ne_nil hlexed'.right.2 hfilled') tail
    have hparts : rest = textOf left' ++ operator.text ++ (textOf right' ++ tail) := by
      rw [hrest, ← hstripped]
      simp
    have hend : ∀ c ∈ (textOf right' ++ tail).getLast?, Text.isBlank c = false := by
      have hlastOf := htrimmed.last
      rwa [hparts, ← List.cons_append, List.getLast?_append_of_ne_nil _ hne] at hlastOf
    have hback : dropLastQuote (textOf right' ++ tail) = textOf right' := by
      have hdropped := dropLastQuote_append_of_ne_nil (textOf left' ++ operator.text) hne
      rw [← hparts, ← hstripped, ← List.append_assoc] at hdropped
      exact (List.append_cancel_left hdropped).symm
    have hlt := length_operand_lt hlexed.right.2 hlexed'.right.2 hlast hbegin hne hend hback
    have heq : operand right = operand right' := by
      simpa using congrArg String.toList hvalue
    rw [heq] at hlt
    exact Nat.lt_irrefl _ hlt
  · exact hearlier more hleft

/-! ### A quote at the end -/

/-- Trimming and taking off a quote leave a text as it is only if neither does
anything to it. -/
theorem dropLastQuote_dropTrailing_iff {value : List Char} :
    dropLastQuote (Text.dropTrailing Text.isBlank value) = value ↔
      ∀ c ∈ value.getLast?, Text.isBlank c = false ∧ isQuote c = false := by
  constructor
  · intro hsame c hc
    obtain ⟨front, rfl⟩ := List.getLast?_eq_some_iff.mp (Option.mem_def.mp hc)
    have hlength := congrArg List.length hsame
    rw [List.length_append, List.length_singleton] at hlength
    have hblank : Text.isBlank c = false := by
      by_contra hblank
      rw [Text.dropTrailing_append (by simpa using hblank)] at hlength
      have hquote := length_dropLastQuote_le (Text.dropTrailing Text.isBlank front)
      have htrailing := Text.length_dropTrailing_le Text.isBlank front
      omega
    refine ⟨hblank, ?_⟩
    by_contra hquote
    rw [Text.dropTrailing_eq_self (by simpa using hblank),
      dropLastQuote_append (by simpa using hquote)] at hlength
    omega
  · intro hlast
    rw [Text.dropTrailing_eq_self fun c hc => (hlast c hc).1,
      dropLastQuote_eq_self fun c hc => (hlast c hc).2]

/-- What is left of a value that lost its last quote before it was trimmed. -/
theorem stripQuotes_dropTrailing_iff {value : List Char}
    (hhead : ∀ c ∈ value.head?, Text.isBlank c = false) :
    stripQuotes (Text.dropTrailing Text.isBlank value) = dropFirstQuote value ↔
      ∀ c ∈ (dropFirstQuote value).getLast?, Text.isBlank c = false ∧ isQuote c = false := by
  cases value with
  | nil => simp [Text.dropTrailing, stripQuotes, dropFirstQuote]
  | cons first rest =>
      have hkept : Text.dropTrailing Text.isBlank (first :: rest) =
          first :: Text.dropTrailing Text.isBlank rest :=
        Text.dropTrailing_kept (hhead first rfl) [] rest
      rw [stripQuotes_eq]
      by_cases hquote : isQuote first = true
      · rw [hkept, dropFirstQuote_cons hquote, dropFirstQuote_cons hquote]
        exact dropLastQuote_dropTrailing_iff
      · have hplain : ∀ others, dropFirstQuote (first :: others) = first :: others :=
          fun others => dropFirstQuote_eq_self (by simpa using hquote)
        rw [hkept, hplain, hplain, ← hkept]
        exact dropLastQuote_dropTrailing_iff

/-- Without a quote at its end, a text is still cut at the same operator. -/
theorem atOperator?_without_last {front : List Char} {quote : Char} {left right : List Token}
    {operator : Token}
    (hoperator : atOperator? 0 (ofText (front ++ [quote])) = some (left, operator, right))
    (hsource : source right ≠ []) :
    ∃ back, textOf right = back ++ [quote] ∧
      atOperator? 0 (ofText front) = some (left, operator, ofText back) := by
  obtain ⟨htokens, hkind, hlevel, hhides⟩ := Token.atOperator?_eq_some_iff.mp hoperator
  obtain ⟨hcovers, hlexed⟩ := Token.ofText_eq_iff.mp htokens
  obtain ⟨back, last, hback⟩ := (List.eq_nil_or_concat (textOf right)).resolve_left
    (textOf_ne_nil hlexed.right.2 hsource)
  rw [List.concat_eq_append] at hback
  rw [Token.textOf_append, Token.textOf_cons, hback, ← List.append_assoc, ← List.append_assoc]
    at hcovers
  obtain ⟨hfront, hlast⟩ := List.append_inj' hcovers rfl
  obtain rfl : last = quote := by simpa using hlast
  refine ⟨back, hback, Token.atOperator?_eq_some_iff.mpr ⟨?_, hkind, hlevel, hhides⟩⟩
  have hcut : Lexed ((left ++ [operator]) ++ ofText back) :=
    Lexed.replace_right (by simpa using hlexed) hback
  rw [Token.ofText_eq_iff]
  exact ⟨by simpa [Token.textOf_ofText] using hfront, by simpa using hcut⟩

theorem not_recognized_of_blank_right {left right : List Token} {operator : Token}
    (hoperator : atOperator? 0 (ofText text) = some (left, operator, right))
    (hsource : source right = []) : ¬Recognized (ofText text) := by
  have hcall := call?_eq_none_of_atOperator? hoperator
  intro hrecognized
  cases hrecognized with
  | value hsome => simp [hcall] at hsome
  | conditional hsome => simp [hcall] at hsome
  | matching hsome => simp [hcall] at hsome
  | comparison hother hfilled =>
      rw [hoperator] at hother
      simp only [Option.some.injEq, Prod.mk.injEq] at hother
      exact hfilled.2 (hother.2.2 ▸ hsource)

/-- A comparison that loses the quote at its end keeps its value only if the quote
closes something, and neither a blank nor another quote stands before it. -/
theorem read_without_last_iff {front : List Char} {quote : Char} {left right : List Token}
    {operator : Token} (hquote : isQuote quote = true)
    (hoperator : atOperator? 0 (ofText (front ++ [quote])) = some (left, operator, right))
    (hfilled : source left ≠ [] ∧ source right ≠ []) :
    read path (levels + 1) front = read path (levels + 1) (front ++ [quote]) ↔
      2 ≤ (source right).length ∧
        ∀ c ∈ (operand right).getLast?, Text.isBlank c = false ∧ isQuote c = false := by
  obtain ⟨back, hback, hfront⟩ := atOperator?_without_last hoperator hfilled.2
  have hlexed := (Token.ofText_eq_iff.mp (Token.atOperator?_eq_some_iff.mp hoperator).1).2
  have hright : source right = back.dropWhile Text.isBlank ++ [quote] := by
    rw [Token.source_eq_trim hlexed.right.2, hback]
    exact Text.trimList_kept (Token.isBlank_eq_false_of_special (.inl hquote)) back []
  have hshort : source (ofText back) =
      Text.dropTrailing Text.isBlank (back.dropWhile Text.isBlank) :=
    Token.source_ofText_eq_trim back
  have hhead : ∀ c ∈ (back.dropWhile Text.isBlank).head?, Text.isBlank c = false := by
    intro c hc
    have hnot := List.head?_dropWhile_not Text.isBlank back
    rw [Option.mem_def.mp hc] at hnot
    exact hnot
  generalize back.dropWhile Text.isBlank = value at hright hshort hhead
  cases value with
  | nil =>
      have hunread : read path (levels + 1) front = .unparsed (String.ofList front) :=
        read_of_not_recognized (not_recognized_of_blank_right hfront hshort)
      rw [hunread, read_of_operator hoperator hfilled, hright]
      simp
  | cons first rest =>
      have hoperand : operand right = dropFirstQuote (first :: rest) := by
        rw [operand, hright, stripQuotes_eq, dropFirstQuote_append (List.cons_ne_nil first rest),
          dropLastQuote_append hquote]
      have hkept : source (ofText back) ≠ [] := by
        have hfirst := Text.dropTrailing_kept (hhead first rfl) [] rest
        rw [hshort, ← List.nil_append (first :: rest), hfirst]
        simp
      have hlength : 2 ≤ (source right).length := by
        rw [hright]
        simp
      rw [read_of_operator hfront ⟨hfilled.1, hkept⟩, read_of_operator hoperator hfilled,
        hoperand, operand, hshort]
      simp only [ExprOver.comparison.injEq, String.ofList_inj, true_and, and_true,
        stripQuotes_dropTrailing_iff hhead, hlength]

theorem read_stripQuotes_comparison_iff (htext : Text.Trimmed Text.isBlank text)
    {left right : List Token} {operator : Token}
    (hoperator : atOperator? 0 (ofText text) = some (left, operator, right))
    (hfilled : source left ≠ [] ∧ source right ≠ []) :
    read path (levels + 1) (stripQuotes text) = read path (levels + 1) text ↔
      QuoteSafe text := by
  by_cases hhead : ∀ c ∈ text.head?, isQuote c = false
  · by_cases hlast : ∀ c ∈ text.getLast?, isQuote c = false
    · rw [stripQuotes_eq_self hhead hlast]
      refine ⟨fun _ => ⟨hhead, ?_⟩, fun _ => rfl⟩
      rintro left operator right - ⟨c, hc, hquote⟩
      rw [hlast c hc] at hquote
      contradiction
    · push Not at hlast
      obtain ⟨quote, hmem, hquote⟩ := hlast
      rw [Bool.ne_false_iff] at hquote
      obtain ⟨front, rfl⟩ := List.getLast?_eq_some_iff.mp (Option.mem_def.mp hmem)
      have hne : front ≠ [] := by
        rintro rfl
        rw [hhead quote rfl] at hquote
        contradiction
      rw [List.head?_append_of_ne_nil _ hne] at hhead
      rw [stripQuotes_closed hquote hne hhead, read_without_last_iff hquote hoperator hfilled]
      constructor
      · intro hvalue
        refine ⟨by rwa [List.head?_append_of_ne_nil _ hne], ?_⟩
        intro left' operator' right' hoperator' _
        rw [hoperator] at hoperator'
        simp only [Option.some.injEq, Prod.mk.injEq] at hoperator'
        rwa [← hoperator'.2.2]
      · intro hsafe
        exact hsafe.last left operator right hoperator ⟨quote, hmem, hquote⟩
  · have hunsafe : ¬QuoteSafe text := fun hsafe => hhead hsafe.head
    push Not at hhead
    obtain ⟨quote, hmem, hquote⟩ := hhead
    rw [Bool.ne_false_iff] at hquote
    obtain ⟨rest, rfl⟩ := List.head?_eq_some_iff.mp (Option.mem_def.mp hmem)
    have hne : read path (levels + 1) (stripQuotes (quote :: rest)) ≠
        read path (levels + 1) (quote :: rest) :=
      read_stripQuotes_ne hquote htext hoperator hfilled
    exact ⟨fun hsame => absurd hsame hne, fun hsafe => absurd hsafe hunsafe⟩

/-- Whether a text that some rule reads is read the same without its quotes. -/
theorem read_stripQuotes_eq_iff (htext : Text.Trimmed Text.isBlank text)
    (hrecognized : Recognized (ofText text)) :
    read path (levels + 1) (stripQuotes text) = read path (levels + 1) text ↔
      QuoteSafe text := by
  have hcalls : ∀ {name inner}, call? (ofText text) = some (name, inner) →
      name ∈ Token.grammarWords →
      (read path (levels + 1) (stripQuotes text) = read path (levels + 1) text ↔
        QuoteSafe text) := by
    intro name inner hcall hname
    have hhead : ∀ c ∈ name.toList.head?, isQuote c = false := by
      simpa using (Token.isName_of_grammarWord hname).head_not_quote []
    obtain ⟨hsafe, hstrip⟩ := quoteSafe_of_call htext hcall hhead
    rw [hstrip]
    exact ⟨fun _ => hsafe, fun _ => rfl⟩
  cases hrecognized with
  | value hcall hname =>
      exact hcalls hcall (List.mem_append_right _ (List.mem_append_right _ hname))
  | conditional hcall => exact hcalls hcall (by decide)
  | matching hcall hname =>
      exact hcalls hcall (Token.mem_grammarWords_of_ownCalls (name_of_matchFunction? hname).1)
  | comparison hoperator hfilled =>
      exact read_stripQuotes_comparison_iff htext hoperator hfilled

/-- A single term, which shows no `and` and no `or`, is the same as a condition and
as a group exactly when it begins with no quote and a quote at its end closes a
value that ends, inside, in neither a blank nor another quote. -/
theorem parseGroup_eq_single_iff {raw path : String} {maxDepth : Int} {text : List Char}
    {expr : Expr} (htext : plainText? raw = some text)
    (hand : Hides (isWord "and") 0 (ofText text)) (hor : Hides (isWord "or") 0 (ofText text))
    (hparse : parse? raw path maxDepth = some expr) (hform : expr.isUnparsed = false) :
    parseGroup? raw path maxDepth = some (.group [.one expr]) ↔ QuoteSafe text := by
  rw [parse?, htext, Option.map_some, Option.some.injEq] at hparse
  cases hlevels : levelsOf maxDepth with
  | zero =>
      rw [hlevels] at hparse
      subst hparse
      contradiction
  | succ levels =>
      rw [hlevels] at hparse
      have htrimmed : Text.Trimmed Text.isBlank text := by
        obtain ⟨plain, -, rfl⟩ := Option.map_eq_some_iff.mp htext
        exact Text.trimmed_trimList Text.isBlank plain
      have hrecognized : Recognized (ofText text) := by
        by_contra hnot
        rw [← hparse, isUnparsed_read_iff.mpr hnot] at hform
        contradiction
      have hsafe : read path (levels + 1) (stripQuotes text) = read path (levels + 1) text ↔
          QuoteSafe text := read_stripQuotes_eq_iff htrimmed hrecognized
      rw [parseGroup?, htext, Option.map_some, hlevels,
        groupOf_single htrimmed hrecognized hand hor, ← hparse, ← hsafe]
      simp

theorem hides_words_of_tokens {tokens : List Token} (htokens : ofText text = tokens)
    {word : String} (hnone : ∀ token ∈ tokens, isWord word token = false) :
    Hides (isWord word) 0 (ofText text) := by
  rw [htokens]
  exact Token.hides_of_none hnone

/-- A value in quotes with nothing before the closing one is safe, and so a single term is read
as it is alone. -/
theorem parseGroup_eq_single_plain :
    plainText? "../a = 'x'" = some "../a = 'x'".toList ∧
      (Hides (isWord "and") 0 (ofText "../a = 'x'".toList) ∧
        Hides (isWord "or") 0 (ofText "../a = 'x'".toList)) ∧
      parse? "../a = 'x'" "/data/b" 5 = some (.comparison "=" "/data/a" "x" none) ∧
      QuoteSafe "../a = 'x'".toList ∧
      parseGroup? "../a = 'x'" "/data/b" 5 =
        some (.group [.one (.comparison "=" "/data/a" "x" none)]) := by
  have htext : plainText? "../a = 'x'" = some "../a = 'x'".toList :=
    (plainText?_of_plain (by decide)).trans (by decide)
  have htokens : ofText "../a = 'x'".toList = [⟨.word, "../a".toList⟩, ⟨.blank, [' ']⟩,
      ⟨.operator, ['=']⟩, ⟨.blank, [' ']⟩, ⟨.quoted, "'x'".toList⟩] := by
    cbv
  have hand := hides_words_of_tokens htokens (show ∀ token ∈ _, isWord "and" token = _ by decide)
  have hor := hides_words_of_tokens htokens (show ∀ token ∈ _, isWord "or" token = _ by decide)
  have hparse : parse? "../a = 'x'" "/data/b" 5 =
      some (.comparison "=" "/data/a" "x" none) := by
    cbv
  have hoperator : atOperator? 0 (ofText "../a = 'x'".toList) =
      some ([⟨.word, "../a".toList⟩, ⟨.blank, [' ']⟩], ⟨.operator, ['=']⟩,
        [⟨.blank, [' ']⟩, ⟨.quoted, "'x'".toList⟩]) := by
    rw [htokens]
    cbv
  have hsafe : QuoteSafe "../a = 'x'".toList := by
    have hvalue : source [⟨.blank, [' ']⟩, ⟨.quoted, "'x'".toList⟩] = ['\'', 'x', '\''] ∧
        operand [⟨.blank, [' ']⟩, ⟨.quoted, "'x'".toList⟩] = ['x'] := by
      constructor <;> cbv
    constructor
    · rw [show "../a = 'x'".toList.head? = some '.' by cbv]
      intro c hc
      obtain rfl := Option.some.inj hc
      rfl
    · intro left operator right hfound _
      simp only [hoperator, Option.some.injEq, Prod.mk.injEq] at hfound
      rw [← hfound.2.2, hvalue.1, hvalue.2]
      refine ⟨by simp, fun c hc => ?_⟩
      obtain rfl := Option.some.inj hc
      exact ⟨rfl, rfl⟩
  exact ⟨htext, ⟨hand, hor⟩, hparse, hsafe,
    (parseGroup_eq_single_iff htext hand hor hparse rfl).mpr hsafe⟩

/-- The blank at the end of a quoted value belongs to the value of a condition,
and is lost in a group of the same single term. -/
theorem parseGroup_loses_blank :
    plainText? "../a = 'x '" = some "../a = 'x '".toList ∧
      (Hides (isWord "and") 0 (ofText "../a = 'x '".toList) ∧
        Hides (isWord "or") 0 (ofText "../a = 'x '".toList)) ∧
      unwrap (ofText "../a = 'x '".toList) = ofText "../a = 'x '".toList ∧
      parse? "../a = 'x '" "/data/b" 5 = some (.comparison "=" "/data/a" "x " none) ∧
      parseGroup? "../a = 'x '" "/data/b" 5 ≠
        some (.group [.one (.comparison "=" "/data/a" "x " none)]) := by
  have htokens : ofText "../a = 'x '".toList = [⟨.word, "../a".toList⟩, ⟨.blank, [' ']⟩,
      ⟨.operator, ['=']⟩, ⟨.blank, [' ']⟩, ⟨.quoted, "'x '".toList⟩] := by
    cbv
  have hgroup : parseGroup? "../a = 'x '" "/data/b" 5 =
      some (.group [.one (.comparison "=" "/data/a" "x" none)]) := by
    cbv
  refine ⟨(plainText?_of_plain (by decide)).trans (by decide), ⟨?_, ?_⟩, ?_, by cbv, ?_⟩
  · exact hides_words_of_tokens htokens (by decide)
  · exact hides_words_of_tokens htokens (by decide)
  · rw [htokens]
    cbv
  · rw [hgroup]
    simp

end SurveyForm.Expr
