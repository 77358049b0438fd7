import Mathlib.Data.List.Basic
import Mathlib.Data.List.TakeWhile
import SurveyForm.Expr.Token
import SurveyForm.Proofs.Text.Trimming
/-!
Which tokens a text is read as.  A token is read from a text exactly when it
begins the text and what follows cannot extend it, so the tokens of a text
cover it without a gap, and a run of them is also what the text of that run
alone is read as.
-/

namespace SurveyForm.Token

/-- The text that a run of tokens covers. -/
def textOf (tokens : List Token) : List Char :=
  tokens.flatMap Token.text

@[simp] theorem textOf_nil : textOf [] = [] := rfl

@[simp] theorem textOf_cons (token : Token) (tokens : List Token) :
    textOf (token :: tokens) = token.text ++ textOf tokens := rfl

@[simp] theorem textOf_append (left right : List Token) :
    textOf (left ++ right) = textOf left ++ textOf right :=
  List.flatMap_append

/-- The kinds of tokens that are runs of one class of characters. -/
inductive RunOf : TokenKind → (Char → Bool) → Prop
  | operators : RunOf .operator isOperatorChar
  | blanks : RunOf .blank Text.isBlank
  | words : RunOf .word isWordChar

/-- `Reads token after`: a text that begins with the token and goes on with
`after` is read as that token first.  Only a quote that is never closed looks
further ahead than one character. -/
inductive Reads : Token → List Char → Prop
  | quoted {quote : Char} {inner after : List Char} (hquote : isQuote quote = true)
      (hinner : quote ∉ inner) : Reads ⟨.quoted, quote :: inner ++ [quote]⟩ after
  | unclosed {quote : Char} {after : List Char} (hquote : isQuote quote = true)
      (hafter : quote ∉ after) : Reads ⟨.word, [quote]⟩ after
  | opening {after : List Char} : Reads ⟨.opening, ['(']⟩ after
  | closing {after : List Char} : Reads ⟨.closing, [')']⟩ after
  | comma {after : List Char} : Reads ⟨.comma, [',']⟩ after
  | unequal {after : List Char} : Reads ⟨.operator, ['!', '=']⟩ after
  | exclamation {after : List Char} (hafter : after.head? ≠ some '=') :
      Reads ⟨.word, ['!']⟩ after
  | run {kind : TokenKind} {belongs : Char → Bool} {first : Char} {rest after : List Char}
      (hrun : RunOf kind belongs) (hfirst : belongs first = true)
      (hrest : ∀ c ∈ rest, belongs c = true)
      (hafter : ∀ c ∈ after.head?, belongs c = false) :
      Reads ⟨kind, first :: rest⟩ after

theorem run_append {kind : TokenKind} {belongs : Char → Bool} {first : Char}
    {rest after : List Char} (hrest : ∀ c ∈ rest, belongs c = true)
    (hafter : ∀ c ∈ after.head?, belongs c = false) :
    run kind belongs first (rest ++ after) = (⟨kind, first :: rest⟩, after) := by
  have htake : after.takeWhile belongs = [] := by
    cases after with
    | nil => rfl
    | cons c after => simp [hafter c (by simp)]
  rw [run, List.takeWhile_append_of_pos hrest, List.dropWhile_append_of_pos hrest,
    htake, Text.dropWhile_eq_self hafter, List.append_nil]

/-- The special characters, apart from quotes, belong to no run that could hide
them. -/
theorem next_run {kind : TokenKind} {belongs : Char → Bool} {first : Char}
    (hrun : RunOf kind belongs) (hfirst : belongs first = true) (rest : List Char) :
    next first rest = run kind belongs first rest := by
  have hne : ∀ special : Char, belongs special = false → first ≠ special := by
    intro special hspecial heq
    rw [heq, hspecial] at hfirst
    contradiction
  cases hrun with
  | operators =>
      have hquote : isQuote first = false := by
        simp only [isQuote, hne '\'' rfl, hne '"' rfl, decide_false, Bool.or_self]
      simp only [next, hquote, hne '(' rfl, hne ')' rfl, hne ',' rfl, hne '!' rfl, hfirst,
        Bool.false_eq_true, ↓reduceIte]
  | blanks =>
      have hquote : isQuote first = false := by
        simp only [isQuote, hne '\'' (by decide), hne '"' (by decide), decide_false,
          Bool.or_self]
      have hoperator : isOperatorChar first = false := by
        simp only [isOperatorChar, hne '<' (by decide), hne '=' (by decide),
          hne '>' (by decide), decide_false, Bool.or_self]
      simp only [next, hquote, hoperator, hne '(' (by decide), hne ')' (by decide),
        hne ',' (by decide), hne '!' (by decide), hfirst, Bool.false_eq_true, ↓reduceIte]
  | words =>
      simp only [isWordChar, Bool.not_eq_true', Bool.or_eq_false_iff,
        decide_eq_false_iff_not] at hfirst
      simp only [next, hfirst, Bool.false_eq_true, ↓reduceIte]

/-- A token that can be read from the front of a text is what is read there. -/
theorem Reads.next_eq {token : Token} {after : List Char} (hreads : Reads token after)
    {first : Char} {rest : List Char} (htext : first :: rest = token.text ++ after) :
    next first rest = (token, after) := by
  cases hreads with
  | @quoted quote inner _ hquote hinner =>
      obtain ⟨rfl, rfl⟩ : first = quote ∧ rest = inner ++ quote :: after := by
        simpa using htext
      have hmem : ∀ c ∈ inner, (c != first) = true := by
        intro c hc
        exact bne_iff_ne.mpr fun heq => hinner (heq ▸ hc)
      simp [next, hquote, quoted?, List.dropWhile_append_of_pos hmem,
        List.takeWhile_append_of_pos hmem]
  | @unclosed quote _ hquote hafter =>
      obtain ⟨rfl, rfl⟩ : first = quote ∧ rest = after := by simpa using htext
      have hdrop : rest.dropWhile (· != first) = [] := by
        rw [List.dropWhile_eq_nil_iff]
        intro c hc
        exact bne_iff_ne.mpr fun heq => hafter (heq ▸ hc)
      simp [next, hquote, quoted?, hdrop]
  | opening =>
      obtain ⟨rfl, rfl⟩ : first = '(' ∧ rest = after := by simpa using htext
      rfl
  | closing =>
      obtain ⟨rfl, rfl⟩ : first = ')' ∧ rest = after := by simpa using htext
      rfl
  | comma =>
      obtain ⟨rfl, rfl⟩ : first = ',' ∧ rest = after := by simpa using htext
      rfl
  | unequal =>
      obtain ⟨rfl, rfl⟩ : first = '!' ∧ rest = '=' :: after := by simpa using htext
      rfl
  | exclamation hafter =>
      obtain ⟨rfl, rfl⟩ : first = '!' ∧ rest = after := by simpa using htext
      unfold next
      split
      · contradiction
      · simp only [Char.reduceEq, ↓reduceIte]
        split
        · simp at hafter
        · rfl
  | @run kind belongs begin middle _ hrun hfirst hrest hafter =>
      obtain ⟨rfl, rfl⟩ : first = begin ∧ rest = middle ++ after := by simpa using htext
      rw [next_run hrun hfirst, run_append hrest hafter]

/-- What stands before the first closing quote, the quote, and what follows. -/
theorem dropWhile_quote_decomposition {quote close : Char} {rest after : List Char}
    (hdrop : rest.dropWhile (· != quote) = close :: after) :
    close = quote ∧ rest = rest.takeWhile (· != quote) ++ quote :: after ∧
      quote ∉ rest.takeWhile (· != quote) := by
  have hclose : close = quote := by
    have hhead := List.head?_dropWhile_not (· != quote) rest
    rw [hdrop] at hhead
    simpa using hhead
  subst hclose
  refine ⟨rfl, ?_, ?_⟩
  · rw [← hdrop, List.takeWhile_append_dropWhile]
  · intro hmem
    simpa using List.mem_takeWhile_imp hmem

theorem reads_run {kind : TokenKind} {belongs : Char → Bool} {first : Char}
    (hrun : RunOf kind belongs) (hfirst : belongs first = true) (rest : List Char) :
    Reads (run kind belongs first rest).1 (run kind belongs first rest).2 := by
  refine .run hrun hfirst ?_ ?_
  · exact fun c hc => List.mem_takeWhile_imp hc
  · intro c hc
    have hhead := List.head?_dropWhile_not belongs rest
    rw [show (rest.dropWhile belongs).head? = some c from hc] at hhead
    exact hhead

theorem isWordChar_of_ordinary {c : Char} (hquote : ¬isQuote c = true) (hopening : c ≠ '(')
    (hclosing : c ≠ ')') (hcomma : c ≠ ',') (hmark : c ≠ '!')
    (hoperator : ¬isOperatorChar c = true) (hblank : ¬Text.isBlank c = true) :
    isWordChar c = true := by
  simp [isWordChar, hquote, hopening, hclosing, hcomma, hmark, hoperator, hblank]

/-- Reading a token loses nothing and takes as much as belongs to it. -/
theorem reads_next (first : Char) (rest : List Char) :
    first :: rest = (next first rest).1.text ++ (next first rest).2 ∧
      Reads (next first rest).1 (next first rest).2 := by
  unfold next
  split_ifs with hquote hopening hclosing hcomma hmark hoperator hblank
  · unfold quoted?
    split
    · rename_i hdrop
      refine ⟨rfl, .unclosed hquote ?_⟩
      intro hmem
      simpa using List.dropWhile_eq_nil_iff.mp hdrop first hmem
    · rename_i close after hdrop
      obtain ⟨rfl, hrest, hinner⟩ := dropWhile_quote_decomposition hdrop
      refine ⟨?_, .quoted hquote hinner⟩
      simpa using hrest
  · subst hopening
    exact ⟨rfl, .opening⟩
  · subst hclosing
    exact ⟨rfl, .closing⟩
  · subst hcomma
    exact ⟨rfl, .comma⟩
  · subst hmark
    split
    · exact ⟨rfl, .unequal⟩
    · rename_i hrest
      refine ⟨rfl, .exclamation ?_⟩
      intro hhead
      cases rest with
      | nil => simp at hhead
      | cons c rest =>
          obtain rfl : c = '=' := by simpa using hhead
          exact hrest rest rfl
  · exact ⟨by simp [run], reads_run .operators hoperator rest⟩
  · exact ⟨by simp [run], reads_run .blanks hblank rest⟩
  · exact ⟨by simp [run], reads_run .words (isWordChar_of_ordinary hquote hopening
      hclosing hcomma hmark hoperator hblank) rest⟩

/-- A run of tokens each of which is read with the text of the rest behind it. -/
def Lexed : List Token → Prop
  | [] => True
  | token :: rest => Reads token (textOf rest) ∧ Lexed rest

theorem Reads.text_ne_nil {token : Token} {after : List Char}
    (hreads : Reads token after) : token.text ≠ [] := by
  cases hreads <;> simp

theorem lexed_ofText (text : List Char) :
    textOf (ofText text) = text ∧ Lexed (ofText text) := by
  induction text using ofText.induct with
  | case1 => exact ⟨by rw [ofText]; rfl, by rw [ofText]; trivial⟩
  | case2 first rest ih =>
      obtain ⟨htext, hreads⟩ := reads_next first rest
      rw [ofText]
      refine ⟨?_, ?_, ih.2⟩
      · rw [textOf_cons, ih.1, ← htext]
      · rw [ih.1]
        exact hreads

theorem textOf_ofText (text : List Char) : textOf (ofText text) = text :=
  (lexed_ofText text).1

theorem ofText_textOf {tokens : List Token} (hlexed : Lexed tokens) :
    ofText (textOf tokens) = tokens := by
  induction tokens with
  | nil => rw [textOf_nil, ofText]
  | cons token rest ih =>
      obtain ⟨hreads, hrest⟩ := hlexed
      obtain ⟨first, middle, hfirst⟩ := List.exists_cons_of_ne_nil
        (show textOf (token :: rest) ≠ [] by simp [hreads.text_ne_nil])
      rw [hfirst, ofText, hreads.next_eq hfirst.symm, ih hrest]

/-- The tokens of a text are the one lexed run that covers it. -/
theorem ofText_eq_iff {text : List Char} {tokens : List Token} :
    ofText text = tokens ↔ textOf tokens = text ∧ Lexed tokens := by
  constructor
  · rintro rfl
    exact lexed_ofText text
  · rintro ⟨rfl, hlexed⟩
    exact ofText_textOf hlexed

/-- A token is read as well when less follows it. -/
theorem Reads.take {token : Token} {front back : List Char}
    (hreads : Reads token (front ++ back)) : Reads token front := by
  generalize hafter : front ++ back = after at hreads
  have hhead : ∀ c ∈ front.head?, c ∈ after.head? := by
    intro c hc
    rw [← hafter]
    simp [Option.mem_def.mp hc]
  cases hreads with
  | quoted hquote hinner => exact .quoted hquote hinner
  | unclosed hquote hmem =>
      refine .unclosed hquote ?_
      intro hfront
      exact hmem (hafter ▸ List.mem_append_left back hfront)
  | opening => exact .opening
  | closing => exact .closing
  | comma => exact .comma
  | unequal => exact .unequal
  | exclamation hne => exact .exclamation fun heq => hne (hhead '=' heq)
  | run hrun hfirst hrest hstop =>
      exact .run hrun hfirst hrest fun c hc => hstop c (hhead c hc)

theorem Lexed.right {left right : List Token} (hlexed : Lexed (left ++ right)) :
    Lexed right := by
  induction left with
  | nil => exact hlexed
  | cons token left ih => exact ih hlexed.2

/-- The front of a lexed run can be followed by the tokens of any text that the
rest of the run begins with. -/
theorem Lexed.replace_right {left right : List Token} {front back : List Char}
    (hlexed : Lexed (left ++ right)) (htext : textOf right = front ++ back) :
    Lexed (left ++ ofText front) := by
  induction left with
  | nil => exact (lexed_ofText front).2
  | cons token left ih =>
      obtain ⟨hreads, hrest⟩ := hlexed
      refine ⟨?_, ih hrest⟩
      change Reads token (textOf (left ++ right)) at hreads
      change Reads token (textOf (left ++ ofText front))
      rw [textOf_append, textOf_ofText]
      rw [textOf_append, htext, ← List.append_assoc] at hreads
      exact hreads.take

theorem Lexed.left {left right : List Token} (hlexed : Lexed (left ++ right)) :
    Lexed left := by
  have hleft : Lexed (left ++ ofText []) :=
    hlexed.replace_right (show textOf right = [] ++ textOf right from rfl)
  rw [ofText, List.append_nil] at hleft
  exact hleft

theorem Lexed.reads_of_mem {tokens : List Token} {token : Token}
    (hlexed : Lexed tokens) (hmem : token ∈ tokens) : ∃ after, Reads token after := by
  obtain ⟨left, right, rfl⟩ := List.append_of_mem hmem
  exact ⟨textOf right, hlexed.right.1⟩

theorem subset_of_mem_ofText {text : List Char} {token : Token}
    (hmem : token ∈ ofText text) : token.text ⊆ text := by
  intro c hc
  rw [← textOf_ofText text]
  exact List.mem_flatMap.mpr ⟨token, hmem, hc⟩

/-- The character that a kind of token always is, if there is one. -/
def fixedChar? : TokenKind → Option Char
  | .opening => some '('
  | .closing => some ')'
  | .comma => some ','
  | _ => none

theorem Reads.text_of_fixed {token : Token} {after : List Char} (hreads : Reads token after)
    {c : Char} (hfixed : fixedChar? token.kind = some c) : token.text = [c] := by
  cases hreads with
  | opening => exact congrArg (fun d => [d]) (Option.some.inj hfixed)
  | closing => exact congrArg (fun d => [d]) (Option.some.inj hfixed)
  | comma => exact congrArg (fun d => [d]) (Option.some.inj hfixed)
  | run hrun => cases hrun <;> contradiction
  | _ => contradiction

theorem Reads.exists_operator_last {token : Token} {after : List Char}
    (hreads : Reads token after) (hkind : token.kind = .operator) :
    ∃ front last, token.text = front ++ [last] ∧ isOperatorChar last = true := by
  cases hreads with
  | unequal => exact ⟨['!'], '=', rfl, by decide⟩
  | @run _ _ first rest _ hrun hfirst hrest =>
      cases hrun with
      | operators =>
          obtain ⟨front, last, hlast⟩ := (List.eq_nil_or_concat (first :: rest)).resolve_left
            (List.cons_ne_nil first rest)
          refine ⟨front, last, by simpa using hlast, ?_⟩
          have hmem : last ∈ first :: rest := by simp [hlast]
          rcases List.mem_cons.mp hmem with rfl | hmem
          · exact hfirst
          · exact hrest last hmem
      | blanks => contradiction
      | words => contradiction
  | _ => contradiction

/-- Re-reading the text of a stretch of tokens gives the stretch again. -/
theorem ofText_stretch {left middle right : List Token}
    (hlexed : Lexed (left ++ middle ++ right)) : ofText (textOf middle) = middle :=
  ofText_textOf hlexed.left.right

/-- Blanks are neither quotes nor parts of operators or words. -/
theorem isBlank_eq_false_of_special {c : Char}
    (hc : isQuote c = true ∨ isOperatorChar c = true ∨ isWordChar c = true) :
    Text.isBlank c = false := by
  rcases hc with hquote | hoperator | hword
  · simp only [isQuote, Bool.or_eq_true, decide_eq_true_eq] at hquote
    rcases hquote with rfl | rfl <;> decide
  · simp only [isOperatorChar, Bool.or_eq_true, decide_eq_true_eq] at hoperator
    rcases hoperator with (rfl | rfl) | rfl <;> decide
  · simp only [isWordChar, Bool.not_eq_true', Bool.or_eq_false_iff] at hword
    exact hword.1.1.1.1.1.1

theorem Reads.isBlank_of_mem {token : Token} {after : List Char}
    (hreads : Reads token after) (hblank : token.isBlank = true) {c : Char}
    (hc : c ∈ token.text) : Text.isBlank c = true := by
  simp only [Token.isBlank, decide_eq_true_eq] at hblank
  cases hreads with
  | run hrun hfirst hrest _ =>
      cases hrun with
      | blanks =>
          rcases List.mem_cons.mp hc with rfl | hmem
          · exact hfirst
          · exact hrest c hmem
      | operators => contradiction
      | words => contradiction
  | _ => contradiction

/-- A token that is not blank has no blank at its ends, though a quoted one may
have blanks inside. -/
theorem Reads.trimmed {token : Token} {after : List Char}
    (hreads : Reads token after) (hblank : token.isBlank = false) :
    Text.Trimmed Text.isBlank token.text := by
  simp only [Token.isBlank, decide_eq_false_iff_not] at hblank
  have hends : ∀ text : List Char, (text.all fun c => !Text.isBlank c) = true →
      Text.Trimmed Text.isBlank text := by
    intro text htext
    have hall : ∀ c ∈ text, Text.isBlank c = false := by simpa using htext
    exact ⟨fun c hc => hall c (List.mem_of_mem_head? hc),
      fun c hc => hall c (List.mem_of_mem_getLast? hc)⟩
  cases hreads with
  | quoted hquote _ =>
      have hfalse := isBlank_eq_false_of_special (.inl hquote)
      refine ⟨by simpa using hfalse, ?_⟩
      rw [List.getLast?_append_of_ne_nil _ (by simp)]
      simpa using hfalse
  | unclosed hquote _ =>
      exact hends _ (by simpa using isBlank_eq_false_of_special (.inl hquote))
  | opening => exact hends _ (by decide)
  | closing => exact hends _ (by decide)
  | comma => exact hends _ (by decide)
  | unequal => exact hends _ (by decide)
  | exclamation _ => exact hends _ (by decide)
  | @run _ belongs first rest _ hrun hfirst hrest _ =>
      have hmem : ∀ c ∈ first :: rest, belongs c = true := by
        simpa using ⟨hfirst, hrest⟩
      cases hrun with
      | operators =>
          refine hends _ (List.all_eq_true.mpr fun c hc => ?_)
          rw [isBlank_eq_false_of_special (.inr (.inl (hmem c hc)))]
          rfl
      | blanks => contradiction
      | words =>
          refine hends _ (List.all_eq_true.mpr fun c hc => ?_)
          rw [isBlank_eq_false_of_special (.inr (.inr (hmem c hc)))]
          rfl

theorem isBlank_of_mem_textOf {tokens : List Token} (hlexed : Lexed tokens)
    (hblank : ∀ token ∈ tokens, token.isBlank = true) :
    ∀ c ∈ textOf tokens, Text.isBlank c = true := by
  intro c hc
  obtain ⟨token, htoken, hmem⟩ := List.mem_flatMap.mp hc
  obtain ⟨after, hreads⟩ := hlexed.reads_of_mem htoken
  exact hreads.isBlank_of_mem (hblank token htoken) hmem

theorem trimmed_textOf {tokens : List Token} (hlexed : Lexed tokens)
    (htrimmed : Text.Trimmed isBlank tokens) :
    Text.Trimmed Text.isBlank (textOf tokens) := by
  constructor
  · cases tokens with
    | nil => simp
    | cons token rest =>
        have htoken := hlexed.1.trimmed (htrimmed.head token rfl)
        rw [textOf_cons, List.head?_append_of_ne_nil _ hlexed.1.text_ne_nil]
        exact htoken.head
  · rcases List.eq_nil_or_concat tokens with rfl | ⟨front, token, rfl⟩
    · simp
    · rw [List.concat_eq_append] at hlexed htrimmed ⊢
      obtain ⟨hreads, -⟩ := hlexed.right
      have htoken := hreads.trimmed (htrimmed.last token (by simp))
      rw [textOf_append, textOf_cons, textOf_nil, List.append_nil,
        List.getLast?_append_of_ne_nil _ hreads.text_ne_nil]
      exact htoken.last

theorem trimmed_of_textOf {tokens : List Token} (hlexed : Lexed tokens)
    (htrimmed : Text.Trimmed Text.isBlank (textOf tokens)) : Text.Trimmed isBlank tokens := by
  constructor
  · intro token hhead
    obtain ⟨rest, rfl⟩ := List.head?_eq_some_iff.mp (Option.mem_def.mp hhead)
    by_contra hblank
    obtain ⟨first, middle, htext⟩ := List.exists_cons_of_ne_nil hlexed.1.text_ne_nil
    have hfirst := hlexed.1.isBlank_of_mem (Bool.not_eq_false _ ▸ hblank)
      (show first ∈ token.text by simp [htext])
    rw [htrimmed.head first (by simp [htext])] at hfirst
    contradiction
  · intro token hlast
    obtain ⟨front, rfl⟩ := List.getLast?_eq_some_iff.mp (Option.mem_def.mp hlast)
    by_contra hblank
    obtain ⟨hreads, -⟩ := hlexed.right
    obtain ⟨middle, last, htext⟩ := List.eq_nil_or_concat token.text |>.resolve_left
      hreads.text_ne_nil
    have hend := hreads.isBlank_of_mem (Bool.not_eq_false _ ▸ hblank)
      (show last ∈ token.text by simp [htext])
    rw [htrimmed.last last (by simp [htext])] at hend
    contradiction

/-- A text without blanks at its ends has no blank tokens there. -/
theorem trim_ofText {text : List Char} (htext : Text.Trimmed Text.isBlank text) :
    trim (ofText text) = ofText text := by
  obtain ⟨hcovers, hlexed⟩ := lexed_ofText text
  exact Text.trimList_eq_self (trimmed_of_textOf hlexed (hcovers.symm ▸ htext))

/-- Taking the blank tokens off the ends is taking the blanks off the text. -/
theorem source_eq_trim {tokens : List Token} (hlexed : Lexed tokens) :
    source tokens = Text.trim (textOf tokens) := by
  obtain ⟨before, after, htokens, hbefore, hafter, htrimmed⟩ :=
    Text.trimList_decomposition isBlank tokens
  have hparts : Lexed (before ++ trim tokens ++ after) := by
    rw [trim, ← htokens]
    exact hlexed
  have htext : textOf tokens = textOf before ++ textOf (trim tokens) ++ textOf after := by
    rw [← textOf_append, ← textOf_append, trim, ← htokens]
  rw [htext]
  exact (Text.trimList_eq (isBlank_of_mem_textOf hparts.left.left hbefore)
    (isBlank_of_mem_textOf hparts.right hafter)
    (trimmed_textOf hparts.left.right htrimmed)).symm

theorem source_ofText_eq_trim (text : List Char) : source (ofText text) = Text.trim text := by
  rw [source_eq_trim (lexed_ofText text).2, textOf_ofText]

/-- The tokens of a text without blanks at its ends cover it even when trimmed. -/
theorem source_ofText {text : List Char} (htext : Text.Trimmed Text.isBlank text) :
    source (ofText text) = text := by
  rw [source_ofText_eq_trim]
  exact Text.trimList_eq_self htext

end SurveyForm.Token
