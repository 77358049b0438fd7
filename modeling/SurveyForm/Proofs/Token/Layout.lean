import SurveyForm.Proofs.Token.Phrase
/-!
How a text is made up of slices that are kept and gaps that are not.  A gap is
one mark, or a word of the grammar that stands alone: what it stands between
belongs to the judgment, so that a word inside a longer one is no gap.
-/

namespace SurveyForm.Token

/-- The characters that only separate or enclose. -/
def isMark (c : Char) : Bool :=
  Text.isBlank c || isQuote c || c = '(' || c = ')' || c = ','

/-- `Droppable before gap after`: between these two texts, the gap says nothing. -/
inductive Droppable : List Char → List Char → List Char → Prop
  | mark {before after : List Char} {c : Char} (hmark : isMark c = true) :
      Droppable before [c] after
  | separator {before after : List Char} {word : String} (hword : word ∈ groupWords)
      (hbefore : ∀ c ∈ before.getLast?, isWordChar c = false)
      (hafter : ∀ c ∈ after.head?, isWordChar c = false) :
      Droppable before word.toList after
  | callName {before after : List Char} {name : String}
      (hname : name ∈ ownCalls)
      (hbefore : ∀ c ∈ before.getLast?, isWordChar c = false)
      (hafter : after.head? = some '(') : Droppable before name.toList after

/-- `Laid before slices text after`: the text consists of the slices, in order
and with nothing but gaps around them, where it stands between two others. -/
inductive Laid : List Char → List (List Char) → List Char → List Char → Prop
  | done {before after : List Char} : Laid before [] [] after
  | kept (slice : List Char) {before text after : List Char} {slices : List (List Char)}
      (hrest : Laid (before ++ slice) slices text after) :
      Laid before (slice :: slices) (slice ++ text) after
  | dropped {before gap text after : List Char} {slices : List (List Char)}
      (hgap : Droppable before gap (text ++ after))
      (hrest : Laid (before ++ gap) slices text after) :
      Laid before slices (gap ++ text) after

theorem Laid.append {before left text after : List Char} {slices others : List (List Char)}
    (hleft : Laid before slices left (text ++ after))
    (htext : Laid (before ++ left) others text after) :
    Laid before (slices ++ others) (left ++ text) after := by
  generalize hafter : text ++ after = rest at hleft
  induction hleft with
  | done => simpa using htext
  | kept slice _ ih =>
      rw [List.append_assoc, List.cons_append]
      exact .kept slice (ih (by simpa using htext) hafter)
  | dropped hgap _ ih =>
      subst hafter
      rw [List.append_assoc]
      exact .dropped (by simpa using hgap) (ih (by simpa using htext) rfl)

theorem laid_slice (before slice after : List Char) : Laid before [slice] slice after := by
  have hrest : Laid (before ++ slice) [] [] after := .done
  simpa using hrest.kept slice

theorem laid_gap {before gap after : List Char} (hgap : Droppable before gap after) :
    Laid before [] gap after := by
  have hrest : Laid (before ++ gap) [] [] after := .done
  simpa using Laid.dropped (by simpa using hgap) hrest

theorem laid_marks {marks : List Char} (hmarks : ∀ c ∈ marks, isMark c = true)
    (before after : List Char) : Laid before [] marks after := by
  induction marks generalizing before with
  | nil => exact .done
  | cons c rest ih =>
      have hrest := ih (fun other hmem => hmarks other (List.mem_cons_of_mem c hmem))
        (before ++ [c])
      exact Laid.dropped (.mark (hmarks c List.mem_cons_self)) hrest

/-! ### Places where no word is cut in two -/

/-- No word goes on from one text into the other. -/
def Apart (before after : List Char) : Prop :=
  ∀ c ∈ before.getLast?, ∀ d ∈ after.head?, isWordChar c = true → isWordChar d = false

/-- A text of which no word goes on beyond its ends. -/
structure Fits (before text after : List Char) : Prop where
  left : Apart before (text ++ after)
  right : Apart (before ++ text) after

theorem isWordChar_of_isMark {c : Char} (hmark : isMark c = true) : isWordChar c = false := by
  simp only [isMark, Bool.or_eq_true, decide_eq_true_eq] at hmark
  rcases hmark with (((hblank | hquote) | rfl) | rfl) | rfl
  · simp [isWordChar, hblank]
  · simp [isWordChar, hquote]
  · decide
  · decide
  · decide

theorem fits_whole (text : List Char) : Fits [] text [] :=
  ⟨by simp [Apart], by simp [Apart]⟩

theorem apart_of_last {before after : List Char}
    (hlast : ∀ c ∈ before.getLast?, isWordChar c = false) : Apart before after := by
  intro c hc _ _ hword
  rw [hlast c hc] at hword
  contradiction

theorem apart_concat (front : List Char) {c : Char} (hc : isWordChar c = false)
    (after : List Char) : Apart (front ++ [c]) after :=
  apart_of_last (by simpa using hc)

theorem apart_of_head {before after : List Char}
    (hhead : ∀ c ∈ after.head?, isWordChar c = false) : Apart before after :=
  fun _ _ d hd _ => hhead d hd

/-- Marks around a text keep its words from going on. -/
theorem Fits.inside {before front text back after : List Char}
    (hfits : Fits before (front ++ text ++ back) after)
    (hfront : ∀ c ∈ front, isMark c = true) (hback : ∀ c ∈ back, isMark c = true) :
    Fits (before ++ front) text (back ++ after) := by
  constructor
  · by_cases hnil : front = []
    · subst hnil
      simpa using hfits.left
    · apply apart_of_last
      rw [List.getLast?_append_of_ne_nil _ hnil]
      exact fun c hc => isWordChar_of_isMark (hfront c (List.mem_of_mem_getLast? hc))
  · by_cases hnil : back = []
    · subst hnil
      simpa using hfits.right
    · apply apart_of_head
      rw [List.head?_append_of_ne_nil _ hnil]
      exact fun c hc => isWordChar_of_isMark (hback c (List.mem_of_mem_head? hc))

theorem Reads.apart {token : Token} {after : List Char} (hreads : Reads token after) :
    Apart token.text after := by
  cases hreads with
  | quoted hquote => exact apart_concat _ (by simp [isWordChar, hquote]) after
  | unclosed hquote => exact apart_concat [] (by simp [isWordChar, hquote]) after
  | opening => exact apart_concat [] (by decide) after
  | closing => exact apart_concat [] (by decide) after
  | comma => exact apart_concat [] (by decide) after
  | unequal => exact apart_concat ['!'] (by decide) after
  | exclamation => exact apart_concat [] (by decide) after
  | @run _ belongs first rest _ hrun hfirst hrest hafter =>
      have hmem : ∀ c ∈ first :: rest, belongs c = true := by
        simpa using ⟨hfirst, hrest⟩
      cases hrun with
      | operators =>
          apply apart_of_last
          intro c hc
          simp [isWordChar, hmem c (List.mem_of_mem_getLast? hc)]
      | blanks =>
          apply apart_of_last
          intro c hc
          simp [isWordChar, hmem c (List.mem_of_mem_getLast? hc)]
      | words => exact apart_of_head hafter

/-- No word goes on from one token into the next. -/
theorem Lexed.apart {left right : List Token} (hlexed : Lexed (left ++ right)) :
    Apart (textOf left) (textOf right) := by
  induction left with
  | nil => simp [Apart]
  | cons token left ih =>
      cases left with
      | nil => simpa using hlexed.1.apart
      | cons next left =>
          have hne : textOf (next :: left) ≠ [] := by
            simp [hlexed.2.1.text_ne_nil]
          intro c hc
          rw [textOf_cons, List.getLast?_append_of_ne_nil _ hne] at hc
          exact ih hlexed.2 c hc

theorem Apart.append {before left right after : List Char}
    (houter : Apart before (left ++ right ++ after))
    (hinner : Apart left right) (hback : Apart (before ++ left ++ right) after) :
    Apart (before ++ left) (right ++ after) := by
  by_cases hleft : left = []
  · subst hleft
    simpa using houter
  by_cases hright : right = []
  · subst hright
    simpa using hback
  intro c hc d hd
  rw [List.getLast?_append_of_ne_nil _ hleft] at hc
  rw [List.head?_append_of_ne_nil _ hright] at hd
  exact hinner c hc d hd

theorem Fits.split {before after : List Char} {left right : List Token}
    (hlexed : Lexed (left ++ right)) (hfits : Fits before (textOf (left ++ right)) after) :
    Fits before (textOf left) (textOf right ++ after) ∧
      Fits (before ++ textOf left) (textOf right) after := by
  obtain ⟨hleft, hright⟩ := hfits
  rw [textOf_append] at hleft hright
  have hbetween : Apart (before ++ textOf left) (textOf right ++ after) :=
    Apart.append hleft hlexed.apart (by simpa using hright)
  exact ⟨⟨by simpa using hleft, hbetween⟩, hbetween, by simpa using hright⟩

/-! ### Gaps made of tokens -/

theorem isMark_of_isWrapping {tokens : List Token} (hlexed : Lexed tokens)
    (hwraps : ∀ token ∈ tokens, isWrapping token = true) :
    ∀ c ∈ textOf tokens, isMark c = true := by
  intro c hc
  obtain ⟨token, hmem, hc⟩ := List.mem_flatMap.mp hc
  obtain ⟨after, hreads⟩ := hlexed.reads_of_mem hmem
  have hkinds := hwraps token hmem
  simp only [isWrapping, Bool.or_eq_true, decide_eq_true_eq] at hkinds
  rcases hkinds with (hblank | hopening) | hclosing
  · simp [isMark, hreads.isBlank_of_mem hblank hc]
  · rw [hreads.text_of_fixed (congrArg fixedChar? hopening), List.mem_singleton] at hc
    subst hc
    decide
  · rw [hreads.text_of_fixed (congrArg fixedChar? hclosing), List.mem_singleton] at hc
    subst hc
    decide

/-! ### Texts and their slices -/

/-- The slices make up the text, wherever none of its words is cut in two. -/
def Yields (text : List Char) (slices : List (List Char)) : Prop :=
  ∀ before after, Fits before text after → Laid before slices text after

theorem yields_slice (text : List Char) : Yields text [text] :=
  fun before after _ => laid_slice before text after

theorem yields_marks {text : List Char} (hmarks : ∀ c ∈ text, isMark c = true) :
    Yields text [] :=
  fun before after _ => laid_marks hmarks before after

theorem Yields.append {left right : List Token} {slices others : List (List Char)}
    (hlexed : Lexed (left ++ right)) (hleft : Yields (textOf left) slices)
    (hright : Yields (textOf right) others) :
    Yields (textOf (left ++ right)) (slices ++ others) := by
  intro before after hfits
  obtain ⟨hfront, hback⟩ := hfits.split hlexed
  rw [textOf_append]
  exact (hleft before _ hfront).append (hright _ after hback)

/-- Marks around a text add nothing to its slices. -/
theorem Yields.enclosed {front text back : List Char} {slices : List (List Char)}
    (hfront : ∀ c ∈ front, isMark c = true) (hback : ∀ c ∈ back, isMark c = true)
    (htext : Yields text slices) : Yields (front ++ text ++ back) slices := by
  intro before after hfits
  have hinside := htext _ _ (hfits.inside hfront hback)
  rw [List.append_assoc]
  have hrest := hinside.append (laid_marks hback (before ++ front ++ text) after)
  rw [List.append_nil] at hrest
  exact (laid_marks hfront before (text ++ back ++ after)).append hrest

theorem Yields.wrapped {before tokens after : List Token} {slices : List (List Char)}
    (hlexed : Lexed (before ++ tokens ++ after))
    (hwraps : ∀ token ∈ before ++ after, isWrapping token = true)
    (htokens : Yields (textOf tokens) slices) :
    Yields (textOf (before ++ tokens ++ after)) slices := by
  rw [textOf_append, textOf_append]
  exact htokens.enclosed
    (isMark_of_isWrapping hlexed.left.left fun token hmem =>
      hwraps token (List.mem_append_left after hmem))
    (isMark_of_isWrapping hlexed.right fun token hmem =>
      hwraps token (List.mem_append_right before hmem))

theorem isWrapping_of_isBlank {token : Token} (hblank : token.isBlank = true) :
    isWrapping token = true := by
  simp [isWrapping, hblank]

theorem Yields.of_trim {tokens : List Token} {slices : List (List Char)}
    (hlexed : Lexed tokens) (htrim : Yields (textOf (trim tokens)) slices) :
    Yields (textOf tokens) slices := by
  obtain ⟨before, after, htokens, hblanks⟩ := trim_decomposition tokens
  rw [htokens] at hlexed ⊢
  exact htrim.wrapped hlexed fun token hmem => isWrapping_of_isBlank (hblanks token hmem)

theorem Yields.of_source {tokens : List Token} {slices : List (List Char)}
    (hlexed : Lexed tokens) (hsource : Yields (source tokens) slices) :
    Yields (textOf tokens) slices :=
  Yields.of_trim hlexed hsource

theorem yields_comma {token : Token} {after : List Char} (hreads : Reads token after)
    (hcomma : token.isComma = true) : Yields token.text [] := by
  simp only [isComma, decide_eq_true_eq] at hcomma
  apply yields_marks
  rw [hreads.text_of_fixed (congrArg fixedChar? hcomma)]
  simp [isMark]

/-- Where a word fits, no word ends right before it and none begins right after. -/
theorem Fits.alone {before word after : List Char} (hfits : Fits before word after)
    (hword : IsName word) : (∀ d ∈ before.getLast?, isWordChar d = false) ∧
      ∀ d ∈ after.head?, isWordChar d = false := by
  constructor
  · obtain ⟨c, rest, rfl⟩ := List.exists_cons_of_ne_nil hword.ne_nil
    intro d hd
    by_contra hchar
    have hfalse := hfits.left d hd c rfl (Bool.not_eq_false _ ▸ hchar)
    rw [hword.chars c List.mem_cons_self] at hfalse
    contradiction
  · obtain ⟨front, c, rfl⟩ := (List.eq_nil_or_concat word).resolve_left hword.ne_nil
    exact fun d hd => hfits.right c (by simp) d hd (hword.chars c (by simp))

theorem yields_separator {token : Token} {word : String} (hknown : word ∈ groupWords)
    (hword : token.isWord word = true) : Yields token.text [] := by
  simp only [isWord, Bool.and_eq_true, decide_eq_true_eq] at hword
  intro before after hfits
  rw [hword.2] at hfits ⊢
  obtain ⟨hbefore, hafter⟩ := hfits.alone
    (isName_of_grammarWord (mem_grammarWords_of_groupWords hknown))
  exact laid_gap (.separator hknown hbefore hafter)

/-- The name of a call stands right before its opening parenthesis. -/
theorem yields_callName {word opening : Token} {rest : List Token} {name : String}
    {slices : List (List Char)} (hlexed : Lexed (word :: opening :: rest))
    (hname : name ∈ ownCalls) (hword : word.text = name.toList)
    (hopening : opening.kind = .opening) (hrest : Yields (textOf (opening :: rest)) slices) :
    Yields (textOf (word :: opening :: rest)) slices := by
  intro before after hfits
  obtain ⟨hfront, hback⟩ :=
    Fits.split (show Lexed ([word] ++ opening :: rest) from hlexed) hfits
  have hopen : opening.text = ['('] :=
    hlexed.2.1.text_of_fixed (congrArg fixedChar? hopening)
  rw [textOf_cons, textOf_nil, List.append_nil, hword] at hfront hback
  obtain ⟨hbefore, -⟩ := hfront.alone
    (isName_of_grammarWord (mem_grammarWords_of_ownCalls hname))
  have htext : textOf (word :: opening :: rest) = name.toList ++ textOf (opening :: rest) := by
    rw [textOf_cons, hword]
  rw [htext]
  exact .dropped (.callName hname hbefore (by simp [hopen])) (hrest _ _ hback)

/-! ### Parts between separators -/

/-- What holds of the parts and says nothing of the separators holds of the whole. -/
theorem Parted.combine {α : Type} (covers : List α → List Char → Prop)
    {separates : Token → Bool}
    (happend : ∀ left right items others, Lexed (left ++ right) → covers items (textOf left) →
      covers others (textOf right) → covers (items ++ others) (textOf (left ++ right)))
    (hseparator : ∀ token after, Reads token after → separates token = true →
      covers [] token.text)
    {tokens first : List Token} {parts : List (List Token)}
    (hparted : Parted separates tokens first parts) (hlexed : Lexed tokens)
    {itemss : List (List α)}
    (hparts : List.Forall₂ (fun part items => Lexed part → covers items (textOf part))
      (first :: parts) itemss) :
    covers itemss.flatten (textOf tokens) := by
  induction hparted generalizing itemss with
  | last tokens =>
      obtain _ | ⟨hpart, ⟨⟩⟩ := hparts
      simpa using hpart hlexed
  | @more part separator rest next parts hseparates _ ih =>
      obtain _ | @⟨_, items, _, others, hpart, hothers⟩ := hparts
      have hrest : covers others.flatten (textOf rest) := ih hlexed.right.2 hothers
      have hback : covers ([] ++ others.flatten) (textOf ([separator] ++ rest)) := by
        refine happend [separator] rest _ _ hlexed.right ?_ hrest
        simpa using hseparator separator _ hlexed.right.1 hseparates
      exact happend part (separator :: rest) _ _ hlexed (hpart hlexed.left) hback

theorem parted_split {separates : Token → Bool} {limit : Option Nat}
    {tokens first : List Token} {parts : List (List Token)}
    (hsplit : split separates limit tokens = first :: parts) :
    Parted separates tokens first parts := by
  obtain ⟨rfl, rfl⟩ := List.cons_eq_cons.mp hsplit
  exact parted_cut limit 0 tokens

end SurveyForm.Token
