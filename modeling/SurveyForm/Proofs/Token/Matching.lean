import Mathlib.Data.List.Infix
import SurveyForm.Proofs.Token.Nesting
/-!
Which parentheses belong to each other.  A call is recognized exactly if the
parenthesis behind its name is closed by the last token.  Of parentheses around the
whole, only such a pair should be taken off; but an opening one that is never closed
is taken off as well, together with a closing one that belongs to another.
-/

namespace SurveyForm.Token

/-! ### Calls -/

/-- How many of the tokens are opening parentheses. -/
def opened (tokens : List Token) : Nat :=
  tokens.countP fun token => token.kind = .opening

/-- How many of the tokens are closing parentheses. -/
def closed (tokens : List Token) : Nat :=
  tokens.countP fun token => token.kind = .closing

theorem level_eq_opened_sub_closed (tokens : List Token) :
    level tokens = (opened tokens : Int) - closed tokens := by
  induction tokens with
  | nil => rfl
  | cons token rest ih =>
      have hweight : weight token = (if token.kind = .opening then 1 else 0) -
          (if token.kind = .closing then 1 else 0) := by
        cases hkind : token.kind <;> simp [weight, hkind]
      simp only [level_cons, ih, hweight, opened, closed, List.countP_cons, decide_eq_true_eq]
      split_ifs <;> omega

theorem balanced_iff_counts {tokens : List Token} :
    Balanced tokens ↔ closed tokens = opened tokens ∧
      ∀ front back, tokens = front ++ back → closed front ≤ opened front := by
  have hlevel := level_eq_opened_sub_closed
  constructor
  · intro hbalanced
    refine ⟨?_, fun front back heq => ?_⟩
    · have := hbalanced.level_eq
      rw [hlevel] at this
      omega
    · have := hbalanced.nonneg front back heq
      rw [hlevel] at this
      omega
  · rintro ⟨hcounts, hfronts⟩
    refine ⟨?_, fun front back heq => ?_⟩
    · rw [hlevel]
      omega
    · have := hfronts front back heq
      rw [hlevel]
      omega

/-- Apart from blanks around it, a word, an opening parenthesis, the inner tokens and a
closing parenthesis.  The inner tokens have as many closing as opening parentheses, and
at no place have more been closed than opened. -/
def SpellsCall (tokens : List Token) (name : String) (inner : List Token) : Prop :=
  ∃ before word opening closing after,
    tokens = before ++ (word :: opening :: inner ++ [closing]) ++ after ∧
      (∀ token ∈ before ++ after, token.isBlank = true) ∧ word.kind = .word ∧
      opening.kind = .opening ∧ closing.kind = .closing ∧ String.ofList word.text = name ∧
      closed inner = opened inner ∧
      ∀ front back, inner = front ++ back → closed front ≤ opened front

/-- Blanks are taken off up to the first and the last token that is none. -/
theorem trim_eq_of_ends {before after middle : List Token} {first last : Token}
    (hblanks : ∀ token ∈ before ++ after, token.isBlank = true)
    (hfirst : first.isBlank = false) (hlast : last.isBlank = false) :
    trim (before ++ (first :: middle ++ [last]) ++ after) = first :: middle ++ [last] := by
  obtain ⟨hbefore, hafter⟩ := List.forall_mem_append.mp hblanks
  refine Text.trimList_eq hbefore hafter ⟨by simpa using hfirst, ?_⟩
  rw [List.getLast?_append_of_ne_nil _ (List.cons_ne_nil last [])]
  simpa using hlast

theorem isBlank_eq_false {token : Token} {kind : TokenKind} (hkind : token.kind = kind)
    (hblank : kind ≠ .blank) : token.isBlank = false := by
  simpa [Token.isBlank, hkind] using hblank

theorem spellsCall_iff {tokens inner : List Token} {name : String} :
    SpellsCall tokens name inner ↔ call? tokens = some (name, inner) := by
  rw [call?_eq_some_iff]
  constructor
  · rintro ⟨before, word, opening, closing, after, rfl, hblanks, hword, hopening, hclosing, rfl,
      hcounts⟩
    refine ⟨word, opening, closing, ?_, hword, hopening, hclosing, rfl,
      balanced_iff_counts.mpr hcounts⟩
    exact trim_eq_of_ends hblanks (isBlank_eq_false hword (by decide))
      (isBlank_eq_false hclosing (by decide))
  · rintro ⟨word, opening, closing, htrim, hword, hopening, hclosing, rfl, hinner⟩
    obtain ⟨before, after, htokens, hblanks⟩ := trim_decomposition tokens
    rw [htrim] at htokens
    exact ⟨before, word, opening, closing, after, htokens, hblanks, hword, hopening, hclosing, rfl,
      balanced_iff_counts.mp hinner⟩

/-- Tokens are recognized as a call of a name with inner tokens exactly if they spell it, and
as no call exactly if they spell none. -/
theorem call?_recognizes_spelled (tokens : List Token) :
    (∀ name inner, call? tokens = some (name, inner) ↔ SpellsCall tokens name inner) ∧
      (call? tokens = none ↔ ∀ name inner, ¬SpellsCall tokens name inner) := by
  refine ⟨fun name inner => spellsCall_iff.symm, ?_⟩
  rw [Option.eq_none_iff_forall_ne_some]
  constructor
  · intro hnone name inner hspells
    exact hnone (name, inner) (spellsCall_iff.mp hspells)
  · intro hnone call hcall
    exact hnone call.1 call.2 (spellsCall_iff.mpr hcall)

/-! ### Parentheses around the whole -/

/-- Nowhere have more parentheses been closed than opened. -/
def NeverBelow (tokens : List Token) : Prop :=
  ∀ front back, tokens = front ++ back → 0 ≤ level front

instance (tokens : List Token) : Decidable (NeverBelow tokens) :=
  decidable_of_iff (∀ front ∈ tokens.inits, 0 ≤ level front)
    ⟨fun hinits front back heq => hinits front ((List.mem_inits _ _).mpr ⟨back, heq.symm⟩),
      fun htokens front hmem => by
        obtain ⟨back, heq⟩ := (List.mem_inits _ _).mp hmem
        exact htokens front back heq.symm⟩

theorem balanced_iff_neverBelow {tokens : List Token} :
    Balanced tokens ↔ NeverBelow tokens ∧ level tokens = 0 := by
  constructor
  · intro hbalanced
    exact ⟨fun front back heq => by simpa using hbalanced.nonneg front back heq,
      by simpa using hbalanced.level_eq⟩
  · rintro ⟨hnever, hlevel⟩
    exact ⟨by simpa using hlevel, fun front back heq => by simpa using hnever front back heq⟩

/-- `Peels tokens inners core`: the core is left of the tokens when blanks at the ends and
pairs of an opening and a closing parenthesis are taken off in turn; the inner tokens are
what each pair stood around, from the outermost on. -/
inductive Peels : List Token → List (List Token) → List Token → Prop
  | bare {before core after : List Token}
      (hblanks : ∀ token ∈ before ++ after, token.isBlank = true) :
      Peels (before ++ core ++ after) [] core
  | pair {before inner after core : List Token} {opening closing : Token}
      {inners : List (List Token)}
      (hblanks : ∀ token ∈ before ++ after, token.isBlank = true)
      (hopening : opening.kind = .opening) (hclosing : closing.kind = .closing)
      (hinner : Peels inner inners core) :
      Peels (before ++ (opening :: inner ++ [closing]) ++ after) (inner :: inners) core

/-- What is left is one stretch of the tokens. -/
theorem Peels.stretch {tokens core : List Token} {inners : List (List Token)}
    (hpeels : Peels tokens inners core) : core <:+: tokens := by
  induction hpeels with
  | bare => exact ⟨_, _, rfl⟩
  | @pair before inner after core opening closing inners _ _ _ _ ih =>
      obtain ⟨front, back, rfl⟩ := ih
      exact ⟨before ++ opening :: front, back ++ closing :: after, by simp⟩

/-- Every pair that is taken off stands around balanced tokens, so that its parentheses
match. -/
def DropsMatching (tokens : List Token) : Prop :=
  ∃ inners, Peels tokens inners (unwrap tokens) ∧ ∀ inner ∈ inners, Balanced inner

/-- Apart from blanks, an opening parenthesis that nothing closes up to a closing one at the
end, which belongs to another. -/
def LeftOpen (tokens : List Token) : Prop :=
  ∃ before opening inner closing after,
    tokens = before ++ (opening :: inner ++ [closing]) ++ after ∧
      (∀ token ∈ before ++ after, token.isBlank = true) ∧ opening.kind = .opening ∧
      closing.kind = .closing ∧ NeverBelow inner ∧ 0 < level inner

/-- Where a pair is taken off, the opening parenthesis is not closed before the end, but need
not be closed there. -/
theorem endsEnclosure_append_iff {inner : List Token} {closing : Token}
    (hclosing : closing.kind = .closing) :
    endsEnclosure (inner ++ [closing]) = true ↔ NeverBelow inner := by
  constructor
  · intro hends front back heq
    exact nonneg_of_endsEnclosure hends (by rw [List.dropLast_concat, heq])
  · intro hnever
    rw [endsEnclosure, Bool.and_eq_true]
    refine ⟨by simpa using hclosing, ?_⟩
    split
    · rename_i found next more hfound
      obtain ⟨closer, hkind, heq, hcloses⟩ := untilClose_eq_some_iff.mp hfound
      have hfront : inner = (found ++ [closer]) ++ (next :: more).dropLast := by
        have hdrop := congrArg List.dropLast heq
        rw [List.dropLast_concat, List.dropLast_append_of_ne_nil (List.cons_ne_nil _ _),
          List.dropLast_cons_of_ne_nil (List.cons_ne_nil _ _)] at hdrop
        simpa using hdrop
      have hnonneg := hnever _ _ hfront
      have hlevel := hcloses.level_eq
      rw [level_append, level_cons, weight_closing hkind, level_nil] at hnonneg
      omega
    · rfl

/-! ### What is taken off -/

/-- What taking off leaves: no blanks at the ends, and no parentheses to take off. -/
structure Bare (tokens : List Token) : Prop where
  trimmed : Text.Trimmed isBlank tokens
  not_ends : ∀ first rest, tokens = first :: rest → first.kind = .opening →
    endsEnclosure rest = false

theorem Bare.not_enclosed {tokens : List Token} (hbare : Bare tokens) : ¬Enclosed tokens := by
  rintro ⟨opening, inner, closing, rfl, hopening, hclosing, hinner⟩
  have hends := (endsEnclosure_append_iff hclosing).mpr (balanced_iff_neverBelow.mp hinner).1
  rw [hbare.not_ends opening (inner ++ [closing]) rfl hopening] at hends
  contradiction

section Turns

variable {before after : List Token} (hblanks : ∀ token ∈ before ++ after, token.isBlank = true)
include hblanks

/-- The last turn takes off the blanks. -/
theorem unwrap_bare {core : List Token} (hbare : Bare core) :
    unwrap (before ++ core ++ after) = core := by
  obtain ⟨hbefore, hafter⟩ := List.forall_mem_append.mp hblanks
  have htrim : trim (before ++ core ++ after) = core :=
    Text.trimList_eq hbefore hafter hbare.trimmed
  rw [unwrap_eq_trim, htrim]
  rw [htrim]
  exact hbare.not_ends

variable {opening closing : Token} (hopening : opening.kind = .opening)
  (hclosing : closing.kind = .closing)
include hopening hclosing

theorem trim_pair (inner : List Token) :
    trim (before ++ (opening :: inner ++ [closing]) ++ after) = opening :: (inner ++ [closing]) :=
  trim_eq_of_ends hblanks (isBlank_eq_false hopening (by decide))
    (isBlank_eq_false hclosing (by decide))

/-- Any other turn takes off a pair whose opening parenthesis is not closed before the end. -/
theorem unwrap_pair {inner : List Token} (hnever : NeverBelow inner) :
    unwrap (before ++ (opening :: inner ++ [closing]) ++ after) = unwrap inner := by
  have hends := (endsEnclosure_append_iff hclosing).mpr hnever
  rw [unwrap_enclosed (trim_pair hblanks hopening hclosing inner) hopening hends,
    List.dropLast_concat]

theorem level_pair (inner : List Token) :
    level (before ++ (opening :: inner ++ [closing]) ++ after) = level inner := by
  obtain ⟨hbefore, hafter⟩ := List.forall_mem_append.mp hblanks
  simp only [level_append, level_cons, level_nil, level_of_isBlank hbefore,
    level_of_isBlank hafter, weight_opening hopening, weight_closing hclosing]
  omega

end Turns

/-- What holds of bare tokens between blanks, and of tokens in parentheses that are taken off
if it holds of those inside, holds of all tokens. -/
theorem unwrap_turns {motive : List Token → Prop}
    (bare : ∀ {before core after : List Token},
      (∀ token ∈ before ++ after, token.isBlank = true) → Bare core →
      motive (before ++ core ++ after))
    (pair : ∀ {before inner after : List Token} {opening closing : Token},
      (∀ token ∈ before ++ after, token.isBlank = true) → opening.kind = .opening →
      closing.kind = .closing → NeverBelow inner → motive inner →
      motive (before ++ (opening :: inner ++ [closing]) ++ after)) (tokens : List Token) :
    motive tokens := by
  induction tokens using unwrap.induct with
  | case1 tokens htrim =>
      obtain ⟨before, after, htokens, hblanks⟩ := trim_decomposition tokens
      have hbare : Bare (trim tokens) := by
        rw [htrim]
        exact ⟨Text.trimmed_nil, by simp⟩
      have hmotive := bare hblanks hbare
      rwa [← htokens] at hmotive
  | case2 tokens first rest htrim hwrapped ih =>
      obtain ⟨before, after, htokens, hblanks⟩ := trim_decomposition tokens
      obtain ⟨closing, hrest, hclosing⟩ := exists_closing_of_endsEnclosure hwrapped.2
      have hnever : NeverBelow rest.dropLast := by
        rw [← endsEnclosure_append_iff hclosing, ← hrest]
        exact hwrapped.2
      have hmotive := pair hblanks hwrapped.1 hclosing hnever ih
      rwa [List.cons_append, ← hrest, ← htrim, ← htokens] at hmotive
  | case3 tokens first rest htrim hwrapped =>
      obtain ⟨before, after, htokens, hblanks⟩ := trim_decomposition tokens
      have hbare : Bare (trim tokens) := by
        refine ⟨Text.trimmed_trimList isBlank tokens, ?_⟩
        intro other tail hcons hopening
        obtain ⟨rfl, rfl⟩ := List.cons_eq_cons.mp (htrim.symm.trans hcons)
        simpa [hopening] using hwrapped
      have hmotive := bare hblanks hbare
      rwa [← htokens] at hmotive

theorem bare_unwrap (tokens : List Token) : Bare (unwrap tokens) := by
  induction tokens using unwrap_turns with
  | bare hblanks hbare => rwa [unwrap_bare hblanks hbare]
  | pair hblanks hopening hclosing hnever ih =>
      rwa [unwrap_pair hblanks hopening hclosing hnever]

theorem unwrap_unwrap (tokens : List Token) : unwrap (unwrap tokens) = unwrap tokens := by
  have hblanks : ∀ token ∈ ([] : List Token) ++ [], token.isBlank = true := by simp
  simpa using unwrap_bare hblanks (bare_unwrap tokens)

/-- Inside each pair there are no more and no fewer parentheses open at the end than in all
the tokens. -/
theorem Peels.level_eq {tokens core : List Token} {inners : List (List Token)}
    (hpeels : Peels tokens inners core) : ∀ inner ∈ inners, level inner = level tokens := by
  induction hpeels with
  | bare => simp
  | pair hblanks hopening hclosing _ ih =>
      rw [level_pair hblanks hopening hclosing]
      exact List.forall_mem_cons.mpr ⟨rfl, ih⟩

theorem Peels.trim_eq {tokens core : List Token} (hpeels : Peels tokens [] core)
    (hcore : Text.Trimmed isBlank core) : trim tokens = core := by
  cases hpeels with
  | bare hblanks =>
      obtain ⟨hbefore, hafter⟩ := List.forall_mem_append.mp hblanks
      exact Text.trimList_eq hbefore hafter hcore

/-- Only pairs of parentheses are taken off, around tokens that never close more than they
open. -/
theorem peels_unwrap (tokens : List Token) :
    ∃ inners, Peels tokens inners (unwrap tokens) ∧ ∀ inner ∈ inners, NeverBelow inner := by
  induction tokens using unwrap_turns with
  | bare hblanks hbare =>
      rw [unwrap_bare hblanks hbare]
      exact ⟨[], .bare hblanks, by simp⟩
  | @pair before inner after opening closing hblanks hopening hclosing hnever ih =>
      obtain ⟨inners, hpeels, hinners⟩ := ih
      rw [unwrap_pair hblanks hopening hclosing hnever]
      exact ⟨inner :: inners, .pair hblanks hopening hclosing hpeels,
        List.forall_mem_cons.mpr ⟨hnever, hinners⟩⟩

theorem unwrap_stretch (tokens : List Token) : unwrap tokens <:+: tokens := by
  obtain ⟨_, hpeels, -⟩ := peels_unwrap tokens
  exact hpeels.stretch

theorem LeftOpen.level_pos {tokens : List Token} (hopen : LeftOpen tokens) :
    0 < level tokens := by
  obtain ⟨_, _, _, _, _, rfl, hblanks, hopening, hclosing, -, hlevel⟩ := hopen
  rwa [level_pair hblanks hopening hclosing]

/-- The parenthesis that is never closed is taken off, and what it stood before is not
balanced. -/
theorem LeftOpen.not_dropsMatching {tokens : List Token} (hopen : LeftOpen tokens) :
    ¬DropsMatching tokens := by
  rintro ⟨inners, hpeels, hbalanced⟩
  cases inners with
  | nil =>
      obtain ⟨before, opening, inner, closing, after, rfl, hblanks, hopening, hclosing, hnever,
        -⟩ := hopen
      have htrim := hpeels.trim_eq (bare_unwrap _).trimmed
      rw [trim_pair hblanks hopening hclosing,
        unwrap_pair hblanks hopening hclosing hnever] at htrim
      have hlength := (unwrap_stretch inner).length_le
      rw [← htrim] at hlength
      simp only [List.length_cons, List.length_append] at hlength
      omega
  | cons first rest =>
      have hfirst := hpeels.level_eq first List.mem_cons_self
      have hzero := (balanced_iff_neverBelow.mp (hbalanced first List.mem_cons_self)).2
      have hpos := hopen.level_pos
      omega

/-- A pair around tokens that are not balanced leaves the whole open. -/
theorem Peels.leftOpen {tokens core inner : List Token} {inners : List (List Token)}
    (hpeels : Peels tokens (inner :: inners) core) (hnever : NeverBelow inner)
    (hlevel : level inner ≠ 0) : LeftOpen tokens := by
  have hnonneg := hnever inner [] (by simp)
  cases hpeels with
  | pair hblanks hopening hclosing _ =>
      exact ⟨_, _, inner, _, _, rfl, hblanks, hopening, hclosing, hnever, by omega⟩

theorem dropsMatching_iff {tokens : List Token} : DropsMatching tokens ↔ ¬LeftOpen tokens := by
  refine ⟨fun hdrops hopen => hopen.not_dropsMatching hdrops, fun hnot => ?_⟩
  obtain ⟨inners, hpeels, hinners⟩ := peels_unwrap tokens
  refine ⟨inners, hpeels, fun inner hmem => balanced_iff_neverBelow.mpr ⟨hinners inner hmem, ?_⟩⟩
  -- All pairs have the level of the whole inside them, so the first one decides.
  rw [hpeels.level_eq inner hmem]
  obtain ⟨first, others, rfl⟩ := List.exists_cons_of_ne_nil (List.ne_nil_of_mem hmem)
  rw [← hpeels.level_eq first List.mem_cons_self]
  by_contra hlevel
  exact hnot (hpeels.leftOpen (hinners first List.mem_cons_self) hlevel)

/-- What is taken off around tokens are blanks and pairs of an opening and a closing parenthesis
that leave one stretch of the tokens, and no matching pair around that, so that there is nothing
more to take off.  All pairs match unless the tokens are left open. -/
theorem unwrap_dropsMatching_iff (tokens : List Token) :
    (∃ inners, Peels tokens inners (unwrap tokens) ∧ ∀ inner ∈ inners, NeverBelow inner) ∧
      (DropsMatching tokens ↔ ¬LeftOpen tokens) ∧ unwrap tokens <:+: tokens ∧
      ¬Enclosed (unwrap tokens) ∧ unwrap (unwrap tokens) = unwrap tokens :=
  ⟨peels_unwrap tokens, dropsMatching_iff, unwrap_stretch tokens,
    (bare_unwrap tokens).not_enclosed, unwrap_unwrap tokens⟩

/-- Parentheses around the whole of a group, inside others and with blanks between them. -/
def enclosedGroup : List Token :=
  ofText "( (a = 1 or (b = 2)) )".toList

theorem unwrap_dropsMatching_enclosedGroup :
    unwrap enclosedGroup = ofText "a = 1 or (b = 2)".toList ∧ ¬LeftOpen enclosedGroup ∧
      DropsMatching enclosedGroup := by
  have hlevel : level enclosedGroup = 0 := by decide +kernel
  have hnot : ¬LeftOpen enclosedGroup := fun hopen =>
    Int.ne_of_gt hopen.level_pos hlevel
  exact ⟨by decide +kernel, hnot, (unwrap_dropsMatching_iff enclosedGroup).2.1.mpr hnot⟩

/-- A group whose first parenthesis is never closed. -/
def openGroup : List Token :=
  ofText "(a = 1 or (b = 2)".toList

/-- The last parenthesis closes the inner one, but is taken off together with the first. -/
theorem not_dropsMatching_openGroup :
    unwrap openGroup = ofText "a = 1 or (b = 2".toList ∧ ¬DropsMatching openGroup := by
  refine ⟨by decide +kernel, LeftOpen.not_dropsMatching ?_⟩
  refine ⟨[], ⟨.opening, ['(']⟩, ofText "a = 1 or (b = 2".toList, ⟨.closing, [')']⟩, [],
    by decide +kernel, by simp, rfl, rfl, by decide +kernel, by decide +kernel⟩

end SurveyForm.Token
