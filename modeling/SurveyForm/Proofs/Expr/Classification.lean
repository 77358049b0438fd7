import SurveyForm.Proofs.Expr.Slices
/-!
Which kind of node a text is read as.  A call that spans the text is told by its name and by
the commas inside it, and any other text by its first operator, so that a call is never read
as a comparison and every kind is recognized exactly when it should be.
-/

namespace SurveyForm

namespace Token

/-- `FirstAt chosen depth tokens before found after`: the first chosen token that stands where,
counted from `depth`, as many parentheses have been closed as opened. -/
structure FirstAt (chosen : Token → Bool) (depth : Int) (tokens before : List Token)
    (found : Token) (after : List Token) : Prop where
  tokens_eq : tokens = before ++ found :: after
  chosen_eq : chosen found = true
  level_eq : depth + level before = 0
  hides : Hides chosen depth before

/-- Apart from blanks around it, a call of one name with balanced parentheses inside it. -/
def SpansCall (tokens : List Token) (name : String) (inner : List Token) : Prop :=
  ∃ word opening closing, trim tokens = word :: opening :: inner ++ [closing] ∧
    word.kind = .word ∧ opening.kind = .opening ∧ closing.kind = .closing ∧
    name = String.ofList word.text ∧ Balanced inner

/-- Whether the text that the tokens cover has anything but blanks. -/
def Filled (tokens : List Token) : Prop :=
  ∃ c ∈ textOf tokens, Text.isBlank c = false

/-- Cut at the first comma, both parts say something. -/
def HasTwoParts (tokens : List Token) : Prop :=
  ∃ first comma rest, FirstAt isComma 0 tokens first comma rest ∧ Filled first ∧ Filled rest

/-- Cut at the first two commas, all three parts say something. -/
def HasThreeParts (tokens : List Token) : Prop :=
  ∃ first comma others, FirstAt isComma 0 tokens first comma others ∧ Filled first ∧
    HasTwoParts others

/-- Cut at the first operator, both sides say something. -/
def HasSides (tokens : List Token) : Prop :=
  ∃ left operator right, FirstAt isOperator 0 tokens left operator right ∧ Filled left ∧
    Filled right

theorem spansCall_iff {tokens inner : List Token} {name : String} :
    SpansCall tokens name inner ↔ call? tokens = some (name, inner) :=
  call?_eq_some_iff.symm

/-! ### The first chosen token -/

variable {chosen : Token → Bool} {tokens first before after : List Token}
  {found : Token}

theorem firstAt_here {depth : Int} (hdepth : depth = 0) (hchosen : chosen found = true)
    (after : List Token) : FirstAt chosen depth (found :: after) [] found after where
  tokens_eq := rfl
  chosen_eq := hchosen
  level_eq := by simpa using hdepth
  hides := hides_nil

theorem FirstAt.cons {depth : Int} {token : Token}
    (hfirst : FirstAt chosen (depth + weight token) tokens before found after)
    (htoken : depth = 0 → chosen token = false) :
    FirstAt chosen depth (token :: tokens) (token :: before) found after where
  tokens_eq := by rw [hfirst.tokens_eq, List.cons_append]
  chosen_eq := hfirst.chosen_eq
  level_eq := by
    rw [level_cons, ← Int.add_assoc]
    exact hfirst.level_eq
  hides := hides_cons_iff.mpr ⟨htoken, hfirst.hides⟩

/-- A token that is not hidden has a first one before it, or is the first one. -/
theorem hides_or_firstAt (chosen : Token → Bool) (depth : Int) (tokens : List Token) :
    Hides chosen depth tokens ∨
      ∃ before found after, FirstAt chosen depth tokens before found after := by
  induction tokens generalizing depth with
  | nil => exact .inl hides_nil
  | cons token rest ih =>
      by_cases hhere : depth = 0 ∧ chosen token = true
      · exact .inr ⟨[], token, rest, firstAt_here hhere.1 hhere.2 rest⟩
      · have htoken : depth = 0 → chosen token = false := by simpa using hhere
        rcases ih (depth + weight token) with hhides | ⟨before, found, after, hfirst⟩
        · exact .inl (hides_cons_iff.mpr ⟨htoken, hhides⟩)
        · exact .inr ⟨token :: before, found, after, hfirst.cons htoken⟩

theorem weight_of_isComma {token : Token} (hcomma : isComma token = true) : weight token = 0 := by
  simp only [isComma, decide_eq_true_eq] at hcomma
  exact weight_eq_zero (by simp [hcomma]) (by simp [hcomma])

theorem split_of_firstAt {comma : Token} {limit : Option Nat}
    (hfirst : FirstAt isComma 0 tokens before comma after) (hlimit : limit ≠ some 0) :
    split isComma limit tokens = before :: split isComma (limit.map (· - 1)) after := by
  have hlevel : level before = 0 := by simpa using hfirst.level_eq
  rw [hfirst.tokens_eq]
  exact split_append hfirst.hides hlevel hfirst.chosen_eq (weight_of_isComma hfirst.chosen_eq)
    hlimit after

/-- More than one part comes of cutting at the first comma and going on behind it. -/
theorem split_eq_cons_iff {n : Nat} {second : List Token} {parts : List (List Token)} :
    split isComma (some (n + 1)) tokens = first :: second :: parts ↔
      ∃ comma rest, FirstAt isComma 0 tokens first comma rest ∧
        split isComma (some n) rest = second :: parts := by
  constructor
  · intro hsplit
    rcases hides_or_firstAt isComma 0 tokens with hhides | ⟨before, comma, rest, hfirst⟩
    · rw [split_of_hides hhides] at hsplit
      simp at hsplit
    · rw [split_of_firstAt hfirst (by simp)] at hsplit
      obtain ⟨rfl, hrest⟩ := List.cons_eq_cons.mp hsplit
      exact ⟨comma, rest, hfirst, hrest⟩
  · rintro ⟨comma, rest, hfirst, hrest⟩
    rw [split_of_firstAt hfirst (by simp)]
    exact congrArg (first :: ·) hrest

theorem split_zero_eq_iff {part : List Token} :
    split isComma (some 0) tokens = [part] ↔ tokens = part := by
  rw [split_zero, List.cons_eq_cons]
  exact and_iff_left rfl

/-! ### Blank stretches -/

theorem trim_eq_nil_iff (hlexed : Lexed tokens) : trim tokens = [] ↔ source tokens = [] := by
  obtain ⟨front, back, htokens, -⟩ := trim_decomposition tokens
  rw [htokens] at hlexed
  rw [source]
  constructor
  · intro htrim
    rw [htrim, List.flatMap_nil]
  · intro hsource
    cases htrim : trim tokens with
    | nil => rfl
    | cons token rest =>
        rw [htrim] at hlexed hsource
        exact absurd (List.append_eq_nil_iff.mp hsource).1 hlexed.left.right.1.text_ne_nil

theorem source_ne_nil_iff (hlexed : Lexed tokens) : source tokens ≠ [] ↔ Filled tokens := by
  rw [source_eq_trim hlexed, Text.trim, Ne, Text.trimList_eq_nil_iff, Filled]
  simp

theorem FirstAt.lexed {depth : Int} (hfirst : FirstAt chosen depth tokens before found after)
    (hlexed : Lexed tokens) : Lexed before ∧ Lexed after := by
  rw [hfirst.tokens_eq] at hlexed
  exact ⟨hlexed.left, hlexed.right.2⟩

theorem hasTwoParts_iff (hlexed : Lexed tokens) :
    HasTwoParts tokens ↔ ∃ first rest, split isComma (some 1) tokens = [first, rest] ∧
      source first ≠ [] ∧ source rest ≠ [] := by
  constructor
  · rintro ⟨first, comma, rest, hfirst, hfilled, hrest⟩
    obtain ⟨hbefore, hafter⟩ := hfirst.lexed hlexed
    rw [← source_ne_nil_iff hbefore] at hfilled
    rw [← source_ne_nil_iff hafter] at hrest
    exact ⟨first, rest, split_eq_cons_iff.mpr ⟨comma, rest, hfirst, split_zero rest⟩, hfilled,
      hrest⟩
  · rintro ⟨first, rest, hsplit, hfilled, hrest⟩
    obtain ⟨comma, other, hfirst, hother⟩ := split_eq_cons_iff.mp hsplit
    obtain rfl := split_zero_eq_iff.mp hother
    obtain ⟨hbefore, hafter⟩ := hfirst.lexed hlexed
    exact ⟨first, comma, other, hfirst, (source_ne_nil_iff hbefore).mp hfilled,
      (source_ne_nil_iff hafter).mp hrest⟩

theorem hasThreeParts_iff (hlexed : Lexed tokens) :
    HasThreeParts tokens ↔
      ∃ first second rest, split isComma (some 2) tokens = [first, second, rest] ∧
        source first ≠ [] ∧ source second ≠ [] ∧ source rest ≠ [] := by
  constructor
  · rintro ⟨first, comma, others, hfirst, hfilled, hothers⟩
    obtain ⟨hbefore, hafter⟩ := hfirst.lexed hlexed
    obtain ⟨second, rest, hsplit, hparts⟩ := (hasTwoParts_iff hafter).mp hothers
    exact ⟨first, second, rest, split_eq_cons_iff.mpr ⟨comma, others, hfirst, hsplit⟩,
      (source_ne_nil_iff hbefore).mpr hfilled, hparts⟩
  · rintro ⟨first, second, rest, hsplit, hfilled, hparts⟩
    obtain ⟨comma, others, hfirst, hothers⟩ := split_eq_cons_iff.mp hsplit
    obtain ⟨hbefore, hafter⟩ := hfirst.lexed hlexed
    exact ⟨first, comma, others, hfirst, (source_ne_nil_iff hbefore).mp hfilled,
      (hasTwoParts_iff hafter).mpr ⟨second, rest, hothers, hparts⟩⟩

theorem atOperator?_eq_some_iff_firstAt {depth : Int} {left right : List Token}
    {operator : Token} :
    atOperator? depth tokens = some (left, operator, right) ↔
      FirstAt isOperator depth tokens left operator right := by
  rw [atOperator?_eq_some_iff]
  constructor
  · rintro ⟨htokens, hkind, hlevel, hhides⟩
    exact ⟨htokens, by simpa [isOperator] using hkind, hlevel, hhides⟩
  · rintro ⟨htokens, hkind, hlevel, hhides⟩
    exact ⟨htokens, by simpa [isOperator] using hkind, hlevel, hhides⟩

theorem hasSides_iff (hlexed : Lexed tokens) :
    HasSides tokens ↔ ∃ left operator right, atOperator? 0 tokens = some (left, operator, right) ∧
      source left ≠ [] ∧ source right ≠ [] := by
  constructor
  · rintro ⟨left, operator, right, hfirst, hleft, hright⟩
    obtain ⟨hbefore, hafter⟩ := hfirst.lexed hlexed
    exact ⟨left, operator, right, atOperator?_eq_some_iff_firstAt.mpr hfirst,
      (source_ne_nil_iff hbefore).mpr hleft, (source_ne_nil_iff hafter).mpr hright⟩
  · rintro ⟨left, operator, right, hoperator, hleft, hright⟩
    have hfirst := atOperator?_eq_some_iff_firstAt.mp hoperator
    obtain ⟨hbefore, hafter⟩ := hfirst.lexed hlexed
    exact ⟨left, operator, right, hfirst, (source_ne_nil_iff hbefore).mp hleft,
      (source_ne_nil_iff hafter).mp hright⟩

end Token

namespace ExprOver

/-- What a node is, whatever it holds. -/
inductive Kind where
  | absent
  | call
  | conditional
  | matching
  | comparison
  | group
  | unparsed
deriving DecidableEq, Repr

def kind {α : Type} : ExprOver α → Kind
  | .absent => .absent
  | .call .. => .call
  | .conditional .. => .conditional
  | .matching .. => .matching
  | .comparison .. => .comparison
  | .group _ => .group
  | .unparsed _ => .unparsed

end ExprOver

namespace Expr

open Token (Lexed SpansCall FirstAt Filled HasTwoParts HasThreeParts HasSides isOperator ofText
  call?)

variable {path name : String} {levels : Nat} {text : List Char} {inner : List Token}

/-- What a call that spans a text is read as, by its name and its parts. -/
structure CallReading (name : String) (inner : List Token) (text : List Char) (expr : Expr) :
    Prop where
  call : expr.kind = .call ↔ name = "concat" ∨ name = "uuid"
  conditional : expr.kind = .conditional ↔ name = "if" ∧ HasThreeParts inner
  matching : expr.kind = .matching ↔ (name = "selected" ∨ name = "regex") ∧ HasTwoParts inner
  comparison : expr.kind ≠ .comparison
  unparsed : expr = .unparsed (String.ofList text) ↔
    ¬(name = "concat" ∨ name = "uuid") ∧ ¬(name = "if" ∧ HasThreeParts inner) ∧
      ¬((name = "selected" ∨ name = "regex") ∧ HasTwoParts inner)

/-- What a text is read as that no call spans, by its first operator. -/
structure PlainReading (text : List Char) (expr : Expr) : Prop where
  comparison : expr.kind = .comparison ↔ HasSides (ofText text)
  wrapper : ∀ op path value wrapper, expr = .comparison op path value wrapper →
    ∀ left operator right, FirstAt isOperator 0 (ofText text) left operator right →
      ∀ name, wrapper = some name ↔ ∃ inner, SpansCall left name inner ∧ Filled inner
  unparsed : expr = .unparsed (String.ofList text) ↔ ¬HasSides (ofText text)

theorem exists_matchFunction?_iff :
    (∃ op, matchFunction? name = some op) ↔ name = "selected" ∨ name = "regex" := by
  unfold matchFunction?
  split
  · simp
  · simp
  · simp_all

/-! ### Calls -/

/-- At most one rule knows a name. -/
theorem ne_of_valueFunction (hname : name = "concat" ∨ name = "uuid") :
    name ≠ "if" ∧ ¬(name = "selected" ∨ name = "regex") := by
  rcases hname with rfl | rfl <;> decide

theorem not_valueFunction_if : ¬("if" = "concat" ∨ "if" = "uuid") := by
  decide

theorem not_matchFunction_if : ¬("if" = "selected" ∨ "if" = "regex") := by
  decide

theorem callReading_read (path : String) (levels : Nat)
    (hcall : call? (ofText text) = some (name, inner)) :
    CallReading name inner text (read path (levels + 1) text) := by
  have hlexed := lexed_of_call? (Token.lexed_ofText text).2 hcall
  have hread := readBy_read path levels text
  generalize read path (levels + 1) text = expr at hread
  cases hread with
  | value hsome hname =>
      rw [hcall, Option.some.injEq, Prod.mk.injEq] at hsome
      obtain ⟨rfl, rfl⟩ := hsome
      have hvalue := mem_valueFunctions_iff.mp hname
      obtain ⟨hif, hmatch⟩ := ne_of_valueFunction hvalue
      exact {
        call := iff_of_true rfl hvalue
        conditional := iff_of_false nofun fun hparts => hif hparts.1
        matching := iff_of_false nofun fun hparts => hmatch hparts.1
        comparison := nofun
        unparsed := iff_of_false nofun fun hnone => hnone.1 hvalue }
  | conditional hsome hsplit hfilled =>
      rw [hcall, Option.some.injEq, Prod.mk.injEq] at hsome
      obtain ⟨rfl, rfl⟩ := hsome
      have hparts := (Token.hasThreeParts_iff hlexed).mpr ⟨_, _, _, hsplit, hfilled⟩
      exact {
        call := iff_of_false nofun not_valueFunction_if
        conditional := iff_of_true rfl ⟨rfl, hparts⟩
        matching := iff_of_false nofun fun hmatch => not_matchFunction_if hmatch.1
        comparison := nofun
        unparsed := iff_of_false nofun fun hnone => hnone.2.1 ⟨rfl, hparts⟩ }
  | matching hsome hname hsplit hfilled =>
      rw [hcall, Option.some.injEq, Prod.mk.injEq] at hsome
      obtain ⟨rfl, rfl⟩ := hsome
      have hparts := (Token.hasTwoParts_iff hlexed).mpr ⟨_, _, hsplit, hfilled⟩
      have hmatch := exists_matchFunction?_iff.mp ⟨_, hname⟩
      obtain ⟨-, hvalue, hif⟩ := name_of_matchFunction? hname
      exact {
        call := iff_of_false nofun fun hcalled => hvalue (mem_valueFunctions_iff.mpr hcalled)
        conditional := iff_of_false nofun fun htest => hif htest.1
        matching := iff_of_true rfl ⟨hmatch, hparts⟩
        comparison := nofun
        unparsed := iff_of_false nofun fun hnone => hnone.2.2 ⟨hmatch, hparts⟩ }
  | comparison hoperator hfilled =>
      rw [Token.atOperator?_eq_none_of_call? hcall] at hoperator
      contradiction
  | unparsed hnot =>
      have hvalue : ¬(name = "concat" ∨ name = "uuid") := fun hname =>
        hnot (.value hcall (mem_valueFunctions_iff.mpr hname))
      have hif : ¬(name = "if" ∧ HasThreeParts inner) := by
        rintro ⟨rfl, hparts⟩
        obtain ⟨_, _, _, hsplit, hfilled⟩ := (Token.hasThreeParts_iff hlexed).mp hparts
        exact hnot (.conditional hcall hsplit hfilled)
      have hmatch : ¬((name = "selected" ∨ name = "regex") ∧ HasTwoParts inner) := by
        rintro ⟨hname, hparts⟩
        obtain ⟨op, hop⟩ := exists_matchFunction?_iff.mpr hname
        obtain ⟨_, _, hsplit, hfilled⟩ := (Token.hasTwoParts_iff hlexed).mp hparts
        exact hnot (.matching hcall hop hsplit hfilled)
      exact {
        call := iff_of_false nofun hvalue
        conditional := iff_of_false nofun hif
        matching := iff_of_false nofun hmatch
        comparison := nofun
        unparsed := iff_of_true rfl ⟨hvalue, hif, hmatch⟩ }

/-! ### Texts that no call spans -/

/-- A name is kept as the wrapper exactly when there is something inside its call. -/
theorem wrapper_leftOperand {left : List Token} (hlexed : Lexed left) :
    (leftOperand left).1 = some name ↔ ∃ inner, SpansCall left name inner ∧ Filled inner := by
  simp only [Token.spansCall_iff]
  rw [leftOperand]
  cases hcall : call? left with
  | none => simp
  | some found =>
      obtain ⟨other, inner⟩ := found
      have hinner := lexed_of_call? hlexed hcall
      simp only [Token.trim_eq_nil_iff hinner]
      split_ifs with hblank
      · rw [← not_ne_iff, Token.source_ne_nil_iff hinner] at hblank
        simpa using fun _ => hblank
      · have hfilled := (Token.source_ne_nil_iff hinner).mp hblank
        simpa using fun _ => hfilled

theorem plainReading_read (path : String) (levels : Nat) (hcall : call? (ofText text) = none) :
    PlainReading text (read path (levels + 1) text) := by
  have hlexed := (Token.lexed_ofText text).2
  have hread := readBy_read path levels text
  generalize read path (levels + 1) text = expr at hread
  cases hread with
  | value hsome | conditional hsome | matching hsome =>
      rw [hcall] at hsome
      contradiction
  | comparison hoperator hfilled =>
      have hsides := (Token.hasSides_iff hlexed).mpr ⟨_, _, _, hoperator, hfilled⟩
      refine ⟨iff_of_true rfl hsides, ?_, iff_of_false nofun fun hnone => hnone hsides⟩
      rintro op field value wrapper ⟨⟩ left operator right hfirst name
      have hleft := (hfirst.lexed hlexed).1
      rw [← Token.atOperator?_eq_some_iff_firstAt, hoperator, Option.some.injEq,
        Prod.mk.injEq] at hfirst
      obtain ⟨rfl, -⟩ := hfirst
      exact wrapper_leftOperand hleft
  | unparsed hnot =>
      have hsides : ¬HasSides (ofText text) := by
        intro hsides
        obtain ⟨_, _, _, hoperator, hfilled⟩ := (Token.hasSides_iff hlexed).mp hsides
        exact hnot (.comparison hoperator hfilled)
      exact ⟨iff_of_false nofun hsides, nofun, iff_of_true rfl hsides⟩

/-- A text is read as the one kind of node that its tokens call for.  If a call spans it, the
call's name and the commas inside decide; if none does, the first operator does. -/
theorem classified_parse {raw : String} (htext : plainText? raw = some text) (path : String)
    {maxDepth : Int} (hdepth : 0 ≤ maxDepth) :
    ∃ expr, parse? raw path maxDepth = some expr ∧
      (∀ name inner, SpansCall (ofText text) name inner → CallReading name inner text expr) ∧
      ((¬∃ name inner, SpansCall (ofText text) name inner) → PlainReading text expr) := by
  have hpositive : 0 < levelsOf maxDepth := lt_levelsOf hdepth
  obtain ⟨levels, hlevels⟩ := Nat.exists_eq_succ_of_ne_zero (Nat.ne_zero_of_lt hpositive)
  refine ⟨read path (levels + 1) text, ?_, ?_, ?_⟩
  · rw [parse?, htext, hlevels, Option.map_some]
  · intro name inner hspans
    exact callReading_read path levels (Token.spansCall_iff.mp hspans)
  · intro hnone
    refine plainReading_read path levels (Option.eq_none_iff_forall_ne_some.mpr ?_)
    rintro ⟨name, inner⟩ hcall
    exact hnone ⟨name, inner, Token.spansCall_iff.mpr hcall⟩

/-- Commas in quotes and in parentheses cut nothing, and an operator inside a call makes no
comparison of it. -/
theorem classified_parse_testAndCount :
    plainText? "if(a=1,(b,c),'d,',e)" = some "if(a=1,(b,c),'d,',e)".toList ∧
      plainText? "count(a,b) != (c)" = some "count(a,b) != (c)".toList ∧ (0 : Int) ≤ 0 ∧
      (SpansCall (ofText "if(a=1,(b,c),'d,',e)".toList) "if" (ofText "a=1,(b,c),'d,',e".toList) ∧
        ∃ expr, parse? "if(a=1,(b,c),'d,',e)" "/d/x" 0 = some expr ∧ expr.kind = .conditional) ∧
      (¬∃ name inner, SpansCall (ofText "count(a,b) != (c)".toList) name inner) ∧
      ∃ expr, parse? "count(a,b) != (c)" "/d/x" 0 = some expr ∧ expr.kind = .comparison := by
  have htest : plainText? "if(a=1,(b,c),'d,',e)" = some "if(a=1,(b,c),'d,',e)".toList :=
    (plainText?_of_plain (by decide)).trans (by decide)
  have hcount : plainText? "count(a,b) != (c)" = some "count(a,b) != (c)".toList :=
    (plainText?_of_plain (by decide)).trans (by decide)
  have hfilled : ∀ part, Text.trim part ≠ [] → Token.source (ofText part) ≠ [] := by
    intro part hpart
    rwa [Token.source_ofText_eq_trim]
  have hspans : SpansCall (ofText "if(a=1,(b,c),'d,',e)".toList) "if"
      (ofText "a=1,(b,c),'d,',e".toList) := Token.spansCall_iff.mpr (by decide +kernel)
  have hparts : HasThreeParts (ofText "a=1,(b,c),'d,',e".toList) :=
    (Token.hasThreeParts_iff (Token.lexed_ofText _).2).mpr ⟨ofText "a=1".toList,
      ofText "(b,c)".toList, ofText "'d,',e".toList, by decide +kernel, hfilled _ (by decide),
      hfilled _ (by decide), hfilled _ (by decide)⟩
  have hnone : ¬∃ name inner, SpansCall (ofText "count(a,b) != (c)".toList) name inner := by
    rintro ⟨name, inner, hcall⟩
    have hcut : call? (ofText "count(a,b) != (c)".toList) = none := by decide +kernel
    rw [Token.spansCall_iff, hcut] at hcall
    contradiction
  have hsides : HasSides (ofText "count(a,b) != (c)".toList) :=
    (Token.hasSides_iff (Token.lexed_ofText _).2).mpr ⟨ofText "count(a,b) ".toList,
      ⟨.operator, ['!', '=']⟩, ofText " (c)".toList, by decide +kernel, hfilled _ (by decide),
      hfilled _ (by decide)⟩
  obtain ⟨test, htestRead, htestCall, -⟩ := classified_parse htest "/d/x" (Int.le_refl 0)
  obtain ⟨count, hcountRead, -, hcountPlain⟩ := classified_parse hcount "/d/x" (Int.le_refl 0)
  exact ⟨htest, hcount, Int.le_refl 0, ⟨hspans, test, htestRead,
    (htestCall _ _ hspans).conditional.mpr ⟨rfl, hparts⟩⟩, hnone, count, hcountRead,
    (hcountPlain hnone).comparison.mpr hsides⟩

end Expr

end SurveyForm
