import SurveyForm.Proofs.Token.Nesting
/-!
Exactly where tokens are cut.  The separators that are dropped are those outside any
parentheses, all of them or the first so many, and the parts are what stands between
them.  Tokens that close their parentheses are cut into parts that close theirs.
-/

namespace SurveyForm.Token

variable {separates : Token → Bool}

/-- The chosen tokens that stand where as many parentheses have been closed as opened
before them, in order and each with its place among the tokens. -/
def topLevel (chosen : Token → Bool) (tokens : List Token) : List (Token × Nat) :=
  tokens.zipIdx.filter fun found =>
    chosen found.1 && level (tokens.take found.2) = 0

/-- The limit that a number of cuts is: a negative one sets none. -/
def limitOf (count : Int) : Option Nat :=
  if count < 0 then none else some count.toNat

/-- As many of the items, from the first on, as a limit allows. -/
def within {α : Type} (limit : Option Nat) (items : List α) : List α :=
  match limit with
  | none => items
  | some n => items.take n

/-- `CutAt start tokens dropped parts`: the tokens, counted from a place on, are the parts
with the dropped tokens between them, and each of these stands at its place. -/
inductive CutAt : Nat → List Token → List (Token × Nat) → List (List Token) → Prop
  | whole (start : Nat) (tokens : List Token) : CutAt start tokens [] [tokens]
  | cut {start : Nat} (part : List Token) (separator : Token) {rest : List Token}
      {dropped : List (Token × Nat)} {parts : List (List Token)}
      (hrest : CutAt (start + part.length + 1) rest dropped parts) :
      CutAt start (part ++ separator :: rest) ((separator, start + part.length) :: dropped)
        (part :: parts)

theorem CutAt.cons {start : Nat} {tokens part : List Token} {dropped : List (Token × Nat)}
    {parts : List (List Token)} (hcut : CutAt (start + 1) tokens dropped (part :: parts))
    (token : Token) : CutAt start (token :: tokens) dropped ((token :: part) :: parts) := by
  cases hcut with
  | whole => exact .whole start (token :: tokens)
  | cut _ separator hrest =>
      have hplace : start + 1 + part.length = start + (token :: part).length := by
        rw [List.length_cons]
        omega
      rw [hplace] at hrest ⊢
      exact .cut (token :: part) separator hrest

/-! ### What is left to be found -/

/-- The chosen tokens at level zero among those that are left when others have been read. -/
def topLevelAfter (chosen : Token → Bool) (read tokens : List Token) : List (Token × Nat) :=
  (tokens.zipIdx read.length).filter fun found =>
    chosen found.1 && level ((read ++ tokens).take found.2) = 0

theorem topLevel_eq (chosen : Token → Bool) (tokens : List Token) :
    topLevel chosen tokens = topLevelAfter chosen [] tokens :=
  rfl

/-- The next token is found if it is chosen and as much has been closed as opened. -/
theorem topLevelAfter_cons (chosen : Token → Bool) (read : List Token) (token : Token)
    (rest : List Token) :
    topLevelAfter chosen read (token :: rest) =
      if level read = 0 ∧ chosen token = true then
        (token, read.length) :: topLevelAfter chosen (read ++ [token]) rest
      else topLevelAfter chosen (read ++ [token]) rest := by
  have hread : read ++ [token] ++ rest = read ++ token :: rest := by simp
  rw [topLevelAfter, topLevelAfter, List.zipIdx_cons, List.filter_cons, List.take_left, hread,
    List.length_append, List.length_singleton]
  simp [and_comm]

theorem within_cons {α : Type} {limit : Option Nat} (hlimit : limit ≠ some 0) (item : α)
    (items : List α) :
    within limit (item :: items) = item :: within (limit.map (· - 1)) items := by
  cases limit with
  | none => rfl
  | some n =>
      cases n with
      | zero => contradiction
      | succ n => rfl

theorem within_zero {α : Type} (items : List α) : within (some 0) items = [] :=
  rfl

/-! ### Cutting -/

/-- A token that is not dropped stays at the front of its part, and the depth follows it. -/
theorem cut_kept {limit : Option Nat} {depth : Int} {token : Token}
    (hkept : ¬(weight token = 0 ∧ depth = 0 ∧ limit ≠ some 0 ∧ separates token = true))
    (rest : List Token) :
    cut separates limit depth (token :: rest) =
      (token :: (cut separates limit (depth + weight token) rest).1,
        (cut separates limit (depth + weight token) rest).2) := by
  simp only [cut]
  split_ifs with hopening hclosing hcut
  · rw [weight_opening hopening]
  · rw [weight_closing hclosing, ← Int.sub_eq_add_neg]
  · exact absurd ⟨weight_eq_zero hopening hclosing, hcut⟩ hkept
  · rw [weight_eq_zero hopening hclosing, Int.add_zero]

/-- Cuts are made at level zero only, so no part is left open. -/
theorem closes_cut (limit : Option Nat) {depth : Int} {tokens : List Token}
    (hcloses : Closes depth tokens) :
    Closes depth (cut separates limit depth tokens).1 ∧
      ∀ part ∈ (cut separates limit depth tokens).2, Balanced part := by
  induction tokens generalizing limit depth with
  | nil => exact ⟨hcloses, by simp [cut]⟩
  | cons token rest ih =>
      obtain ⟨hdepth, hrest⟩ := closes_cons_iff.mp hcloses
      by_cases hcut : weight token = 0 ∧ depth = 0 ∧ limit ≠ some 0 ∧ separates token = true
      · obtain ⟨hweight, rfl, hlimit, hseparates⟩ := hcut
        rw [hweight, Int.add_zero] at hrest
        rw [cut_separator hseparates hweight hlimit]
        exact ⟨balanced_nil, List.forall_mem_cons.mpr (ih _ hrest)⟩
      · obtain ⟨hfirst, hparts⟩ := ih limit hrest
        rw [cut_kept hcut]
        exact ⟨closes_cons_iff.mpr ⟨hdepth, hfirst⟩, hparts⟩

section Separators

variable (hparens : ∀ token : Token, token.kind = .opening ∨ token.kind = .closing →
  separates token = false)
include hparens

theorem weight_of_separates {token : Token} (hseparates : separates token = true) :
    weight token = 0 := by
  have hnot : ¬(token.kind = .opening ∨ token.kind = .closing) := by
    intro hkind
    rw [hparens token hkind] at hseparates
    contradiction
  rw [not_or] at hnot
  exact weight_eq_zero hnot.1 hnot.2

/-- What is not dropped is no separator at level zero, unless no cut is left. -/
theorem within_topLevelAfter_cons {limit : Option Nat} {read : List Token} {token : Token}
    (hkept : ¬(weight token = 0 ∧ level read = 0 ∧ limit ≠ some 0 ∧ separates token = true))
    (rest : List Token) :
    within limit (topLevelAfter separates read (token :: rest)) =
      within limit (topLevelAfter separates (read ++ [token]) rest) := by
  by_cases hlimit : limit = some 0
  · subst hlimit
    rw [within_zero, within_zero]
  · have hnot : ¬(level read = 0 ∧ separates token = true) := fun hfound =>
      hkept ⟨weight_of_separates hparens hfound.2, hfound.1, hlimit, hfound.2⟩
    rw [topLevelAfter_cons, if_neg hnot]

/-- The rest of the tokens is cut at the separators at level zero that are left there. -/
theorem cutAt_cut (limit : Option Nat) (read tokens : List Token) :
    CutAt read.length tokens (within limit (topLevelAfter separates read tokens))
      ((cut separates limit (level read) tokens).1 ::
        (cut separates limit (level read) tokens).2) := by
  induction tokens generalizing limit read with
  | nil =>
      have hnone : within limit (topLevelAfter separates read []) = [] := by
        cases limit <;> simp [within, topLevelAfter]
      rw [hnone]
      exact .whole read.length []
  | cons token rest ih =>
      have hlevel : level (read ++ [token]) = level read + weight token := by simp
      have hplace : (read ++ [token]).length = read.length + 1 := by simp
      by_cases hcut : weight token = 0 ∧ level read = 0 ∧ limit ≠ some 0 ∧ separates token = true
      · obtain ⟨hweight, hzero, hlimit, hseparates⟩ := hcut
        have hrest := ih (limit.map (· - 1)) (read ++ [token])
        rw [hlevel, hplace, hweight, hzero, Int.add_zero] at hrest
        rw [hzero, topLevelAfter_cons, if_pos ⟨hzero, hseparates⟩, within_cons hlimit,
          cut_separator hseparates hweight hlimit]
        exact .cut [] token hrest
      · have hrest := ih limit (read ++ [token])
        rw [hlevel, hplace] at hrest
        rw [within_topLevelAfter_cons hparens hcut, cut_kept hcut]
        exact hrest.cons token

end Separators

theorem mem_of_mem_within {α : Type} {limit : Option Nat} {items : List α} {item : α}
    (hmem : item ∈ within limit items) : item ∈ items := by
  cases limit with
  | none => exact hmem
  | some n => exact List.mem_of_mem_take hmem

theorem within_limitOf {α : Type} (count : Int) (items : List α) :
    within (limitOf count) items = if count < 0 then items else items.take count.toNat := by
  unfold limitOf
  split_ifs <;> rfl

/-- Tokens are cut into at least one part.  Between the parts stand the tokens that are
dropped: the separators outside any parentheses, all of them or, if the number of cuts is not
negative, the first so many.  Balanced tokens have balanced parts only. -/
theorem split_drops_topLevel
    (hparens : ∀ token : Token, token.kind = .opening ∨ token.kind = .closing →
      separates token = false) (count : Int) (tokens : List Token) :
    split separates (limitOf count) tokens ≠ [] ∧
      (∃ dropped, CutAt 0 tokens dropped (split separates (limitOf count) tokens) ∧
        (∀ found ∈ dropped, separates found.1 = true ∧ level (tokens.take found.2) = 0) ∧
        dropped = if count < 0 then topLevel separates tokens
          else (topLevel separates tokens).take count.toNat) ∧
      (Balanced tokens → ∀ part ∈ split separates (limitOf count) tokens, Balanced part) := by
  refine ⟨List.cons_ne_nil _ _, ⟨_, cutAt_cut hparens (limitOf count) [] tokens, ?_, ?_⟩, ?_⟩
  · intro found hmem
    have hfound := (List.mem_filter.mp (mem_of_mem_within hmem)).2
    simpa using hfound
  · rw [within_limitOf, topLevel_eq]
  · intro hbalanced
    exact List.forall_mem_cons.mpr (closes_cut (limitOf count) hbalanced)

/-- Three commas outside any parentheses, and one between the arguments of a call. -/
def commaList : List Token :=
  ofText "if(a,b),c d,(e),f".toList

theorem split_drops_topLevel_commaList :
    (∀ token : Token, token.kind = .opening ∨ token.kind = .closing → isComma token = false) ∧
      Balanced commaList ∧
      (topLevel isComma commaList).map Prod.snd = [6, 10, 14] ∧
      split isComma (limitOf 2) commaList ≠ [] ∧
      (∃ dropped, CutAt 0 commaList dropped (split isComma (limitOf 2) commaList) ∧
        (∀ found ∈ dropped, isComma found.1 = true ∧ level (commaList.take found.2) = 0) ∧
        dropped = if (2 : Int) < 0 then topLevel isComma commaList
          else (topLevel isComma commaList).take (2 : Int).toNat) ∧
      ∀ part ∈ split isComma (limitOf 2) commaList, Balanced part := by
  have hparens : ∀ token : Token, token.kind = .opening ∨ token.kind = .closing →
      isComma token = false := by
    rintro token (hkind | hkind) <;> simp [isComma, hkind]
  have hbalanced : Balanced commaList := by decide +kernel
  obtain ⟨hne, hdropped, hparts⟩ := split_drops_topLevel hparens 2 commaList
  exact ⟨hparens, hbalanced, by decide +kernel, hne, hdropped, hparts hbalanced⟩

end SurveyForm.Token
