import Mathlib.Data.List.Basic
import SurveyForm.Expr.Nesting
/-!
Counting parentheses.  The functions on nested tokens are characterized by the
level that a run of tokens reaches: where a separator or an operator stands at
level zero, and which stretches close all the parentheses that they open.
-/

namespace SurveyForm.Token

/-- What a token adds to the number of open parentheses. -/
def weight (token : Token) : Int :=
  match token.kind with
  | .opening => 1
  | .closing => -1
  | _ => 0

/-- How many more parentheses a run of tokens opens than it closes. -/
def level : List Token → Int
  | [] => 0
  | token :: rest => weight token + level rest

theorem weight_opening {token : Token} (hkind : token.kind = .opening) : weight token = 1 := by
  simp [weight, hkind]

theorem weight_closing {token : Token} (hkind : token.kind = .closing) : weight token = -1 := by
  simp [weight, hkind]

theorem weight_eq_zero {token : Token} (hopening : token.kind ≠ .opening)
    (hclosing : token.kind ≠ .closing) : weight token = 0 := by
  cases hkind : token.kind <;> simp_all [weight]

@[simp] theorem level_nil : level [] = 0 := rfl

@[simp] theorem level_cons (token : Token) (rest : List Token) :
    level (token :: rest) = weight token + level rest := rfl

@[simp] theorem level_append (left right : List Token) :
    level (left ++ right) = level left + level right := by
  induction left with
  | nil => simp
  | cons token left ih =>
      rw [List.cons_append, level_cons, level_cons, ih, Int.add_assoc]

/-- `Closes depth tokens`: with `depth` parentheses open before them, the tokens
close all of these and all of their own, and never one that is not open. -/
structure Closes (depth : Int) (tokens : List Token) : Prop where
  level_eq : depth + level tokens = 0
  nonneg : ∀ before after, tokens = before ++ after → 0 ≤ depth + level before

/-- As many closing as opening parentheses, and nowhere more closing ones before. -/
abbrev Balanced (tokens : List Token) : Prop :=
  Closes 0 tokens

theorem closes_nil_iff {depth : Int} : Closes depth [] ↔ depth = 0 := by
  constructor
  · intro hcloses
    simpa using hcloses.level_eq
  · rintro rfl
    refine ⟨rfl, ?_⟩
    intro before after heq
    obtain ⟨rfl, -⟩ := List.append_eq_nil_iff.mp heq.symm
    exact Int.le_refl 0

theorem closes_cons_iff {depth : Int} {token : Token} {rest : List Token} :
    Closes depth (token :: rest) ↔ 0 ≤ depth ∧ Closes (depth + weight token) rest := by
  constructor
  · intro hcloses
    refine ⟨?_, ?_, ?_⟩
    · simpa using hcloses.nonneg [] (token :: rest) rfl
    · rw [Int.add_assoc, ← level_cons]
      exact hcloses.level_eq
    · intro before after heq
      rw [Int.add_assoc, ← level_cons]
      exact hcloses.nonneg (token :: before) after (by rw [heq, List.cons_append])
  · rintro ⟨hdepth, hcloses⟩
    refine ⟨?_, ?_⟩
    · rw [level_cons, ← Int.add_assoc]
      exact hcloses.level_eq
    · intro before after heq
      cases before with
      | nil => simpa using hdepth
      | cons head before =>
          obtain ⟨rfl, hrest⟩ := List.cons_eq_cons.mp heq
          rw [level_cons, ← Int.add_assoc]
          exact hcloses.nonneg before after hrest

instance decidableCloses : (depth : Int) → (tokens : List Token) → Decidable (Closes depth tokens)
  | _, [] => decidable_of_iff _ closes_nil_iff.symm
  | depth, token :: rest =>
      have := decidableCloses (depth + weight token) rest
      decidable_of_iff _ closes_cons_iff.symm

theorem Closes.append {depth : Int} {left right : List Token}
    (hright : Closes (depth + level left) right)
    (hleft : ∀ before after, left = before ++ after → 0 ≤ depth + level before) :
    Closes depth (left ++ right) := by
  induction left generalizing depth with
  | nil => simpa using hright
  | cons token left ih =>
      rw [List.cons_append, closes_cons_iff]
      refine ⟨by simpa using hleft [] (token :: left) rfl, ?_⟩
      apply ih
      · rw [Int.add_assoc, ← level_cons]
        exact hright
      · intro before after heq
        rw [Int.add_assoc, ← level_cons]
        exact hleft (token :: before) after (by rw [heq, List.cons_append])

theorem Balanced.append {left right : List Token} (hleft : Balanced left)
    (hright : Balanced right) : Balanced (left ++ right) := by
  refine Closes.append ?_ hleft.nonneg
  rw [hleft.level_eq]
  exact hright

theorem balanced_nil : Balanced [] :=
  closes_nil_iff.mpr rfl

/-- Tokens that are not parentheses are balanced. -/
theorem balanced_of_flat {tokens : List Token}
    (hflat : ∀ token ∈ tokens, weight token = 0) : Balanced tokens := by
  induction tokens with
  | nil => exact balanced_nil
  | cons token rest ih =>
      rw [Balanced, closes_cons_iff, hflat token List.mem_cons_self]
      exact ⟨Int.le_refl 0, ih fun other hmem => hflat other (List.mem_cons_of_mem token hmem)⟩

theorem Balanced.enclose {inner : List Token} {opening closing : Token}
    (hinner : Balanced inner) (hopening : opening.kind = .opening)
    (hclosing : closing.kind = .closing) : Balanced (opening :: inner ++ [closing]) := by
  have hlevel : level inner = 0 := by simpa using hinner.level_eq
  rw [Balanced, List.cons_append, closes_cons_iff, weight_opening hopening]
  refine ⟨Int.le_refl 0, Closes.append ?_ ?_⟩
  · rw [hlevel, closes_cons_iff, weight_closing hclosing, closes_nil_iff]
    decide
  · intro before after heq
    have := hinner.nonneg before after heq
    omega

/-- `Hides chosen depth tokens`: no chosen token stands where, counted from
`depth`, as many parentheses have been closed as opened. -/
def Hides (chosen : Token → Bool) (depth : Int) (tokens : List Token) : Prop :=
  ∀ before token after, tokens = before ++ token :: after →
    depth + level before = 0 → chosen token = false

variable {chosen : Token → Bool}

theorem hides_nil {depth : Int} : Hides chosen depth [] := by
  intro before token after heq
  simp at heq

theorem hides_cons_iff {depth : Int} {token : Token} {rest : List Token} :
    Hides chosen depth (token :: rest) ↔
      (depth = 0 → chosen token = false) ∧ Hides chosen (depth + weight token) rest := by
  constructor
  · intro hhides
    refine ⟨?_, ?_⟩
    · intro hdepth
      exact hhides [] token rest rfl (by simpa using hdepth)
    · intro before other after heq hlevel
      apply hhides (token :: before) other after (by rw [heq, List.cons_append])
      rw [level_cons, ← Int.add_assoc]
      exact hlevel
  · rintro ⟨htoken, hrest⟩ before other after heq hlevel
    cases before with
    | nil =>
        obtain ⟨rfl, -⟩ := List.cons_eq_cons.mp heq
        exact htoken (by simpa using hlevel)
    | cons head before =>
        obtain ⟨rfl, htail⟩ := List.cons_eq_cons.mp heq
        apply hrest before other after htail
        rw [Int.add_assoc, ← level_cons]
        exact hlevel

instance decidableHides (chosen : Token → Bool) :
    (depth : Int) → (tokens : List Token) → Decidable (Hides chosen depth tokens)
  | _, [] => isTrue hides_nil
  | depth, token :: rest =>
      have := decidableHides chosen (depth + weight token) rest
      decidable_of_iff _ hides_cons_iff.symm

theorem hides_append_iff {depth : Int} {left right : List Token} :
    Hides chosen depth (left ++ right) ↔
      Hides chosen depth left ∧ Hides chosen (depth + level left) right := by
  induction left generalizing depth with
  | nil => simp [hides_nil]
  | cons token left ih =>
      rw [List.cons_append, hides_cons_iff, hides_cons_iff, ih, level_cons, Int.add_assoc,
        and_assoc]

theorem hides_of_none {depth : Int} {tokens : List Token}
    (hnone : ∀ token ∈ tokens, chosen token = false) : Hides chosen depth tokens := by
  rintro before token after rfl -
  exact hnone token (by simp)

theorem Hides.imp {other : Token → Bool} {depth : Int} {tokens : List Token}
    (hhides : Hides chosen depth tokens)
    (hother : ∀ token, other token = true → chosen token = true) :
    Hides other depth tokens := by
  intro before token after heq hlevel
  have hchosen := hhides before token after heq hlevel
  by_contra htoken
  rw [hother token (Bool.not_eq_false _ ▸ htoken)] at hchosen
  contradiction

/-- Inside parentheses, a balanced stretch hides everything. -/
theorem Balanced.hides {inner : List Token} {depth : Int} (hinner : Balanced inner)
    (hdepth : 0 < depth) : Hides chosen depth inner := by
  intro before token after heq hlevel
  have := hinner.nonneg before (token :: after) heq
  omega

theorem Balanced.hides_enclosed {inner : List Token} {opening closing : Token}
    (hinner : Balanced inner) (hopening : opening.kind = .opening)
    (hchosen : chosen opening = false) : Hides chosen 0 (opening :: inner ++ [closing]) := by
  have hlevel : level inner = 0 := by simpa using hinner.level_eq
  rw [List.cons_append, hides_cons_iff, hides_append_iff, weight_opening hopening, hlevel,
    hides_cons_iff]
  refine ⟨fun _ => hchosen, hinner.hides (by decide), ?_, hides_nil⟩
  intro hdepth
  contradiction

end SurveyForm.Token
