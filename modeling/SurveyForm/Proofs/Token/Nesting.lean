import SurveyForm.Proofs.Token.Balance
import SurveyForm.Proofs.Text.Trimming
/-!
What the functions on nested tokens return, in terms of levels: cutting at
separators loses only separators, a call is a word before a balanced stretch in
parentheses, and the operator of a comparison is the first one at level zero.
-/

namespace SurveyForm.Token

variable {separates : Token → Bool}

/-! ### Cutting at separators -/

/-- A run of tokens is its parts with one separator between any two of them. -/
inductive Parted (separates : Token → Bool) :
    List Token → List Token → List (List Token) → Prop
  | last (tokens : List Token) : Parted separates tokens tokens []
  | more (part : List Token) {separator : Token} {rest next : List Token}
      {parts : List (List Token)} (hseparator : separates separator = true)
      (hrest : Parted separates rest next parts) :
      Parted separates (part ++ separator :: rest) part (next :: parts)

theorem Parted.cons {tokens first : List Token} {parts : List (List Token)}
    (hparted : Parted separates tokens first parts) (token : Token) :
    Parted separates (token :: tokens) (token :: first) parts := by
  cases hparted with
  | last => exact .last (token :: tokens)
  | more _ hseparator hrest => exact .more (token :: first) hseparator hrest

/-- Cutting drops nothing but separators. -/
theorem parted_cut (limit : Option Nat) (depth : Int) (tokens : List Token) :
    Parted separates tokens (cut separates limit depth tokens).1
      (cut separates limit depth tokens).2 := by
  induction tokens generalizing limit depth with
  | nil => exact .last []
  | cons token rest ih =>
      simp only [cut]
      split_ifs with hopening hclosing hcut
      · exact (ih limit (depth + 1)).cons token
      · exact (ih limit (depth - 1)).cons token
      · exact .more [] hcut.2.2 (ih (limit.map (· - 1)) depth)
      · exact (ih limit depth).cons token

/-- A stretch without separators at level zero stays in one part. -/
theorem cut_append {part : List Token} {depth : Int}
    (hpart : Hides separates depth part) (limit : Option Nat) (rest : List Token) :
    cut separates limit depth (part ++ rest) =
      (part ++ (cut separates limit (depth + level part) rest).1,
        (cut separates limit (depth + level part) rest).2) := by
  induction part generalizing depth with
  | nil => simp
  | cons token part ih =>
      rw [hides_cons_iff] at hpart
      obtain ⟨htoken, hpart⟩ := hpart
      have htail := ih hpart
      rw [Int.add_assoc, ← level_cons] at htail
      rw [List.cons_append]
      simp only [cut]
      split_ifs with hopening hclosing hcut
      · rw [weight_opening hopening] at htail
        simp [htail]
      · rw [weight_closing hclosing, ← Int.sub_eq_add_neg] at htail
        simp [htail]
      · rw [htoken hcut.1] at hcut
        simp at hcut
      · rw [weight_eq_zero hopening hclosing, Int.add_zero] at htail
        simp [htail]

theorem cut_of_hides {tokens : List Token} {depth : Int}
    (htokens : Hides separates depth tokens) (limit : Option Nat) :
    cut separates limit depth tokens = (tokens, []) := by
  simpa [cut] using cut_append htokens limit []

theorem cut_separator {separator : Token} {limit : Option Nat}
    (hseparates : separates separator = true) (hweight : weight separator = 0)
    (hlimit : limit ≠ some 0) (rest : List Token) :
    cut separates limit 0 (separator :: rest) =
      ([], (cut separates (limit.map (· - 1)) 0 rest).1 ::
        (cut separates (limit.map (· - 1)) 0 rest).2) := by
  have hopening : separator.kind ≠ .opening := by
    intro hkind
    rw [weight_opening hkind] at hweight
    contradiction
  have hclosing : separator.kind ≠ .closing := by
    intro hkind
    rw [weight_closing hkind] at hweight
    contradiction
  simp [cut, hopening, hclosing, hseparates, hlimit]

theorem cut_zero (depth : Int) (tokens : List Token) :
    cut separates (some 0) depth tokens = (tokens, []) := by
  induction tokens generalizing depth with
  | nil => rfl
  | cons token rest ih => simp [cut, ih]

theorem split_of_hides {tokens : List Token} (htokens : Hides separates 0 tokens)
    (limit : Option Nat) : split separates limit tokens = [tokens] := by
  simp [split, cut_of_hides htokens]

/-- The first separator after a balanced stretch without separators ends a part. -/
theorem split_append {part : List Token} {separator : Token} {limit : Option Nat}
    (hpart : Hides separates 0 part) (hlevel : level part = 0)
    (hseparates : separates separator = true) (hweight : weight separator = 0)
    (hlimit : limit ≠ some 0) (rest : List Token) :
    split separates limit (part ++ separator :: rest) =
      part :: split separates (limit.map (· - 1)) rest := by
  rw [split, cut_append hpart, hlevel, Int.add_zero,
    cut_separator hseparates hweight hlimit]
  simp [split]

theorem split_zero (tokens : List Token) :
    split separates (some 0) tokens = [tokens] := by
  simp [split, cut_zero]

/-! ### Calls -/

/-- A token other than the sought parenthesis is kept, and changes the depth. -/
theorem untilClose_cons {depth : Nat} {token : Token}
    (hopen : ¬(token.kind = .closing ∧ depth = 0)) :
    ∃ deeper : Nat, (deeper : Int) = depth + weight token ∧
      ∀ tokens, untilClose depth (token :: tokens) =
        (untilClose deeper tokens).map fun parts => (token :: parts.1, parts.2) := by
  cases hkind : token.kind with
  | opening =>
      exact ⟨depth + 1, by simp [weight, hkind], fun tokens => by simp [untilClose, hkind]⟩
  | closing =>
      cases depth with
      | zero => exact absurd ⟨hkind, rfl⟩ hopen
      | succ depth =>
          refine ⟨depth, ?_, fun tokens => by simp [untilClose, hkind]⟩
          simp only [weight, hkind]
          omega
  | _ => exact ⟨depth, by simp [weight, hkind], fun tokens => by simp [untilClose, hkind]⟩

/-- What is returned is the stretch before the parenthesis that closes it, and
there is only one such stretch. -/
theorem untilClose_eq_some_iff {depth : Nat} {tokens inner rest : List Token} :
    untilClose depth tokens = some (inner, rest) ↔
      ∃ closing, closing.kind = .closing ∧ tokens = inner ++ closing :: rest ∧
        Closes depth inner := by
  induction tokens generalizing depth inner with
  | nil => simp [untilClose]
  | cons token tokens ih =>
      by_cases hclose : token.kind = .closing ∧ depth = 0
      · obtain ⟨hkind, rfl⟩ := hclose
        have hunfold : untilClose 0 (token :: tokens) = some ([], tokens) := by
          simp [untilClose, hkind]
        rw [hunfold]
        constructor
        · rintro heq
          obtain ⟨rfl, rfl⟩ : [] = inner ∧ tokens = rest := by simpa using heq
          exact ⟨token, hkind, rfl, closes_nil_iff.mpr rfl⟩
        · rintro ⟨closing, -, heq, hcloses⟩
          cases inner with
          | nil =>
              obtain ⟨-, rfl⟩ := List.cons_eq_cons.mp heq
              rfl
          | cons head inner =>
              obtain ⟨rfl, -⟩ := List.cons_eq_cons.mp heq
              have := hcloses.nonneg [token] inner rfl
              simp [weight_closing hkind] at this
      · obtain ⟨deeper, hdeeper, hunfold⟩ := untilClose_cons hclose
        rw [hunfold, Option.map_eq_some_iff]
        constructor
        · rintro ⟨⟨front, back⟩, hfound, heq⟩
          obtain ⟨rfl, rfl⟩ : token :: front = inner ∧ back = rest := by simpa using heq
          obtain ⟨closing, hkind, rfl, hcloses⟩ := ih.mp hfound
          refine ⟨closing, hkind, rfl, closes_cons_iff.mpr ⟨by omega, ?_⟩⟩
          rw [← hdeeper]
          exact hcloses
        · rintro ⟨closing, hkind, heq, hcloses⟩
          cases inner with
          | nil =>
              obtain ⟨rfl, -⟩ := List.cons_eq_cons.mp heq
              have hzero : depth = 0 := by simpa using closes_nil_iff.mp hcloses
              exact absurd ⟨hkind, hzero⟩ hclose
          | cons head inner =>
              obtain ⟨rfl, rfl⟩ := List.cons_eq_cons.mp heq
              obtain ⟨-, hinner⟩ := closes_cons_iff.mp hcloses
              rw [← hdeeper] at hinner
              exact ⟨(inner, rest), ih.mpr ⟨closing, hkind, rfl, hinner⟩, rfl⟩

/-- Tokens that close more parentheses than they open close the stretch. -/
theorem exists_untilClose {depth : Nat} {tokens : List Token}
    (hlevel : depth + level tokens < 0) :
    ∃ inner rest, untilClose depth tokens = some (inner, rest) := by
  induction tokens generalizing depth with
  | nil =>
      simp at hlevel
      omega
  | cons token tokens ih =>
      by_cases hclose : token.kind = .closing ∧ depth = 0
      · obtain ⟨hkind, rfl⟩ := hclose
        exact ⟨[], tokens, by simp [untilClose, hkind]⟩
      · obtain ⟨deeper, hdeeper, hunfold⟩ := untilClose_cons hclose
        have htail : deeper + level tokens < 0 := by
          rw [hdeeper, Int.add_assoc, ← level_cons]
          exact hlevel
        obtain ⟨inner, rest, hfound⟩ := ih htail
        exact ⟨token :: inner, rest, by rw [hunfold, hfound]; rfl⟩

/-- A call is a word and, in parentheses, a balanced stretch that ends the tokens. -/
theorem call?_eq_some_iff {tokens inner : List Token} {name : String} :
    call? tokens = some (name, inner) ↔
      ∃ word opening closing, trim tokens = word :: opening :: inner ++ [closing] ∧
        word.kind = .word ∧ opening.kind = .opening ∧ closing.kind = .closing ∧
        name = String.ofList word.text ∧ Balanced inner := by
  unfold call?
  constructor
  · intro hcall
    split at hcall
    · rename_i word opening rest htrim
      split_ifs at hcall with hkinds
      split at hcall
      · rename_i found hclose
        obtain ⟨rfl, rfl⟩ : String.ofList word.text = name ∧ found = inner := by
          simpa using hcall
        obtain ⟨closing, hkind, rfl, hcloses⟩ := untilClose_eq_some_iff.mp hclose
        exact ⟨word, opening, closing, htrim, hkinds.1, hkinds.2, hkind, rfl, hcloses⟩
      · contradiction
    · contradiction
  · rintro ⟨word, opening, closing, htrim, hword, hopening, hclosing, rfl, hinner⟩
    have hclose : untilClose 0 (inner ++ [closing]) = some (inner, []) :=
      untilClose_eq_some_iff.mpr ⟨closing, hclosing, rfl, hinner⟩
    rw [htrim]
    simp [hword, hopening, hclose]

/-! ### Operators -/

def isOperator (token : Token) : Bool :=
  token.kind = .operator

theorem atOperator?_operator {token : Token} (hkind : token.kind = .operator)
    (rest : List Token) : atOperator? 0 (token :: rest) = some ([], token, rest) := by
  simp [atOperator?, hkind]

theorem atOperator?_cons {depth : Int} {token : Token}
    (hother : ¬(token.kind = .operator ∧ depth = 0)) (rest : List Token) :
    atOperator? depth (token :: rest) =
      (atOperator? (depth + weight token) rest).map
        fun parts => (token :: parts.1, parts.2) := by
  simp only [atOperator?]
  split_ifs with hopening hclosing
  · rw [weight_opening hopening]
  · rw [weight_closing hclosing, ← Int.sub_eq_add_neg]
  · rw [weight_eq_zero hopening hclosing, Int.add_zero]

theorem isOperator_eq_false {depth : Int} {token : Token}
    (hother : ¬(token.kind = .operator ∧ depth = 0)) :
    depth = 0 → isOperator token = false := by
  intro hdepth
  simpa [isOperator, hdepth] using hother

/-- The operator that is found stands at level zero, and no other does before it. -/
theorem atOperator?_eq_some_iff {depth : Int} {tokens left right : List Token}
    {operator : Token} :
    atOperator? depth tokens = some (left, operator, right) ↔
      tokens = left ++ operator :: right ∧ operator.kind = .operator ∧
        depth + level left = 0 ∧ Hides isOperator depth left := by
  induction tokens generalizing depth left with
  | nil => simp [atOperator?]
  | cons token tokens ih =>
      by_cases hfound : token.kind = .operator ∧ depth = 0
      · obtain ⟨hkind, rfl⟩ := hfound
        rw [atOperator?_operator hkind]
        constructor
        · intro heq
          obtain ⟨rfl, rfl, rfl⟩ : [] = left ∧ token = operator ∧ tokens = right := by
            simpa using heq
          exact ⟨rfl, hkind, by simp, hides_nil⟩
        · rintro ⟨heq, -, -, hhides⟩
          cases left with
          | nil =>
              obtain ⟨rfl, rfl⟩ := List.cons_eq_cons.mp heq
              rfl
          | cons head left =>
              obtain ⟨rfl, -⟩ := List.cons_eq_cons.mp heq
              have := (hides_cons_iff.mp hhides).1 rfl
              simp [isOperator, hkind] at this
      · rw [atOperator?_cons hfound, Option.map_eq_some_iff]
        constructor
        · rintro ⟨⟨front, parts⟩, hrest, heq⟩
          obtain ⟨rfl, rfl⟩ : token :: front = left ∧ parts = (operator, right) := by
            simpa using heq
          obtain ⟨rfl, hkind, hlevel, hhides⟩ := ih.mp hrest
          refine ⟨rfl, hkind, ?_, hides_cons_iff.mpr ⟨isOperator_eq_false hfound, hhides⟩⟩
          rw [level_cons, ← Int.add_assoc]
          exact hlevel
        · rintro ⟨heq, hkind, hlevel, hhides⟩
          cases left with
          | nil =>
              obtain ⟨rfl, -⟩ := List.cons_eq_cons.mp heq
              exact absurd ⟨hkind, by simpa using hlevel⟩ hfound
          | cons head left =>
              obtain ⟨rfl, rfl⟩ := List.cons_eq_cons.mp heq
              rw [level_cons, ← Int.add_assoc] at hlevel
              have hrest := ih.mpr ⟨rfl, hkind, hlevel, (hides_cons_iff.mp hhides).2⟩
              exact ⟨(left, operator, right), hrest, rfl⟩

theorem atOperator?_eq_none_iff {depth : Int} {tokens : List Token} :
    atOperator? depth tokens = none ↔ Hides isOperator depth tokens := by
  induction tokens generalizing depth with
  | nil => simp [atOperator?, hides_nil]
  | cons token tokens ih =>
      by_cases hfound : token.kind = .operator ∧ depth = 0
      · obtain ⟨hkind, rfl⟩ := hfound
        rw [atOperator?_operator hkind, hides_cons_iff]
        simp [isOperator, hkind]
      · rw [atOperator?_cons hfound, Option.map_eq_none_iff, ih, hides_cons_iff]
        exact ⟨fun hhides => ⟨isOperator_eq_false hfound, hhides⟩, fun hhides => hhides.2⟩

/-- Trimming drops only blank tokens. -/
theorem trim_decomposition (tokens : List Token) :
    ∃ before after, tokens = before ++ trim tokens ++ after ∧
      ∀ token ∈ before ++ after, token.isBlank = true := by
  obtain ⟨before, after, htokens, hbefore, hafter, -⟩ :=
    Text.trimList_decomposition isBlank tokens
  refine ⟨before, after, htokens, ?_⟩
  intro token hmem
  rcases List.mem_append.mp hmem with hleft | hright
  · exact hbefore token hleft
  · exact hafter token hright

/-- Blank tokens around a run do not change what is left of it by trimming. -/
theorem trim_padded {before after : List Token} (tokens : List Token)
    (hbefore : ∀ token ∈ before, token.isBlank = true)
    (hafter : ∀ token ∈ after, token.isBlank = true) :
    trim (before ++ tokens ++ after) = trim tokens := by
  obtain ⟨front, back, htokens, hfront, hback, htrimmed⟩ :=
    Text.trimList_decomposition isBlank tokens
  have hparts : trim ((before ++ front) ++ trim tokens ++ (back ++ after)) = trim tokens :=
    Text.trimList_eq (by simpa [or_imp, forall_and] using ⟨hbefore, hfront⟩)
      (by simpa [or_imp, forall_and] using ⟨hback, hafter⟩) htrimmed
  change tokens = front ++ trim tokens ++ back at htokens
  conv_lhs => rw [htokens]
  simpa using hparts

theorem weight_of_isBlank {token : Token} (hblank : token.isBlank = true) :
    weight token = 0 := by
  simp only [Token.isBlank, decide_eq_true_eq] at hblank
  exact weight_eq_zero (by simp [hblank]) (by simp [hblank])

theorem level_of_isBlank {tokens : List Token}
    (hblank : ∀ token ∈ tokens, token.isBlank = true) : level tokens = 0 := by
  simpa using (balanced_of_flat fun token hmem =>
    weight_of_isBlank (hblank token hmem)).level_eq

/-- Trimming does not change the level, nor what stands at level zero. -/
theorem hides_trim_iff {chosen : Token → Bool}
    (hchosen : ∀ token, token.isBlank = true → chosen token = false) {tokens : List Token} :
    Hides chosen 0 (trim tokens) ↔ Hides chosen 0 tokens := by
  obtain ⟨before, after, htokens, hblanks⟩ := trim_decomposition tokens
  have hbefore : ∀ token ∈ before, token.isBlank = true := fun token hmem =>
    hblanks token (List.mem_append_left after hmem)
  have hafter : ∀ token ∈ after, token.isBlank = true := fun token hmem =>
    hblanks token (List.mem_append_right before hmem)
  have hnone : ∀ blanks : List Token, (∀ token ∈ blanks, token.isBlank = true) →
      ∀ depth, Hides chosen depth blanks := fun blanks hall depth =>
    hides_of_none fun token hmem => hchosen token (hall token hmem)
  conv_rhs => rw [htokens]
  rw [hides_append_iff, hides_append_iff, level_of_isBlank hbefore]
  simp [hnone before hbefore, hnone after hafter]

/-- A call has no operator outside its parentheses. -/
theorem atOperator?_eq_none_of_call? {tokens inner : List Token} {name : String}
    (hcall : call? tokens = some (name, inner)) : atOperator? 0 tokens = none := by
  obtain ⟨word, opening, closing, htrim, hword, hopening, hclosing, -, hinner⟩ :=
    call?_eq_some_iff.mp hcall
  have hblank : ∀ token : Token, token.isBlank = true → isOperator token = false := by
    intro token htoken
    simp only [Token.isBlank, decide_eq_true_eq] at htoken
    simp [isOperator, htoken]
  rw [atOperator?_eq_none_iff, ← hides_trim_iff hblank, htrim, List.cons_append,
    hides_cons_iff, weight_eq_zero (by simp [hword]) (by simp [hword])]
  refine ⟨fun _ => by simp [isOperator, hword], ?_⟩
  exact hinner.hides_enclosed hopening (by simp [isOperator, hopening])

/-! ### Enclosing parentheses -/

/-- Parentheses that enclose nothing by themselves are not taken off. -/
theorem unwrap_eq_trim {tokens : List Token}
    (hends : ∀ first rest, trim tokens = first :: rest →
      first.kind = .opening → endsEnclosure rest = false) :
    unwrap tokens = trim tokens := by
  rw [unwrap]
  split
  · rename_i htrim
    exact htrim.symm
  · rename_i first rest htrim
    split_ifs with hwrapped
    · rw [hends first rest htrim hwrapped.1] at hwrapped
      simp at hwrapped
    · exact htrim.symm

theorem unwrap_enclosed {tokens rest : List Token} {first : Token}
    (htrim : trim tokens = first :: rest) (hopening : first.kind = .opening)
    (hends : endsEnclosure rest = true) : unwrap tokens = unwrap rest.dropLast := by
  rw [unwrap]
  split
  · rename_i hnil
    rw [htrim] at hnil
    contradiction
  · rename_i other tail hcons
    obtain ⟨rfl, rfl⟩ := List.cons_eq_cons.mp (htrim.symm.trans hcons)
    rw [if_pos ⟨hopening, hends⟩]

theorem exists_closing_of_endsEnclosure {rest : List Token}
    (hends : endsEnclosure rest = true) :
    ∃ closing, rest = rest.dropLast ++ [closing] ∧ closing.kind = .closing := by
  rw [endsEnclosure, Bool.and_eq_true, Option.any_eq_true] at hends
  obtain ⟨⟨closing, hlast, hkind⟩, -⟩ := hends
  refine ⟨closing, ?_, by simpa using hkind⟩
  exact (List.dropLast_append_getLast? closing hlast).symm

/-- Between the parentheses that enclose a stretch, none of them is closed. -/
theorem nonneg_of_endsEnclosure {rest : List Token} (hends : endsEnclosure rest = true)
    {before after : List Token} (heq : rest.dropLast = before ++ after) : 0 ≤ level before := by
  obtain ⟨closing, hrest, -⟩ := exists_closing_of_endsEnclosure hends
  by_contra hlevel
  obtain ⟨inner, back, hfound⟩ := exists_untilClose
    (show ((0 : Nat) : Int) + level before < 0 by simpa using hlevel)
  obtain ⟨other, hkind, rfl, hcloses⟩ := untilClose_eq_some_iff.mp hfound
  have hwhole : untilClose 0 rest = some (inner, back ++ after ++ [closing]) := by
    rw [untilClose_eq_some_iff]
    refine ⟨other, hkind, ?_, hcloses⟩
    rw [hrest, heq]
    simp
  obtain ⟨next, more, hmore⟩ := List.exists_cons_of_ne_nil
    (show back ++ after ++ [closing] ≠ [] by simp)
  rw [hmore] at hwhole
  simp [endsEnclosure, hwhole] at hends

/-- Whether one matching pair of parentheses encloses all of the tokens. -/
def Enclosed (tokens : List Token) : Prop :=
  ∃ opening inner closing, tokens = opening :: inner ++ [closing] ∧ opening.kind = .opening ∧
    closing.kind = .closing ∧ Balanced inner

theorem enclosed_cons_iff {first : Token} {rest : List Token} :
    Enclosed (first :: rest) ↔
      first.kind = .opening ∧ (rest.getLast?.any (·.kind = .closing)) = true ∧
        Balanced rest.dropLast := by
  constructor
  · rintro ⟨opening, inner, closing, htokens, hopening, hclosing, hinner⟩
    obtain ⟨rfl, rfl⟩ := List.cons_eq_cons.mp htokens
    exact ⟨hopening, by simpa using hclosing, by simpa using hinner⟩
  · rintro ⟨hopening, hlast, hinner⟩
    rw [Option.any_eq_true] at hlast
    obtain ⟨closing, hclosing, hkind⟩ := hlast
    refine ⟨first, rest.dropLast, closing, ?_, hopening, by simpa using hkind, hinner⟩
    rw [List.cons_append, List.dropLast_append_getLast? closing hclosing]

instance decidableEnclosed : (tokens : List Token) → Decidable (Enclosed tokens)
  | [] => isFalse (by simp [Enclosed])
  | _ :: _ => decidable_of_iff _ enclosed_cons_iff.symm

/-- In balanced tokens, only parentheses that match each other are taken off. -/
theorem unwrap_of_not_enclosed {tokens : List Token} (hbalanced : Balanced tokens)
    (htrim : trim tokens = tokens) (hnot : ¬Enclosed tokens) : unwrap tokens = tokens := by
  rw [unwrap_eq_trim, htrim]
  rintro first rest hcons hopening
  by_contra hends
  rw [Bool.not_eq_false] at hends
  obtain ⟨closing, hrest, hclosing⟩ := exists_closing_of_endsEnclosure hends
  rw [htrim, hrest] at hcons
  refine hnot ⟨first, rest.dropLast, closing, hcons, hopening, hclosing, ?_, ?_⟩
  · have hlevel := hbalanced.level_eq
    rw [hcons, level_cons, level_append, weight_opening hopening, level_cons,
      weight_closing hclosing, level_nil] at hlevel
    omega
  · intro before after heq
    simpa using nonneg_of_endsEnclosure hends heq

/-- Parentheses at the outer ends of two stretches that are each closed do not match. -/
theorem unwrap_append {left right : List Token} (hleft : left ≠ []) (hright : right ≠ [])
    (hlevel : level left = 0) (htrim : trim (left ++ right) = left ++ right) :
    unwrap (left ++ right) = left ++ right := by
  rw [unwrap_eq_trim, htrim]
  rintro first rest hcons hopening
  by_contra hends
  rw [Bool.not_eq_false] at hends
  obtain ⟨head, front, rfl⟩ := List.exists_cons_of_ne_nil hleft
  rw [htrim, List.cons_append, List.cons_eq_cons] at hcons
  obtain ⟨rfl, rfl⟩ := hcons
  -- After the first stretch, its opening parenthesis would be closed already.
  have hnonneg := nonneg_of_endsEnclosure hends (List.dropLast_append_of_ne_nil hright)
  rw [level_cons, weight_opening hopening] at hlevel
  omega

/-- Enclosed tokens show nothing at level zero but the parentheses themselves. -/
theorem hides_of_endsEnclosure {chosen : Token → Bool} {first : Token} {rest : List Token}
    (hopening : first.kind = .opening) (hends : endsEnclosure rest = true)
    (hfirst : chosen first = false)
    (hclosing : ∀ token : Token, token.kind = .closing → chosen token = false) :
    Hides chosen 0 (first :: rest) := by
  obtain ⟨closing, hrest, hkind⟩ := exists_closing_of_endsEnclosure hends
  rw [hides_cons_iff, weight_opening hopening, hrest, hides_append_iff]
  refine ⟨fun _ => hfirst, ?_, hides_of_none (by simpa using hclosing closing hkind)⟩
  intro before token after heq hlevel
  have := nonneg_of_endsEnclosure hends heq
  omega

/-- What may be dropped around a group: blanks and enclosing parentheses. -/
def isWrapping (token : Token) : Bool :=
  token.isBlank || token.kind = .opening || token.kind = .closing

/-- Taking off enclosing parentheses drops nothing else than these and blanks. -/
theorem unwrap_decomposition (tokens : List Token) :
    ∃ before after, tokens = before ++ unwrap tokens ++ after ∧
      ∀ token ∈ before ++ after, isWrapping token = true := by
  induction tokens using unwrap.induct with
  | case1 tokens htrim =>
      obtain ⟨before, after, htokens, hblanks⟩ := trim_decomposition tokens
      rw [unwrap_eq_trim (by simp [htrim])]
      exact ⟨before, after, htokens, fun token hmem => by simp [isWrapping, hblanks token hmem]⟩
  | case2 tokens first rest htrim hwrapped ih =>
      obtain ⟨before, after, htokens, hblanks⟩ := trim_decomposition tokens
      obtain ⟨closing, hrest, hclosing⟩ := exists_closing_of_endsEnclosure hwrapped.2
      obtain ⟨front, back, hinner, hwraps⟩ := ih
      rw [unwrap_enclosed htrim hwrapped.1 hwrapped.2]
      refine ⟨before ++ first :: front, back ++ closing :: after, ?_, ?_⟩
      · calc tokens
            = before ++ first :: (rest.dropLast ++ [closing]) ++ after := by
              rw [← hrest, ← htrim]
              exact htokens
          _ = before ++ first :: front ++ unwrap rest.dropLast ++
              (back ++ closing :: after) := by
              conv_lhs => rw [hinner]
              simp
      · intro token hmem
        simp only [List.mem_append, List.mem_cons] at hmem hblanks hwraps
        rcases hmem with (hmem | rfl | hmem) | hmem | rfl | hmem
        · simp [isWrapping, hblanks token (.inl hmem)]
        · simp [isWrapping, hwrapped.1]
        · exact hwraps token (.inl hmem)
        · exact hwraps token (.inr hmem)
        · simp [isWrapping, hclosing]
        · simp [isWrapping, hblanks token (.inr hmem)]
  | case3 tokens first rest htrim hwrapped =>
      obtain ⟨before, after, htokens, hblanks⟩ := trim_decomposition tokens
      rw [unwrap_eq_trim]
      · exact ⟨before, after, htokens,
          fun token hmem => by simp [isWrapping, hblanks token hmem]⟩
      · intro other tail hcons hopening
        obtain ⟨rfl, rfl⟩ := List.cons_eq_cons.mp (htrim.symm.trans hcons)
        simpa [hopening] using hwrapped

end SurveyForm.Token
