import Mathlib.Data.List.Forall2
import SurveyForm.Proofs.Expr.Written
/-!
Putting groups together.  Texts that close what they open and show neither of the words `and`
and `or` can be joined by these words, and the group of the whole has the members that the
texts have by themselves, in the same arrangement.
-/

namespace SurveyForm.Expr

open Token (Phrase Padded Hides Balanced Enclosed Glue isWord isQuote ofText unwrap)

variable {deeper : List Char → Expr} {texts : List (List Char)}
  {disjuncts : List (List (List Char))}

/-- The text of a disjunct whose members are given. -/
def conjoined (texts : List (List Char)) : List Char :=
  " and ".toList.intercalate texts

/-- The text of a group whose disjuncts are given by their members. -/
def joined (disjuncts : List (List (List Char))) : List Char :=
  " or ".toList.intercalate (disjuncts.map conjoined)

theorem conjoined_singleton (text : List Char) : conjoined [text] = text := by
  rw [conjoined, List.intercalate_singleton]

theorem conjoined_cons_cons (text next : List Char) (rest : List (List Char)) :
    conjoined (text :: next :: rest) = text ++ " and ".toList ++ conjoined (next :: rest) := by
  rw [conjoined, List.intercalate_cons_cons]
  rfl

theorem joined_singleton (texts : List (List Char)) : joined [texts] = conjoined texts := by
  rw [joined, List.map_singleton, List.intercalate_singleton]

theorem joined_cons_cons (texts next : List (List Char)) (rest : List (List (List Char))) :
    joined (texts :: next :: rest) = conjoined texts ++ " or ".toList ++ joined (next :: rest) := by
  rw [joined, List.map_cons, List.map_cons, List.intercalate_cons_cons]
  rfl

theorem termOf_members {term : Term Expr} (hproper : ProperTerm term) :
    termOf term.members = term := by
  match term, hproper with
  | .one _, _ => rfl
  | .all (_ :: _ :: _), _ => rfl

theorem exists_termOf_eq_one_iff {members : List Expr} :
    (∃ member, termOf members = .one member) ↔ members.length = 1 := by
  match members with
  | [] => simp [termOf]
  | [member] => simp [termOf]
  | _ :: _ :: _ => simp [termOf]

/-- A text that a disjunct of a group can have as a member. -/
structure Member (text : List Char) : Prop extends Phrase text where
  hides_and : Hides (isWord "and") 0 (ofText text)
  hides_or : Hides (isWord "or") 0 (ofText text)

theorem phrase_conjoined (hne : texts ≠ []) (hmembers : ∀ text ∈ texts, Member text) :
    Phrase (conjoined texts) :=
  Token.phrase_intercalate glue_and hne fun text hmem => (hmembers text hmem).toPhrase

theorem phrase_joined (hne : disjuncts ≠ []) (hdisjuncts : ∀ texts ∈ disjuncts, texts ≠ [])
    (hmembers : ∀ texts ∈ disjuncts, ∀ text ∈ texts, Member text) : Phrase (joined disjuncts) := by
  refine Token.phrase_intercalate glue_or (by simpa using hne) ?_
  simpa using fun texts hmem => phrase_conjoined (hdisjuncts texts hmem) (hmembers texts hmem)

/-- Joining by `and` shows no `or`. -/
theorem hides_or_conjoined (hmembers : ∀ text ∈ texts, Member text) :
    Hides (isWord "or") 0 (ofText (conjoined texts)) := by
  refine Token.hides_intercalate glue_and ?_ fun text hmem =>
    ⟨(hmembers text hmem).toPhrase, (hmembers text hmem).hides_or⟩
  have htokens := Token.ofText_spaced (Token.reads_name isName_and) rfl
  change ∀ token ∈ ofText (' ' :: "and".toList ++ [' ']), isWord "or" token = false
  rw [htokens]
  decide

/-! ### Cutting at the joins -/

theorem map_eq_of_forall₂ {α β γ : Type} {related : α → β → Prop} {f : α → γ} {g : β → γ}
    {items : List α} {others : List β} (hitems : List.Forall₂ related items others)
    (heq : ∀ item ∈ items, ∀ other, related item other → g other = f item) :
    others.map g = items.map f := by
  induction hitems with
  | nil => rfl
  | cons hitem _ ih =>
      rw [List.forall_mem_cons] at heq
      rw [List.map_cons, List.map_cons, heq.1 _ hitem, ih heq.2]

/-- Parts that were cut out of a text are read as their texts are. -/
theorem map_operand {parts : List (List Token)} (hparts : List.Forall₂ Padded texts parts)
    (htexts : ∀ text ∈ texts, Phrase text) :
    (parts.map fun part => deeper (operand part)) =
      texts.map fun text => deeper (stripQuotes text) := by
  refine map_eq_of_forall₂ hparts fun text hmem part hpadded => ?_
  rw [operand, hpadded.source_eq (htexts text hmem)]

theorem disjunctOf_conjoined (hne : texts ≠ []) (hmembers : ∀ text ∈ texts, Member text)
    {tokens : List Token} (htokens : Padded (conjoined texts) tokens) :
    disjunctOf deeper tokens = termOf (texts.map fun text => deeper (stripQuotes text)) := by
  have hparts := Token.split_intercalate glue_and Token.isWord_eq_false_of_isBlank hne
    (fun text hmem => ⟨(hmembers text hmem).toPhrase, (hmembers text hmem).hides_and⟩)
    (show ∀ n, none = some n → _ by simp) htokens
  rw [disjunctOf_eq, map_operand hparts fun text hmem => (hmembers text hmem).toPhrase]

/-- A group is cut exactly where it was joined, if nothing is taken for parentheses
around it. -/
theorem groupOf_joined (hne : disjuncts ≠ []) (hdisjuncts : ∀ texts ∈ disjuncts, texts ≠ [])
    (hmembers : ∀ texts ∈ disjuncts, ∀ text ∈ texts, Member text)
    (hunwrap : unwrap (ofText (joined disjuncts)) = ofText (joined disjuncts)) :
    groupOf deeper (joined disjuncts) =
      .group (disjuncts.map fun texts =>
        termOf (texts.map fun text => deeper (stripQuotes text))) := by
  have hphrases : ∀ text ∈ disjuncts.map conjoined,
      Phrase text ∧ Hides (isWord "or") 0 (ofText text) := by
    simpa using fun texts hmem => ⟨phrase_conjoined (hdisjuncts texts hmem) (hmembers texts hmem),
      hides_or_conjoined (hmembers texts hmem)⟩
  have hparts := Token.split_intercalate glue_or Token.isWord_eq_false_of_isBlank
    (by simpa using hne) hphrases (show ∀ n, none = some n → _ by simp)
    (Token.padded_ofText (joined disjuncts))
  rw [List.forall₂_map_left_iff] at hparts
  rw [groupOf_eq, hunwrap]
  refine congrArg ExprOver.group (map_eq_of_forall₂ hparts fun texts hmem tokens hpadded => ?_)
  exact disjunctOf_conjoined (hdisjuncts texts hmem) (hmembers texts hmem) hpadded

/-! ### Parentheses around the whole -/

theorem unwrap_glued {separates : Token → Bool} {glue left right : List Char} (hleft : Phrase left)
    (hglue : Glue separates glue) (hright : Phrase right) :
    unwrap (ofText (left ++ glue ++ right)) = ofText (left ++ glue ++ right) := by
  have htrim := Token.trim_ofText (hleft.glued hglue hright).trimmed
  rw [hleft.ofText_glued hglue hright.trimmed.head, List.append_assoc] at htrim ⊢
  exact Token.unwrap_append hleft.ofText_ne_nil (by simp [hright.ofText_ne_nil])
    hleft.level_eq_zero htrim

/-- What is joined at all has no parentheses around it, whatever its ends are. -/
theorem unwrap_joined (hne : disjuncts ≠ []) (hdisjuncts : ∀ texts ∈ disjuncts, texts ≠ [])
    (hmembers : ∀ texts ∈ disjuncts, ∀ text ∈ texts, Member text)
    (hsingle : ∀ text, disjuncts = [[text]] → unwrap (ofText text) = ofText text) :
    unwrap (ofText (joined disjuncts)) = ofText (joined disjuncts) := by
  obtain ⟨texts, others, rfl⟩ := List.exists_cons_of_ne_nil hne
  obtain ⟨htexts, hothers⟩ := List.forall_mem_cons.mp hmembers
  obtain ⟨htextsNe, hothersNe⟩ := List.forall_mem_cons.mp hdisjuncts
  cases others with
  | cons next others =>
      rw [joined_cons_cons]
      exact unwrap_glued (phrase_conjoined htextsNe htexts) glue_or
        (phrase_joined (by simp) hothersNe hothers)
  | nil =>
      obtain ⟨text, rest, rfl⟩ := List.exists_cons_of_ne_nil htextsNe
      obtain ⟨htext, hrest⟩ := List.forall_mem_cons.mp htexts
      rw [joined_singleton]
      cases rest with
      | cons next rest =>
          rw [conjoined_cons_cons]
          exact unwrap_glued htext.toPhrase glue_and (phrase_conjoined (by simp) hrest)
      | nil =>
          rw [conjoined_singleton]
          exact hsingle text rfl

/-! ### Texts that can be joined -/

/-- A text without character references or blanks around it that closes its quotes and its
parentheses, shows neither of the words between members, and is not in parentheses itself. -/
structure Joinable (text : List Char) : Prop where
  plain : '&' ∉ text
  ne_nil : text ≠ []
  trimmed : Text.Trimmed Text.isBlank text
  closed : ∀ token ∈ ofText text, token.kind = .word → ∀ c ∈ token.text, isQuote c = false
  balanced : Balanced (ofText text)
  hides_and : Hides (isWord "and") 0 (ofText text)
  hides_or : Hides (isWord "or") 0 (ofText text)
  not_enclosed : ¬Enclosed (ofText text)

instance (text : List Char) : Decidable (Joinable text) :=
  decidable_of_iff (('&' ∉ text ∧ text ≠ [] ∧ Text.Trimmed Text.isBlank text) ∧
      ((ofText text).all fun token => token.kind ≠ .word || token.text.all (!isQuote ·)) = true ∧
      Balanced (ofText text) ∧ Hides (isWord "and") 0 (ofText text) ∧
      Hides (isWord "or") 0 (ofText text) ∧ ¬Enclosed (ofText text))
    ⟨fun ⟨⟨hplain, hne, htrimmed⟩, hclosed, hbalanced, hand, hor, henclosed⟩ =>
        ⟨hplain, hne, htrimmed, by simpa [← imp_iff_not_or] using hclosed, hbalanced, hand, hor,
          henclosed⟩,
      fun htext => ⟨⟨htext.plain, htext.ne_nil, htext.trimmed⟩,
        by simpa [← imp_iff_not_or] using htext.closed, htext.balanced, htext.hides_and,
        htext.hides_or, htext.not_enclosed⟩⟩

theorem Joinable.member {text : List Char} (htext : Joinable text) : Member text where
  toPhrase := by
    refine Token.phrase_of_closed htext.ne_nil htext.trimmed ?_ htext.balanced
    intro quote hquote hmem
    rw [htext.closed _ hmem rfl quote (List.mem_singleton_self quote)] at hquote
    contradiction
  hides_and := htext.hides_and
  hides_or := htext.hides_or

theorem Joinable.unwrap_eq {text : List Char} (htext : Joinable text) :
    unwrap (ofText text) = ofText text :=
  Token.unwrap_of_not_enclosed htext.balanced (Token.trim_ofText htext.trimmed)
    htext.not_enclosed

/-- What a text that is joined to no other is read as. -/
theorem Joinable.groupOf_eq {text : List Char} (htext : Joinable text) :
    groupOf deeper text = .group [.one (deeper (stripQuotes text))] := by
  have hjoined : joined [[text]] = text := (joined_singleton _).trans (conjoined_singleton text)
  have hgroup : groupOf deeper (joined [[text]]) = .group [.one (deeper (stripQuotes text))] :=
    groupOf_joined (by simp) (by simp) (by simpa using htext.member)
      (by simpa [hjoined] using htext.unwrap_eq)
  rwa [hjoined] at hgroup

theorem plain_joined (hplain : ∀ texts ∈ disjuncts, ∀ text ∈ texts, '&' ∉ text) :
    '&' ∉ joined disjuncts := by
  refine plain_intercalate (by decide) fun text htext => ?_
  obtain ⟨texts, hmem, rfl⟩ := List.mem_map.mp htext
  exact plain_intercalate (by decide) (hplain texts hmem)

/-- Joining texts by `and` and `or` puts their groups together: there is one term for each
disjunct, with the members that the texts of the disjunct have when they are read alone, and it
is a list unless the disjunct has one text. -/
theorem parseGroup_joined (hne : disjuncts ≠ []) (hdisjuncts : ∀ texts ∈ disjuncts, texts ≠ [])
    (htexts : ∀ texts ∈ disjuncts, ∀ text ∈ texts, Joinable text) (path : String)
    (maxDepth : Int) :
    ∃ terms, parseGroup? (String.ofList (joined disjuncts)) path maxDepth = some (.group terms) ∧
      List.Forall₂ (fun texts term =>
        List.Forall₂ (fun text member =>
            parseGroup? (String.ofList text) path maxDepth = some (.group [.one member]))
          texts (Term.members term) ∧
        ((∃ member, term = .one member) ↔ texts.length = 1)) disjuncts terms := by
  have hmembers : ∀ texts ∈ disjuncts, ∀ text ∈ texts, Member text := fun texts hmem text htext =>
    (htexts texts hmem text htext).member
  have hwhole := phrase_joined hne hdisjuncts hmembers
  have hplain := plain_joined fun texts hmem text htext => (htexts texts hmem text htext).plain
  have hunwrap := unwrap_joined hne hdisjuncts hmembers fun text htext =>
    (htexts [text] (by simp [htext]) text (List.mem_singleton_self text)).unwrap_eq
  refine ⟨disjuncts.map fun texts => termOf (texts.map fun text =>
    read path (levelsOf maxDepth) (stripQuotes text)), ?_, ?_⟩
  · rw [parseGroup?, plainText?_ofList hplain hwhole.trimmed, Option.map_some,
      groupOf_joined hne hdisjuncts hmembers hunwrap]
  · rw [List.forall₂_map_right_iff, List.forall₂_same]
    intro texts hmem
    refine ⟨?_, by rw [exists_termOf_eq_one_iff, List.length_map]⟩
    rw [members_termOf, List.forall₂_map_right_iff, List.forall₂_same]
    intro text htext
    have hjoinable := htexts texts hmem text htext
    rw [parseGroup?, plainText?_ofList hjoinable.plain hjoinable.trimmed, Option.map_some,
      hjoinable.groupOf_eq]

/-- Parentheses at both ends of the whole, and the two words in parentheses, in quotes and in
longer words. -/
def sampleDisjuncts : List (List (List Char)) :=
  [["(a or b) = (c)".toList, "candor != 'x and y'".toList], ["1 <= and-or(z)".toList]]

theorem parseGroup_joined_sampleDisjuncts :
    String.ofList (joined sampleDisjuncts) =
        "(a or b) = (c) and candor != 'x and y' or 1 <= and-or(z)" ∧
      sampleDisjuncts ≠ [] ∧ (∀ texts ∈ sampleDisjuncts, texts ≠ []) ∧
      (∀ texts ∈ sampleDisjuncts, ∀ text ∈ texts, Joinable text) ∧
      ∃ terms, parseGroup? (String.ofList (joined sampleDisjuncts)) "/d/x" 0 =
          some (.group terms) ∧
        List.Forall₂ (fun texts term =>
          List.Forall₂ (fun text member =>
              parseGroup? (String.ofList text) "/d/x" 0 = some (.group [.one member]))
            texts (Term.members term) ∧
          ((∃ member, term = .one member) ↔ texts.length = 1)) sampleDisjuncts terms := by
  have hdisjuncts : ∀ texts ∈ sampleDisjuncts, texts ≠ [] := by decide
  have htexts : ∀ texts ∈ sampleDisjuncts, ∀ text ∈ texts, Joinable text := by decide +kernel
  exact ⟨by decide, by decide, hdisjuncts, htexts,
    parseGroup_joined (by decide) hdisjuncts htexts "/d/x" 0⟩

end SurveyForm.Expr
