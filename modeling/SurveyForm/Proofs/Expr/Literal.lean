import Mathlib
import SurveyForm.Proofs.Expr.Quotes
import SurveyForm.Proofs.Expr.Rules
/-!
Literals as arguments and branches.  Their quotes are taken off and what is left
is read as a condition, so a literal is data only if no rule reads its content.
-/

namespace SurveyForm.Expr

open Token (Lexed Balanced Hides Insertable callText inQuotes source split trim isComma isQuote
  ofText)

variable {path : String} {levels : Nat} {literal content : List Char}

/-- A text that is more than blanks and closes its quotes and its parentheses. -/
structure Enclosable (text : List Char) : Prop where
  closed : ∀ quote, isQuote quote = true → ⟨.word, [quote]⟩ ∉ ofText text
  balanced : Balanced (ofText text)
  filled : Text.trim text ≠ []

/-- A text that is one argument wherever it stands in a call. -/
structure Argument (text : List Char) : Prop extends Enclosable text where
  commas : Hides isComma 0 (ofText text)

theorem Enclosable.insertable {text : List Char} (htext : Enclosable text) : Insertable text :=
  Token.insertable_of_closed htext.closed htext.balanced

/-- Apart from blanks, a literal is a single token. -/
theorem token_of_literal (hquote : '\'' ∉ content)
    (hliteral : Text.trim literal = inQuotes content)
    {token : Token} (hmem : token ∈ ofText literal) :
    token.isBlank = true ∨ token = ⟨.quoted, inQuotes content⟩ := by
  have hlexed := (Token.lexed_ofText literal).2
  obtain ⟨before, after, htokens, hblanks⟩ := Token.trim_decomposition (ofText literal)
  have hsource : source (ofText literal) = inQuotes content :=
    (Token.source_ofText_eq_trim literal).trans hliteral
  have hparts : Lexed (before ++ trim (ofText literal) ++ after) := htokens ▸ hlexed
  have htrim : trim (ofText literal) = [⟨.quoted, inQuotes content⟩] := by
    rw [← Token.ofText_stretch hparts, ← Token.ofText_inQuotes hquote, ← hsource]
    rfl
  rw [htokens, htrim] at hmem
  simp only [List.mem_append, List.mem_singleton] at hmem hblanks
  rcases hmem with (hbefore | hquoted) | hafter
  · exact .inl (hblanks token (.inl hbefore))
  · exact .inr hquoted
  · exact .inl (hblanks token (.inr hafter))

theorem argument_of_literal (hquote : '\'' ∉ content)
    (hliteral : Text.trim literal = inQuotes content) : Argument literal := by
  have htoken : ∀ token ∈ ofText literal,
      token.isBlank = true ∨ token = ⟨.quoted, inQuotes content⟩ :=
    fun token hmem => token_of_literal hquote hliteral hmem
  refine ⟨⟨?_, Token.balanced_of_flat ?_, by simp [hliteral, inQuotes]⟩,
    Token.hides_of_none ?_⟩
  · intro quote _ hmem
    rcases htoken _ hmem with hblank | heq
    · simp [Token.isBlank] at hblank
    · simp at heq
  · intro token hmem
    rcases htoken token hmem with hblank | rfl
    · exact Token.weight_of_isBlank hblank
    · rfl
  · intro token hmem
    rcases htoken token hmem with hblank | rfl
    · exact Token.isComma_eq_false_of_isBlank token hblank
    · rfl

/-! ### Arguments and branches -/

theorem operand_ofText (text : List Char) :
    operand (ofText text) = stripQuotes (Text.trim text) := by
  rw [operand, Token.source_ofText_eq_trim]

theorem operand_of_literal (hliteral : Text.trim literal = inQuotes content) :
    operand (ofText literal) = content := by
  rw [operand_ofText, hliteral, stripQuotes_inQuotes]

theorem source_ofText_ne_nil {text : List Char} (htext : Enclosable text) :
    source (ofText text) ≠ [] := by
  rw [Token.source_ofText_eq_trim]
  exact htext.filled

theorem Enclosable.level_eq_zero {text : List Char} (htext : Enclosable text) :
    Token.level (ofText text) = 0 := by
  simpa using htext.balanced.level_eq

/-- A value function of a single argument. -/
theorem read_argument {name : String} {text : List Char} (hname : name ∈ valueFunctions)
    (hword : Token.IsName name.toList) (htext : Argument text) :
    read path (levels + 1) (callText name.toList text) =
      .call name [read path levels (operand (ofText text))] := by
  have hcall := Token.call?_ofText_callText hword htext.insertable
  rw [String.ofList_toList] at hcall
  have hfilled : trim (ofText text) ≠ [] := by
    intro hnil
    refine source_ofText_ne_nil htext.toEnclosable ?_
    rw [source, hnil]
    rfl
  rw [read_of_valueFunction hcall hname, arguments, if_neg hfilled,
    Token.split_of_hides htext.commas, List.map_singleton]

/-- The text of a conditional. -/
def ifText (test whenTrue whenFalse : List Char) : List Char :=
  callText "if".toList (test ++ ',' :: (whenTrue ++ ',' :: whenFalse))

theorem read_ifText {test whenTrue whenFalse : List Char} (htest : Argument test)
    (htrue : Argument whenTrue) (hfalse : Enclosable whenFalse) :
    read path (levels + 1) (ifText test whenTrue whenFalse) =
      .conditional (groupOf (read path levels) (Text.trim test))
        (read path levels (operand (ofText whenTrue)))
        (read path levels (operand (ofText whenFalse))) := by
  have hbranches := htrue.insertable.comma hfalse.insertable
  have hname : Token.IsName "if".toList := by decide
  have hcall := Token.call?_ofText_callText hname (htest.insertable.comma hbranches)
  rw [htest.insertable.ofText_comma, htrue.insertable.ofText_comma] at hcall
  have hsplit : split isComma (some 2) (ofText test ++ ⟨.comma, [',']⟩ ::
      (ofText whenTrue ++ ⟨.comma, [',']⟩ :: ofText whenFalse)) =
        [ofText test, ofText whenTrue, ofText whenFalse] := by
    rw [Token.split_append htest.commas htest.level_eq_zero rfl rfl (by simp),
      Option.map_some, Token.split_append htrue.commas htrue.level_eq_zero rfl rfl (by simp)]
    simp [Token.split_zero]
  rw [ifText, read_of_if hcall hsplit ⟨source_ofText_ne_nil htest.toEnclosable,
    source_ofText_ne_nil htrue.toEnclosable, source_ofText_ne_nil hfalse⟩,
    Token.source_ofText_eq_trim]

theorem trim_inQuotes (hquote : '\'' ∉ content) :
    Text.trim (inQuotes content) = inQuotes content :=
  Text.trimList_eq_self (Token.phrase_inQuotes hquote).trimmed

theorem isName_concat : Token.IsName "concat".toList := by
  decide

theorem plainText?_concat (hquote : '\'' ∉ content) (hplain : '&' ∉ content) :
    plainText? (String.ofList (callText "concat".toList (inQuotes content))) =
      some (callText "concat".toList (inQuotes content)) := by
  have hraw : '&' ∉ (String.ofList (callText "concat".toList (inQuotes content))).toList := by
    simp [callText, inQuotes, hplain]
  have hphrase := Token.phrase_callText isName_concat (Token.phrase_inQuotes hquote).insertable
  rw [plainText?_of_plain hraw, String.toList_ofList, Text.trim,
    Text.trimList_eq_self hphrase.trimmed]

theorem exists_levels {maxDepth : Int} (hdepth : 1 ≤ maxDepth) :
    ∃ levels, levelsOf maxDepth = levels + 2 :=
  ⟨maxDepth.toNat - 1, by unfold levelsOf; omega⟩

theorem referencedPaths_conditional_unparsed (condition other : Expr) (text : String) :
    ExprOver.referencedPaths (.conditional condition (.unparsed text) other) =
        ExprOver.referencedPaths (.conditional condition .absent other) ∧
      ExprOver.referencedPaths (.conditional condition other (.unparsed text)) =
        ExprOver.referencedPaths (.conditional condition other .absent) := by
  constructor <;>
    simp [ExprOver.referencedPaths, ExprOver.walk, ExprOver.ownPath?, List.filterMap_cons]

/-- A literal is an argument and a branch as it stands exactly when no rule reads its
content: it is no call that the grammar knows, with as many parts as that needs, and
shows no operator between two operands.  It refers to no field then. -/
theorem parse_literal_iff {content : List Char} (hquote : '\'' ∉ content) (path : String)
    {maxDepth : Int} (hdepth : 1 ≤ maxDepth) :
    ('&' ∉ content → ∃ arg,
      parse? (String.ofList (callText "concat".toList (inQuotes content))) path maxDepth =
        some (.call "concat" [arg]) ∧
      (arg = .unparsed (String.ofList content) ↔ ¬Recognized (ofText content)) ∧
      (¬Recognized (ofText content) → ExprOver.referencedPaths (.call "concat" [arg]) = [])) ∧
    (∀ raw test literal other, Argument test → Text.trim literal = inQuotes content →
      Enclosable other → plainText? raw = some (ifText test literal other) →
        ∃ condition branch whenFalse,
          parse? raw path maxDepth = some (.conditional condition branch whenFalse) ∧
          (branch = .unparsed (String.ofList content) ↔ ¬Recognized (ofText content)) ∧
          (¬Recognized (ofText content) →
            ExprOver.referencedPaths (.conditional condition branch whenFalse) =
              ExprOver.referencedPaths (.conditional condition .absent whenFalse))) ∧
    (∀ raw test other literal, Argument test → Argument other →
      Text.trim literal = inQuotes content → plainText? raw = some (ifText test other literal) →
        ∃ condition whenTrue branch,
          parse? raw path maxDepth = some (.conditional condition whenTrue branch) ∧
          (branch = .unparsed (String.ofList content) ↔ ¬Recognized (ofText content)) ∧
          (¬Recognized (ofText content) →
            ExprOver.referencedPaths (.conditional condition whenTrue branch) =
              ExprOver.referencedPaths (.conditional condition whenTrue .absent))) := by
  obtain ⟨levels, hlevels⟩ := exists_levels hdepth
  have hread : read path (levels + 1) content = .unparsed (String.ofList content) ↔
      ¬Recognized (ofText content) := read_eq_unparsed_iff
  refine ⟨fun hplain => ?_, ?_, ?_⟩
  · refine ⟨read path (levels + 1) content, ?_, hread, fun hnot => ?_⟩
    · have htrim := trim_inQuotes hquote
      have htext := argument_of_literal hquote htrim
      rw [parse?, plainText?_concat hquote hplain, Option.map_some, hlevels,
        read_argument (by decide) isName_concat htext, operand_of_literal htrim]
    · rw [hread.mpr hnot]
      rfl
  · intro raw test literal other htest hliteral hother htext
    have hargument := argument_of_literal hquote hliteral
    rw [parse?, htext, Option.map_some, hlevels, read_ifText htest hargument hother,
      operand_of_literal hliteral]
    refine ⟨_, _, _, rfl, hread, fun hnot => ?_⟩
    rw [hread.mpr hnot]
    exact (referencedPaths_conditional_unparsed _ _ _).1
  · intro raw test other literal htest hother hliteral htext
    have hargument := argument_of_literal hquote hliteral
    rw [parse?, htext, Option.map_some, hlevels,
      read_ifText htest hother hargument.toEnclosable, operand_of_literal hliteral]
    refine ⟨_, _, _, rfl, hread, fun hnot => ?_⟩
    rw [hread.mpr hnot]
    exact (referencedPaths_conditional_unparsed _ _ _).2

theorem argument_sampleTest : Argument "/data/q = 1".toList := by
  have htokens : ofText "/data/q = 1".toList = [⟨.word, "/data/q".toList⟩, ⟨.blank, [' ']⟩,
      ⟨.operator, ['=']⟩, ⟨.blank, [' ']⟩, ⟨.word, ['1']⟩] := by
    cbv
  refine ⟨⟨?_, ?_, by decide⟩, ?_⟩
  · intro quote hquote hmem
    rw [htokens] at hmem
    obtain rfl : quote = '1' := by simpa using hmem
    exact absurd hquote (by decide)
  · rw [htokens]
    exact Token.balanced_of_flat (by decide)
  · rw [htokens]
    exact Token.hides_of_none (by decide)

/-- The words of a group are data in a literal, and so are commas. -/
theorem parse_literal_plain :
    '\'' ∉ "a, b or c".toList ∧ (1 : Int) ≤ 3 ∧
      ('&' ∉ "a, b or c".toList ∧
        ∃ arg, parse? "concat('a, b or c')" "/data/x" 3 = some (.call "concat" [arg]) ∧
          (arg = .unparsed "a, b or c" ↔ ¬Recognized (ofText "a, b or c".toList)) ∧
          (¬Recognized (ofText "a, b or c".toList) →
            ExprOver.referencedPaths (.call "concat" [arg]) = [])) ∧
      plainText? "if(/data/q = 1, 'a, b or c','')" =
        some (ifText "/data/q = 1".toList " 'a, b or c'".toList "''".toList) ∧
      ∃ condition branch whenFalse,
        parse? "if(/data/q = 1, 'a, b or c','')" "/data/x" 3 =
          some (.conditional condition branch whenFalse) ∧
        (branch = .unparsed "a, b or c" ↔ ¬Recognized (ofText "a, b or c".toList)) ∧
        (¬Recognized (ofText "a, b or c".toList) →
          ExprOver.referencedPaths (.conditional condition branch whenFalse) =
            ExprOver.referencedPaths (.conditional condition .absent whenFalse)) := by
  have hquote : '\'' ∉ "a, b or c".toList := by decide
  have hplain : '&' ∉ "a, b or c".toList := by decide
  have hdepth : (1 : Int) ≤ 3 := by decide
  have hother : Enclosable "''".toList :=
    (argument_of_literal (show '\'' ∉ [] by simp) (by decide)).toEnclosable
  have htext : plainText? "if(/data/q = 1, 'a, b or c','')" =
      some (ifText "/data/q = 1".toList " 'a, b or c'".toList "''".toList) :=
    (plainText?_of_plain (by decide)).trans (by decide)
  obtain ⟨hcall, hbranch, -⟩ := parse_literal_iff hquote "/data/x" hdepth
  exact ⟨hquote, hdepth, ⟨hplain, hcall hplain⟩, htext,
    hbranch _ _ _ _ argument_sampleTest (by decide) hother htext⟩

/-- A literal that looks like a comparison is read as one, and the field that it
seems to name becomes a reference. -/
theorem parse_literal_comparison :
    parse? "concat('a = 1')" "/data/b" 5 =
        some (.call "concat" [.comparison "=" "/data/b/a" "1" none]) ∧
      parse? "concat('a = 1')" "/data/b" 5 ≠ some (.call "concat" [.unparsed "a = 1"]) ∧
      (parse? "concat('a = 1')" "/data/b" 5).map ExprOver.referencedPaths =
        some ["/data/b/a"] := by
  have hread : parse? "concat('a = 1')" "/data/b" 5 =
      some (.call "concat" [.comparison "=" "/data/b/a" "1" none]) := by
    cbv
  refine ⟨hread, ?_, ?_⟩
  · rw [hread]
    simp
  · rw [hread]
    cbv

end SurveyForm.Expr
