import SurveyForm.Proofs.Token.Nesting
import SurveyForm.Proofs.Token.Reading
/-!
Phrases: texts that can be put together without their tokens running into each
other.  The tokens of a call, of a list with separators and of a comparison are
the tokens of their phrases with the punctuation between them.
-/

namespace SurveyForm.Token

/-- What may follow a phrase: nothing, or one of the characters that end a word. -/
def Stops (after : List Char) : Prop :=
  ∀ c ∈ after.head?, c = ' ' ∨ c = ',' ∨ c = ')'

theorem Stops.isWordChar_eq_false {after : List Char} (hstops : Stops after) :
    ∀ c ∈ after.head?, isWordChar c = false := by
  intro c hc
  rcases hstops c hc with rfl | rfl | rfl <;> decide

/-- What may follow an argument: nothing, a comma or a closing parenthesis. -/
def Ends (after : List Char) : Prop :=
  ∀ c ∈ after.head?, c = ',' ∨ c = ')'

theorem Ends.stops {after : List Char} (hends : Ends after) : Stops after :=
  fun c hc => .inr (hends c hc)

/-- A text that keeps its tokens as an argument and closes its own parentheses. -/
structure Insertable (text : List Char) : Prop where
  lexed : ∀ right, Lexed right → Ends (textOf right) → Lexed (ofText text ++ right)
  balanced : Balanced (ofText text)

/-- A text that begins and ends with something else than a blank, keeps its tokens
before a stop and closes its own parentheses. -/
structure Phrase (text : List Char) : Prop where
  lexed : ∀ right, Lexed right → Stops (textOf right) → Lexed (ofText text ++ right)
  balanced : Balanced (ofText text)
  ne_nil : text ≠ []
  trimmed : Text.Trimmed Text.isBlank text

theorem Phrase.insertable {text : List Char} (htext : Phrase text) : Insertable text where
  lexed right hright hends := htext.lexed right hright hends.stops
  balanced := htext.balanced

theorem ofText_nil : ofText [] = [] := by
  rw [ofText]

theorem insertable_nil : Insertable [] where
  lexed right hright _ := by
    rw [ofText_nil]
    exact hright
  balanced := by
    rw [ofText_nil]
    exact balanced_nil

/-- Whether a character cannot prolong a token that it follows. -/
def EndsToken (token : Token) (c : Char) : Prop :=
  c ≠ '=' ∧ ∀ belongs, RunOf token.kind belongs → belongs c = false

theorem endsToken_of_punctuation {c : Char} (hc : c = ',' ∨ c = ')') (token : Token) :
    EndsToken token c := by
  refine ⟨by rcases hc with rfl | rfl <;> decide, fun belongs hrun => ?_⟩
  generalize token.kind = kind at hrun
  cases hrun <;> rcases hc with rfl | rfl <;> decide

theorem endsToken_space {token : Token} (hblank : token.isBlank = false) :
    EndsToken token ' ' := by
  refine ⟨by decide, fun belongs hrun => ?_⟩
  simp only [Token.isBlank, decide_eq_false_iff_not] at hblank
  generalize token.kind = kind at hrun hblank
  cases hrun with
  | blanks => contradiction
  | operators | words => decide

/-- Only a quote that is never closed looks beyond the character that ends a token. -/
theorem Reads.extend {token : Token} {front back : List Char} (hreads : Reads token front)
    (hclosed : ∀ quote, isQuote quote = true → token ≠ ⟨.word, [quote]⟩)
    (hends : front = [] → ∀ c ∈ back.head?, EndsToken token c) :
    Reads token (front ++ back) := by
  cases hreads with
  | quoted hquote hinner => exact .quoted hquote hinner
  | unclosed hquote _ => exact absurd rfl (hclosed _ hquote)
  | opening => exact .opening
  | closing => exact .closing
  | comma => exact .comma
  | unequal => exact .unequal
  | exclamation hafter =>
      refine .exclamation ?_
      cases front with
      | nil => exact fun hhead => (hends rfl '=' hhead).1 rfl
      | cons c front => exact hafter
  | run hrun hfirst hrest hafter =>
      refine .run hrun hfirst hrest ?_
      cases front with
      | nil => exact fun c hc => (hends rfl c hc).2 _ hrun
      | cons c front => exact hafter

theorem Lexed.append {left right : List Token} (hleft : Lexed left)
    (hclosed : ∀ quote, isQuote quote = true → ⟨.word, [quote]⟩ ∉ left) (hright : Lexed right)
    (hends : ∀ token ∈ left.getLast?, ∀ c ∈ (textOf right).head?, EndsToken token c) :
    Lexed (left ++ right) := by
  induction left with
  | nil => exact hright
  | cons token left ih =>
      have htoken : ∀ quote, isQuote quote = true → token ≠ ⟨.word, [quote]⟩ :=
        fun quote hquote heq => hclosed quote hquote (heq ▸ List.mem_cons_self)
      refine ⟨?_, ih hleft.2 (fun quote hquote hmem =>
        hclosed quote hquote (List.mem_cons_of_mem token hmem)) fun last hlast => ?_⟩
      · change Reads token (textOf (left ++ right))
        rw [textOf_append]
        refine hleft.1.extend htoken fun hnil => ?_
        cases left with
        | nil => exact hends token rfl
        | cons next left =>
            exact absurd (List.append_eq_nil_iff.mp hnil).1 hleft.2.1.text_ne_nil
      · refine hends last ?_
        rw [List.getLast?_cons, Option.mem_def.mp hlast]
        rfl

theorem insertable_of_closed {text : List Char}
    (hclosed : ∀ quote, isQuote quote = true → ⟨.word, [quote]⟩ ∉ ofText text)
    (hbalanced : Balanced (ofText text)) : Insertable text where
  lexed _ hright hends := (lexed_ofText text).2.append hclosed hright fun token _ c hc =>
    endsToken_of_punctuation (hends c hc) token
  balanced := hbalanced

/-- A text that closes its quotes and parentheses is a phrase, if no blanks are around it. -/
theorem phrase_of_closed {text : List Char} (hne : text ≠ [])
    (htrimmed : Text.Trimmed Text.isBlank text)
    (hclosed : ∀ quote, isQuote quote = true → ⟨.word, [quote]⟩ ∉ ofText text)
    (hbalanced : Balanced (ofText text)) : Phrase text where
  lexed right hright hstops := by
    obtain ⟨htext, hlexed⟩ := lexed_ofText text
    have hlast := (trimmed_of_textOf hlexed (htext.symm ▸ htrimmed)).last
    refine hlexed.append hclosed hright fun token htoken c hc => ?_
    rcases hstops c hc with rfl | hpunctuation
    · exact endsToken_space (hlast token htoken)
    · exact endsToken_of_punctuation hpunctuation token
  balanced := hbalanced
  ne_nil := hne
  trimmed := htrimmed

theorem Insertable.lexed_comma {left : List Char} (hleft : Insertable left)
    {right : List Token} (hright : Lexed right) :
    Lexed (ofText left ++ ⟨.comma, [',']⟩ :: right) :=
  hleft.lexed _ ⟨.comma, hright⟩ (by simp [Ends])

theorem Insertable.ofText_comma {left : List Char} (hleft : Insertable left)
    (right : List Char) :
    ofText (left ++ ',' :: right) = ofText left ++ ⟨.comma, [',']⟩ :: ofText right := by
  rw [ofText_eq_iff]
  exact ⟨by simp [textOf_ofText], hleft.lexed_comma (lexed_ofText right).2⟩

theorem Insertable.comma {left right : List Char} (hleft : Insertable left)
    (hright : Insertable right) : Insertable (left ++ ',' :: right) where
  lexed after hafter hends := by
    rw [hleft.ofText_comma, List.append_assoc]
    exact hleft.lexed_comma (hright.lexed after hafter hends)
  balanced := by
    have hcomma : Balanced [⟨.comma, [',']⟩] := balanced_of_flat (by simp [weight])
    rw [hleft.ofText_comma]
    exact hleft.balanced.append (hcomma.append hright.balanced)

theorem Phrase.level_eq_zero {text : List Char} (htext : Phrase text) :
    level (ofText text) = 0 := by
  simpa using htext.balanced.level_eq

theorem Phrase.ofText_ne_nil {text : List Char} (htext : Phrase text) :
    ofText text ≠ [] := by
  intro hnil
  have hempty := textOf_ofText text
  rw [hnil] at hempty
  exact htext.ne_nil hempty.symm

/-- Blank tokens around a run do not change what it covers. -/
theorem source_padded {before after : List Token} (tokens : List Token)
    (hbefore : ∀ token ∈ before, token.isBlank = true)
    (hafter : ∀ token ∈ after, token.isBlank = true) :
    source (before ++ tokens ++ after) = source tokens := by
  rw [source, source, trim_padded tokens hbefore hafter]

theorem source_concat_blank {token : Token} (hblank : token.isBlank = true)
    (tokens : List Token) : source (tokens ++ [token]) = source tokens := by
  have hpadded : source ([] ++ tokens ++ [token]) = source tokens :=
    source_padded tokens (by simp) (by simpa using hblank)
  exact hpadded

theorem source_cons_blank {token : Token} (hblank : token.isBlank = true)
    (tokens : List Token) : source (token :: tokens) = source tokens := by
  have hpadded : source ([token] ++ tokens ++ []) = source tokens :=
    source_padded tokens (by simpa using hblank) (by simp)
  simpa using hpadded

/-! ### Words and quoted texts -/

/-- A word on its own: at least one character, all of them such that words are
made of. -/
structure IsName (text : List Char) : Prop where
  ne_nil : text ≠ []
  chars : ∀ c ∈ text, isWordChar c = true

instance (text : List Char) : Decidable (IsName text) :=
  decidable_of_iff (text ≠ [] ∧ text.all isWordChar = true)
    ⟨fun htext => ⟨htext.1, List.all_eq_true.mp htext.2⟩,
      fun htext => ⟨htext.ne_nil, List.all_eq_true.mpr htext.chars⟩⟩

/-- The words between the members of a group. -/
def groupWords : List String :=
  ["and", "or"]

/-- The names of the calls that have nodes of their own kinds. -/
def ownCalls : List String :=
  ["if", "selected", "regex"]

/-- The words that mean something to the grammar. -/
def grammarWords : List String :=
  groupWords ++ (ownCalls ++ ["concat", "uuid"])

theorem isName_of_grammarWord {word : String} (hword : word ∈ grammarWords) :
    IsName word.toList := by
  change word ∈ ["and", "or", "if", "selected", "regex", "concat", "uuid"] at hword
  simp only [List.mem_cons, List.not_mem_nil, or_false] at hword
  rcases hword with rfl | rfl | rfl | rfl | rfl | rfl | rfl <;> decide

theorem mem_grammarWords_of_groupWords {word : String} (hword : word ∈ groupWords) :
    word ∈ grammarWords :=
  List.mem_append_left _ hword

theorem mem_grammarWords_of_ownCalls {name : String} (hname : name ∈ ownCalls) :
    name ∈ grammarWords :=
  List.mem_append_right _ (List.mem_append_left _ hname)

theorem IsName.head_not_quote {name : List Char} (hname : IsName name) (rest : List Char) :
    ∀ c ∈ (name ++ rest).head?, isQuote c = false := by
  rw [List.head?_append_of_ne_nil _ hname.ne_nil]
  intro c hc
  have hchar := hname.chars c (List.mem_of_mem_head? hc)
  simp only [isWordChar, Bool.not_eq_true', Bool.or_eq_false_iff] at hchar
  exact hchar.1.1.1.1.1.2

theorem lexed_word_cons {text : List Char} {right : List Token} (htext : IsName text)
    (hright : Lexed right) (hstop : ∀ c ∈ (textOf right).head?, isWordChar c = false) :
    Lexed (⟨.word, text⟩ :: right) := by
  obtain ⟨first, rest, rfl⟩ := List.exists_cons_of_ne_nil htext.ne_nil
  refine ⟨.run .words (htext.chars first List.mem_cons_self) ?_ hstop, hright⟩
  exact fun c hc => htext.chars c (List.mem_cons_of_mem first hc)

theorem ofText_name {text : List Char} (htext : IsName text) :
    ofText text = [⟨.word, text⟩] := by
  rw [ofText_eq_iff]
  exact ⟨by simp, lexed_word_cons htext trivial (by simp)⟩

theorem phrase_name {text : List Char} (htext : IsName text) : Phrase text where
  lexed right hright hstops := by
    rw [ofText_name htext]
    exact lexed_word_cons htext hright hstops.isWordChar_eq_false
  balanced := by
    rw [ofText_name htext]
    exact balanced_of_flat (by simp [weight])
  ne_nil := htext.ne_nil
  trimmed :=
    ⟨fun c hc => isBlank_eq_false_of_special
        (.inr (.inr (htext.chars c (List.mem_of_mem_head? hc)))),
      fun c hc => isBlank_eq_false_of_special
        (.inr (.inr (htext.chars c (List.mem_of_mem_getLast? hc))))⟩

/-- A text in single quotes. -/
def inQuotes (text : List Char) : List Char :=
  '\'' :: text ++ ['\'']

theorem ofText_inQuotes {text : List Char} (htext : '\'' ∉ text) :
    ofText (inQuotes text) = [⟨.quoted, inQuotes text⟩] :=
  ofText_eq_iff.mpr ⟨by simp, .quoted (by decide) htext, trivial⟩

theorem phrase_inQuotes {text : List Char} (htext : '\'' ∉ text) : Phrase (inQuotes text) := by
  have htokens := ofText_inQuotes htext
  refine ⟨?_, ?_, by simp [inQuotes], ⟨?_, ?_⟩⟩
  · intro right hright _
    rw [htokens]
    exact ⟨.quoted (by decide) htext, hright⟩
  · rw [htokens]
    exact balanced_of_flat (by simp [weight])
  · intro c hc
    obtain rfl : '\'' = c := by simpa [inQuotes] using hc
    decide
  · intro c hc
    obtain rfl : '\'' = c := by
      rw [inQuotes, List.getLast?_append_of_ne_nil _ (by simp)] at hc
      simpa using hc
    decide

/-! ### Phrases with separators between them -/

/-- Punctuation between phrases: one separator, with blanks around it. -/
structure Glue (separates : Token → Bool) (glue : List Char) : Prop where
  ne_nil : glue ≠ []
  stops : Stops glue
  lexed : ∀ right, Lexed right → (∀ c ∈ (textOf right).head?, Text.isBlank c = false) →
    Lexed (ofText glue ++ right)
  parts : ∃ before separator after, ofText glue = before ++ separator :: after ∧
    (∀ token ∈ before, token.isBlank = true) ∧ (∀ token ∈ after, token.isBlank = true) ∧
    separates separator = true ∧ weight separator = 0

theorem lexed_space_cons {right : List Token} (hright : Lexed right)
    (hhead : ∀ c ∈ (textOf right).head?, Text.isBlank c = false) :
    Lexed (⟨.blank, [' ']⟩ :: right) :=
  ⟨.run .blanks (by decide) (by simp) hhead, hright⟩

theorem glue_comma : Glue isComma ", ".toList := by
  have htokens : ofText ", ".toList = [⟨.comma, [',']⟩, ⟨.blank, [' ']⟩] :=
    ofText_eq_iff.mpr ⟨rfl, .comma, lexed_space_cons trivial (by simp)⟩
  refine ⟨by decide, by simp [Stops], ?_, ?_⟩
  · intro right hright hhead
    rw [htokens]
    exact ⟨.comma, lexed_space_cons hright hhead⟩
  · exact ⟨[], ⟨.comma, [',']⟩, [⟨.blank, [' ']⟩], htokens, by simp, by decide, rfl, rfl⟩

section Spaced

variable {token : Token} (hreads : ∀ after, Reads token (' ' :: after))
include hreads

theorem lexed_spaced (hblank : token.isBlank = false) {right : List Token}
    (hright : Lexed right) (hhead : ∀ c ∈ (textOf right).head?, Text.isBlank c = false) :
    Lexed (⟨.blank, [' ']⟩ :: token :: ⟨.blank, [' ']⟩ :: right) := by
  have htoken := hreads (textOf right)
  refine lexed_space_cons ⟨htoken, lexed_space_cons hright hhead⟩ ?_
  rw [textOf_cons, List.head?_append_of_ne_nil _ htoken.text_ne_nil]
  exact (htoken.trimmed hblank).head

theorem ofText_spaced (hblank : token.isBlank = false) :
    ofText (' ' :: token.text ++ [' ']) = [⟨.blank, [' ']⟩, token, ⟨.blank, [' ']⟩] :=
  ofText_eq_iff.mpr ⟨by simp, lexed_spaced hreads hblank trivial (by simp)⟩

theorem glue_spaced (hblank : token.isBlank = false) {separates : Token → Bool}
    (hseparates : separates token = true) (hweight : weight token = 0) :
    Glue separates (' ' :: token.text ++ [' ']) := by
  have htokens := ofText_spaced hreads hblank
  refine ⟨by simp, by simp [Stops], ?_, ?_⟩
  · intro right hright hhead
    rw [htokens]
    exact lexed_spaced hreads hblank hright hhead
  · exact ⟨[⟨.blank, [' ']⟩], token, [⟨.blank, [' ']⟩], htokens, by decide, by decide,
      hseparates, hweight⟩

end Spaced

theorem reads_name {text : List Char} (htext : IsName text) (after : List Char) :
    Reads ⟨.word, text⟩ (' ' :: after) := by
  obtain ⟨first, rest, rfl⟩ := List.exists_cons_of_ne_nil htext.ne_nil
  refine .run .words (htext.chars first List.mem_cons_self) ?_ ?_
  · exact fun c hc => htext.chars c (List.mem_cons_of_mem first hc)
  · intro c hc
    obtain rfl : ' ' = c := by simpa using hc
    decide

theorem glue_word {word : String} (hword : IsName word.toList) :
    Glue (isWord word) (' ' :: word.toList ++ [' ']) :=
  glue_spaced (reads_name hword) rfl (by simp [isWord]) rfl

section Glued

variable {separates : Token → Bool} {glue : List Char}

theorem Stops.append {left right : List Char} (hleft : Stops left) (hne : left ≠ []) :
    Stops (left ++ right) := by
  rw [Stops, List.head?_append_of_ne_nil _ hne]
  exact hleft

theorem Phrase.lexed_glued {left : List Char} (hleft : Phrase left)
    (hglue : Glue separates glue) {right : List Token} (hright : Lexed right)
    (hhead : ∀ c ∈ (textOf right).head?, Text.isBlank c = false) :
    Lexed (ofText left ++ (ofText glue ++ right)) := by
  apply hleft.lexed _ (hglue.lexed _ hright hhead)
  rw [textOf_append, textOf_ofText]
  exact hglue.stops.append hglue.ne_nil

theorem Phrase.ofText_glued {left right : List Char} (hleft : Phrase left)
    (hglue : Glue separates glue) (hhead : ∀ c ∈ right.head?, Text.isBlank c = false) :
    ofText (left ++ glue ++ right) = ofText left ++ ofText glue ++ ofText right := by
  rw [ofText_eq_iff]
  refine ⟨by simp [textOf_ofText], ?_⟩
  have hlexed := hleft.lexed_glued hglue (lexed_ofText right).2
    (by rwa [textOf_ofText])
  simpa using hlexed

theorem Glue.balanced (hglue : Glue separates glue) : Balanced (ofText glue) := by
  obtain ⟨before, separator, after, htokens, hbefore, hafter, -, hweight⟩ := hglue.parts
  rw [htokens]
  apply balanced_of_flat
  intro token hmem
  simp only [List.mem_append, List.mem_cons] at hmem
  rcases hmem with hmem | rfl | hmem
  · exact weight_of_isBlank (hbefore token hmem)
  · exact hweight
  · exact weight_of_isBlank (hafter token hmem)

theorem Phrase.glued {left right : List Char} (hleft : Phrase left)
    (hglue : Glue separates glue) (hright : Phrase right) :
    Phrase (left ++ glue ++ right) where
  lexed after hafter hstops := by
    rw [hleft.ofText_glued hglue hright.trimmed.head, List.append_assoc, List.append_assoc]
    apply hleft.lexed_glued hglue (hright.lexed after hafter hstops)
    rw [textOf_append, textOf_ofText, List.head?_append_of_ne_nil _ hright.ne_nil]
    exact hright.trimmed.head
  balanced := by
    rw [hleft.ofText_glued hglue hright.trimmed.head]
    exact (hleft.balanced.append hglue.balanced).append hright.balanced
  ne_nil := by simp [hleft.ne_nil]
  trimmed := by
    constructor
    · rw [List.append_assoc, List.head?_append_of_ne_nil _ hleft.ne_nil]
      exact hleft.trimmed.head
    · rw [List.getLast?_append_of_ne_nil _ hright.ne_nil]
      exact hright.trimmed.last

theorem phrase_intercalate (hglue : Glue separates glue) {texts : List (List Char)}
    (hne : texts ≠ []) (hphrases : ∀ text ∈ texts, Phrase text) :
    Phrase (glue.intercalate texts) := by
  induction texts with
  | nil => contradiction
  | cons text rest ih =>
      have htext := hphrases text List.mem_cons_self
      cases rest with
      | nil => rwa [List.intercalate_singleton]
      | cons next rest =>
          rw [List.intercalate_cons_cons]
          exact htext.glued hglue (ih (by simp) fun other hmem =>
            hphrases other (List.mem_cons_of_mem text hmem))

/-- What neither the phrases nor the punctuation shows at level zero, the whole
does not show either. -/
theorem hides_intercalate {chosen : Token → Bool} (hglue : Glue separates glue)
    (hpunctuation : ∀ token ∈ ofText glue, chosen token = false) {texts : List (List Char)}
    (hphrases : ∀ text ∈ texts, Phrase text ∧ Hides chosen 0 (ofText text)) :
    Hides chosen 0 (ofText (glue.intercalate texts)) := by
  induction texts with
  | nil =>
      rw [List.intercalate_nil, ofText_nil]
      exact hides_nil
  | cons text rest ih =>
      obtain ⟨htext, hhides⟩ := hphrases text List.mem_cons_self
      have hrest := fun other hmem => hphrases other (List.mem_cons_of_mem text hmem)
      cases rest with
      | nil => rwa [List.intercalate_singleton]
      | cons next rest =>
          have hnext : Phrase (glue.intercalate (next :: rest)) :=
            phrase_intercalate hglue (by simp) fun other hmem => (hrest other hmem).1
          have hlevel : level (ofText glue) = 0 := by simpa using hglue.balanced.level_eq
          rw [List.intercalate_cons_cons, htext.ofText_glued hglue hnext.trimmed.head,
            hides_append_iff, hides_append_iff, level_append, htext.level_eq_zero, hlevel]
          exact ⟨⟨hhides, hides_of_none hpunctuation⟩, ih hrest⟩

/-- The tokens of a text with blank ones around them. -/
def Padded (text : List Char) (tokens : List Token) : Prop :=
  ∃ before after, tokens = before ++ ofText text ++ after ∧
    (∀ token ∈ before, token.isBlank = true) ∧ ∀ token ∈ after, token.isBlank = true

theorem padded_ofText (text : List Char) : Padded text (ofText text) :=
  ⟨[], [], by simp, by simp, by simp⟩

theorem Padded.source_eq {text : List Char} {tokens : List Token}
    (hpadded : Padded text tokens) (htext : Phrase text) : source tokens = text := by
  obtain ⟨before, after, rfl, hbefore, hafter⟩ := hpadded
  rw [source_padded _ hbefore hafter, source_ofText htext.trimmed]

theorem isComma_eq_false_of_isBlank (token : Token) (hblank : token.isBlank = true) :
    isComma token = false := by
  simp only [Token.isBlank, decide_eq_true_eq] at hblank
  simp [isComma, hblank]

theorem isWord_eq_false_of_isBlank {word : String} (token : Token)
    (hblank : token.isBlank = true) : isWord word token = false := by
  simp only [Token.isBlank, decide_eq_true_eq] at hblank
  simp [isWord, hblank]

theorem hides_of_blank {chosen : Token → Bool} {depth : Int} {tokens : List Token}
    (hchosen : ∀ token, token.isBlank = true → chosen token = false)
    (hblank : ∀ token ∈ tokens, token.isBlank = true) : Hides chosen depth tokens :=
  hides_of_none fun token hmem => hchosen token (hblank token hmem)

/-- Cutting a list with separators gives back its phrases, in order, with no
more than blanks around each. -/
theorem split_intercalate (hglue : Glue separates glue)
    (hblank : ∀ token, token.isBlank = true → separates token = false)
    {texts : List (List Char)} (hne : texts ≠ [])
    (hphrases : ∀ text ∈ texts, Phrase text ∧ Hides separates 0 (ofText text))
    {limit : Option Nat} (hlimit : ∀ n, limit = some n → texts.length ≤ n + 1)
    {tokens : List Token} (htokens : Padded (glue.intercalate texts) tokens) :
    List.Forall₂ Padded texts (split separates limit tokens) := by
  obtain ⟨before, after, rfl, hbefore, hafter⟩ := htokens
  induction texts generalizing limit before with
  | nil => contradiction
  | cons text rest ih =>
      obtain ⟨htext, hhides⟩ := hphrases text List.mem_cons_self
      have hrest := fun other hmem => hphrases other (List.mem_cons_of_mem text hmem)
      have hpadding : Hides separates 0 before := hides_of_blank hblank hbefore
      have hlevel := level_of_isBlank hbefore
      cases rest with
      | nil =>
          have hwhole : Hides separates 0 (before ++ ofText text ++ after) := by
            rw [hides_append_iff, hides_append_iff, level_append, hlevel, htext.level_eq_zero]
            exact ⟨⟨hpadding, hhides⟩, hides_of_blank hblank hafter⟩
          rw [List.intercalate_singleton, split_of_hides hwhole]
          exact .cons ⟨before, after, rfl, hbefore, hafter⟩ .nil
      | cons next rest =>
          obtain ⟨front, separator, back, hparts, hfront, hback, hseparator, hweight⟩ :=
            hglue.parts
          have hnext : Phrase (glue.intercalate (next :: rest)) :=
            phrase_intercalate hglue (by simp) fun other hmem => (hrest other hmem).1
          have hpart : Hides separates 0 (before ++ ofText text ++ front) := by
            rw [hides_append_iff, hides_append_iff, level_append, hlevel, htext.level_eq_zero]
            exact ⟨⟨hpadding, hhides⟩, hides_of_blank hblank hfront⟩
          have hpartLevel : level (before ++ ofText text ++ front) = 0 := by
            rw [level_append, level_append, hlevel, htext.level_eq_zero,
              level_of_isBlank hfront]
            rfl
          have hcut : before ++ ofText (glue.intercalate (text :: next :: rest)) ++ after =
              (before ++ ofText text ++ front) ++
                separator :: (back ++ ofText (glue.intercalate (next :: rest)) ++ after) := by
            rw [List.intercalate_cons_cons, htext.ofText_glued hglue hnext.trimmed.head, hparts]
            simp
          have hsome : limit ≠ some 0 := by
            intro hzero
            have := hlimit 0 hzero
            simp at this
          rw [hcut, split_append hpart hpartLevel hseparator hweight hsome]
          refine .cons ⟨before, front, rfl, hbefore, hfront⟩ ?_
          refine ih (by simp) hrest ?_ back hback
          intro n hn
          obtain ⟨m, rfl, rfl⟩ := Option.map_eq_some_iff.mp hn
          have := hlimit m rfl
          simp only [List.length_cons] at this ⊢
          omega

end Glued

/-! ### Calls -/

section Calls

variable {name inner : List Char}

/-- The syntax of a call. -/
def callText (name inner : List Char) : List Char :=
  name ++ '(' :: inner ++ [')']

theorem lexed_call (hname : IsName name) (hinner : Insertable inner) {right : List Token}
    (hright : Lexed right) :
    Lexed (⟨.word, name⟩ :: ⟨.opening, ['(']⟩ ::
      (ofText inner ++ ⟨.closing, [')']⟩ :: right)) := by
  refine lexed_word_cons hname ⟨.opening, hinner.lexed _ ⟨.closing, hright⟩ ?_⟩ ?_
  · simp [Ends]
  · intro c hc
    obtain rfl : '(' = c := by simpa using hc
    decide

theorem ofText_callText (hname : IsName name) (hinner : Insertable inner) :
    ofText (callText name inner) =
      ⟨.word, name⟩ :: ⟨.opening, ['(']⟩ :: ofText inner ++ [⟨.closing, [')']⟩] := by
  have hlexed := lexed_call hname hinner (show Lexed [] from trivial)
  exact ofText_eq_iff.mpr ⟨by simp [callText, textOf_ofText], hlexed⟩

theorem phrase_callText (hname : IsName name) (hinner : Insertable inner) :
    Phrase (callText name inner) where
  lexed right hright _ := by
    rw [ofText_callText hname hinner]
    simpa using lexed_call hname hinner hright
  balanced := by
    have hword : Balanced [⟨.word, name⟩] := balanced_of_flat (by simp [weight])
    rw [ofText_callText hname hinner]
    exact hword.append (hinner.balanced.enclose rfl rfl)
  ne_nil := by simp [callText]
  trimmed := by
    constructor
    · rw [callText, List.append_assoc, List.head?_append_of_ne_nil _ hname.ne_nil]
      exact (phrase_name hname).trimmed.head
    · rw [callText, List.getLast?_append_of_ne_nil _ (by simp)]
      intro c hc
      obtain rfl : ')' = c := by simpa using hc
      decide

/-- A call shows nothing but its name at level zero. -/
theorem hides_callText {chosen : Token → Bool} (hname : IsName name)
    (hinner : Insertable inner) (hword : chosen ⟨.word, name⟩ = false)
    (hopening : chosen ⟨.opening, ['(']⟩ = false) :
    Hides chosen 0 (ofText (callText name inner)) := by
  rw [ofText_callText hname hinner, List.cons_append, hides_cons_iff]
  exact ⟨fun _ => hword, hinner.balanced.hides_enclosed rfl hopening⟩

theorem call?_padded {before after : List Token} (tokens : List Token)
    (hbefore : ∀ token ∈ before, token.isBlank = true)
    (hafter : ∀ token ∈ after, token.isBlank = true) :
    call? (before ++ tokens ++ after) = call? tokens := by
  rw [call?, call?, trim_padded tokens hbefore hafter]

theorem call?_concat_blank {token : Token} (hblank : token.isBlank = true)
    (tokens : List Token) : call? (tokens ++ [token]) = call? tokens := by
  have hpadded : call? ([] ++ tokens ++ [token]) = call? tokens :=
    call?_padded tokens (by simp) (by simpa using hblank)
  exact hpadded

theorem call?_ofText_callText (hname : IsName name) (hinner : Insertable inner) :
    call? (ofText (callText name inner)) = some (String.ofList name, ofText inner) := by
  rw [call?_eq_some_iff]
  refine ⟨⟨.word, name⟩, ⟨.opening, ['(']⟩, ⟨.closing, [')']⟩, ?_, rfl, rfl, rfl, rfl,
    hinner.balanced⟩
  rw [ofText_callText hname hinner]
  apply Text.trimList_eq_self
  constructor
  · simp [Token.isBlank]
  · rw [List.getLast?_append_of_ne_nil _ (by simp)]
    simp [Token.isBlank]

end Calls

end SurveyForm.Token
