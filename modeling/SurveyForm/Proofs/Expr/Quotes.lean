import SurveyForm.Expr.Parser
import SurveyForm.Proofs.Token.Phrase
/-!
Taking off quotes.  At most one character goes at either end and only if it is
a quote, whether or not the two belong together.
-/

namespace SurveyForm.Expr

open Token (isQuote inQuotes)

/-- The text without a quote at its beginning. -/
def dropFirstQuote (text : List Char) : List Char :=
  match text with
  | first :: rest => if isQuote first then rest else first :: rest
  | [] => []

/-- The text without a quote at its end. -/
def dropLastQuote (text : List Char) : List Char :=
  match text.getLast? with
  | some last => if isQuote last then text.dropLast else text
  | none => text

theorem stripQuotes_eq (text : List Char) :
    stripQuotes text = dropLastQuote (dropFirstQuote text) :=
  rfl

theorem dropFirstQuote_cons {quote : Char} (hquote : isQuote quote = true)
    (rest : List Char) : dropFirstQuote (quote :: rest) = rest := by
  simp [dropFirstQuote, hquote]

theorem dropFirstQuote_eq_self {text : List Char}
    (hhead : ∀ c ∈ text.head?, isQuote c = false) : dropFirstQuote text = text := by
  cases text with
  | nil => rfl
  | cons first rest =>
      have hfirst : isQuote first = false := hhead first rfl
      simp [dropFirstQuote, hfirst]

theorem dropFirstQuote_append {front : List Char} (hne : front ≠ []) (back : List Char) :
    dropFirstQuote (front ++ back) = dropFirstQuote front ++ back := by
  cases front with
  | nil => contradiction
  | cons first rest =>
      simp only [dropFirstQuote, List.cons_append]
      split_ifs <;> rfl

theorem dropLastQuote_append {quote : Char} (hquote : isQuote quote = true)
    (text : List Char) : dropLastQuote (text ++ [quote]) = text := by
  simp [dropLastQuote, hquote]

theorem dropLastQuote_eq_self {text : List Char}
    (hlast : ∀ c ∈ text.getLast?, isQuote c = false) : dropLastQuote text = text := by
  unfold dropLastQuote
  split
  · rename_i last heq
    rw [hlast last heq]
    rfl
  · rfl

/-- Only the back of a text decides what is taken off there. -/
theorem dropLastQuote_append_of_ne_nil (front : List Char) {back : List Char}
    (hne : back ≠ []) : dropLastQuote (front ++ back) = front ++ dropLastQuote back := by
  simp only [dropLastQuote, List.getLast?_append_of_ne_nil _ hne,
    List.dropLast_append_of_ne_nil hne]
  split
  · split_ifs <;> rfl
  · rfl

theorem dropLastQuote_decomposition (text : List Char) :
    ∃ after, text = dropLastQuote text ++ after ∧ ∀ c ∈ after, isQuote c = true := by
  by_cases hlast : ∀ c ∈ text.getLast?, isQuote c = false
  · exact ⟨[], by simp [dropLastQuote_eq_self hlast], by simp⟩
  · push Not at hlast
    obtain ⟨quote, hmem, hquote⟩ := hlast
    rw [Bool.ne_false_iff] at hquote
    obtain ⟨front, rfl⟩ := List.getLast?_eq_some_iff.mp (Option.mem_def.mp hmem)
    exact ⟨[quote], by rw [dropLastQuote_append hquote], by simpa using hquote⟩

theorem dropFirstQuote_decomposition (text : List Char) :
    ∃ before, text = before ++ dropFirstQuote text ∧ ∀ c ∈ before, isQuote c = true := by
  by_cases hhead : ∀ c ∈ text.head?, isQuote c = false
  · exact ⟨[], by simp [dropFirstQuote_eq_self hhead], by simp⟩
  · push Not at hhead
    obtain ⟨quote, hmem, hquote⟩ := hhead
    rw [Bool.ne_false_iff] at hquote
    obtain ⟨rest, rfl⟩ := List.head?_eq_some_iff.mp (Option.mem_def.mp hmem)
    exact ⟨[quote], by rw [dropFirstQuote_cons hquote]; rfl, by simpa using hquote⟩

/-- What is taken off at the two ends is at most a quote each. -/
theorem stripQuotes_decomposition (text : List Char) :
    ∃ before after, text = before ++ stripQuotes text ++ after ∧
      ∀ c ∈ before ++ after, isQuote c = true := by
  obtain ⟨before, hfront, hbefore⟩ := dropFirstQuote_decomposition text
  obtain ⟨after, hback, hafter⟩ := dropLastQuote_decomposition (dropFirstQuote text)
  refine ⟨before, after, ?_, ?_⟩
  · rw [stripQuotes_eq, List.append_assoc, ← hback]
    exact hfront
  · intro c hc
    exact (List.mem_append.mp hc).elim (hbefore c) (hafter c)

theorem length_dropLastQuote_le (text : List Char) :
    (dropLastQuote text).length ≤ text.length := by
  obtain ⟨after, htext, -⟩ := dropLastQuote_decomposition text
  have hlength := congrArg List.length htext
  simp only [List.length_append] at hlength
  omega

theorem length_stripQuotes_le (text : List Char) :
    (stripQuotes text).length ≤ text.length := by
  obtain ⟨before, after, htext, -⟩ := stripQuotes_decomposition text
  have hlength := congrArg List.length htext
  simp only [List.length_append] at hlength
  omega

theorem stripQuotes_eq_self {text : List Char}
    (hhead : ∀ c ∈ text.head?, isQuote c = false)
    (hlast : ∀ c ∈ text.getLast?, isQuote c = false) : stripQuotes text = text := by
  rw [stripQuotes_eq, dropFirstQuote_eq_self hhead, dropLastQuote_eq_self hlast]

/-- A quoted text is what stands between its quotes, quotes of the other kind
included. -/
theorem stripQuotes_inQuotes (text : List Char) : stripQuotes (inQuotes text) = text := by
  rw [inQuotes, List.cons_append, stripQuotes_eq, dropFirstQuote_cons (by decide),
    dropLastQuote_append (by decide)]

/-- A quote that is opened and not closed before a text is taken off alone. -/
theorem stripQuotes_opened {text : List Char}
    (hlast : ∀ c ∈ text.getLast?, isQuote c = false) : stripQuotes ('\'' :: text) = text := by
  rw [stripQuotes_eq, dropFirstQuote_cons (by decide), dropLastQuote_eq_self hlast]

/-- A text that ends in a quote loses that one alone if it begins with none. -/
theorem stripQuotes_closed {quote : Char} (hquote : isQuote quote = true) {text : List Char}
    (hne : text ≠ []) (hhead : ∀ c ∈ text.head?, isQuote c = false) :
    stripQuotes (text ++ [quote]) = text := by
  rw [stripQuotes_eq, dropFirstQuote_append hne, dropFirstQuote_eq_self hhead,
    dropLastQuote_append hquote]

end SurveyForm.Expr
