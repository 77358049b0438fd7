import Mathlib.Data.List.Basic
/-!
Texts that are cut in two at a character.
-/

namespace SurveyForm

theorem eq_nil_of_cons_eq {c : Char} {between short long : List Char}
    (heq : c :: short = between ++ c :: long) (hcount : short.count c = long.count c) :
    between = [] := by
  cases between with
  | nil => rfl
  | cons first between =>
      have hshort : short = between ++ c :: long := (List.cons.inj heq).2
      rw [hshort, List.count_append, List.count_cons_self] at hcount
      omega

/-- Two cuts of a text at a character are the same if it occurs equally often behind them. -/
theorem eq_of_append_cons_eq {c : Char} {front back other last : List Char}
    (heq : front ++ c :: back = other ++ c :: last) (hcount : back.count c = last.count c) :
    front = other ∧ back = last := by
  have hfront : front = other := by
    rcases List.append_eq_append_iff.mp heq with ⟨between, hother, hrest⟩ | ⟨between, hfront, hrest⟩
    · rw [hother, eq_nil_of_cons_eq hrest hcount, List.append_nil]
    · rw [hfront, eq_nil_of_cons_eq hrest hcount.symm, List.append_nil]
  subst hfront
  exact ⟨rfl, (List.cons.inj (List.append_cancel_left heq)).2⟩

/-- A name with a colon can be cut in one way into a front and a name without a colon. -/
theorem eq_of_append_colon_eq {front back name label : String} (hname : ':' ∉ name.toList)
    (hlabel : ':' ∉ label.toList) (heq : front ++ ":" ++ name = back ++ ":" ++ label) :
    front = back ∧ name = label := by
  have hchars : front.toList ++ ':' :: name.toList = back.toList ++ ':' :: label.toList := by
    simpa using congrArg String.toList heq
  have hcount : name.toList.count ':' = label.toList.count ':' := by
    rw [List.count_eq_zero.mpr hname, List.count_eq_zero.mpr hlabel]
  obtain ⟨hfront, hback⟩ := eq_of_append_cons_eq hchars hcount
  exact ⟨String.toList_inj.mp hfront, String.toList_inj.mp hback⟩

end SurveyForm
