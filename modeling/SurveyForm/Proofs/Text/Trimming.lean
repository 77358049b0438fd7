import Mathlib.Data.List.TakeWhile
import SurveyForm.Text.Blank
/-!
What trimming leaves of a list: the stretch between its first and its last
element that is not dropped.  The stretch is determined by its two ends.
-/

namespace SurveyForm.Text

variable {α : Type} {drop : α → Bool}

/-- A list whose first and last elements, if it has any, are not dropped. -/
structure Trimmed (drop : α → Bool) (items : List α) : Prop where
  head : ∀ item ∈ items.head?, drop item = false
  last : ∀ item ∈ items.getLast?, drop item = false

instance (drop : α → Bool) (items : List α) : Decidable (Trimmed drop items) :=
  decidable_of_iff ((items.head?.all fun item => !drop item) = true ∧
      (items.getLast?.all fun item => !drop item) = true)
    ⟨fun hitems => ⟨by simpa [Option.all_eq_true] using hitems.1,
        by simpa [Option.all_eq_true] using hitems.2⟩,
      fun hitems => ⟨by simpa [Option.all_eq_true] using hitems.head,
        by simpa [Option.all_eq_true] using hitems.last⟩⟩

theorem trimmed_nil : Trimmed drop [] :=
  ⟨by simp, by simp⟩

theorem dropTrailing_append {items dropped : List α}
    (hdropped : ∀ item ∈ dropped, drop item = true) :
    dropTrailing drop (items ++ dropped) = dropTrailing drop items := by
  have hreverse : ∀ item ∈ dropped.reverse, drop item = true := by
    intro item hitem
    exact hdropped item (List.mem_reverse.mp hitem)
  rw [dropTrailing, dropTrailing, List.reverse_append,
    List.dropWhile_append_of_pos hreverse]

theorem dropTrailing_eq_self {items : List α}
    (hlast : ∀ item ∈ items.getLast?, drop item = false) :
    dropTrailing drop items = items := by
  rcases List.eq_nil_or_concat items with rfl | ⟨front, last, rfl⟩
  · rfl
  · have hdrop : drop last = false := hlast last (by simp)
    simp [dropTrailing, hdrop]

/-- Nothing before an element that is kept is trailing. -/
theorem dropTrailing_kept {item : α} (hkept : drop item = false) (front back : List α) :
    dropTrailing drop (front ++ item :: back) = front ++ item :: dropTrailing drop back := by
  have hitem : ¬drop item = true := by simp [hkept]
  rw [dropTrailing, dropTrailing, List.reverse_append, List.reverse_cons, List.append_assoc,
    List.dropWhile_append]
  split_ifs with hempty
  · rw [List.isEmpty_iff] at hempty
    rw [hempty, List.singleton_append, List.dropWhile_cons_of_neg hitem]
    simp
  · simp

theorem dropWhile_eq_self {items : List α}
    (hhead : ∀ item ∈ items.head?, drop item = false) :
    items.dropWhile drop = items := by
  cases items with
  | nil => rfl
  | cons first rest =>
      have hdrop : drop first = false := hhead first (by simp)
      simp [hdrop]

/-- Trimming finds the one stretch with the right ends between dropped elements. -/
theorem trimList_eq {before items after : List α}
    (hbefore : ∀ item ∈ before, drop item = true)
    (hafter : ∀ item ∈ after, drop item = true) (hitems : Trimmed drop items) :
    trimList drop (before ++ items ++ after) = items := by
  rw [trimList, List.append_assoc, List.dropWhile_append_of_pos hbefore]
  cases items with
  | nil =>
      have hnil : after.dropWhile drop = [] := List.dropWhile_eq_nil_iff.mpr hafter
      simp [hnil, dropTrailing]
  | cons first rest =>
      rw [dropWhile_eq_self (by simpa using hitems.head), dropTrailing_append hafter,
        dropTrailing_eq_self hitems.last]

/-- Around an element that is kept, each side is trimmed at its own end. -/
theorem trimList_kept {item : α} (hkept : drop item = false) (front back : List α) :
    trimList drop (front ++ item :: back) =
      front.dropWhile drop ++ item :: dropTrailing drop back := by
  have hitem : ¬drop item = true := by simp [hkept]
  rw [trimList, List.dropWhile_append]
  split_ifs with hempty
  · rw [List.isEmpty_iff] at hempty
    rw [hempty, List.dropWhile_cons_of_neg hitem]
    exact dropTrailing_kept hkept [] back
  · exact dropTrailing_kept hkept _ back

theorem trimList_eq_self {items : List α} (hitems : Trimmed drop items) :
    trimList drop items = items := by
  have hparts : trimList drop ([] ++ items ++ []) = items :=
    trimList_eq (by simp) (by simp) hitems
  simpa using hparts

theorem dropTrailing_decomposition (drop : α → Bool) (items : List α) :
    ∃ after, items = dropTrailing drop items ++ after ∧
      (∀ item ∈ after, drop item = true) ∧
      ∀ item ∈ (dropTrailing drop items).getLast?, drop item = false := by
  refine ⟨(items.reverse.takeWhile drop).reverse, ?_, ?_, ?_⟩
  · rw [dropTrailing, ← List.reverse_append, List.takeWhile_append_dropWhile,
      List.reverse_reverse]
  · intro item hitem
    exact List.all_eq_true.mp List.all_takeWhile item (List.mem_reverse.mp hitem)
  · intro item hitem
    rw [dropTrailing, List.getLast?_reverse] at hitem
    have hhead := List.head?_dropWhile_not drop items.reverse
    rw [Option.mem_def.mp hitem] at hhead
    exact hhead

/-- A stretch keeps at least as much inside a longer list. -/
theorem length_dropTrailing_le_append (drop : α → Bool) (front items back : List α) :
    (dropTrailing drop items).length ≤ (dropTrailing drop (front ++ items ++ back)).length := by
  obtain ⟨after, hitems, -, hlast⟩ := dropTrailing_decomposition drop items
  rcases List.eq_nil_or_concat (dropTrailing drop items) with hnil | ⟨begin, item, hconcat⟩
  · simp [hnil]
  · rw [List.concat_eq_append] at hconcat
    rw [hconcat] at hitems hlast ⊢
    have hparts : front ++ items ++ back = (front ++ begin) ++ item :: (after ++ back) := by
      rw [hitems]
      simp
    rw [hparts, dropTrailing_kept (hlast item (by simp))]
    simp only [List.length_append, List.length_cons, List.length_nil]
    omega

/-- Every list is what trimming leaves of it, between dropped elements. -/
theorem trimList_decomposition (drop : α → Bool) (items : List α) :
    ∃ before after, items = before ++ trimList drop items ++ after ∧
      (∀ item ∈ before, drop item = true) ∧ (∀ item ∈ after, drop item = true) ∧
      Trimmed drop (trimList drop items) := by
  obtain ⟨after, hafter, hdropped, hlast⟩ :=
    dropTrailing_decomposition drop (items.dropWhile drop)
  refine ⟨items.takeWhile drop, after, ?_, ?_, hdropped, ?_, hlast⟩
  · rw [List.append_assoc, trimList, ← hafter, List.takeWhile_append_dropWhile]
  · exact fun item => List.all_eq_true.mp List.all_takeWhile item
  · intro item hitem
    have hhead := List.head?_dropWhile_not drop items
    rw [hafter, List.head?_append, show (dropTrailing drop _).head? = some item from hitem]
      at hhead
    exact hhead

theorem trimmed_trimList (drop : α → Bool) (items : List α) :
    Trimmed drop (trimList drop items) := by
  obtain ⟨_, _, _, _, _, htrimmed⟩ := trimList_decomposition drop items
  exact htrimmed

theorem trimList_eq_nil_iff {items : List α} :
    trimList drop items = [] ↔ ∀ item ∈ items, drop item = true := by
  obtain ⟨before, after, hitems, hbefore, hafter, _⟩ := trimList_decomposition drop items
  constructor
  · intro hnil item hitem
    rw [hnil, List.append_nil] at hitems
    rw [hitems] at hitem
    rcases List.mem_append.mp hitem with hmem | hmem
    · exact hbefore item hmem
    · exact hafter item hmem
  · intro hall
    have hparts : trimList drop (items ++ [] ++ []) = [] :=
      trimList_eq hall (by simp) trimmed_nil
    simpa using hparts

end SurveyForm.Text
