import Mathlib.Data.List.Basic
import Mathlib.Data.List.Induction
import SurveyForm.Expr.Basic
/-!
Lists without their repetitions: nothing is lost, nothing comes twice, and what comes
first stays first.
-/

namespace SurveyForm

variable {α : Type} [BEq α] {items : List α} {item : α}

theorem firstOccurrences_concat (items : List α) (item : α) :
    firstOccurrences (items ++ [item]) =
      if (firstOccurrences items).contains item then firstOccurrences items
      else firstOccurrences items ++ [item] := by
  rw [firstOccurrences, List.foldl_append]
  rfl

variable [LawfulBEq α]

theorem mem_firstOccurrences_iff : item ∈ firstOccurrences items ↔ item ∈ items := by
  induction items using List.reverseRecOn with
  | nil => rfl
  | append_singleton items last ih =>
      rw [firstOccurrences_concat, List.mem_append, List.mem_singleton, ← ih]
      split
      · next hseen =>
          rw [List.contains_iff_mem] at hseen
          exact ⟨.inl, fun hmem => hmem.elim id (· ▸ hseen)⟩
      · rw [List.mem_append, List.mem_singleton]

theorem firstOccurrences_eq_nil_iff : firstOccurrences items = [] ↔ items = [] := by
  rw [List.eq_nil_iff_forall_not_mem, List.eq_nil_iff_forall_not_mem]
  simp only [mem_firstOccurrences_iff]

theorem firstOccurrences_concat_of_mem (hmem : item ∈ items) :
    firstOccurrences (items ++ [item]) = firstOccurrences items := by
  rw [firstOccurrences_concat, if_pos]
  exact List.contains_iff_mem.mpr (mem_firstOccurrences_iff.mpr hmem)

theorem firstOccurrences_concat_of_not_mem (hmem : item ∉ items) :
    firstOccurrences (items ++ [item]) = firstOccurrences items ++ [item] := by
  rw [firstOccurrences_concat, if_neg]
  rwa [List.contains_iff_mem, mem_firstOccurrences_iff]

theorem nodup_firstOccurrences (items : List α) : (firstOccurrences items).Nodup := by
  induction items using List.reverseRecOn with
  | nil => exact List.nodup_nil
  | append_singleton items last ih =>
      by_cases hmem : last ∈ items
      · rwa [firstOccurrences_concat_of_mem hmem]
      · rw [firstOccurrences_concat_of_not_mem hmem, List.nodup_append]
        refine ⟨ih, by simp, fun item hitem other hother => ?_⟩
        obtain rfl := List.mem_singleton.mp hother
        exact fun heq => hmem (heq ▸ mem_firstOccurrences_iff.mp hitem)

/-- What is listed earlier occurs earlier for the first time. -/
theorem pairwise_idxOf_firstOccurrences (items : List α) :
    (firstOccurrences items).Pairwise fun first second =>
      items.idxOf first < items.idxOf second := by
  induction items using List.reverseRecOn with
  | nil => exact List.Pairwise.nil
  | append_singleton items last ih =>
      have hearlier : (firstOccurrences items).Pairwise fun first second =>
          (items ++ [last]).idxOf first < (items ++ [last]).idxOf second := by
        apply ih.imp_of_mem
        intro first second hfirst hsecond hlt
        rwa [List.idxOf_append_of_mem (mem_firstOccurrences_iff.mp hfirst),
          List.idxOf_append_of_mem (mem_firstOccurrences_iff.mp hsecond)]
      by_cases hmem : last ∈ items
      · rwa [firstOccurrences_concat_of_mem hmem]
      · rw [firstOccurrences_concat_of_not_mem hmem, List.pairwise_append]
        refine ⟨hearlier, List.pairwise_singleton .., ?_⟩
        intro first hfirst second hsecond
        obtain rfl := List.mem_singleton.mp hsecond
        have hfirstMem := mem_firstOccurrences_iff.mp hfirst
        rw [List.idxOf_append_of_mem hfirstMem, List.idxOf_append_of_notMem hmem]
        exact Nat.lt_add_right _ (List.idxOf_lt_length_of_mem hfirstMem)

theorem idxOf_le_of_getElem_eq {place : Nat} (hplace : place < items.length)
    (hitem : items[place] = item) : items.idxOf item ≤ place := by
  by_contra hlt
  have hother := List.not_of_lt_findIdx (Nat.lt_of_not_le hlt)
  simp [hitem] at hother

/-- Where the turns of items rise, what is listed earlier has a turn before all turns of what
is listed later. -/
theorem pairwise_turn_firstOccurrences {turns : List (α × Nat)}
    (hturns : turns.Pairwise fun earlier later => earlier.2 < later.2) :
    (firstOccurrences (turns.map Prod.fst)).Pairwise fun first second =>
      ∃ turn, (first, turn) ∈ turns ∧ ∀ later, (second, later) ∈ turns → turn < later := by
  apply (pairwise_idxOf_firstOccurrences (turns.map Prod.fst)).imp_of_mem
  intro first second hfirst _ hlt
  have hlength := List.idxOf_lt_length_of_mem (mem_firstOccurrences_iff.mp hfirst)
  have hitem := List.getElem_idxOf hlength
  generalize (turns.map Prod.fst).idxOf first = place at hlt hlength hitem
  rw [List.length_map] at hlength
  rw [List.getElem_map] at hitem
  have hmem : (first, turns[place].2) ∈ turns := by
    rw [← hitem]
    exact List.getElem_mem hlength
  refine ⟨turns[place].2, hmem, fun later hlater => ?_⟩
  obtain ⟨other, hother, hturn⟩ := List.getElem_of_mem hlater
  have hle : (turns.map Prod.fst).idxOf second ≤ other :=
    idxOf_le_of_getElem_eq (by simpa using hother) (by simp [hturn])
  have hrise := List.pairwise_iff_getElem.mp hturns place other hlength hother
    (Nat.lt_of_lt_of_le hlt hle)
  rwa [hturn] at hrise

theorem head?_firstOccurrences (items : List α) :
    (firstOccurrences items).head? = items.head? := by
  induction items using List.reverseRecOn with
  | nil => rfl
  | append_singleton items last ih =>
      by_cases hmem : last ∈ items
      · rw [firstOccurrences_concat_of_mem hmem, ih, List.head?_append, ← ih]
        cases hhead : (firstOccurrences items).head? with
        | none =>
            rw [List.head?_eq_none_iff] at hhead
            rw [← mem_firstOccurrences_iff, hhead] at hmem
            contradiction
        | some first => rfl
      · rw [firstOccurrences_concat_of_not_mem hmem, List.head?_append, List.head?_append, ih]

end SurveyForm
