import Mathlib.Data.List.Induction
import SurveyForm.Entries
/-!
Ordered maps that are filled pair by pair.  Every key has one place, and what it leads to
is the value of the last pair with the key.
-/

namespace SurveyForm.Entries

variable {α : Type} {entries : Entries α} {pairs : List (String × α)} {key other : String}

theorem mem_keys_iff : key ∈ entries.keys ↔ (entries.get? key).isSome = true := by
  simp [keys, get?]

theorem mem_keys_put_iff (value : α) :
    other ∈ (entries.put key value).keys ↔ other = key ∨ other ∈ entries.keys := by
  by_cases hother : other = key
  · subst hother
    simp [mem_keys_iff, get?_put_self]
  · simp [mem_keys_iff, get?_put_of_ne entries value hother, hother]

theorem nodup_keys_put (hnodup : entries.keys.Nodup) (key : String) (value : α) :
    (entries.put key value).keys.Nodup := by
  induction entries with
  | nil => simp [put, keys]
  | cons entry rest ih =>
      obtain ⟨first, old⟩ := entry
      obtain ⟨hfirst, hrest⟩ := List.nodup_cons.mp hnodup
      unfold put
      split
      · next heq => exact List.nodup_cons.mpr ⟨heq ▸ hfirst, hrest⟩
      · next hne =>
          refine List.nodup_cons.mpr ⟨fun hmem => ?_, ih hrest⟩
          exact ((mem_keys_put_iff value).mp hmem).elim hne hfirst

theorem put_cons_self (key : String) (old value : α) (rest : Entries α) :
    put ((key, old) :: rest) key value = (key, value) :: rest :=
  if_pos rfl

theorem put_cons_of_ne (hne : other ≠ key) (old value : α) (rest : Entries α) :
    put ((other, old) :: rest) key value = (other, old) :: put rest key value :=
  if_neg hne

/-- Of two values under one key, the second one stays. -/
theorem put_put (entries : Entries α) (key : String) (old value : α) :
    (entries.put key old).put key value = entries.put key value := by
  induction entries with
  | nil => exact put_cons_self key old value []
  | cons entry rest ih =>
      obtain ⟨first, before⟩ := entry
      by_cases hfirst : first = key
      · subst hfirst
        rw [put_cons_self, put_cons_self, put_cons_self]
      · rw [put_cons_of_ne hfirst, put_cons_of_ne hfirst, put_cons_of_ne hfirst, ih]

/-- Values under two keys can be put in either order if one of the keys has its place
already; the place of the other one is the same then. -/
theorem put_comm (hkey : key ∈ entries.keys) (hne : key ≠ other) (value new : α) :
    (entries.put key value).put other new = (entries.put other new).put key value := by
  induction entries with
  | nil => contradiction
  | cons entry rest ih =>
      obtain ⟨first, old⟩ := entry
      by_cases hfirst : first = key
      · subst hfirst
        rw [put_cons_self, put_cons_of_ne hne, put_cons_of_ne hne, put_cons_self]
      · have hrest : key ∈ keys rest := List.mem_of_ne_of_mem (Ne.symm hfirst) hkey
        rw [put_cons_of_ne hfirst]
        by_cases hother : first = other
        · subst hother
          rw [put_cons_self, put_cons_self, put_cons_of_ne hfirst]
        · rw [put_cons_of_ne hother, put_cons_of_ne hother, put_cons_of_ne hfirst, ih hrest]

/-- Where every key has one place, a key leads to what stands beside it. -/
theorem get?_eq_some_iff (hnodup : entries.keys.Nodup) {value : α} :
    entries.get? key = some value ↔ (key, value) ∈ entries := by
  induction entries with
  | nil => simp [get?]
  | cons entry rest ih =>
      obtain ⟨first, other⟩ := entry
      obtain ⟨hfirst, hrest⟩ := List.nodup_cons.mp hnodup
      rw [get?, List.lookup_cons, List.mem_cons]
      by_cases hkey : key = first
      · subst hkey
        have hother : (key, value) ∉ rest := by
          intro hmem
          exact hfirst (List.mem_map.mpr ⟨_, hmem, rfl⟩)
        simp [hother, eq_comm]
      · have hne : (key == first) = false := by simpa using hkey
        rw [hne, ← get?, ih hrest]
        simp [hkey]

/-- Puts in pairs, one after the other. -/
def putAll (entries : Entries α) (pairs : List (String × α)) : Entries α :=
  pairs.foldl (fun entries pair => entries.put pair.1 pair.2) entries

/-- The value of the last pair with a key. -/
def lastOf? (pairs : List (String × α)) (key : String) : Option α :=
  (pairs.reverse.find? (·.1 = key)).map (·.2)

theorem nodup_keys_putAll (hnodup : entries.keys.Nodup) (pairs : List (String × α)) :
    (entries.putAll pairs).keys.Nodup := by
  induction pairs generalizing entries with
  | nil => exact hnodup
  | cons pair rest ih => exact ih (nodup_keys_put hnodup pair.1 pair.2)

theorem nodup_keys_putAll_nil (pairs : List (String × α)) : (putAll [] pairs).keys.Nodup :=
  nodup_keys_putAll (show (keys ([] : Entries α)).Nodup from List.nodup_nil) pairs

theorem lastOf?_append (pairs later : List (String × α)) (key : String) :
    lastOf? (pairs ++ later) key = (lastOf? later key).or (lastOf? pairs key) := by
  rw [lastOf?, List.reverse_append, List.find?_append, Option.map_or]
  rfl

theorem lastOf?_singleton_self (key : String) (value : α) :
    lastOf? [(key, value)] key = some value := by
  simp [lastOf?]

theorem lastOf?_singleton_of_ne (value : α) (hne : other ≠ key) :
    lastOf? [(other, value)] key = none := by
  simp [lastOf?, hne]

/-- The last pair with a key decides what the key leads to. -/
theorem get?_putAll (entries : Entries α) (pairs : List (String × α)) (key : String) :
    (entries.putAll pairs).get? key = (lastOf? pairs key).or (entries.get? key) := by
  induction pairs using List.reverseRecOn with
  | nil => rfl
  | append_singleton pairs last ih =>
      obtain ⟨other, value⟩ := last
      rw [putAll, List.foldl_append, ← putAll, lastOf?_append]
      by_cases hother : other = key
      · subst hother
        rw [lastOf?_singleton_self]
        exact get?_put_self _ other value
      · rw [lastOf?_singleton_of_ne value hother, Option.none_or, ← ih]
        exact get?_put_of_ne _ value (Ne.symm hother)

/-- Where every key has one place, the last pair with a key is the only one. -/
theorem lastOf?_eq_get? (hnodup : entries.keys.Nodup) (key : String) :
    lastOf? entries key = entries.get? key := by
  induction entries with
  | nil => rfl
  | cons entry rest ih =>
      obtain ⟨first, value⟩ := entry
      obtain ⟨hfirst, hrest⟩ := List.nodup_cons.mp hnodup
      rw [← List.singleton_append, lastOf?_append, ih hrest]
      by_cases hkey : first = key
      · subst hkey
        have hnone : get? rest first = none := by
          rwa [← Option.not_isSome_iff_eq_none, ← mem_keys_iff]
        rw [hnone, lastOf?_singleton_self, Option.none_or]
        exact List.lookup_cons_self.symm
      · have hne : (key == first) = false := by simpa using Ne.symm hkey
        rw [lastOf?_singleton_of_ne value hkey, Option.or_none]
        rw [List.singleton_append, get?, get?, List.lookup_cons, hne]

section Renamed

variable {rename : String → String}

/-- Pairs with other names for their keys. -/
def renamed (rename : String → String) (pairs : List (String × α)) : List (String × α) :=
  pairs.map fun pair => (rename pair.1, pair.2)

theorem lastOf?_renamed (hrename : Function.Injective rename) (pairs : List (String × α))
    (key : String) : lastOf? (renamed rename pairs) (rename key) = lastOf? pairs key := by
  rw [lastOf?, renamed, ← List.map_reverse, List.find?_map, Option.map_map, lastOf?]
  simp only [Function.comp_def, hrename.eq_iff]

theorem lastOf?_renamed_eq_none (hother : ∀ key, rename key ≠ other)
    (pairs : List (String × α)) : lastOf? (renamed rename pairs) other = none := by
  rw [lastOf?, renamed, ← List.map_reverse, List.find?_map, Option.map_map,
    List.find?_eq_none.mpr (fun pair _ => by simpa using hother pair.1)]
  rfl

/-- Pairs and the map that they fill name the same values for other names of the keys. -/
theorem lastOf?_renamed_putAll (hrename : Function.Injective rename)
    (pairs : List (String × α)) (other : String) :
    lastOf? (renamed rename (putAll [] pairs)) other = lastOf? (renamed rename pairs) other := by
  by_cases hother : ∃ key, rename key = other
  · obtain ⟨key, rfl⟩ := hother
    rw [lastOf?_renamed hrename, lastOf?_renamed hrename,
      lastOf?_eq_get? (nodup_keys_putAll_nil pairs), get?_putAll]
    exact Option.or_none
  · rw [not_exists] at hother
    rw [lastOf?_renamed_eq_none hother, lastOf?_renamed_eq_none hother]

end Renamed

end SurveyForm.Entries
