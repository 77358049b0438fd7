/-!
Ordered maps from texts.  Putting a value under a key that is there keeps the
key's place; a new key goes to the end.
-/

namespace SurveyForm

abbrev Entries (α : Type) : Type :=
  List (String × α)

namespace Entries

variable {α : Type}

def put (entries : Entries α) (key : String) (value : α) : Entries α :=
  match entries with
  | [] => [(key, value)]
  | (other, old) :: rest =>
      if other = key then (key, value) :: rest else (other, old) :: put rest key value

def get? (entries : Entries α) (key : String) : Option α :=
  entries.lookup key

def keys (entries : Entries α) : List String :=
  entries.map (·.1)

theorem get?_put_self (entries : Entries α) (key : String) (value : α) :
    get? (put entries key value) key = some value := by
  induction entries with
  | nil => simp [put, get?]
  | cons entry rest ih =>
      obtain ⟨other, old⟩ := entry
      by_cases h : other = key
      · simp [put, get?, h]
      · have hne : (key == other) = false := by simpa using fun he => h he.symm
        simpa [put, get?, h, List.lookup_cons, hne] using ih

theorem get?_put_of_ne (entries : Entries α) {key other : String} (value : α)
    (h : other ≠ key) : get? (put entries key value) other = get? entries other := by
  have hne : (other == key) = false := by simpa using h
  induction entries with
  | nil => simp [put, get?, List.lookup_cons, hne]
  | cons entry rest ih =>
      obtain ⟨first, old⟩ := entry
      by_cases hf : first = key
      · subst hf
        simp [put, get?, List.lookup_cons, hne]
      · simp only [get?] at ih
        simp [put, hf, get?, List.lookup_cons, ih]

end Entries

end SurveyForm
