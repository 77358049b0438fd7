import Mathlib.Data.List.TakeWhile
import SurveyForm.Xml.Node
/-!
Looking for elements and attributes by name.  A search asks for one name after the other, and
where all names before its end can be had, it finds what there is.
-/

namespace SurveyForm.Xml

namespace Element

section Search

variable {isWanted : Element → Bool} {elements : List Element} {found : Option Element}

theorem seekAmong?_cons_plain {element : Element} (hplain : element.hasPlainName = true)
    (rest : List Element) :
    seekAmong? isWanted (element :: rest) =
      if isWanted element then some (some element) else seekAmong? isWanted rest := by
  rw [seekAmong?, hplain, Bool.not_true, if_neg Bool.false_ne_true]

/-- A search that comes to an end finds the first element that is wanted. -/
theorem find?_of_seekAmong? (hseek : seekAmong? isWanted elements = some found) :
    elements.find? isWanted = found := by
  induction elements with
  | nil => exact Option.some.inj hseek
  | cons element rest ih =>
      cases hplain : element.hasPlainName with
      | false =>
          rw [seekAmong?, hplain] at hseek
          contradiction
      | true =>
          rw [seekAmong?_cons_plain hplain] at hseek
          cases hwanted : isWanted element with
          | true =>
              rw [List.find?_cons_of_pos hwanted]
              rw [hwanted, if_pos rfl] at hseek
              exact Option.some.inj hseek
          | false =>
              rw [List.find?_cons_of_neg (by simp [hwanted])]
              rw [hwanted, if_neg Bool.false_ne_true] at hseek
              exact ih hseek

/-- Where all names can be had, every search ends. -/
theorem isSome_seekAmong? (hplain : ∀ element ∈ elements, element.hasPlainName = true) :
    (seekAmong? isWanted elements).isSome = true := by
  induction elements with
  | nil => rfl
  | cons element rest ih =>
      obtain ⟨hfirst, hrest⟩ := List.forall_mem_cons.mp hplain
      rw [seekAmong?_cons_plain hfirst]
      split
      · rfl
      · exact ih hrest

end Search

variable {element : Element} {name uri : String} {found : Option Element}

theorem child?_of_seek? (hseek : element.seek? name = some found) :
    element.child? name = found :=
  find?_of_seekAmong? hseek

theorem childIn?_of_seekIn? (hseek : element.seekIn? uri name = some found) :
    element.childIn? uri name = found :=
  find?_of_seekAmong? hseek

theorem hasPlainDescendants_iff :
    element.hasPlainDescendants = true ↔ ∀ other ∈ element.descendants, other.hasPlainName = true :=
  List.all_eq_true

/-- Where all names below an element can be had, all elements below it are met. -/
theorem metBelow_eq (hplain : element.hasPlainDescendants = true) (name : String) :
    element.metBelow name = element.descendantsNamed name := by
  rw [metBelow, List.takeWhile_eq_self_iff.mpr (hasPlainDescendants_iff.mp hplain),
    descendantsNamed]

theorem metBelow_subset (element : Element) (name : String) :
    element.metBelow name ⊆ element.descendantsNamed name :=
  ((List.takeWhile_sublist _).filter _).subset

end Element

namespace Tag

variable {tag : Tag} {attr : Attribute} {α : Type} {read : String → Option α} {value : α}

/-- An attribute without a namespace goes by its name. -/
theorem attributeName?_of_uri (huri : attr.uri = none) :
    tag.attributeName? attr = some attr.name := by
  rw [attributeName?, Attribute.isNameable, attributeName, huri]
  rfl

/-- Something is read under the name of an attribute if it has one. -/
theorem bind_attributeName?_eq_some_iff :
    (tag.attributeName? attr).bind read = some value ↔
      attr.isNameable = true ∧ read (tag.attributeName attr) = some value := by
  unfold attributeName?
  split <;> simp_all

theorem bind_attributeName?_eq_none_iff :
    (tag.attributeName? attr).bind read = none ↔
      attr.isNameable = false ∨ read (tag.attributeName attr) = none := by
  unfold attributeName?
  split <;> simp_all

end Tag

end SurveyForm.Xml
