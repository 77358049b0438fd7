import SurveyForm.Proofs.Translation.Meaning
import SurveyForm.Proofs.Xml.Places
/-!
What is read from an itext element.  The last block of a language counts, and in it the last
value for a key; the defaults are those of first blocks.  What is last or first is said of the
elements in document order.
-/

namespace SurveyForm

open Xml (Element Node)

section Ends

variable {α β : Type} {p other : α → Prop} {items : List α} {item : α}

/-- Whether an item is the last one of a list that something holds of. -/
def IsLast (p : α → Prop) (items : List α) (item : α) : Prop :=
  ∃ before after, items = before ++ item :: after ∧ p item ∧ ∀ later ∈ after, ¬p later

/-- Whether an item is the first one of a list that something holds of. -/
def IsFirst (p : α → Prop) (items : List α) (item : α) : Prop :=
  ∃ before after, items = before ++ item :: after ∧ p item ∧ ∀ earlier ∈ before, ¬p earlier

theorem IsLast.holds (hlast : IsLast p items item) : p item := by
  obtain ⟨before, after, -, hitem, -⟩ := hlast
  exact hitem

theorem IsFirst.holds (hfirst : IsFirst p items item) : p item := by
  obtain ⟨before, after, -, hitem, -⟩ := hfirst
  exact hitem

theorem isLast_congr (hsame : ∀ item, p item ↔ other item) :
    IsLast p items item ↔ IsLast other items item := by
  simp only [IsLast, hsame]

theorem isFirst_congr (hsame : ∀ item, p item ↔ other item) :
    IsFirst p items item ↔ IsFirst other items item := by
  simp only [IsFirst, hsame]

theorem find?_eq_some_iff_isFirst {p : α → Bool} :
    items.find? p = some item ↔ IsFirst (fun item => p item = true) items item := by
  rw [List.find?_eq_some_iff_append, IsFirst]
  constructor
  · rintro ⟨hitem, before, after, hitems, hnone⟩
    exact ⟨before, after, hitems, hitem, by simpa using hnone⟩
  · rintro ⟨before, after, hitems, hitem, hnone⟩
    exact ⟨hitem, before, after, hitems, by simpa using hnone⟩

theorem find?_reverse_eq_some_iff_isLast {p : α → Bool} :
    items.reverse.find? p = some item ↔ IsLast (fun item => p item = true) items item := by
  rw [find?_eq_some_iff_isFirst]
  constructor
  · rintro ⟨before, after, hitems, hitem, hnone⟩
    refine ⟨after.reverse, before.reverse, ?_, hitem, by simpa using hnone⟩
    simpa using congrArg List.reverse hitems
  · rintro ⟨before, after, rfl, hitem, hnone⟩
    exact ⟨after.reverse, before.reverse, by simp, hitem, by simpa using hnone⟩

theorem exists_isLast_iff : (∃ item, IsLast p items item) ↔ ∃ item ∈ items, p item := by
  classical
  have hfound := @find?_reverse_eq_some_iff_isLast α items
  have hsome : (items.reverse.find? (fun item => decide (p item))).isSome = true ↔
      ∃ item ∈ items, p item := by
    simp
  rw [← hsome, Option.isSome_iff_exists]
  simp only [hfound, decide_eq_true_eq]

theorem findSome?_eq_bind_find? (read : α → Option β) (items : List α) :
    items.findSome? read = (items.find? fun item => (read item).isSome).bind read := by
  induction items with
  | nil => rfl
  | cons first rest ih => cases hfirst : read first <;> simp [hfirst, ih]

end Ends

namespace Xml.Element

variable {entry value : Element} {defaultForm id form key shown language : String}

/-- Whether an element is a block of translations for a language. -/
def IsBlockOf (language : String) (block : Element) : Prop :=
  block.name = "translation" ∧ block.attribute? "lang" = some language

/-- Whether an element is a block that has a language and a mark as the default. -/
def IsMarked (block : Element) : Prop :=
  (∃ language, block.IsBlockOf language) ∧ ∃ mark, block.attribute? "default" = some mark

/-- Whether an element is an entry with an id, and no child of it is without any content. -/
def IsEntryOf (id : String) (entry : Element) : Prop :=
  entry.name = "text" ∧ entry.attribute? "id" = some id ∧
    ∀ value ∈ entry.elements, value.children ≠ []

/-- Whether a value is meant for a form: the one that it names, or the default if it names none
or an empty one. -/
def IsForForm (defaultForm form : String) (value : Element) : Prop :=
  (value.attribute? "form" = some form ∧ form ≠ "") ∨
    ((∀ own, value.attribute? "form" = some own → own = "") ∧ form = defaultForm)

/-- Whether a child of an entry says something under a key: the id of the entry and a form, with
a colon between them. -/
def Says (defaultForm key : String) (entry value : Element) : Prop :=
  ∃ id form, entry.IsEntryOf id ∧ value.IsForForm defaultForm form ∧ key = id ++ ":" ++ form

/-- Whether a child is the last one that says something under a key, over all elements. -/
def SaysLast (defaultForm key : String) (elements : List Element) (value : Element) : Prop :=
  ∃ entry, IsLast (fun entry => ∃ value ∈ entry.elements, Says defaultForm key entry value)
      elements entry ∧
    IsLast (Says defaultForm key entry) entry.elements value

theorem isForForm_iff :
    value.IsForForm defaultForm form ↔ TextEntry.formOf defaultForm value = form := by
  unfold IsForForm TextEntry.formOf
  cases value.attribute? "form" with
  | none => simp [eq_comm]
  | some own =>
      by_cases hown : own = ""
      · simp [hown, eq_comm]
      · simp only [Option.some.injEq, forall_eq', hown, false_and, or_false, if_false]
        constructor
        · exact fun hform => hform.1
        · exact fun hform => ⟨hform, hform ▸ hown⟩

/-- An entry without an id, or with a child without any content, says nothing. -/
theorem not_says_of_malformed
    (hmalformed : entry.attribute? "id" = none ∨ ∃ value ∈ entry.elements, value.children = []) :
    ¬Says defaultForm key entry value := by
  rintro ⟨id, form, ⟨-, hid, hfilled⟩, -⟩
  rcases hmalformed with hnone | ⟨child, hchild, hempty⟩
  · rw [hnone] at hid
    contradiction
  · exact hfilled child hchild hempty

theorem says_iff_of_isEntryOf (hentry : entry.IsEntryOf id) :
    Says defaultForm key entry value ↔
      textKey id (TextEntry.formOf defaultForm value) = key := by
  constructor
  · rintro ⟨other, form, ⟨-, hother, -⟩, hform, rfl⟩
    obtain rfl := Option.some.inj (hentry.2.1.symm.trans hother)
    rw [isForForm_iff.mp hform, textKey]
  · rintro rfl
    exact ⟨id, _, hentry, isForForm_iff.mpr rfl, rfl⟩

theorem isWellFormed_iff :
    TextEntry.isWellFormed entry = true ↔
      (∃ id, entry.attribute? "id" = some id) ∧ ∀ value ∈ entry.elements, value.children ≠ [] := by
  rw [TextEntry.isWellFormed_eq_true_iff, List.any_eq_false]
  simp only [isEmpty_iff, ne_eq]

end Xml.Element

open Xml.Element (Says SaysLast says_iff_of_isEntryOf not_says_of_malformed)

namespace TextValue

variable {entry : Element} {defaultForm key shown : String}

/-- The values of several entries are searched from the last entry on. -/
theorem last?_flatMap (read : Element → List TextValue) (entries : List Element) (key : String) :
    last? (entries.flatMap read) key =
      entries.reverse.findSome? fun entry => last? (read entry) key := by
  induction entries using List.reverseRecOn with
  | nil => rfl
  | append_singleton entries last ih =>
      rw [List.flatMap_append, last?_append, ih, List.reverse_append, List.flatMap_singleton]
      cases hlast : last? (read last) key <;> simp [hlast]

/-- The last value of an entry under a key is what its last child says there. -/
theorem last?_ofEntry_iff (hname : entry.name = "text") :
    (last? (ofEntry defaultForm entry) key).map (·.text) = some shown ↔
      ∃ value, IsLast (Says defaultForm key entry) entry.elements value ∧
        value.allText = shown := by
  cases hwellFormed : TextEntry.isWellFormed entry with
  | false =>
      have hmalformed : entry.attribute? "id" = none ∨
          ∃ value ∈ entry.elements, value.children = [] := by
        rw [← Bool.not_eq_true, Xml.Element.isWellFormed_iff, not_and_or] at hwellFormed
        simpa [Option.eq_none_iff_forall_ne_some] using hwellFormed
      rw [TextEntry.ofEntry_of_malformed hwellFormed]
      constructor
      · intro hnone
        contradiction
      · rintro ⟨value, hlast, -⟩
        exact absurd hlast.holds (not_says_of_malformed hmalformed)
  | true =>
      obtain ⟨⟨id, hid⟩, hfilled⟩ := Xml.Element.isWellFormed_iff.mp hwellFormed
      have hvalues : ofEntry defaultForm entry = entry.elements.map fun value =>
          ⟨id, TextEntry.formOf defaultForm value, value.allText⟩ := by
        have hnone := (TextEntry.isWellFormed_eq_true_iff.mp hwellFormed).2
        simp [ofEntry, hid, hnone]
      rw [hvalues, last?, ← List.map_reverse, List.find?_map, Option.map_map,
        Option.map_eq_some_iff]
      simp only [find?_reverse_eq_some_iff_isLast, Function.comp_apply]
      refine exists_congr fun value => and_congr_left fun _ => isLast_congr fun other => ?_
      exact decide_eq_true_iff.trans (says_iff_of_isEntryOf ⟨hname, hid, hfilled⟩).symm

theorem isSome_last?_ofEntry_iff (hname : entry.name = "text") :
    (last? (ofEntry defaultForm entry) key).isSome = true ↔
      ∃ value ∈ entry.elements, Says defaultForm key entry value := by
  rw [← exists_isLast_iff, ← Option.isSome_map (f := (·.text)), Option.isSome_iff_exists]
  simp only [last?_ofEntry_iff hname]
  exact ⟨fun ⟨_, value, hlast, _⟩ => ⟨value, hlast⟩, fun ⟨value, hlast⟩ => ⟨_, value, hlast, rfl⟩⟩

end TextValue

open TextEntry (textsOfAll)

/-- Under a key there is what the last child says over all entries among some elements. -/
theorem TextEntry.get?_textsOfAll_filter_iff {defaultForm key shown : String}
    (elements : List Element) :
    (textsOfAll defaultForm (elements.filter (·.name = "text"))).get? key = some shown ↔
      ∃ value, SaysLast defaultForm key elements value ∧ value.allText = shown := by
  have hentry (entry : Element) :
      decide (decide (entry.name = "text") = true ∧
          (TextValue.last? (TextValue.ofEntry defaultForm entry) key).isSome = true) = true ↔
        ∃ value ∈ entry.elements, Says defaultForm key entry value := by
    rw [decide_eq_true_iff, decide_eq_true_iff]
    constructor
    · rintro ⟨hname, hsome⟩
      exact (TextValue.isSome_last?_ofEntry_iff hname).mp hsome
    · rintro ⟨value, hvalue, id, form, hisEntry, hsays⟩
      refine ⟨hisEntry.1, (TextValue.isSome_last?_ofEntry_iff hisEntry.1).mpr ?_⟩
      exact ⟨value, hvalue, id, form, hisEntry, hsays⟩
  rw [get?_textsOfAll, TextValue.last?_flatMap, findSome?_eq_bind_find?, ← List.filter_reverse,
    List.find?_filter, Option.map_bind, Option.bind_eq_some_iff]
  simp only [find?_reverse_eq_some_iff_isLast, hentry, Function.comp_apply]
  constructor
  · rintro ⟨entry, hlast, htext⟩
    obtain ⟨value, hvalue, hsays⟩ := hlast.holds
    obtain ⟨id, form, hisEntry, -⟩ := hsays
    obtain ⟨last, hlastValue, hshown⟩ := (TextValue.last?_ofEntry_iff hisEntry.1).mp htext
    exact ⟨last, ⟨entry, hlast, hlastValue⟩, hshown⟩
  · rintro ⟨value, ⟨entry, hlast, hvalue⟩, hshown⟩
    obtain ⟨id, form, hisEntry, -⟩ := hvalue.holds
    exact ⟨entry, hlast, (TextValue.last?_ofEntry_iff hisEntry.1).mpr ⟨value, hvalue, hshown⟩⟩

namespace TranslationTable

variable {itext block : Element} {language : String}

theorem lastBlock?_eq_some_iff :
    lastBlock? itext language = some block ↔
      IsLast (Element.IsBlockOf language) itext.descendants block := by
  rw [lastBlock?, Element.descendantsNamed, ← List.filter_reverse, List.find?_filter,
    find?_reverse_eq_some_iff_isLast]
  apply isLast_congr
  simp [Element.IsBlockOf]

theorem any_marked_ofElement? (block : Element) :
    (TranslationBlock.ofElement? block).any (·.marked) = isMarkedBlock block := by
  rw [TranslationBlock.ofElement?, isMarkedBlock]
  cases block.attribute? "lang" <;> rfl

/-- The language of the first block that is wanted. -/
theorem bind_find?_descendantsNamed_iff {p : Element → Bool} :
    ((itext.descendantsNamed "translation").find? p).bind (·.attribute? "lang") = some language ↔
      ∃ block, IsFirst (fun block => block.name = "translation" ∧ p block = true)
        itext.descendants block ∧ block.IsBlockOf language := by
  rw [Element.descendantsNamed, List.find?_filter, Option.bind_eq_some_iff]
  simp only [find?_eq_some_iff_isFirst, decide_eq_true_eq]
  refine exists_congr fun block => and_congr_right fun hfirst => ?_
  exact (and_iff_right hfirst.holds.1).symm

/-- What a table says about the blocks below an element. -/
structure Tabulates (defaultForm : String) (itext : Element) (table : TranslationTable) :
    Prop where
  /-- The languages are those of the blocks. -/
  contains_iff : ∀ language, table.contains language = true ↔
    ∃ block, itext.Below block ∧ block.IsBlockOf language
  nodup_languages : table.languages.keys.Nodup
  /-- A language leads to the texts of its last block: under each key to the text of the last
  child that says something there, and to nothing under other keys. -/
  texts : ∀ language block, IsLast (Element.IsBlockOf language) itext.descendants block →
    ∃ texts, table.languages.get? language = some texts ∧ texts.keys.Nodup ∧
      ∀ key shown, texts.get? key = some shown ↔
        ∃ value, SaysLast defaultForm key block.descendants value ∧ value.allText = shown
  /-- If that block has a malformed entry, the texts are as they are without it. -/
  malformed : ∀ language block before entry after,
    IsLast (Element.IsBlockOf language) itext.descendants block →
    block.descendants = before ++ entry :: after →
    (entry.attribute? "id" = none ∨ ∃ value ∈ entry.elements, value.children = []) →
    ∃ texts, table.languages.get? language = some texts ∧
      ∀ key shown, texts.get? key = some shown ↔
        ∃ value, SaysLast defaultForm key (before ++ after) value ∧ value.allText = shown
  /-- The default is the language of the first block that has one. -/
  default : ∀ language, table.defaultLanguage = some language ↔
    ∃ block, IsFirst (fun block => ∃ own, block.IsBlockOf own) itext.descendants block ∧
      block.IsBlockOf language
  /-- The marked default is the language of the first block that has one and is marked. -/
  marked : ∀ language, table.markedLanguage = some language ↔
    ∃ block, IsFirst Element.IsMarked itext.descendants block ∧ block.IsBlockOf language

/-- An itext element with two blocks for one language, an entry with a value in place of another
one, and a malformed entry. -/
def repeatingItext : Element :=
  let value (attributes : List (String × String)) (text : String) :=
    Node.ofParts "value" attributes [.text text]
  ⟨⟨none, "itext", [], [], []⟩,
    [Node.ofParts "translation" [("lang", "en")]
        [Node.ofParts "text" [("id", "a")] [value [] "Old"]],
      Node.ofParts "translation" [("lang", "fr"), ("default", "")] [],
      Node.ofParts "translation" [("lang", "en")]
        [Node.ofParts "text" [("id", "a")]
            [value [] "One", value [("form", "short")] "1", value [("form", "")] "Two"],
          Node.ofParts "text" [("id", "b")] [value [] "Good", Node.ofParts "value" [] []]]]⟩

example : read? {} (some repeatingItext) = some
    { languages := [("en", [("a:long", "Two"), ("a:short", "1")]), ("fr", [])]
      defaultLanguage := some "en"
      markedLanguage := some "fr" } := by
  decide +kernel

end TranslationTable

end SurveyForm
