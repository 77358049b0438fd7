import SurveyForm.Proofs.Entries
import SurveyForm.Translation
/-!
What a translation table says.  The last block of a language is the one that counts, and
in it the last value for a key, over the entries that are well formed.
-/

namespace SurveyForm

open Xml (Element)
open Entries (putAll lastOf? renamed)

/-- One value of an entry: what it is for, and what it says. -/
structure TextValue where
  id : String
  form : String
  text : String
deriving DecidableEq, Repr

namespace TextValue

def key (value : TextValue) : String :=
  textKey value.id value.form

/-- The values of an entry, in order.  An entry without an id, or with a value that has
neither text nor child nodes, has none. -/
def ofEntry (defaultForm : String) (entry : Element) : List TextValue :=
  match entry.attribute? "id" with
  | none => []
  | some id =>
      if entry.elements.any (·.isEmpty) then []
      else entry.elements.map fun value =>
        ⟨id, TextEntry.formOf defaultForm value, value.allText⟩

/-- The values of all entries of a block, in document order. -/
def ofBlock (defaultForm : String) (block : Element) : List TextValue :=
  (block.descendantsNamed "text").flatMap (ofEntry defaultForm)

/-- The last value with a key. -/
def last? (values : List TextValue) (key : String) : Option TextValue :=
  values.reverse.find? (·.key = key)

theorem last?_append (values later : List TextValue) (key : String) :
    last? (values ++ later) key = (last? later key).or (last? values key) := by
  rw [last?, List.reverse_append, List.find?_append]
  rfl

theorem map_text_last? (values : List TextValue) (key : String) :
    (last? values key).map (·.text) =
      lastOf? (values.map fun value => (value.key, value.text)) key := by
  rw [last?, lastOf?, ← List.map_reverse, List.find?_map, Option.map_map]
  rfl

end TextValue

open TextValue (ofEntry last?)

variable {defaultForm key : String}

theorem textKey_injective (id : String) : Function.Injective (textKey id) := by
  intro form other heq
  exact String.append_right_inj _ |>.mp heq

namespace TextEntry

variable {element : Element}

theorem textsOf_eq_putAll (defaultForm : String) (element : Element) :
    textsOf defaultForm element =
      putAll [] (element.elements.map fun value => (formOf defaultForm value, value.allText)) := by
  rw [textsOf, putAll, List.foldl_map]

theorem addTo_eq_putAll (entry : TextEntry) (texts : Entries String) :
    entry.addTo texts = putAll texts (renamed (textKey entry.id) entry.texts) := by
  rw [addTo, renamed, putAll, List.foldl_map]

/-- What an element adds to the texts of its block. -/
def addElement (defaultForm : String) (texts : Entries String) (element : Element) :
    Entries String :=
  ((ofElement? defaultForm element).map (·.addTo texts)).getD texts

theorem isWellFormed_eq_true_iff :
    isWellFormed element = true ↔
      (∃ id, element.attribute? "id" = some id) ∧ element.elements.any (·.isEmpty) = false := by
  rw [isWellFormed, Bool.and_eq_true, Option.isSome_iff_exists, List.all_eq_not_any_not]
  simp

theorem addElement_of_malformed (hmalformed : isWellFormed element = false)
    (texts : Entries String) : addElement defaultForm texts element = texts := by
  simp [addElement, ofElement?, hmalformed]

theorem ofEntry_of_malformed (hmalformed : isWellFormed element = false) :
    ofEntry defaultForm element = [] := by
  rw [← Bool.not_eq_true, isWellFormed_eq_true_iff, not_and] at hmalformed
  unfold ofEntry
  split
  · rfl
  · next id hid => rw [if_pos (by simpa using hmalformed ⟨id, hid⟩)]

/-- An entry adds its own values, if it is well formed, and nothing else. -/
theorem get?_addElement (defaultForm : String) (texts : Entries String) (element : Element)
    (key : String) :
    (addElement defaultForm texts element).get? key =
      ((last? (ofEntry defaultForm element) key).map (·.text)).or (texts.get? key) := by
  by_cases hwellFormed : isWellFormed element = true
  · obtain ⟨⟨id, hid⟩, hfilled⟩ := isWellFormed_eq_true_iff.mp hwellFormed
    have hadd : addElement defaultForm texts element =
        putAll texts (renamed (textKey id) (textsOf defaultForm element)) := by
      rw [addElement, ofElement?, if_pos hwellFormed, hid]
      exact addTo_eq_putAll _ texts
    have hvalues : (ofEntry defaultForm element).map (fun value => (value.key, value.text)) =
        renamed (textKey id)
          (element.elements.map fun value => (formOf defaultForm value, value.allText)) := by
      simp only [ofEntry, hid, hfilled, Bool.false_eq_true, if_false, renamed, List.map_map]
      rfl
    rw [hadd, Entries.get?_putAll, textsOf_eq_putAll,
      Entries.lastOf?_renamed_putAll (textKey_injective id), ← hvalues, TextValue.map_text_last?]
  · rw [Bool.not_eq_true] at hwellFormed
    rw [addElement_of_malformed hwellFormed, ofEntry_of_malformed hwellFormed]
    rfl

theorem nodup_keys_addElement {texts : Entries String} (hnodup : texts.keys.Nodup)
    (element : Element) : (addElement defaultForm texts element).keys.Nodup := by
  unfold addElement
  cases ofElement? defaultForm element with
  | none => exact hnodup
  | some entry =>
      rw [Option.map_some, Option.getD_some, addTo_eq_putAll]
      exact Entries.nodup_keys_putAll hnodup _

/-- The texts of entries, which are added one after the other. -/
def textsOfAll (defaultForm : String) (entries : List Element) : Entries String :=
  entries.foldl (addElement defaultForm) []

/-- A key leads to the last value that the entries have for it. -/
theorem get?_textsOfAll (defaultForm : String) (entries : List Element) (key : String) :
    (textsOfAll defaultForm entries).get? key =
      (last? (entries.flatMap (ofEntry defaultForm)) key).map (·.text) := by
  induction entries using List.reverseRecOn with
  | nil => rfl
  | append_singleton entries last ih =>
      rw [textsOfAll, List.foldl_append, ← textsOfAll, List.flatMap_append,
        TextValue.last?_append, Option.map_or, ← ih]
      simpa using get?_addElement defaultForm (textsOfAll defaultForm entries) last key

theorem nodup_keys_textsOfAll (defaultForm : String) (entries : List Element) :
    (textsOfAll defaultForm entries).keys.Nodup := by
  induction entries using List.reverseRecOn with
  | nil => exact List.nodup_nil
  | append_singleton entries last ih =>
      rw [textsOfAll, List.foldl_append]
      exact nodup_keys_addElement ih last

/-- A malformed entry adds nothing, and the others do not notice it. -/
theorem textsOfAll_of_malformed (hmalformed : isWellFormed element = false)
    (defaultForm : String) (before after : List Element) :
    textsOfAll defaultForm (before ++ element :: after) =
      textsOfAll defaultForm (before ++ after) := by
  simp only [textsOfAll, List.foldl_append, List.foldl_cons, addElement_of_malformed hmalformed]

end TextEntry

open TextEntry (textsOfAll)

theorem TranslationBlock.texts_eq_textsOfAll (defaultForm : String) (block : TranslationBlock) :
    block.texts defaultForm = textsOfAll defaultForm block.elements := by
  rw [texts, List.foldl_filterMap, textsOfAll]
  congr
  funext texts element
  rw [TextEntry.addElement]
  cases TextEntry.ofElement? defaultForm element <;> rfl

namespace TranslationTable

/-- The table that blocks make up: a language leads to its last block, and the default
languages are those of first blocks. -/
theorem foldl_addBlock (defaultForm : String) (blocks : List TranslationBlock) :
    blocks.foldl (addBlock defaultForm) {} =
      { languages := putAll [] (blocks.map fun block => (block.language, block.texts defaultForm))
        defaultLanguage := blocks.head?.map (·.language)
        markedLanguage := (blocks.find? (·.marked)).map (·.language) } := by
  induction blocks using List.reverseRecOn with
  | nil => rfl
  | append_singleton blocks last ih =>
      have hlanguages : (putAll [] (blocks.map fun block =>
            (block.language, block.texts defaultForm))).put last.language (last.texts defaultForm) =
          putAll [] ((blocks ++ [last]).map fun block =>
            (block.language, block.texts defaultForm)) := by
        rw [List.map_append, putAll, putAll, List.foldl_append]
        rfl
      have hdefault : (blocks.head?.map (·.language)).or (some last.language) =
          (blocks ++ [last]).head?.map (·.language) := by
        rw [List.head?_append, Option.map_or]
        rfl
      have hmarked : ((blocks.find? (·.marked)).map (·.language)).or
            (if last.marked then some last.language else none) =
          ((blocks ++ [last]).find? (·.marked)).map (·.language) := by
        rw [List.find?_append, Option.map_or]
        cases hlast : last.marked <;> simp [hlast]
      rw [List.foldl_append, ih, ← hlanguages, ← hdefault, ← hmarked]
      simp only [List.foldl_cons, List.foldl_nil, addBlock, Option.orElse_eq_orElse,
        Option.orElse_eq_or]

/-- The last of the blocks of a language below an element. -/
def lastBlock? (itext : Element) (language : String) : Option Element :=
  (itext.descendantsNamed "translation").reverse.find? (·.attribute? "lang" = some language)

/-- Whether a block has a language and is marked as the default. -/
def isMarkedBlock (block : Element) : Bool :=
  (block.attribute? "lang").isSome && (block.attribute? "default").isSome

theorem map_language_ofElement? (block : Element) :
    (TranslationBlock.ofElement? block).map (·.language) = block.attribute? "lang" := by
  rw [TranslationBlock.ofElement?, Option.map_map]
  exact Option.map_id_apply

/-- Among blocks, those without a language aside, the last one of a language counts. -/
theorem lastOf?_blocks (defaultForm : String) (blocks : List Element) (language : String) :
    lastOf? ((blocks.filterMap TranslationBlock.ofElement?).map fun block =>
        (block.language, block.texts defaultForm)) language =
      (blocks.reverse.find? (·.attribute? "lang" = some language)).map fun block =>
        textsOfAll defaultForm (block.descendantsNamed "text") := by
  induction blocks using List.reverseRecOn with
  | nil => rfl
  | append_singleton blocks last ih =>
      rw [List.filterMap_append, List.map_append, Entries.lastOf?_append, ih, List.reverse_append,
        List.find?_append, Option.map_or]
      congr 1
      cases hlanguage : last.attribute? "lang" with
      | none => simp [TranslationBlock.ofElement?, hlanguage, lastOf?]
      | some other =>
          have hblock : TranslationBlock.ofElement? last =
              some ⟨other, (last.attribute? "default").isSome, last.descendantsNamed "text"⟩ := by
            rw [TranslationBlock.ofElement?, hlanguage]
            rfl
          rw [List.filterMap_cons_some hblock]
          by_cases hother : other = language
          · subst hother
            simp [lastOf?, hlanguage, TranslationBlock.texts_eq_textsOfAll]
          · simp [lastOf?, hlanguage, hother]

theorem get?_languages (options : Options) (itext : Element) (language : String) :
    (ofElement options (some itext)).languages.get? language =
      (lastBlock? itext language).map fun block =>
        textsOfAll options.defaultTextForm (block.descendantsNamed "text") := by
  rw [ofElement, foldl_addBlock, Entries.get?_putAll, blockElements, lastOf?_blocks]
  exact Option.or_none

end TranslationTable

end SurveyForm
