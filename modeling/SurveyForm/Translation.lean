import SurveyForm.Diagnostic
import SurveyForm.Entries
import SurveyForm.Options
import SurveyForm.Xml.Node
/-!
Captions and their translations.  A caption is a plain text or names an entry of
the translation table, which holds a text for each language, entry and form.
-/

namespace SurveyForm

/-- A caption that points into the translation table. -/
structure TextReference where
  /-- The text written beside the reference, which is not translated. -/
  inlineText : Option String
  id : String
  form : String
deriving DecidableEq, Repr

/-- What a label, a hint or a value of an option says. -/
inductive Caption where
  | missing
  | plain (text : String)
  | reference (target : TextReference)
deriving DecidableEq, Repr

/-- The key of an entry's text in one form. -/
def textKey (id form : String) : String :=
  id ++ ":" ++ form

def TextReference.key (target : TextReference) : String :=
  textKey target.id target.form

namespace Caption

/-- The id between quotes right after an opening call, if the quotes are closed
on the same line. -/
def quotedId? : List Char → Option (List Char)
  | [] => none
  | opening :: rest =>
      let isQuote (c : Char) : Bool := c = '\'' || c = '"'
      let id := rest.takeWhile (!isQuote ·)
      if isQuote opening ∧ id.length < rest.length ∧ '\n' ∉ id then some id else none

/-- The id of the first reference to an entry in the text of an attribute. -/
def entryId? : List Char → Option (List Char)
  | [] => none
  | c :: rest =>
      (if "itext(".toList.isPrefixOf (c :: rest) then quotedId? ((c :: rest).drop 6)
        else none) <|> entryId? rest

/-- What an element says: an entry if its reference names one, and its own text
otherwise. -/
def ofElement (defaultForm : String) (element : Xml.Element) : Caption :=
  match (element.attribute? "ref").bind fun ref => entryId? ref.toList with
  | some id => .reference ⟨element.text?, String.ofList id, defaultForm⟩
  | none =>
      match element.text? with
      | some text => .plain text
      | none => .missing

/-- What a child of an element says, if there is one of the name. -/
def ofChild (defaultForm : String) (element : Xml.Element) (name : String) : Caption :=
  match element.child? name with
  | some child => ofElement defaultForm child
  | none => .missing

end Caption

/-- The translated texts of each language, by key. -/
structure TranslationTable where
  languages : Entries (Entries String) := []
  /-- The language of the first block that names one. -/
  defaultLanguage : Option String := none
  /-- The language of the first block that is marked as the default. -/
  markedLanguage : Option String := none
deriving DecidableEq, Repr

namespace TranslationTable

def contains (table : TranslationTable) (language : String) : Bool :=
  (table.languages.get? language).isSome

/-- The language that is meant: an empty one or none is the default. -/
def languageOr (table : TranslationTable) : Option String → Option String
  | some "" => table.defaultLanguage
  | some language => some language
  | none => table.defaultLanguage

/-- The text that a caption shows in a language, empty if there is none. -/
def text (table : TranslationTable) (caption : Caption) (language : Option String) :
    String :=
  match caption with
  | .missing => ""
  | .plain text => text
  | .reference target =>
      (((table.languageOr language).bind table.languages.get?).bind
        (·.get? target.key)).getD ""

end TranslationTable

/-- One entry of a block: its id and its texts by form. -/
structure TextEntry where
  id : String
  texts : Entries String
deriving DecidableEq, Repr

namespace TextEntry

/-- The form that a value is meant for. -/
def formOf (defaultForm : String) (value : Xml.Element) : String :=
  match value.attribute? "form" with
  | none => defaultForm
  | some form => if form = "" then defaultForm else form

/-- Whether an entry has an id and no value without content. -/
def isWellFormed (element : Xml.Element) : Bool :=
  (element.attribute? "id").isSome && element.elements.all (!·.isEmpty)

/-- The texts of an entry by form; of several for one form the last counts. -/
def textsOf (defaultForm : String) (element : Xml.Element) : Entries String :=
  element.elements.foldl (fun texts value =>
    texts.put (formOf defaultForm value) value.allText) []

/-- The entry that an element holds, if it is well formed. -/
def ofElement? (defaultForm : String) (element : Xml.Element) : Option TextEntry :=
  if isWellFormed element then
    (element.attribute? "id").map fun id => ⟨id, textsOf defaultForm element⟩
  else none

/-- Adds the texts of an entry to those of its block. -/
def addTo (entry : TextEntry) (block : Entries String) : Entries String :=
  entry.texts.foldl (fun block text => block.put (textKey entry.id text.1) text.2) block

end TextEntry

/-- All the texts of one language as a block of translations gives them. -/
structure TranslationBlock where
  language : String
  marked : Bool
  elements : List Xml.Element

namespace TranslationBlock

def ofElement? (element : Xml.Element) : Option TranslationBlock :=
  (element.attribute? "lang").map fun language =>
    ⟨language, (element.attribute? "default").isSome, element.descendantsNamed "text"⟩

/-- The texts of the well-formed entries, by key. -/
def texts (defaultForm : String) (block : TranslationBlock) : Entries String :=
  (block.elements.filterMap (TextEntry.ofElement? defaultForm)).foldl
    (fun texts entry => entry.addTo texts) []

end TranslationBlock

namespace TranslationTable

/-- Adds a block, in place of an earlier one of the same language. -/
def addBlock (defaultForm : String) (table : TranslationTable)
    (block : TranslationBlock) : TranslationTable :=
  { languages := table.languages.put block.language (block.texts defaultForm)
    defaultLanguage := table.defaultLanguage <|> some block.language
    markedLanguage :=
      table.markedLanguage <|> if block.marked then some block.language else none }

/-- The blocks of translations below an element. -/
def blockElements : Option Xml.Element → List Xml.Element
  | some element => element.descendantsNamed "translation"
  | none => []

/-- The table that the blocks below an element make up, empty without one. -/
def ofElement (options : Options) (element : Option Xml.Element) : TranslationTable :=
  ((blockElements element).filterMap TranslationBlock.ofElement?).foldl
    (addBlock options.defaultTextForm) {}

/-- The table that is read below an element, unless a name below it cannot be asked for. -/
def read? (options : Options) (element : Option Xml.Element) : Option TranslationTable :=
  if element.all (·.hasPlainDescendants) then some (ofElement options element) else none

/-- What is found wrong with a block: that it has no language, or else one finding for each
malformed entry that is met in it. -/
def diagnosticsIn (block : Xml.Element) : List Diagnostic :=
  match block.attribute? "lang" with
  | none => [.translationWithoutLanguage]
  | some language =>
      ((block.metBelow "text").filter (!TextEntry.isWellFormed ·)).map fun entry =>
        .malformedEntry (entry.attribute? "id") language

/-- Whether the reading of translations breaks off inside a block.  The names in one without a
language are not asked for before the search for blocks comes to them. -/
def breaksInside (block : Xml.Element) : Bool :=
  (block.attribute? "lang").isSome && !block.hasPlainDescendants

/-- The blocks that are read, up to one inside which the reading breaks off. -/
def blocksRead : List Xml.Element → List Xml.Element
  | [] => []
  | block :: rest => if breaksInside block then [block] else block :: blocksRead rest

/-- What is found wrong with the blocks, in document order and as far as they are read. -/
def diagnosticsOf : Option Xml.Element → List Diagnostic
  | none => []
  | some element => (blocksRead (element.metBelow "translation")).flatMap diagnosticsIn

end TranslationTable

end SurveyForm
