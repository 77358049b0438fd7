import SurveyForm.Xml.Doctype.AttributeRule
import SurveyForm.Xml.Namespace
/-!
XML trees.  An element has a name in a namespace, attributes in document order,
the namespace bindings in scope, and its children in document order.  Texts,
comments, instructions and references that stay unresolved are children as well,
and what an element says is read off them.
-/

namespace SurveyForm.Xml

structure Attribute where
  uri : Option String
  name : String
  value : String
deriving DecidableEq, Repr

/-- Whether a name can be told from its namespace.  The two are written as one text, with
the namespace in braces in front, and a name that stayed as it was found may hold a
colon. -/
def isNameIn (uri : Option String) (name : String) : Bool :=
  !name.toList.contains ':' && uri.all fun uri => !uri.toList.contains '}'

/-- Whether there is a name for an attribute to go by. -/
def Attribute.isNameable (attr : Attribute) : Bool :=
  attr.uri.isNone || isNameIn attr.uri attr.name

/-- What the start of an element says, and what the document type says about its
attributes.  The bindings in scope are the element's own, then those of its ancestors
that are not hidden by a prefix. -/
structure Tag where
  uri : Option String
  name : String
  attributes : List Attribute
  scope : List NamespaceBinding
  rules : List AttributeRule
deriving DecidableEq, Repr

namespace Tag

/-- The rule for an attribute by its prefix, which is empty if it has none. -/
def rule? (tag : Tag) (prefixName name : String) : Option AttributeRule :=
  tag.rules.find? (·.qname = ⟨prefixName, name⟩)

/-- The value that an attribute without a namespace has when it is left out. -/
def fallback? (tag : Tag) (name : String) : Option String :=
  (tag.rule? "" name).bind (·.fallback?)

/-- The value that an attribute in a namespace has when it is left out, by the first
prefix of the namespace that there is a rule for. -/
def fallbackIn? (tag : Tag) (uri name : String) : Option String :=
  let prefixNames :=
    if uri = xmlUri then ["xml"]
    else (tag.scope.filter (·.uri = uri)).map (·.prefixName)
  (prefixNames.findSome? (tag.rule? · name)).bind (·.fallback?)

end Tag

mutual

inductive Node where
  | element (element : Element)
  | text (content : String)
  | comment
  | instruction
  | reference (name : String)

structure Element where
  tag : Tag
  children : List Node

end

/-- The element that a node is, if it is one. -/
def Node.element? : Node → Option Element
  | .element child => some child
  | _ => none

/-- The element nodes of a list. -/
def elementsOf (nodes : List Node) : List Element :=
  nodes.filterMap Node.element?

/-- The text in front of the first node that is not text, if there is any. -/
def leadingText : List Node → Option String
  | .text content :: rest => some (content ++ (leadingText rest).getD "")
  | _ => none

/-- The number of nodes that are not text. -/
def countNodes (nodes : List Node) : Nat :=
  nodes.countP fun
    | .text _ => false
    | _ => true

mutual

/-- All text of an element and of the elements below it.  A reference that stays
unresolved contributes its own spelling. -/
def Element.allText : Element → String
  | ⟨_, children⟩ => nodesText children

def nodesText : List Node → String
  | [] => ""
  | .element element :: rest => element.allText ++ nodesText rest
  | .text content :: rest => content ++ nodesText rest
  | .reference name :: rest => "&" ++ name ++ ";" ++ nodesText rest
  | .comment :: rest => nodesText rest
  | .instruction :: rest => nodesText rest

end

mutual

/-- The elements below an element, in document order. -/
def Element.descendants : Element → List Element
  | ⟨_, children⟩ => elementsBelow children

/-- The elements among the nodes and below them, in document order. -/
def elementsBelow : List Node → List Element
  | [] => []
  | .element element :: rest =>
      element :: (element.descendants ++ elementsBelow rest)
  | .text _ :: rest => elementsBelow rest
  | .comment :: rest => elementsBelow rest
  | .instruction :: rest => elementsBelow rest
  | .reference _ :: rest => elementsBelow rest

end

namespace Element

def name (element : Element) : String :=
  element.tag.name

/-- Whether the name of an element can be asked for. -/
def hasPlainName (element : Element) : Bool :=
  isNameIn element.tag.uri element.name

/-- The name of an element without its namespace, if it can be asked for. -/
def localName? (element : Element) : Option String :=
  if element.hasPlainName then some element.name else none

def elements (element : Element) : List Element :=
  elementsOf element.children

def text? (element : Element) : Option String :=
  leadingText element.children

/-- Whether an element has neither text nor child nodes. -/
def isEmpty (element : Element) : Bool :=
  element.text?.isNone && countNodes element.children = 0

/-- The value of an attribute without a namespace. -/
def attribute? (element : Element) (name : String) : Option String :=
  ((element.tag.attributes.find? fun attr =>
    attr.uri.isNone && attr.name = name).map (·.value)).or (element.tag.fallback? name)

/-- The value of an attribute in a namespace. -/
def attributeIn? (element : Element) (uri name : String) : Option String :=
  ((element.tag.attributes.find? fun attr =>
    attr.uri = some uri && attr.name = name).map (·.value)).or
      (element.tag.fallbackIn? uri name)

/-- The elements of a name below an element, in document order. -/
def descendantsNamed (element : Element) (name : String) : List Element :=
  element.descendants.filter (·.name = name)

/-- Whether the names of all elements below an element can be asked for. -/
def hasPlainDescendants (element : Element) : Bool :=
  element.descendants.all hasPlainName

/-- The elements of a name that are met below an element, up to the first whose name
cannot be asked for. -/
def metBelow (element : Element) (name : String) : List Element :=
  (element.descendants.takeWhile hasPlainName).filter (·.name = name)

def childrenNamed (element : Element) (name : String) : List Element :=
  element.elements.filter (·.name = name)

def child? (element : Element) (name : String) : Option Element :=
  element.elements.find? (·.name = name)

/-- The first child of a name in a namespace. -/
def childIn? (element : Element) (uri name : String) : Option Element :=
  element.elements.find? fun child => child.name = name && child.tag.uri = some uri

/-- The first of some elements that is wanted, if there is one.  Their names are asked for
in turn, and there is no answer if one of these cannot be. -/
def seekAmong? (isWanted : Element → Bool) : List Element → Option (Option Element)
  | [] => some none
  | element :: rest =>
      if !element.hasPlainName then none
      else if isWanted element then some (some element)
      else seekAmong? isWanted rest

/-- The first child of a name, looked for in turn. -/
def seek? (element : Element) (name : String) : Option (Option Element) :=
  seekAmong? (·.name = name) element.elements

/-- The first child of a name in a namespace, looked for in turn. -/
def seekIn? (element : Element) (uri name : String) : Option (Option Element) :=
  seekAmong? (fun child => child.name = name && child.tag.uri = some uri) element.elements

/-- The namespace that a prefix is bound to. -/
def binding? (element : Element) (prefixName : String) : Option String :=
  (element.tag.scope.find? (·.prefixName = prefixName)).map (·.uri)

end Element

/-- The name of an attribute, with the first prefix that is bound to its
namespace.  An attribute whose namespace has no prefix goes by its local name. -/
def Tag.attributeName (tag : Tag) (attr : Attribute) : String :=
  match attr.uri with
  | none => attr.name
  | some uri =>
      match tag.scope.find? fun binding => binding.prefixName ≠ "" ∧ binding.uri = uri with
      | some binding => binding.prefixName ++ ":" ++ attr.name
      | none => attr.name

/-- The name that an attribute goes by, if there is one. -/
def Tag.attributeName? (tag : Tag) (attr : Attribute) : Option String :=
  if attr.isNameable then some (tag.attributeName attr) else none

end SurveyForm.Xml
