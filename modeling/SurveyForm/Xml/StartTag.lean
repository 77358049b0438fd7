import SurveyForm.Xml.AttributeValue
import SurveyForm.Xml.Node
import SurveyForm.Xml.Uri
/-!
Start tags.  A tag is read as it is written, then its names are looked up in the
namespaces in scope, and the identifiers that its attributes give are taken up.  Names
and bindings that are not right are noted, and used as they are as far as they can be.
-/

namespace SurveyForm.Xml

open Reader

/-- Takes a name that may have a prefix.  A name that is not made of one or two plain
names is noted. -/
def QName.read : Reader QName := do
  match ← Scan.localName? with
  | none =>
      if !(← Scan.ahead ":") then refuse
      let whole ← Scan.name
      blame
      return plain whole
  | some first =>
      if !(← Scan.takeIf ":") then return plain first
      match ← Scan.localName? with
      | none =>
          blame
          return plain (first ++ ":" ++ (← Scan.token))
      | some second =>
          if !(← Scan.takeIf ":") then return ⟨first, second⟩
          blame
          return ⟨first, second ++ ":" ++ (← Scan.name?).getD ""⟩

/-- A start tag as it is written.  The values of its attributes are in their written
form. -/
structure StartTag where
  name : QName
  bindings : List NamespaceBinding := []
  attributes : List (QName × String) := []
  /-- Whether the element ends where it starts. -/
  isEmpty : Bool := false

namespace StartTag

/-! ### Reading -/

/-- Notes a namespace whose name has not the form of one. -/
def checkUri (uri : String) (relativeIsFine : Bool) : Reader Unit := do
  if !Uri.isAbsolute uri.toList then
    if !Uri.isRelative uri.toList then blame
    else if !relativeIsFine then warn

/-- Whether a binding can be made.  The two reserved prefixes and namespaces belong
together, and only the default can be unbound. -/
def admits (binding : NamespaceBinding) : Reader Bool := do
  let uri := binding.uri
  if binding.prefixName = "" then
    if uri ≠ "" then checkUri uri false
    if uri = xmlUri || uri = xmlnsUri then
      blame
      return false
    return true
  else if binding.prefixName = "xml" then
    if uri ≠ xmlUri then blame
    return false
  else if binding.prefixName = "xmlns" || [xmlUri, xmlnsUri, ""].contains uri then
    blame
    return false
  else
    checkUri uri true
    return true

/-- Takes an attribute. -/
def readAttribute (tag : StartTag) : Reader StartTag := do
  let name ← QName.read
  Scan.equals
  let written ← AttributeValue.read name.boundPrefix?.isSome
  let value := match ← rule? tag.name.spelling name.spelling with
    | some rule => rule.kind.normalize written
    | none => written
  if name = ⟨"xml", "space"⟩ && value ≠ "default" && value ≠ "preserve" then warn
  match name.boundPrefix? with
  | none => return { tag with attributes := tag.attributes ++ [(name, value)] }
  | some prefixName =>
      if !(← admits ⟨prefixName, value⟩) then return tag
      if NamespaceBinding.binds tag.bindings prefixName then refuse
      return { tag with bindings := tag.bindings ++ [⟨prefixName, value⟩] }

/-- Takes the attributes up to the end of the tag. -/
def readAttributes : (fuel : Nat) → StartTag → Reader StartTag
  | 0, _ => refuse
  | fuel + 1, tag => do
      let spaced ← Scan.spaces
      if ← Scan.takeIf "/>" then return { tag with isEmpty := true }
      if ← Scan.takeIf ">" then return tag
      if !spaced then refuse
      readAttributes fuel (← readAttribute tag)

/-- The rest of a start tag. -/
def read : Reader StartTag := do
  let name ← QName.read
  readAttributes (← enough) { name }

/-! ### What the document type adds -/

/-- The number of bytes that an attribute with its standard value takes. -/
def ruleSize (rule : AttributeRule) : Nat :=
  rule.qname.prefixName.utf8ByteSize + rule.qname.localName.utf8ByteSize +
    (rule.standard.getD "").utf8ByteSize

/-- Adds the bindings that the document type gives to an element.  They are not
checked. -/
def addStandardBindings (tag : StartTag) (rules : List AttributeRule) : Reader StartTag :=
  rules.foldlM (fun tag rule => do
    match rule.standard, rule.qname.boundPrefix? with
    | some uri, some prefixName =>
        charge (ruleSize rule)
        if prefixName = "xml" || NamespaceBinding.binds tag.bindings prefixName then return tag
        else return { tag with bindings := tag.bindings ++ [⟨prefixName, uri⟩] }
    | _, _ => return tag) tag

/-- A name with the namespace that it belongs to. -/
abbrev Resolved : Type :=
  QName × Option String

/-- The name of an attribute with its namespace; one without a prefix has none.  A
prefix that is not bound is noted. -/
def resolve (scope : List NamespaceBinding) (name : QName) : Reader Resolved := do
  if name.prefixName = "" then return (name, none)
  match NamespaceBinding.uri? scope name.prefixName with
  | some uri => return (name, some uri)
  | none =>
      blame
      return (name, none)

def isSame (name other : Resolved) : Bool :=
  name.1.localName = other.1.localName && name.2 = other.2

/-- Checks that no attribute comes twice.  Two prefixes of one namespace may make it
come twice as well, which is noted. -/
def checkRepeats : List Resolved → Reader Unit
  | [] => return
  | last :: before => do
      checkRepeats before
      if before.any (·.1 = last.1) then refuse
      if before.any (isSame last) then blame

/-- Checks the attributes that the document type gives to an element besides those
that are written. -/
def checkStandard (scope : List NamespaceBinding) (names : List Resolved)
    (rules : List AttributeRule) : Reader Unit := do
  let _ ← rules.foldlM (fun (names : List Resolved) rule => do
    if rule.standard.isNone || rule.qname.boundPrefix?.isSome then return names
    let name ← resolve scope rule.qname
    match names.find? (isSame name) with
    | some other =>
        if other.1.prefixName = name.1.prefixName then return names
        blame
    | none => pure ()
    charge (ruleSize rule)
    return names ++ [name]) names

/-! ### Identifiers -/

/-- Takes up an identifier, which no other element may have. -/
def addId (id : String) : Reader Unit := do
  if id = "" || (← get).ids.contains id then blame
  else modify fun progress => { progress with ids := id :: progress.ids }

/-- Whether a text is a plain name with spaces around it. -/
def isSpacedName (text : String) : Bool :=
  let name := ((text.toList.dropWhile isSpace).reverse.dropWhile isSpace).reverse
  isLocalName (String.ofList name)

/-- Takes up the identifier that an attribute gives.  What is made of entities gives
none. -/
def addIdOf (tag : Tag) (name : QName) (written value : String) : Reader Unit := do
  if (← get).within.isSome || AttributeValue.refersToEntities written then return
  if name = ⟨"xml", "id"⟩ then
    if !isSpacedName value then blame
    addId value
  else if (tag.rule? name.prefixName name.localName).any (·.kind = .id) then addId value

/-! ### The tag in its place -/

/-- The name and the namespace of an element; the default applies to names without a
prefix.  A name whose prefix is not bound is noted and stays as it is written. -/
def elementName (scope : List NamespaceBinding) (name : QName) :
    Reader (String × Option String) := do
  match NamespaceBinding.uri? scope name.prefixName with
  | some uri => return (name.localName, if uri = "" then none else some uri)
  | none =>
      if name.prefixName ≠ "" then blame
      return (name.spelling, none)

def attributeOf (name : Resolved) (value : String) : Attribute :=
  match name.2 with
  | some uri => ⟨some uri, name.1.localName, value⟩
  | none => ⟨none, name.1.spelling, value⟩

/-- How many elements and entities may be open at once. -/
def depthLimit : Nat :=
  256

/-- What a tag says inside the given bindings and so many open elements. -/
def place (written : StartTag) (outer : List NamespaceBinding) (depth : Nat) : Reader Tag := do
  let rules ← rulesOf written.name.spelling
  let written ← written.addStandardBindings rules
  let scope := NamespaceBinding.scopeWithin outer written.bindings
  let names ← written.attributes.mapM fun attr => resolve scope attr.1
  checkRepeats names.reverse
  checkStandard scope names rules
  let (name, uri) ← elementName scope written.name
  if depthLimit ≤ depth then refuse
  let attributes ← (names.zip written.attributes).mapM fun (name, attr) => do
    AttributeValue.settle attr.2
    return attributeOf name (← AttributeValue.resolve attr.2)
  let tag : Tag := { uri, name, attributes, scope, rules }
  (written.attributes.zip attributes).forM fun (attr, made) =>
    addIdOf tag attr.1 attr.2 made.value
  return tag

end StartTag

end SurveyForm.Xml
