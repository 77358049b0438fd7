import SurveyForm.Control
import SurveyForm.Diagnostic
import SurveyForm.Path
/-!
The body of a form.  Groups become groups of controls; a repeat has no control of
its own but marks the group around it and moves the base path; every other
element with children becomes a question.  The walk stops before the first
element that lies too deep, or where a name that it asks for cannot be had.
-/

namespace SurveyForm

/-- The part that an element of the body plays. -/
inductive BodyRole where
  | group
  | repetition
  | caption
  | question
deriving DecidableEq, Repr

def BodyRole.ofName : String → BodyRole
  | "group" => .group
  | "repeat" => .repetition
  | "label" => .caption
  | "hint" => .caption
  | _ => .question

/-- The base path inside a repeat: its nodeset moves it, if there is one. -/
def repeatBase (base : String) (tag : Xml.Tag) : String :=
  ((Xml.Element.mk tag []).attribute? "nodeset").elim base (Path.resolve · base)

/-- Whether an element is one of options to select. -/
def isSelection (element : Xml.Element) : Bool :=
  element.name = "select" || element.name = "select1"

/-- Whether children of the given names can be looked for. -/
def canSeek (element : Xml.Element) (names : List String) : Bool :=
  names.all fun name => (element.seek? name).isSome

/-- Whether all names can be asked for that a question is made from: those on the way to its
captions, and in a selection those of all children and on the way to the captions of the
items. -/
def isReadableQuestion (element : Xml.Element) : Bool :=
  canSeek element ["label", "hint"] &&
    (!isSelection element ||
      element.elements.all (·.hasPlainName) &&
        (element.childrenNamed "item").all (canSeek · ["label", "value"]))

/-- What the walk over a body sees at one element. -/
structure BodyVisit where
  element : Xml.Element
  base : String
  inGroup : Bool
  depth : Nat
  /-- Whether the walk comes back to a group from what is inside it. -/
  isReturn : Bool

namespace BodyVisit

mutual

/-- The visits to an element and to those below it that can become controls, in
document order. -/
def ofElement (base : String) (inGroup : Bool) (depth : Nat) : Xml.Element → List BodyVisit
  | ⟨tag, children⟩ =>
      ⟨⟨tag, children⟩, base, inGroup, depth, false⟩ ::
        match BodyRole.ofName tag.name with
        | .group =>
            ofNodes base true (depth + 1) children ++
              [⟨⟨tag, children⟩, base, inGroup, depth, true⟩]
        | .repetition => ofNodes (repeatBase base tag) inGroup (depth + 1) children
        | .caption => []
        | .question => []

def ofNodes (base : String) (inGroup : Bool) (depth : Nat) : List Xml.Node → List BodyVisit
  | [] => []
  | .element child :: rest =>
      ofElement base inGroup depth child ++ ofNodes base inGroup depth rest
  | .text _ :: rest => ofNodes base inGroup depth rest
  | .comment :: rest => ofNodes base inGroup depth rest
  | .instruction :: rest => ofNodes base inGroup depth rest
  | .reference _ :: rest => ofNodes base inGroup depth rest

end

/-- The visits to the elements of a body. -/
def ofBody (base : String) (body : Xml.Element) : List BodyVisit :=
  ofNodes base false 0 body.children

/-- The finding that a repeat with children has no group around it. -/
def diagnostic? (visit : BodyVisit) : Option Diagnostic :=
  if BodyRole.ofName visit.element.name = .repetition ∧
      visit.element.elements.isEmpty = false ∧ visit.inGroup = false then
    some (.repeatOutsideGroup
      ((visit.element.attribute? "nodeset").map (Path.resolve · visit.base)))
  else none

/-- Whether the names that a visit asks for can be had.  None is asked for at an element
without children, and the captions of a group come after what is inside it. -/
def isReadable (visit : BodyVisit) : Bool :=
  if visit.element.elements.isEmpty then true
  else if visit.isReturn then canSeek visit.element ["label", "hint"]
  else
    visit.element.hasPlainName &&
      (BodyRole.ofName visit.element.name ≠ .question || isReadableQuestion visit.element)

/-- What stops the walk at a visit. -/
def stop? (limit : Nat) (visit : BodyVisit) : Option LoadError :=
  LoadError.ofVisit? .body limit visit.depth visit.isReadable

/-- The findings at the visits that come before the walk stops. -/
def diagnostics (limit : Nat) (visits : List BodyVisit) : List Diagnostic :=
  (visits.takeWhile fun visit => (stop? limit visit).isNone).filterMap diagnostic?

end BodyVisit

/-- What the controls of a body are made from. -/
structure BodyReader where
  basePath : String
  fields : FieldMap
  options : Options

namespace BodyReader

def heading (reader : BodyReader) (base : String) (element : Xml.Element) : Heading :=
  let form := reader.options.defaultTextForm
  { label := Caption.ofChild form element "label"
    hint := Caption.ofChild form element "hint"
    appearance := element.attribute? "appearance"
    ref := (element.attribute? "ref").map (Path.resolve · base) }

/-- What a control at a path takes over from the field there, if there is one. -/
def boundData (reader : BodyReader) (ref : Option String) : BoundData :=
  ((ref.bind reader.fields.get?).map BoundData.ofField).getD {}

def choice (reader : BodyReader) (item : Xml.Element) : Choice :=
  let form := reader.options.defaultTextForm
  ⟨Caption.ofChild form item "label", Caption.ofChild form item "value"⟩

/-- The options of an element, if it is a selection. -/
def selection? (reader : BodyReader) (element : Xml.Element) : Option Selection :=
  if isSelection element then
    some ⟨element.name = "select", (element.childrenNamed "item").map reader.choice⟩
  else none

def question (reader : BodyReader) (base : String) (element : Xml.Element) : Question :=
  let heading := reader.heading base element
  { heading
    tag := element.name
    bound := reader.boundData heading.ref
    selection := reader.selection? element }

/-- The controls that elements make up, and whether one of the elements is a
repeat with children. -/
structure Built where
  controls : List Control
  repeats : Bool

def Built.nothing : Built :=
  ⟨[], false⟩

def Built.append (first second : Built) : Built :=
  ⟨first.controls ++ second.controls, first.repeats || second.repeats⟩

mutual

/-- The controls that an element becomes.  A repeat hands on those inside it. -/
def buildElement (reader : BodyReader) (base : String) : Xml.Element → Built
  | ⟨tag, children⟩ =>
      if (Xml.elementsOf children).isEmpty then .nothing
      else
        match BodyRole.ofName tag.name with
        | .group =>
            let inside := buildNodes reader base children
            ⟨[.group (reader.heading base ⟨tag, children⟩) inside.repeats inside.controls],
              false⟩
        | .repetition =>
            ⟨(buildNodes reader (repeatBase base tag) children).controls, true⟩
        | .caption => .nothing
        | .question => ⟨[.question (reader.question base ⟨tag, children⟩)], false⟩

def buildNodes (reader : BodyReader) (base : String) : List Xml.Node → Built
  | [] => .nothing
  | .element child :: rest =>
      (buildElement reader base child).append (buildNodes reader base rest)
  | .text _ :: rest => buildNodes reader base rest
  | .comment :: rest => buildNodes reader base rest
  | .instruction :: rest => buildNodes reader base rest
  | .reference _ :: rest => buildNodes reader base rest

end

/-- The controls of a body, if nothing stops the walk over it. -/
def build (reader : BodyReader) (body : Xml.Element) : Except LoadError (List Control) :=
  match (BodyVisit.ofBody reader.basePath body).findSome?
      (BodyVisit.stop? reader.options.maxDepth) with
  | some cause => .error cause
  | none => .ok (buildNodes reader reader.basePath body.children).controls

/-- What is found on the way through a body, up to where the walk stops. -/
def diagnostics (reader : BodyReader) (body : Xml.Element) : List Diagnostic :=
  BodyVisit.diagnostics reader.options.maxDepth (BodyVisit.ofBody reader.basePath body)

end BodyReader

end SurveyForm
