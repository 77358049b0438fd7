import SurveyForm.Proofs.Bind.Findings
/-!
Which binds break off.  A bind that names a field breaks off at an expression with a
character reference that is too long or at an attribute that no name can be had for, and at
nothing else.
-/

namespace SurveyForm

open Xml (Element)

/-- Whether an element states an expression with a character reference that is too long. -/
def Xml.Element.hasLongExpression (element : Element) : Bool :=
  element.tag.attributes.any fun attr =>
    ["calculate", "constraint", "relevant"].contains (element.tag.attributeName attr) &&
      !Text.hasShortReferences attr.value.toList

/-- Whether an element has an attribute that no name can be had for. -/
def Xml.Element.hasNamelessAttribute (element : Element) : Bool :=
  element.tag.attributes.any fun attr => !attr.isNameable

/-- Whether not all attributes of an element can be read as settings. -/
def Xml.Element.isUnreadable (element : Element) : Bool :=
  element.hasLongExpression || element.hasNamelessAttribute

/-- Whether a bind below a base path breaks off, if there are fields at the given paths. -/
def breaksOff (basePath : String) (paths : List String) (bind : Element) : Bool :=
  (bind.attribute? "nodeset").any fun nodeset =>
    paths.contains
        (if nodeset.toList.head? = some '/' then nodeset else basePath ++ "/" ++ nodeset) &&
      bind.isUnreadable

/-- It only matters which paths there are. -/
theorem breaksOff_congr {basePath : String} {paths others : List String}
    (hpaths : ∀ path, path ∈ paths ↔ path ∈ others) :
    breaksOff basePath paths = breaksOff basePath others := by
  funext bind
  have hcontains : ∀ path, paths.contains path = others.contains path := by
    intro path
    rw [Bool.eq_iff_iff, List.contains_iff_mem, List.contains_iff_mem, hpaths]
  simp only [breaksOff, hcontains]

theorem Text.hasShortReferences_of_long {digits : List Char}
    (hlong : digitLimit < (digits.takeWhile Char.isDigit).length) :
    hasShortReferences ('&' :: '#' :: digits) = false := by
  simp [hasShortReferences, hlong]

theorem Expr.plainText?_eq_none_iff {raw : String} :
    plainText? raw = none ↔ Text.hasShortReferences raw.toList = false := by
  simp [plainText?, Text.unescape?]

namespace Setting

variable {options : Options} {path : String}

/-- Only an expression can be unreadable. -/
theorem ofNamed?_eq_none_iff {message : Option String} {name raw : String} :
    ofNamed? options path message name raw = none ↔
      name ∈ ["calculate", "constraint", "relevant"] ∧
        Text.hasShortReferences raw.toList = false := by
  unfold ofNamed?
  split <;> simp_all [Expr.parse?, Expr.parseGroup?, Expr.plainText?_eq_none_iff]

/-- The attributes that are no settings have names. -/
theorem isNameable_of_isBindFrame {attr : Xml.Attribute} (hframe : attr.isBindFrame = true) :
    attr.isNameable = true := by
  simp only [Xml.Attribute.isBindFrame, Bool.or_eq_true, Bool.and_eq_true, decide_eq_true_eq]
    at hframe
  rcases hframe with ⟨huri, -⟩ | ⟨huri, hname⟩
  · rw [Xml.Attribute.isNameable, huri, Bool.true_or]
  · rw [Xml.Attribute.isNameable, huri, hname]
    decide

/-- They have no say in whether a bind breaks off. -/
theorem none_mem_ofBind_iff {bind : Element} :
    none ∈ ofBind options path bind ↔ bind.isUnreadable = true := by
  simp only [ofBind, List.mem_map, List.mem_filter, Xml.Tag.bind_attributeName?_eq_none_iff,
    ofNamed?_eq_none_iff, Element.isUnreadable, Element.hasLongExpression,
    Element.hasNamelessAttribute, List.any_eq_true, Bool.and_eq_true, Bool.or_eq_true,
    List.contains_iff_mem, Bool.not_eq_true']
  constructor
  · rintro ⟨attr, ⟨hattr, -⟩, hnameless | ⟨hname, hlong⟩⟩
    · exact .inr ⟨attr, hattr, hnameless⟩
    · exact .inl ⟨attr, hattr, hname, hlong⟩
  · rintro (⟨attr, hattr, hname, hlong⟩ | ⟨attr, hattr, hnameless⟩)
    · refine ⟨attr, ⟨hattr, ?_⟩, .inr ⟨hname, hlong⟩⟩
      cases hframe : attr.isBindFrame with
      | false => rfl
      | true => exact absurd hname (bind.tag.attributeName_not_mem_of_isBindFrame hframe)
    · refine ⟨attr, ⟨hattr, ?_⟩, .inl hnameless⟩
      cases hframe : attr.isBindFrame with
      | false => rfl
      | true =>
          rw [isNameable_of_isBindFrame hframe] at hnameless
          contradiction

theorem isUnreadable_of_ofBind {bind : Element} {settings : List Setting}
    {rest : List (Option Setting)}
    (hfound : ofBind options path bind = settings.map some ++ none :: rest) :
    bind.isUnreadable = true := by
  rw [← @none_mem_ofBind_iff options path, hfound]
  simp

theorem not_isUnreadable_of_ofBind {bind : Element} {settings : List Setting}
    (hfound : ofBind options path bind = settings.map some) :
    ¬bind.isUnreadable = true := by
  rw [← @none_mem_ofBind_iff options path, hfound]
  simp

end Setting

namespace Definitions

variable {options : Options} {definitions : Definitions} {basePath : String}

theorem applyBind_eq_brokenOff_iff (hbase : definitions.basePath = some basePath)
    {bind : Element} :
    (definitions.applyBind options bind).2 = .brokenOff ↔
      breaksOff basePath definitions.fields.paths bind = true := by
  have happlies := applies_applyBind options definitions bind
  generalize definitions.applyBind options bind = result at happlies ⊢
  have hresolve := resolveNodeset_of_basePath hbase
  cases happlies with
  | unnamed hnodeset => simp [breaksOff, hnodeset]
  | mismatched hnodeset hpath =>
      rw [hresolve] at hpath
      simp [breaksOff, hnodeset, hpath]
  | applied hnodeset hpath hfound =>
      have hreadable := Setting.not_isUnreadable_of_ofBind hfound
      simp [breaksOff, hnodeset, hreadable]
  | brokenOff hnodeset hpath hfound =>
      have hunreadable := Setting.isUnreadable_of_ofBind hfound
      rw [hresolve] at hpath
      simp [breaksOff, hnodeset, hpath, hunreadable]

/-- Binds come to their end exactly if none of them breaks off: what those before it do to the
fields does not matter. -/
theorem snd_applyBinds (hbase : definitions.basePath = some basePath) (binds : List Element) :
    (definitions.applyBinds options binds).2 =
      !binds.any (breaksOff basePath definitions.fields.paths) := by
  induction binds generalizing definitions with
  | nil => rfl
  | cons bind rest ih =>
      -- The first bind leaves all paths in place, so the others are judged as before.
      obtain ⟨houtline, hkept⟩ := outline_applyBind options definitions bind
      have hrest := ih (hkept.trans hbase)
      rw [FieldMap.paths_eq_of_outline_eq houtline] at hrest
      have hended := @applyBind_eq_brokenOff_iff options definitions basePath hbase bind
      rw [List.any_cons, Bool.not_or, ← hrest, applyBinds]
      split
      · next hmade =>
          rw [hmade] at hended
          rw [hended.mp rfl]
          rfl
      · next made outcome hgoesOn hmade =>
          rw [hmade] at hended ⊢
          rw [Bool.eq_false_iff.mpr (mt hended.mpr hgoesOn)]
          rfl

end Definitions

end SurveyForm
