import Mathlib.Data.List.Nodup
import SurveyForm.Proofs.Bind.Repetition
import SurveyForm.Proofs.Bind.Replacement
import SurveyForm.Proofs.Text.Cuts
/-!
The names that the attributes of a bind go by.  Prefixes keep the attributes of different
namespaces apart from each other and from the properties of fields.  What is in a namespace
without a prefix goes by its name alone, so that it can be taken for something else; without a
declaration of its own, the namespace of the prefix `xml` is one of these.
-/

namespace SurveyForm

open Xml (Element)

/-! ### Names with prefixes -/

namespace Xml

/-- What namespaces ask of a tag: no two attributes have the same namespace and the same name, no
prefix is bound twice, and a colon stands between a prefix and a name only. -/
structure Tag.IsProper (tag : Tag) : Prop where
  keys_nodup : (tag.attributes.map fun attr => (attr.uri, attr.name)).Nodup
  prefixes_nodup : (tag.scope.map (·.prefixName)).Nodup
  names_plain : ∀ attr ∈ tag.attributes, ':' ∉ attr.name.toList

/-- Whether an attribute goes by its name alone: it is in no namespace, or in one that no prefix
in scope is bound to. -/
def Tag.isBare (tag : Tag) (attr : Attribute) : Bool :=
  attr.uri.all fun uri => tag.scope.all fun binding => binding.prefixName = "" || binding.uri ≠ uri

variable {tag : Tag} {attr other : Attribute}

theorem Tag.attributeName_of_isBare (hbare : tag.isBare attr = true) :
    tag.attributeName attr = attr.name := by
  unfold attributeName
  cases huri : attr.uri with
  | none => rfl
  | some uri =>
      have hnone : (tag.scope.find? fun binding =>
          binding.prefixName ≠ "" ∧ binding.uri = uri) = none := by
        rw [List.find?_eq_none]
        simpa [isBare, huri, imp_iff_not_or] using hbare
      simp only [hnone]

theorem Tag.exists_attributeName_eq (hbare : ¬tag.isBare attr = true) :
    ∃ binding ∈ tag.scope, attr.uri = some binding.uri ∧
      tag.attributeName attr = binding.prefixName ++ ":" ++ attr.name := by
  unfold attributeName
  cases huri : attr.uri with
  | none => simp [isBare, huri] at hbare
  | some uri =>
      cases hfound : tag.scope.find? fun binding =>
          binding.prefixName ≠ "" ∧ binding.uri = uri with
      | none =>
          rw [List.find?_eq_none] at hfound
          refine absurd ?_ hbare
          simpa [isBare, huri, imp_iff_not_or] using hfound
      | some binding =>
          have hchosen := List.find?_some hfound
          simp only [decide_eq_true_eq] at hchosen
          refine ⟨binding, List.mem_of_find?_eq_some hfound, congrArg some hchosen.2.symm, ?_⟩
          simp only [hfound]

theorem Tag.IsProper.eq_of_key_eq (hproper : tag.IsProper) (hattr : attr ∈ tag.attributes)
    (hother : other ∈ tag.attributes) (huri : attr.uri = other.uri) (hname : attr.name = other.name) :
    attr = other :=
  List.inj_on_of_nodup_map hproper.keys_nodup hattr hother (Prod.ext huri hname)

/-- Only two attributes that go by their names alone can go by one name. -/
theorem Tag.IsProper.eq_or_isBare (hproper : tag.IsProper) (hattr : attr ∈ tag.attributes)
    (hother : other ∈ tag.attributes) (heq : tag.attributeName attr = tag.attributeName other) :
    attr = other ∨
      tag.isBare attr = true ∧ tag.isBare other = true ∧ attr.name = other.name := by
  have hcolon {found bare : Attribute} (hbare : bare ∈ tag.attributes) (front : String)
      (hname : bare.name = front ++ ":" ++ found.name) : False := by
    apply hproper.names_plain bare hbare
    simp [hname]
  by_cases hfirst : tag.isBare attr = true
  · rw [attributeName_of_isBare hfirst] at heq
    by_cases hsecond : tag.isBare other = true
    · rw [attributeName_of_isBare hsecond] at heq
      exact .inr ⟨hfirst, hsecond, heq⟩
    · obtain ⟨binding, -, -, hname⟩ := exists_attributeName_eq hsecond
      exact (hcolon hattr _ (heq.trans hname)).elim
  · obtain ⟨binding, hbinding, huri, hname⟩ := exists_attributeName_eq hfirst
    rw [hname] at heq
    by_cases hsecond : tag.isBare other = true
    · rw [attributeName_of_isBare hsecond] at heq
      exact (hcolon hother _ heq.symm).elim
    · obtain ⟨others, hothers, hotherUri, hotherName⟩ := exists_attributeName_eq hsecond
      rw [hotherName] at heq
      obtain ⟨hprefixes, hlocal⟩ := eq_of_append_colon_eq (hproper.names_plain attr hattr)
        (hproper.names_plain other hother) heq
      obtain rfl := List.inj_on_of_nodup_map hproper.prefixes_nodup hbinding hothers hprefixes
      exact .inl (hproper.eq_of_key_eq hattr hother (huri.trans hotherUri.symm) hlocal)

end Xml

/-! ### Properties and other attributes -/

namespace Setting

variable {options : Options} {path : String} {message : Option String} {name raw : String}

/-- The other attribute that a setting makes, if it makes one. -/
def pair? : Setting → Option (String × String)
  | .attribute name value => some (name, value)
  | _ => none

theorem ofNamed?_eq_attribute (hname : name ∉ propertyNames) :
    ofNamed? options path message name raw = some (.attribute name raw) := by
  simp only [propertyNames, List.mem_cons, List.not_mem_nil, or_false, not_or] at hname
  simp [ofNamed?, hname]

theorem not_mem_of_ofNamed?_eq_attribute {key value : String}
    (hsetting : ofNamed? options path message name raw = some (.attribute key value)) :
    name ∉ propertyNames := by
  intro hname
  simp only [propertyNames, List.mem_cons, List.not_mem_nil, or_false] at hname
  rcases hname with rfl | rfl | rfl | rfl | rfl | rfl <;> simp [ofNamed?] at hsetting

theorem pair?_of_ofNamed? {setting : Setting}
    (hsetting : ofNamed? options path message name raw = some setting) :
    setting.pair? = if name ∈ propertyNames then none else some (name, raw) := by
  by_cases hname : name ∈ propertyNames
  · rw [if_pos hname]
    match setting with
    | .attribute key value => exact absurd hname (not_mem_of_ofNamed?_eq_attribute hsetting)
    | .required _ | .readonly _ | .calculate _ | .constraint _ | .relevant _ | .type _ => rfl
  · rw [ofNamed?_eq_attribute hname] at hsetting
    obtain rfl := Option.some.inj hsetting
    rw [if_neg hname]
    rfl

/-- Settings put the other attributes that they make, one after the other. -/
theorem attributes_foldl_apply (settings : List Setting) (field : Field) :
    (settings.foldl apply field).attributes =
      field.attributes.putAll (settings.filterMap pair?) := by
  induction settings generalizing field with
  | nil => rfl
  | cons setting rest ih =>
      rw [List.foldl_cons, ih]
      match setting with
      | .attribute name value => rfl
      | .required _ | .readonly _ | .calculate _ | .constraint _ | .relevant _ | .type _ => rfl

end Setting

/-- The other attributes of a bind, by the names they go by. -/
def Xml.Element.otherAttributes (bind : Element) : List (String × String) :=
  ((bind.tag.attributes.filter (!·.isBindFrame)).filter
    (bind.tag.attributeName · ∉ Setting.propertyNames)).map fun attr =>
      (bind.tag.attributeName attr, attr.value)

theorem Setting.filterMap_pair?_eq {options : Options} {path : String} {bind : Element}
    {settings : List Setting} (hfound : ofBind options path bind = settings.map some) :
    settings.filterMap pair? = bind.otherAttributes := by
  unfold ofBind at hfound
  unfold Element.otherAttributes
  generalize bind.tag.attributes.filter (!·.isBindFrame) = attributes at hfound ⊢
  induction attributes generalizing settings with
  | nil =>
      obtain rfl := List.map_eq_nil_iff.mp hfound.symm
      rfl
  | cons attr rest ih =>
      obtain ⟨setting, later, rfl, hsetting, hlater⟩ := List.map_eq_cons_iff.mp hfound.symm
      obtain ⟨-, hread⟩ := Xml.Tag.bind_attributeName?_eq_some_iff.mp hsetting.symm
      have hpair := pair?_of_ofNamed? hread
      rw [List.filterMap_cons, hpair, List.filter_cons, ih hlater.symm]
      by_cases hname : bind.tag.attributeName attr ∈ propertyNames
      · simp [hname]
      · simp [hname]

namespace Xml.Element

variable {bind : Element}

theorem mem_otherAttributes {attr : Attribute} (hattr : attr ∈ bind.tag.attributes)
    (hframe : attr.isBindFrame = false)
    (hname : bind.tag.attributeName attr ∉ Setting.propertyNames) :
    (bind.tag.attributeName attr, attr.value) ∈ bind.otherAttributes := by
  apply List.mem_map_of_mem
  apply List.mem_filter.mpr
  constructor
  · exact List.mem_filter.mpr ⟨hattr, by rw [hframe]; rfl⟩
  · exact decide_eq_true hname

/-- Other attributes have different names if all attributes have. -/
theorem nodup_keys_otherAttributes
    (hnodup : (bind.tag.attributes.map bind.tag.attributeName).Nodup) :
    (Entries.keys bind.otherAttributes).Nodup := by
  rw [Entries.keys, otherAttributes, List.map_map]
  exact hnodup.sublist ((List.filter_sublist.trans List.filter_sublist).map _)

end Xml.Element

/-! ### Attributes that are kept apart -/

/-- Whether an attribute is a property: in no namespace, and of the name of one. -/
def Xml.Attribute.isProperty (attr : Xml.Attribute) : Bool :=
  attr.uri.isNone && Setting.propertyNames.contains attr.name

/-- Whether the attributes of a tag go by different names, and none in a namespace by the name of
a property. -/
structure Xml.Tag.NamesApart (tag : Xml.Tag) : Prop where
  nodup : (tag.attributes.map tag.attributeName).Nodup
  no_property : ∀ attr ∈ tag.attributes, attr.uri ≠ none →
    tag.attributeName attr ∉ Setting.propertyNames

/-- Whether what is in a namespace without a prefix has not the name of a property, nor of another
attribute that goes by its name alone. -/
def Xml.Tag.Separates (tag : Xml.Tag) : Prop :=
  ∀ attr ∈ tag.attributes, attr.uri ≠ none → tag.isBare attr = true →
    attr.name ∉ Setting.propertyNames ∧
      ∀ other ∈ tag.attributes, tag.isBare other = true → attr.name = other.name → attr = other

instance (tag : Xml.Tag) : Decidable tag.Separates :=
  inferInstanceAs (Decidable (∀ attr ∈ tag.attributes, attr.uri ≠ none → tag.isBare attr = true →
    attr.name ∉ Setting.propertyNames ∧
      ∀ other ∈ tag.attributes, tag.isBare other = true → attr.name = other.name → attr = other))

namespace Xml.Tag

variable {tag : Tag} {attr : Attribute}

theorem NamesApart.attributeName_not_mem (hapart : tag.NamesApart) (hattr : attr ∈ tag.attributes)
    (hother : attr.isProperty = false) : tag.attributeName attr ∉ Setting.propertyNames := by
  by_cases huri : attr.uri = none
  · have hname : tag.attributeName attr = attr.name := by
      rw [attributeName, huri]
    simpa [hname, Attribute.isProperty, huri] using hother
  · exact hapart.no_property attr hattr huri

theorem NamesApart.separates (hapart : tag.NamesApart) : tag.Separates := by
  intro attr hattr huri hbare
  have hname := attributeName_of_isBare hbare
  constructor
  · rw [← hname]
    exact hapart.no_property attr hattr huri
  · intro other hother hotherBare heq
    apply List.inj_on_of_nodup_map hapart.nodup hattr hother
    rw [hname, heq, attributeName_of_isBare hotherBare]

theorem attributeName_not_mem_of_not_isBare (hbare : ¬tag.isBare attr = true) :
    tag.attributeName attr ∉ Setting.propertyNames := by
  have hplain : ∀ name ∈ Setting.propertyNames, ':' ∉ name.toList := by
    decide
  obtain ⟨binding, -, -, hname⟩ := exists_attributeName_eq hbare
  intro hproperty
  apply hplain _ hproperty
  simp [hname]

/-- On a proper tag, only the namespaces without prefixes matter. -/
theorem IsProper.namesApart_iff (hproper : tag.IsProper) : tag.NamesApart ↔ tag.Separates := by
  refine ⟨NamesApart.separates, fun hseparates => ⟨?_, ?_⟩⟩
  · apply hproper.keys_nodup.of_map.map_on
    intro attr hattr other hother heq
    rcases hproper.eq_or_isBare hattr hother heq with hsame | ⟨hbare, hotherBare, hname⟩
    · exact hsame
    · by_cases huri : attr.uri = none
      · by_cases hotherUri : other.uri = none
        · exact hproper.eq_of_key_eq hattr hother (huri.trans hotherUri.symm) hname
        · have hback := (hseparates other hother hotherUri hotherBare).2 attr hattr hbare
          exact (hback hname.symm).symm
      · exact (hseparates attr hattr huri hbare).2 other hother hotherBare hname
  · intro attr hattr huri
    by_cases hbare : tag.isBare attr = true
    · rw [attributeName_of_isBare hbare]
      exact (hseparates attr hattr huri hbare).1
    · exact attributeName_not_mem_of_not_isBare hbare

end Xml.Tag

namespace Definitions

/-- That a bind is applied to the field at a path so that no attribute of it is lost or taken for
another one. -/
structure KeepsApart (options : Options) (definitions : Definitions) (path : String)
    (bind : Element) : Prop where
  applied : (definitions.applyBind options bind).2 = .applied
  names_nodup : (bind.tag.attributes.map bind.tag.attributeName).Nodup
  kept : ∃ field, (definitions.applyBind options bind).1.fields.get? path = some field ∧
    ∀ attr ∈ bind.tag.attributes, attr.isBindFrame = false → attr.isProperty = false →
      field.attributes.get? (bind.tag.attributeName attr) = some attr.value
  no_property : ∀ attr ∈ bind.tag.attributes, attr.uri ≠ none → attr.isBindFrame = false →
    ∀ message, Setting.ofNamed? options path message (bind.tag.attributeName attr) attr.value =
      some (.attribute (bind.tag.attributeName attr) attr.value)

variable {options : Options} {definitions : Definitions} {path : String} {bind : Element}

/-- A bind that is applied puts all its other attributes, in their order. -/
theorem attributes_fieldAfter (happlied : (definitions.applyBind options bind).2 = .applied)
    {field : Field} (hmeant : definitions.pathOf? bind = some field.path) :
    (fieldAfter options definitions bind field).attributes =
      field.attributes.putAll bind.otherAttributes := by
  obtain ⟨-, hreadable⟩ := snd_applyBind_eq_applied_iff.mp happlied
  rw [fieldAfter, if_pos hmeant, Setting.attributes_foldl_apply,
    Setting.filterMap_pair?_eq (Setting.ofBind_eq_map_some hreadable)]

theorem KeepsApart.namesApart (hapart : KeepsApart options definitions path bind) :
    bind.tag.NamesApart := by
  refine ⟨hapart.names_nodup, ?_⟩
  intro attr hattr huri
  cases hframe : attr.isBindFrame with
  | false =>
      have hsetting := hapart.no_property attr hattr huri hframe none
      exact Setting.not_mem_of_ofNamed?_eq_attribute hsetting
  | true => exact bind.tag.attributeName_not_mem_propertyNames hframe

/-- A bind for a field is applied so that no attribute is lost or taken for another one, exactly
if it does not break off and its attributes go by different names, none in a namespace by the
name of a property.  On a proper tag that is up to the namespaces without prefixes. -/
theorem keepsApart_iff (hmeant : definitions.pathOf? bind = some path)
    (hpath : path ∈ definitions.fields.paths) :
    (KeepsApart options definitions path bind ↔
      (bind.hasLongExpression = false ∧ bind.hasNamelessAttribute = false) ∧
        bind.tag.NamesApart) ∧
    (bind.tag.IsProper → (bind.tag.NamesApart ↔ bind.tag.Separates)) := by
  refine ⟨?_, Xml.Tag.IsProper.namesApart_iff⟩
  have hmeans : definitions.MeansField bind := ⟨path, hpath, hmeant⟩
  rw [← Bool.or_eq_false_iff]
  constructor
  · intro hapart
    exact ⟨(snd_applyBind_eq_applied_iff.mp hapart.applied).2, hapart.namesApart⟩
  · rintro ⟨hreadable, hnames⟩
    have happlied : (definitions.applyBind options bind).2 = .applied :=
      snd_applyBind_eq_applied_iff.mpr ⟨hmeans, hreadable⟩
    refine ⟨happlied, hnames.nodup, ?_, ?_⟩
    · obtain ⟨field, hfield⟩ := Option.isSome_iff_exists.mp (FieldMap.contains_iff.mpr hpath)
      refine ⟨fieldAfter options definitions bind field, ?_, ?_⟩
      · rw [fields_applyBind, FieldMap.get?_map (path_fieldAfter options definitions bind), hfield,
          Option.map_some]
      · intro attr hattr hframe hother
        have hname := hnames.attributeName_not_mem hattr hother
        have hkeys := Element.nodup_keys_otherAttributes hnames.nodup
        have hhere : definitions.pathOf? bind = some field.path := by
          rw [hmeant, FieldMap.path_of_get? hfield]
        rw [attributes_fieldAfter happlied hhere, Entries.get?_putAll, Entries.lastOf?_eq_get? hkeys,
          (Entries.get?_eq_some_iff hkeys).mpr (Element.mem_otherAttributes hattr hframe hname),
          Option.some_or]
    · intro attr hattr huri hframe message
      exact Setting.ofNamed?_eq_attribute (hnames.no_property attr hattr huri)

/-- A bind with two prefixes for one namespace and one for the default namespace, and with
attributes that have the names of properties in other namespaces. -/
def prefixedBind : Element :=
  let xformsUri := "http://www.w3.org/2002/xforms"
  ⟨⟨some xformsUri, "bind", [⟨none, "nodeset", "/data/a"⟩, ⟨none, "required", "true()"⟩,
    ⟨some javarosaUri, "required", "false()"⟩, ⟨some xformsUri, "type", "int"⟩,
    ⟨some Xml.xmlUri, "space", "preserve"⟩, ⟨some javarosaUri, "constraintMsg", "m"⟩,
    ⟨none, "hint", "x"⟩],
    [⟨"", xformsUri⟩, ⟨"o", javarosaUri⟩, ⟨"x", xformsUri⟩, ⟨"jr", javarosaUri⟩], []⟩, []⟩

theorem isProper_prefixedBind : prefixedBind.tag.IsProper where
  keys_nodup := by decide
  prefixes_nodup := by decide
  names_plain := by decide

theorem keepsApart_iff_prefixedBind :
    ofTwoQuestions.pathOf? prefixedBind = some "/data/a" ∧
      "/data/a" ∈ ofTwoQuestions.fields.paths ∧ prefixedBind.tag.IsProper ∧
      KeepsApart {} ofTwoQuestions "/data/a" prefixedBind ∧
      ((ofTwoQuestions.applyBind {} prefixedBind).1.fields.get? "/data/a").map
          (fun field => (field.required, field.type, field.attributes)) =
        some (some true, some "string", [("o:required", "false()"), ("x:type", "int"),
          ("space", "preserve"), ("hint", "x")]) := by
  have hmeant : ofTwoQuestions.pathOf? prefixedBind = some "/data/a" := by decide +kernel
  have hpath : "/data/a" ∈ ofTwoQuestions.fields.paths := by decide
  have hshort : prefixedBind.hasLongExpression = false := by decide +kernel
  have hnamed : prefixedBind.hasNamelessAttribute = false := by decide +kernel
  have hseparates : prefixedBind.tag.Separates := by decide
  obtain ⟨hiff, hproper⟩ := @keepsApart_iff {} ofTwoQuestions "/data/a" prefixedBind hmeant hpath
  have hnames := (hproper isProper_prefixedBind).mpr hseparates
  refine ⟨hmeant, hpath, isProper_prefixedBind, hiff.mpr ⟨⟨hshort, hnamed⟩, hnames⟩, ?_⟩
  decide +kernel

/-- A bind with a language of its own and with one in the namespace of XML, which has no prefix
in scope, and with an attribute in that namespace that has the name of a property. -/
def confusedBind : Element :=
  ⟨⟨none, "bind", [⟨none, "nodeset", "/data/a"⟩, ⟨none, "lang", "en"⟩,
    ⟨some Xml.xmlUri, "lang", "de"⟩, ⟨some Xml.xmlUri, "required", "true()"⟩],
    [⟨"jr", javarosaUri⟩], []⟩, []⟩

/-- One language is lost, and the question is required. -/
theorem not_keepsApart_confusedBind :
    confusedBind.tag.IsProper ∧ ofTwoQuestions.pathOf? confusedBind = some "/data/a" ∧
      (ofTwoQuestions.applyBind {} confusedBind).2 = .applied ∧
      ¬KeepsApart {} ofTwoQuestions "/data/a" confusedBind ∧
      ((ofTwoQuestions.applyBind {} confusedBind).1.fields.get? "/data/a").map
          (fun field => (field.required, field.attributes)) =
        some (some true, [("lang", "de")]) := by
  have hproper : confusedBind.tag.IsProper := ⟨by decide, by decide, by decide⟩
  have hconfused : ¬confusedBind.tag.Separates := by decide
  refine ⟨hproper, by decide +kernel, by decide +kernel, ?_, by decide +kernel⟩
  intro hapart
  exact hconfused hapart.namesApart.separates

end Definitions

end SurveyForm
