import Mathlib.Data.List.Forall2
import SurveyForm.Proofs.Bind.BreakingOff
import SurveyForm.Proofs.Bind.Independence
import SurveyForm.Proofs.Entries
import SurveyForm.Proofs.Form.DepthLimit
/-!
Applying a bind again.  It ends as it did the first time, and it leaves the fields as they are.
A bind does the same to every field that it means, and nothing to any other field; one that
breaks off has done part of it.
-/

namespace SurveyForm

open Xml (Element)

/-! ### Making settings again -/

namespace Setting

variable {field : Field} {setting other : Setting} {settings : List Setting}

/-- Whether a field has a place for a setting already.  Another attribute gets its place when it
is first set. -/
def HasPlace (field : Field) : Setting → Prop
  | .attribute name _ => name ∈ field.attributes.keys
  | _ => True

theorem hasPlace_apply_self (field : Field) (setting : Setting) :
    HasPlace (apply field setting) setting := by
  match setting with
  | .attribute name value => exact (Entries.mem_keys_put_iff value).mpr (.inl rfl)
  | .required _ | .readonly _ | .calculate _ | .constraint _ | .relevant _ | .type _ => trivial

theorem keys_subset_apply (field : Field) (setting : Setting) :
    field.attributes.keys ⊆ (apply field setting).attributes.keys := by
  match setting with
  | .attribute name value =>
      intro key hkey
      exact (Entries.mem_keys_put_iff value).mpr (.inr hkey)
  | .required _ | .readonly _ | .calculate _ | .constraint _ | .relevant _ | .type _ =>
      exact List.Subset.refl _

theorem HasPlace.apply (hplace : HasPlace field other) (setting : Setting) :
    HasPlace (setting.apply field) other := by
  match other with
  | .attribute _ _ => exact keys_subset_apply field setting hplace
  | .required _ | .readonly _ | .calculate _ | .constraint _ | .relevant _ | .type _ => trivial

theorem apply_apply_self (field : Field) (setting : Setting) :
    apply (apply field setting) setting = apply field setting := by
  match setting with
  | .attribute name value =>
      exact congrArg (fun attributes => { field with attributes })
        (Entries.put_put field.attributes name value value)
  | .required _ | .readonly _ | .calculate _ | .constraint _ | .relevant _ | .type _ => rfl

/-- Another attribute that has its place takes the place of the one before it, or the two can
change places. -/
theorem apply_attribute_attribute {name : String} (hplace : name ∈ field.attributes.keys)
    (key value new : String) :
    apply (apply field (.attribute key value)) (.attribute name new) =
        apply field (.attribute name new) ∨
      apply (apply field (.attribute key value)) (.attribute name new) =
        apply (apply field (.attribute name new)) (.attribute key value) := by
  by_cases hkey : name = key
  · subst hkey
    exact .inl (congrArg (fun attributes => { field with attributes })
      (Entries.put_put field.attributes name value new))
  · exact .inr (congrArg (fun attributes => { field with attributes })
      (Entries.put_comm hplace hkey new value).symm)

/-- The same holds of any two settings: those of different kinds do not touch. -/
theorem apply_apply (hplace : HasPlace field other) :
    apply (apply field setting) other = apply field other ∨
      apply (apply field setting) other = apply (apply field other) setting := by
  cases setting <;> cases other
  all_goals first
    | exact .inl rfl
    | exact .inr rfl
    | exact apply_attribute_attribute hplace _ _ _

/-- What a setting did before others that have their places does not matter if it is made after
them as well. -/
theorem apply_foldl_apply (hplaces : ∀ other ∈ settings, HasPlace field other) :
    apply (settings.foldl apply (apply field setting)) setting =
      apply (settings.foldl apply field) setting := by
  induction settings generalizing field with
  | nil => exact apply_apply_self field setting
  | cons first rest ih =>
      obtain ⟨hfirst, hrest⟩ := List.forall_mem_cons.mp hplaces
      rw [List.foldl_cons, List.foldl_cons]
      rcases apply_apply hfirst with hreplaced | hswapped
      · rw [hreplaced]
      · rw [hswapped]
        exact ih fun other hother => (hrest other hother).apply first

theorem hasPlace_foldl_apply (field : Field) (settings : List Setting) :
    ∀ setting ∈ settings, HasPlace (settings.foldl apply field) setting := by
  induction settings using List.reverseRecOn with
  | nil => exact List.forall_mem_nil _
  | append_singleton settings last ih =>
      intro setting hsetting
      rw [List.foldl_append]
      rcases List.mem_append.mp hsetting with hbefore | hlast
      · exact (ih setting hbefore).apply last
      · obtain rfl := List.mem_singleton.mp hlast
        exact hasPlace_apply_self _ _

/-- Settings that are made again change nothing, also where some of them have one name. -/
theorem foldl_apply_foldl_apply (settings : List Setting) (field : Field) :
    settings.foldl apply (settings.foldl apply field) = settings.foldl apply field := by
  induction settings using List.reverseRecOn with
  | nil => rfl
  | append_singleton settings last ih =>
      rw [List.foldl_append, List.foldl_append, List.foldl_cons, List.foldl_nil, List.foldl_cons,
        List.foldl_nil, apply_foldl_apply (hasPlace_foldl_apply field settings), ih]

end Setting

/-! ### Applying a bind again -/

/-- What becomes of a field when a bind is applied that means the given path.  It stays what the
instance made it, and no other field changes. -/
structure Field.Frames (meant : Option String) (before after : Field) : Prop where
  path_eq : after.path = before.path
  isContainer_eq : after.isContainer = before.isContainer
  defaultValue_eq : after.defaultValue = before.defaultValue
  eq_of_ne : meant ≠ some before.path → after = before

theorem Setting.defaultValue_foldl_apply (settings : List Setting) (field : Field) :
    (settings.foldl apply field).defaultValue = field.defaultValue := by
  apply keeps_foldl_apply
  intro field setting
  cases setting <;> rfl

namespace Definitions

variable {options : Options} {definitions : Definitions} {bind : Element}

theorem frames_fieldAfter (options : Options) (definitions : Definitions) (bind : Element)
    (field : Field) :
    field.Frames (definitions.pathOf? bind) (fieldAfter options definitions bind field) := by
  by_cases hmeant : definitions.pathOf? bind = some field.path
  · rw [fieldAfter, if_pos hmeant]
    have houtline := Setting.outline_foldl_apply (Setting.madeBy options field.path bind) field
    exact ⟨congrArg Prod.fst houtline, congrArg Prod.snd houtline,
      Setting.defaultValue_foldl_apply _ field, fun hother => absurd hmeant hother⟩
  · rw [fieldAfter, if_neg hmeant]
    exact ⟨rfl, rfl, rfl, fun _ => rfl⟩

theorem fieldAfter_fieldAfter (options : Options) (definitions : Definitions) (bind : Element)
    (field : Field) :
    fieldAfter options definitions bind (fieldAfter options definitions bind field) =
      fieldAfter options definitions bind field := by
  by_cases hmeant : definitions.pathOf? bind = some field.path
  · have hpath := path_fieldAfter options definitions bind field
    rw [fieldAfter, hpath, if_pos hmeant, fieldAfter, if_pos hmeant,
      Setting.foldl_apply_foldl_apply]
  · have hkept : fieldAfter options definitions bind field = field := if_neg hmeant
    rw [hkept, hkept]

theorem fieldAfter_congr {other : Definitions} (hbase : definitions.basePath = other.basePath) :
    fieldAfter options definitions = fieldAfter options other := by
  funext bind field
  simp only [fieldAfter, pathOf?_congr hbase]

theorem fields_applyBind_applyBind (options : Options) (definitions : Definitions)
    (bind : Element) :
    ((definitions.applyBind options bind).1.applyBind options bind).1.fields =
      (definitions.applyBind options bind).1.fields := by
  have hbase := (outline_applyBind options definitions bind).2
  rw [fields_applyBind, fields_applyBind, fieldAfter_congr hbase, List.map_map]
  exact List.map_congr_left fun field _ => fieldAfter_fieldAfter options definitions bind field

/-- Whether a bind means a field that there is. -/
def MeansField (definitions : Definitions) (bind : Element) : Prop :=
  ∃ path ∈ definitions.fields.paths, definitions.pathOf? bind = some path

instance (definitions : Definitions) (bind : Element) : Decidable (definitions.MeansField bind) :=
  List.decidableBEx (fun path => definitions.pathOf? bind = some path) definitions.fields.paths

theorem meansField_iff {nodeset : String} (hnodeset : bind.attribute? "nodeset" = some nodeset) :
    definitions.MeansField bind ↔
      definitions.resolveNodeset nodeset ∈ definitions.fields.paths := by
  simp [MeansField, pathOf?, hnodeset]

theorem not_meansField (hnodeset : bind.attribute? "nodeset" = none) :
    ¬definitions.MeansField bind := by
  simp [MeansField, pathOf?, hnodeset]

/-- A bind that means no field is dropped; any other one is applied unless it breaks off. -/
theorem snd_applyBind_eq_ite :
    (definitions.applyBind options bind).2 =
      if definitions.MeansField bind then
        if bind.isUnreadable then .brokenOff else .applied
      else .dropped := by
  have happlies := applies_applyBind options definitions bind
  generalize definitions.applyBind options bind = result at happlies ⊢
  cases happlies with
  | unnamed hnodeset => rw [if_neg (not_meansField hnodeset)]
  | mismatched hnodeset hpath => rw [if_neg (mt (meansField_iff hnodeset).mp hpath)]
  | applied hnodeset hpath hfound =>
      have hreadable := Setting.not_isUnreadable_of_ofBind hfound
      rw [if_pos ((meansField_iff hnodeset).mpr hpath), if_neg hreadable]
  | brokenOff hnodeset hpath hfound =>
      have hunreadable := Setting.isUnreadable_of_ofBind hfound
      rw [if_pos ((meansField_iff hnodeset).mpr hpath), if_pos hunreadable]

theorem snd_applyBind_eq_brokenOff_iff :
    (definitions.applyBind options bind).2 = .brokenOff ↔
      definitions.MeansField bind ∧ bind.isUnreadable = true := by
  rw [snd_applyBind_eq_ite]
  split_ifs with hmeans hunreadable
  · simp [hmeans, hunreadable]
  · simp [hunreadable]
  · simp [hmeans]

theorem snd_applyBind_eq_applied_iff :
    (definitions.applyBind options bind).2 = .applied ↔
      definitions.MeansField bind ∧ bind.isUnreadable = false := by
  rw [snd_applyBind_eq_ite]
  split_ifs with hmeans hunreadable
  · simp [hunreadable]
  · simp [hmeans, hunreadable]
  · simp [hmeans]

/-- A bind that is dropped leaves one finding behind, and nothing else. -/
theorem exists_report_of_dropped (hdropped : (definitions.applyBind options bind).2 = .dropped) :
    ∃ found : Diagnostic, found.kind = .bindMismatch ∧
      (definitions.applyBind options bind).1 = definitions.report options [found] := by
  have happlies := applies_applyBind options definitions bind
  generalize definitions.applyBind options bind = result at happlies hdropped ⊢
  cases happlies with
  | unnamed | mismatched => exact ⟨_, rfl, rfl⟩
  | applied | brokenOff => contradiction

/-- Applying a bind again right after it has been applied ends in the same way and leaves the
fields exactly as they are.  A bind that is dropped leaves one finding and no change; any other
one means a field, and at most that one is changed, which stays what the instance made it.  The
bind breaks off if one of its expressions has a character reference that is too long, or if no
name can be had for one of its attributes. -/
theorem applyBind_applyBind (options : Options) (definitions : Definitions) (bind : Element) :
    let made := definitions.applyBind options bind
    let again := made.1.applyBind options bind
    (again.2 = made.2 ∧ again.1.fields = made.1.fields) ∧
      (made.2 = .dropped → made.1.fields = definitions.fields ∧
        ∃ found : Diagnostic, found.kind = .bindMismatch ∧
          made.1.diagnostics = definitions.diagnostics ++ [found]) ∧
      (made.2 = .applied → definitions.MeansField bind) ∧
      List.Forall₂ (Field.Frames (definitions.pathOf? bind)) definitions.fields made.1.fields ∧
      (made.2 = .brokenOff ↔ definitions.MeansField bind ∧
        (bind.hasLongExpression = true ∨ bind.hasNamelessAttribute = true)) := by
  intro made again
  refine ⟨⟨?_, fields_applyBind_applyBind options definitions bind⟩, ?_, ?_, ?_, ?_⟩
  · obtain ⟨houtline, hbase⟩ := outline_applyBind options definitions bind
    have hpaths := FieldMap.paths_eq_of_outline_eq houtline
    exact (exists_diagnostics_applyBind options bind hbase hpaths).2
  · intro hdropped
    obtain ⟨found, hkind, hmade⟩ := exists_report_of_dropped hdropped
    have hfields : made.1.fields = (definitions.report options [found]).fields :=
      congrArg Definitions.fields hmade
    refine ⟨hfields, found, hkind, ?_⟩
    rw [show made.1 = _ from hmade, diagnostics_report]
  · intro happlied
    exact (snd_applyBind_eq_applied_iff.mp happlied).1
  · have hfields : made.1.fields = definitions.fields.map (fieldAfter options definitions bind) :=
      fields_applyBind options definitions bind
    rw [hfields, List.forall₂_map_right_iff, List.forall₂_same]
    exact fun field _ => frames_fieldAfter options definitions bind field
  · rw [← Bool.or_eq_true]
    exact snd_applyBind_eq_brokenOff_iff

/-- A bind with two attributes that go by one name, in different namespaces. -/
def repeatingBind : Element :=
  ⟨⟨none, "bind", [⟨none, "nodeset", "a"⟩, ⟨none, "lang", "en"⟩,
    ⟨some javarosaUri, "hint", "x"⟩, ⟨none, "calculate", "f(1)"⟩,
    ⟨some Xml.xmlUri, "lang", "de"⟩], [⟨"jr", javarosaUri⟩], []⟩, []⟩

/-- A bind for a question that there is not. -/
def strayBind : Element :=
  bindWithMessage "" [("nodeset", "/data/c"), ("type", "int")]

theorem applyBind_applyBind_repeatingBind :
    let bound := (ofTwoQuestions.applyBind {} boundedBind).1
    let made := bound.applyBind {} repeatingBind
    let dropped := bound.applyBind {} strayBind
    made.2 = .applied ∧ (made.1.applyBind {} repeatingBind).2 = .applied ∧
      (made.1.applyBind {} repeatingBind).1.fields = made.1.fields ∧
      bound.MeansField repeatingBind ∧
      (made.1.fields.get? "/data/a").map (·.attributes) =
        some [("hint", "x"), ("lang", "de"), ("jr:hint", "x")] ∧
      dropped.2 = .dropped ∧ dropped.1.fields = bound.fields := by
  intro bound made dropped
  have hmade : made.2 = .applied := by decide +kernel
  have hdropped : dropped.2 = .dropped := by decide +kernel
  obtain ⟨⟨hended, hfields⟩, -, hmeans, -⟩ := applyBind_applyBind {} bound repeatingBind
  obtain ⟨-, hkept, -⟩ := applyBind_applyBind {} bound strayBind
  refine ⟨hmade, hended.trans hmade, hfields, hmeans hmade, ?_, hdropped, (hkept hdropped).1⟩
  decide +kernel

/-- A bind that is required and has a calculation with a character reference that is too
long. -/
def halfBind : Element :=
  ⟨⟨none, "bind", [⟨none, "nodeset", "/data/a"⟩, ⟨none, "required", "true()"⟩,
    ⟨none, "calculate", Form.longReference⟩], [], []⟩, []⟩

theorem madeBy_halfBind : Setting.madeBy {} "/data/a" halfBind = [.required true] := by
  have hunread : Setting.ofNamed? {} "/data/a" none "calculate" Form.longReference = none :=
    Setting.ofNamed?_eq_none_iff.mpr ⟨by simp, Form.not_hasShortReferences_longReference⟩
  have hfound : Setting.ofBind {} "/data/a" halfBind =
      [(halfBind.tag.attributeName? ⟨none, "required", "true()"⟩).bind
          (Setting.ofNamed? {} "/data/a" none · "true()"),
        (halfBind.tag.attributeName? ⟨none, "calculate", Form.longReference⟩).bind
          (Setting.ofNamed? {} "/data/a" none · Form.longReference)] :=
    rfl
  rw [Setting.madeBy, hfound, Xml.Tag.attributeName?_of_uri rfl, Xml.Tag.attributeName?_of_uri rfl,
    Option.bind_some, Option.bind_some, hunread]
  rfl

/-- That bind is neither applied nor dropped, and it leaves one of its settings behind. -/
theorem applyBind_halfBind :
    (ofTwoQuestions.applyBind {} halfBind).2 = .brokenOff ∧
      (ofTwoQuestions.fields.get? "/data/a").map (·.required) = some none ∧
      ((ofTwoQuestions.applyBind {} halfBind).1.fields.get? "/data/a").map (·.required) =
        some (some true) := by
  refine ⟨?_, rfl, ?_⟩
  · apply snd_applyBind_eq_brokenOff_iff.mpr
    constructor
    · exact ⟨"/data/a", by decide, rfl⟩
    · rw [Element.isUnreadable, Bool.or_eq_true]
      left
      rw [Element.hasLongExpression, List.any_eq_true]
      refine ⟨⟨none, "calculate", Form.longReference⟩, by simp [halfBind], ?_⟩
      rw [Form.not_hasShortReferences_longReference]
      rfl
  · let question : Field := { path := "/data/a", type := some "string" }
    have hbefore : ofTwoQuestions.fields.get? "/data/a" = some question := rfl
    have hafter : fieldAfter {} ofTwoQuestions halfBind question =
        { question with required := some true } := by
      have hmeant : ofTwoQuestions.pathOf? halfBind = some question.path := rfl
      rw [fieldAfter, if_pos hmeant, madeBy_halfBind]
      rfl
    rw [fields_applyBind, FieldMap.get?_map (path_fieldAfter {} ofTwoQuestions halfBind), hbefore,
      Option.map_some, hafter]
    rfl

end Definitions

end SurveyForm
