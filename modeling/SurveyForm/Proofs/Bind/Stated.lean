import SurveyForm.Proofs.Bind.Logic
import SurveyForm.Proofs.Bind.Replacement
/-!
Where the expressions of fields come from.  An attribute of a bind states its expression at the
path that the bind means, and under each name a field is left with what the last setting of that
name states.
-/

namespace SurveyForm

open Xml (Element)

/-- The expression that an attribute of the given name and value states at a path. -/
def Expr.readUnder? (options : Options) (path name raw : String) : Option Expr :=
  let limit : Int := options.maxExpressionDepth
  if name = "calculate" then parse? raw path limit
  else if name = "constraint" ∨ name = "relevant" then parseGroup? raw path limit
  else none

theorem Expr.readUnder?_condition {options : Options} {path name raw : String}
    (hname : name ∈ ["constraint", "relevant"]) :
    readUnder? options path name raw = parseGroup? raw path options.maxExpressionDepth := by
  simp only [List.mem_cons, List.not_mem_nil, or_false] at hname
  rcases hname with rfl | rfl <;> rfl

/-- What is read under a name is read alone or as a group. -/
theorem Expr.parse?_or_parseGroup?_of_readUnder? {options : Options} {path name raw : String}
    {expr : Expr} (hread : readUnder? options path name raw = some expr) :
    parse? raw path options.maxExpressionDepth = some expr ∨
      parseGroup? raw path options.maxExpressionDepth = some expr := by
  unfold readUnder? at hread
  split at hread
  · exact .inl hread
  · split at hread
    · exact .inr hread
    · contradiction

/-- The expression that a field states under the name of an attribute. -/
def Field.expr? (field : Field) (name : String) : Option Expr :=
  if name = "calculate" then field.calculate
  else if name = "relevant" then field.relevant.map (·.expr)
  else if name = "constraint" then field.constraint.map (·.expr)
  else none

theorem Field.expr?_eq_none {field : Field} (hfield : field.logic = []) (name : String) :
    field.expr? name = none := by
  simp only [logic, List.append_eq_nil_iff, Option.toList_eq_nil_iff] at hfield
  simp [expr?, hfield]

namespace Setting

variable {options : Options} {path name : String} {field : Field} {setting : Setting}
  {settings : List Setting} {bind : Element} {attr : Xml.Attribute}

/-- A setting states what its attribute does. -/
theorem head?_logic_of_ofNamed? {message : Option String} {raw : String}
    (hsetting : ofNamed? options path message name raw = some setting) :
    setting.logic.head? = Expr.readUnder? options path name raw := by
  cases reads_of_ofNamed? hsetting with
  | calculate hparse => simp [logic, Expr.readUnder?, hparse]
  | constraint hparse | relevant hparse => simp [logic, Expr.readUnder?, hparse]
  | required | readonly | type => simp [logic, Expr.readUnder?]
  | other hname => simp_all [logic, Expr.readUnder?]

/-- A setting that can be read from the attribute of an expression states one. -/
theorem exists_logic_of_ofNamed? {message : Option String} {raw : String}
    (hname : name ∈ ["calculate", "constraint", "relevant"])
    (hsetting : ofNamed? options path message name raw = some setting) :
    ∃ expr, setting.logic = [expr] ∧ Expr.readUnder? options path name raw = some expr := by
  have hread := head?_logic_of_ofNamed? hsetting
  cases reads_of_ofNamed? hsetting with
  | calculate | constraint | relevant => exact ⟨_, rfl, hread.symm⟩
  | required | readonly | type => simp at hname
  | other hother => contradiction

/-- A setting changes what its field states under its own name, and nothing else. -/
theorem expr?_apply (hproper : setting.IsProper) (field : Field) (name : String) :
    (apply field setting).expr? name =
      if setting.name = name then setting.logic.head? else field.expr? name := by
  by_cases hname : setting.name = name
  · subst hname
    rw [if_pos rfl]
    cases setting with
    | «attribute» => simp_all [IsProper, Field.expr?, logic, Setting.name]
    | _ => simp [Field.expr?, apply, logic, Setting.name]
  · rw [if_neg hname]
    cases setting with
    | calculate | relevant | constraint => simp_all [Field.expr?, apply, Setting.name, eq_comm]
    | _ => rfl

/-- Under each name a field is left with what the last setting of that name states. -/
theorem expr?_foldl_apply (hfield : field.expr? name = none)
    (hproper : ∀ setting ∈ settings, setting.IsProper) :
    (settings.foldl apply field).expr? name =
      (settings.filter (·.name = name)).getLast?.bind (·.logic.head?) := by
  induction settings using List.reverseRecOn with
  | nil => exact hfield
  | append_singleton settings last ih =>
      simp only [List.mem_append, List.mem_singleton, or_imp, forall_and, forall_eq] at hproper
      rw [List.foldl_concat, expr?_apply hproper.2, ih hproper.1, List.filter_append]
      by_cases hname : last.name = name
      · simp [hname]
      · simp [hname]

/-- The expressions that a bind states at a path under the name of an attribute. -/
def statedBy (options : Options) (path : String) (bind : Element) (name : String) : List Expr :=
  ((madeBy options path bind).filter (·.name = name)).flatMap logic

/-- Where a bind can be read, every attribute that names an expression states one. -/
theorem exists_mem_statedBy (hreadable : bind.isUnreadable = false)
    (hattr : attr ∈ bind.tag.attributes)
    (hname : bind.tag.attributeName attr ∈ ["calculate", "constraint", "relevant"]) :
    ∃ expr ∈ statedBy options path bind (bind.tag.attributeName attr),
      Expr.readUnder? options path (bind.tag.attributeName attr) attr.value = some expr := by
  have hframe : attr.isBindFrame = false := by
    rw [← Bool.not_eq_true]
    exact fun hframe => bind.tag.attributeName_not_mem_of_isBindFrame hframe hname
  have hfound : (bind.tag.attributeName? attr).bind
      (ofNamed? options path (bind.attributeIn? javarosaUri "constraintMsg") · attr.value) ∈
        ofBind options path bind :=
    List.mem_map.mpr ⟨attr, List.mem_filter.mpr ⟨hattr, by simp [hframe]⟩, rfl⟩
  rw [ofBind_eq_map_some hreadable, List.mem_map] at hfound
  obtain ⟨setting, hmade, hsetting⟩ := hfound
  obtain ⟨-, hread⟩ := Xml.Tag.bind_attributeName?_eq_some_iff.mp hsetting.symm
  obtain ⟨expr, hlogic, hexpr⟩ := exists_logic_of_ofNamed? hname hread
  refine ⟨expr, List.mem_flatMap.mpr ⟨setting, ?_, by simp [hlogic]⟩, hexpr⟩
  exact List.mem_filter.mpr ⟨hmade, decide_eq_true (name_of_ofNamed? hread)⟩

theorem mem_statedBy (hreadable : bind.isUnreadable = false) (hattr : attr ∈ bind.tag.attributes)
    (hnamed : bind.tag.attributeName attr = name)
    (hname : name ∈ ["calculate", "constraint", "relevant"]) {expr : Expr}
    (hread : Expr.readUnder? options path name attr.value = some expr) :
    expr ∈ statedBy options path bind name := by
  subst hnamed
  obtain ⟨stated, hstated, hsame⟩ := exists_mem_statedBy hreadable hattr hname
  obtain rfl := Option.some.inj (hread.symm.trans hsame)
  exact hstated

end Setting

namespace Definitions

variable {options : Options} {definitions bound : Definitions} {binds : List Element}

/-- Whatever a field that stated nothing is left with has been read from an attribute of a bind
that means the field. -/
theorem exists_readUnder?_of_expr?
    (hbinds : definitions.applyBinds options binds = (bound, true))
    (hpaths : bound.fields.paths.Nodup)
    (hnone : ∀ field ∈ definitions.fields, field.logic = []) {field : Field}
    (hfield : field ∈ bound.fields) {name : String} {expr : Expr}
    (hexpr : field.expr? name = some expr) :
    ∃ bind ∈ binds, definitions.pathOf? bind = some field.path ∧
      ∃ attr ∈ bind.tag.attributes, bind.tag.attributeName attr = name ∧
        Expr.readUnder? options field.path name attr.value = some expr := by
  obtain ⟨initial, hinitial, hfinal⟩ := exists_foldl_settingsAt hbinds hpaths hfield
  have hstart := Field.expr?_eq_none (hnone initial (List.mem_of_find?_eq_some hinitial)) name
  rw [← hfinal, Setting.expr?_foldl_apply hstart fun _ => isProper_of_mem_settingsAt,
    Option.bind_eq_some_iff] at hexpr
  obtain ⟨setting, hlast, hlogic⟩ := hexpr
  obtain ⟨hsetting, hname⟩ := List.mem_filter.mp (List.mem_of_getLast? hlast)
  obtain ⟨bind, hbind, hmade⟩ := List.mem_flatMap.mp hsetting
  obtain ⟨hmem, hmeant⟩ := List.mem_filter.mp hbind
  obtain ⟨attr, hattr, hread⟩ := List.mem_map.mp (Setting.some_mem_of_mem_beforeBreak hmade)
  obtain ⟨-, hnamed⟩ := Xml.Tag.bind_attributeName?_eq_some_iff.mp hread
  have hsame : bind.tag.attributeName attr = name :=
    (Setting.name_of_ofNamed? hnamed).symm.trans (of_decide_eq_true hname)
  refine ⟨bind, hmem, of_decide_eq_true hmeant, attr, (List.mem_filter.mp hattr).1, hsame, ?_⟩
  rw [← hlogic, Setting.head?_logic_of_ofNamed? hnamed, hsame]

end Definitions

end SurveyForm
