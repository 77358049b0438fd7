import SurveyForm.Proofs.Bind.Independence
/-!
The logic of fields.  All of it has been read from attributes of binds, at the path of its field
and down to the depth that the options allow.
-/

namespace SurveyForm

open Xml (Element)

/-- Whether some text reads as the expression at a path: alone or as a group. -/
def Expr.IsReadAt (options : Options) (path : String) (expr : Expr) : Prop :=
  ∃ raw, parse? raw path options.maxExpressionDepth = some expr ∨
    parseGroup? raw path options.maxExpressionDepth = some expr

/-- Whether all logic of a field has been read there. -/
def Field.StatesRead (options : Options) (field : Field) : Prop :=
  ∀ expr ∈ field.logic, expr.IsReadAt options field.path

namespace Setting

variable {options : Options} {path : String} {field : Field} {setting : Setting}

/-- The logic that a setting states. -/
def logic : Setting → List Expr
  | .calculate expr => [expr]
  | .constraint condition => [condition.expr]
  | .relevant condition => [condition.expr]
  | _ => []

theorem isReadAt_of_ofNamed? {message : Option String} {name raw : String}
    (hsetting : ofNamed? options path message name raw = some setting) :
    ∀ expr ∈ setting.logic, expr.IsReadAt options path := by
  intro expr hexpr
  cases reads_of_ofNamed? hsetting with
  | calculate hparse =>
      obtain rfl := List.mem_singleton.mp hexpr
      exact ⟨raw, .inl hparse⟩
  | constraint hparse | relevant hparse =>
      obtain rfl := List.mem_singleton.mp hexpr
      exact ⟨raw, .inr hparse⟩
  | required | readonly | type | other => contradiction

/-- A setting replaces logic by its own, and leaves all other logic as it is. -/
theorem logic_apply_subset (field : Field) (setting : Setting) :
    (apply field setting).logic ⊆ field.logic ++ setting.logic := by
  intro expr hexpr
  simp only [Field.logic, List.append_assoc, List.mem_append] at hexpr ⊢
  cases setting with
  | calculate new =>
      rcases hexpr with hnew | hother
      · exact .inr (.inr (.inr (by simpa [apply, logic] using hnew)))
      · exact .inr (hother.imp_right .inl)
  | relevant condition =>
      rcases hexpr with hcalculate | hnew | hconstraint
      · exact .inl hcalculate
      · exact .inr (.inr (.inr (by simpa [apply, logic] using hnew)))
      · exact .inr (.inr (.inl hconstraint))
  | constraint condition =>
      rcases hexpr with hcalculate | hrelevant | hnew
      · exact .inl hcalculate
      · exact .inr (.inl hrelevant)
      · exact .inr (.inr (.inr (by simpa [apply, logic] using hnew)))
  | _ => exact hexpr.imp_right fun hconditions => hconditions.imp_right .inl

theorem statesRead_apply (hfield : field.StatesRead options)
    (hsetting : ∀ expr ∈ setting.logic, expr.IsReadAt options field.path) :
    (apply field setting).StatesRead options := by
  intro expr hexpr
  rw [path_apply]
  rcases List.mem_append.mp (logic_apply_subset field setting hexpr) with hold | hnew
  · exact hfield expr hold
  · exact hsetting expr hnew

theorem statesRead_foldl_apply {settings : List Setting} (hfield : field.StatesRead options)
    (hsettings : ∀ setting ∈ settings, ∀ expr ∈ setting.logic,
      expr.IsReadAt options field.path) :
    (settings.foldl apply field).StatesRead options := by
  induction settings generalizing field with
  | nil => exact hfield
  | cons setting rest ih =>
      obtain ⟨hsetting, hrest⟩ := List.forall_mem_cons.mp hsettings
      apply ih (statesRead_apply hfield hsetting)
      rwa [path_apply]

/-- What a bind makes of a field is read at the path of the field. -/
theorem isReadAt_of_mem_madeBy {bind : Element} (hsetting : setting ∈ madeBy options path bind) :
    ∀ expr ∈ setting.logic, expr.IsReadAt options path := by
  obtain ⟨attr, -, hread⟩ := List.mem_map.mp (some_mem_of_mem_beforeBreak hsetting)
  exact isReadAt_of_ofNamed? (Xml.Tag.bind_attributeName?_eq_some_iff.mp hread).2

end Setting

namespace Definitions

variable {options : Options} {definitions bound : Definitions}

/-- Whether all logic of all fields has been read where it is. -/
def StatesRead (options : Options) (definitions : Definitions) : Prop :=
  ∀ field ∈ definitions.fields, field.StatesRead options

theorem StatesRead.applyBind (hread : definitions.StatesRead options) (bind : Element) :
    (definitions.applyBind options bind).1.StatesRead options := by
  intro field hfield
  rw [fields_applyBind] at hfield
  obtain ⟨old, hold, rfl⟩ := List.mem_map.mp hfield
  rw [fieldAfter]
  split
  · apply Setting.statesRead_foldl_apply (hread old hold)
    intro setting hsetting
    exact Setting.isReadAt_of_mem_madeBy hsetting
  · exact hread old hold

/-- The walk over an instance states no logic. -/
theorem logic_of_mem_ofInstance {data : Element} {field : Field}
    (hfield : field ∈ (ofInstance data).fields) : field.logic = [] := by
  have hnone : ∀ field ∈ (ofInstance data).fields, field.logic = [] := by
    refine InstanceVisit.forall_mem_foldl_record (fun _ => rfl) (fun visit field hfield => ?_) _
      (by simp)
    unfold InstanceVisit.change
    split
    · exact hfield
    · exact hfield
  exact hnone field hfield

theorem statesRead_of_applyBinds {data : Element} {binds : List Element}
    (hbinds : (ofInstance data).applyBinds options binds = (bound, true)) :
    bound.StatesRead options := by
  apply holds_of_applyBinds (fun _ bind hmade => hmade.applyBind bind) _ hbinds
  intro field hfield expr hexpr
  rw [logic_of_mem_ofInstance hfield] at hexpr
  contradiction

end Definitions

end SurveyForm
