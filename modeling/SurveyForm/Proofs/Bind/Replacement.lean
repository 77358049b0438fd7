import Mathlib.Data.List.Induction
import Mathlib.Data.List.Nodup
import SurveyForm.Proofs.Bind.BreakingOff
import SurveyForm.Proofs.Bind.Independence
/-!
What settings take the place of.  A setting replaces whatever its field stated under the same
name and leaves the rest, so a field ends up with fewer unread expressions than were set
exactly if one that could not be read has been replaced.
-/

namespace SurveyForm

open Xml (Element)

/-- The number of expressions that could not be read. -/
def unreadCount (exprs : List Expr) : Nat :=
  exprs.countP ExprOver.isUnparsed

@[simp]
theorem unreadCount_nil : unreadCount [] = 0 :=
  rfl

@[simp]
theorem unreadCount_append (exprs others : List Expr) :
    unreadCount (exprs ++ others) = unreadCount exprs + unreadCount others :=
  List.countP_append

/-- What an attribute declares: its name, and the expressions that it states as a whole. -/
structure Declaration where
  name : String
  wholes : List Expr

/-- Whether nothing unread gets lost: whatever is declared again could be read. -/
def Declaration.NothingLost (declared : List Declaration) : Prop :=
  declared.Pairwise fun earlier later =>
    earlier.name = later.name → unreadCount earlier.wholes = 0

/-- What a field states under the name of an attribute. -/
def Field.wholesOf (field : Field) (name : String) : List Expr :=
  if name = "calculate" then field.calculate.toList
  else if name = "relevant" then field.relevant.toList.flatMap Condition.members
  else if name = "constraint" then field.constraint.toList.flatMap Condition.members
  else []

theorem Field.wholesOf_eq_nil {field : Field} (hfield : field.wholes = []) (name : String) :
    field.wholesOf name = [] := by
  simp only [wholes, List.append_eq_nil_iff] at hfield
  simp [wholesOf, hfield]

namespace Setting

variable {options : Options} {path : String} {field : Field} {setting : Setting}
  {settings : List Setting}

def declaration (setting : Setting) : Declaration :=
  ⟨setting.name, setting.wholes⟩

/-- Whether a setting can come from an attribute: no calculation and no condition is kept as
an attribute. -/
def IsProper : Setting → Prop
  | .attribute name _ => name ∉ ["calculate", "constraint", "relevant"]
  | _ => True

theorem isProper_of_ofNamed? {message : Option String} {name raw : String}
    (hsetting : ofNamed? options path message name raw = some setting) : setting.IsProper := by
  cases reads_of_ofNamed? hsetting with
  | other hname => exact hname
  | _ => trivial

theorem isProper_of_mem_madeBy {bind : Element} (hmem : setting ∈ madeBy options path bind) :
    setting.IsProper := by
  obtain ⟨attr, -, hsetting⟩ := List.mem_map.mp (some_mem_of_mem_beforeBreak hmem)
  exact isProper_of_ofNamed? (Xml.Tag.bind_attributeName?_eq_some_iff.mp hsetting).2

/-! ### One setting -/

/-- A setting changes what its field states under its own name, and nothing else. -/
theorem wholesOf_apply (hproper : setting.IsProper) (field : Field) (name : String) :
    (apply field setting).wholesOf name =
      if setting.name = name then setting.wholes else field.wholesOf name := by
  by_cases hname : setting.name = name
  · subst hname
    rw [if_pos rfl]
    cases setting with
    | «attribute» => simp_all [IsProper, Field.wholesOf, wholes, Setting.name]
    | _ => simp [Field.wholesOf, apply, wholes, Setting.name]
  · rw [if_neg hname]
    cases setting with
    | calculate | relevant | constraint =>
        simp_all [Field.wholesOf, apply, Setting.name, eq_comm]
    | _ => rfl

theorem unreadCount_wholes_eq (field : Field) :
    unreadCount field.wholes = unreadCount (field.wholesOf "calculate") +
      (unreadCount (field.wholesOf "relevant") + unreadCount (field.wholesOf "constraint")) := by
  simp [Field.wholes, Field.wholesOf]

/-- What a setting adds to a field is what it states, less what it takes the place of. -/
theorem unreadCount_wholes_apply (hproper : setting.IsProper) (field : Field) :
    unreadCount (apply field setting).wholes + unreadCount (field.wholesOf setting.name) =
      unreadCount field.wholes + unreadCount setting.wholes := by
  rw [unreadCount_wholes_eq, unreadCount_wholes_eq]
  simp only [wholesOf_apply hproper]
  cases setting with
  | calculate | relevant | constraint =>
      simp only [Setting.name, reduceIte, String.reduceEq]
      omega
  | «attribute» =>
      simp only [IsProper, List.mem_cons, not_or] at hproper
      simp [Setting.name, wholes, Field.wholesOf, hproper]
  | _ => simp [Setting.name, wholes, Field.wholesOf]

/-! ### Many settings -/

theorem nothingLost_concat :
    Declaration.NothingLost ((settings ++ [setting]).map declaration) ↔
      Declaration.NothingLost (settings.map declaration) ∧
        ∀ earlier ∈ settings, earlier.name = setting.name → unreadCount earlier.wholes = 0 := by
  simp [Declaration.NothingLost, List.pairwise_append, List.pairwise_map, declaration]

/-- As long as nothing unread gets lost, what a field states under a name is read exactly if
all settings of that name are. -/
theorem unreadCount_wholesOf_foldl_apply (hfield : field.wholes = [])
    (hproper : ∀ setting ∈ settings, setting.IsProper)
    (hkept : Declaration.NothingLost (settings.map declaration)) (name : String) :
    unreadCount ((settings.foldl apply field).wholesOf name) = 0 ↔
      ∀ setting ∈ settings, setting.name = name → unreadCount setting.wholes = 0 := by
  induction settings using List.reverseRecOn with
  | nil => simp [Field.wholesOf_eq_nil hfield]
  | append_singleton settings last ih =>
      simp only [List.mem_append, List.mem_singleton, or_imp, forall_and, forall_eq] at hproper ⊢
      obtain ⟨hbefore, hlast⟩ := nothingLost_concat.mp hkept
      rw [List.foldl_concat, wholesOf_apply hproper.2]
      by_cases hname : last.name = name
      · subst hname
        rw [if_pos rfl]
        constructor
        · exact fun hread => ⟨hlast, fun _ => hread⟩
        · exact fun hall => hall.2 rfl
      · rw [if_neg hname, ih hproper.1 hbefore]
        simp [hname]

/-- A field is left with at most as many unread expressions as were set, and with fewer
exactly if one of them got lost. -/
theorem unreadCount_wholes_foldl_apply (hfield : field.wholes = [])
    (hproper : ∀ setting ∈ settings, setting.IsProper) :
    unreadCount (settings.foldl apply field).wholes ≤ unreadCount (settings.flatMap wholes) ∧
      (unreadCount (settings.flatMap wholes) = unreadCount (settings.foldl apply field).wholes ↔
        Declaration.NothingLost (settings.map declaration)) := by
  induction settings using List.reverseRecOn with
  | nil => simp [hfield, Declaration.NothingLost]
  | append_singleton settings last ih =>
      simp only [List.mem_append, List.mem_singleton, or_imp, forall_and, forall_eq] at hproper
      obtain ⟨hbefore, hlast⟩ := hproper
      obtain ⟨hle, hiff⟩ := ih hbefore
      have hstep := unreadCount_wholes_apply hlast (settings.foldl apply field)
      rw [List.foldl_concat, nothingLost_concat, ← hiff, List.flatMap_append, unreadCount_append,
        List.flatMap_singleton]
      constructor
      · omega
      -- Nothing got lost before, and the last setting takes the place of nothing unread.
      constructor
      · intro heq
        have hsame : unreadCount (settings.flatMap wholes) =
            unreadCount (settings.foldl apply field).wholes := by omega
        have hreplaced := unreadCount_wholesOf_foldl_apply hfield hbefore (hiff.mp hsame) last.name
        exact ⟨hsame, hreplaced.mp (by omega)⟩
      · rintro ⟨hsame, hread⟩
        have hreplaced := unreadCount_wholesOf_foldl_apply hfield hbefore (hiff.mp hsame) last.name
        have := hreplaced.mpr hread
        omega

end Setting

/-! ### The binds of a field -/

/-- What the attributes of a bind declare at a path, apart from its path and its message. -/
def Declaration.ofBind (options : Options) (path : String) (bind : Element) : List Declaration :=
  (bind.tag.attributes.filter (!·.isBindFrame)).map fun attr =>
    ⟨bind.tag.attributeName attr,
      declaredWholes options path (bind.tag.attributeName attr) attr.value⟩

namespace Setting

variable {options : Options} {path : String} {bind : Element} {settings : List Setting}

theorem flatMap_wholes_map_declaration (settings : List Setting) :
    (settings.map declaration).flatMap Declaration.wholes = settings.flatMap wholes :=
  List.flatMap_map ..

theorem map_declaration_of_ofBind (hfound : ofBind options path bind = settings.map some) :
    settings.map declaration = Declaration.ofBind options path bind := by
  unfold ofBind at hfound
  unfold Declaration.ofBind
  generalize bind.tag.attributes.filter (!·.isBindFrame) = attributes at hfound ⊢
  induction attributes generalizing settings with
  | nil =>
      obtain rfl := List.map_eq_nil_iff.mp hfound.symm
      rfl
  | cons attr rest ih =>
      cases settings with
      | nil => simp at hfound
      | cons setting settings =>
          obtain ⟨hfirst, hrest⟩ := List.cons.inj hfound
          obtain ⟨-, hread⟩ := Xml.Tag.bind_attributeName?_eq_some_iff.mp hfirst
          rw [List.map_cons, List.map_cons, ih hrest, declaration, name_of_ofNamed? hread,
            wholes_of_ofNamed? hread]

/-- A bind that does not break off sets all that it declares. -/
theorem ofBind_eq_map_some (hreadable : bind.isUnreadable = false) :
    ofBind options path bind = (madeBy options path bind).map some := by
  rcases exists_eq_map_some (ofBind options path bind) with
    ⟨settings, hfound⟩ | ⟨settings, rest, hfound⟩
  · rw [madeBy, hfound, (beforeBreak_map_some settings []).2]
  · have hunreadable := isUnreadable_of_ofBind hfound
    rw [hreadable] at hunreadable
    contradiction

end Setting

theorem FieldMap.get?_of_mem {fields : FieldMap} {field : Field} (hpaths : fields.paths.Nodup)
    (hfield : field ∈ fields) : fields.get? field.path = some field := by
  have hcontains : fields.contains field.path = true :=
    contains_iff.mpr (List.mem_map_of_mem hfield)
  obtain ⟨found, hfound⟩ := Option.isSome_iff_exists.mp hcontains
  have hmem := List.mem_of_find?_eq_some hfound
  rw [hfound, List.inj_on_of_nodup_map hpaths hmem hfield (path_of_get? hfound)]

namespace Definitions

variable {options : Options} {definitions bound : Definitions} {basePath : String}
  {binds : List Element}

/-- What the binds that mean a path declare there, one after the other. -/
def declaredAt (options : Options) (definitions : Definitions) (binds : List Element)
    (path : String) : List Declaration :=
  (binds.filter fun bind => definitions.pathOf? bind = some path).flatMap
    (Declaration.ofBind options path)

/-- Where all binds come to their end, all attributes of those that mean a field can be read. -/
theorem isUnreadable_of_applyBinds (hbase : definitions.basePath = some basePath)
    (hbinds : definitions.applyBinds options binds = (bound, true)) {bind : Element}
    (hbind : bind ∈ binds) {path : String} (hmeant : definitions.pathOf? bind = some path)
    (hpath : path ∈ definitions.fields.paths) : bind.isUnreadable = false := by
  have hended := @snd_applyBinds options definitions basePath hbase binds
  rw [hbinds, eq_comm, Bool.not_eq_true', List.any_eq_false] at hended
  have hgoesOn := hended bind hbind
  obtain ⟨nodeset, hnodeset, rfl⟩ := Option.map_eq_some_iff.mp hmeant
  rw [resolveNodeset_of_basePath hbase] at hpath
  simpa [breaksOff, hnodeset, hpath] using hgoesOn

/-- The settings that the binds that mean a path make there, one after the other. -/
def settingsAt (options : Options) (definitions : Definitions) (binds : List Element)
    (path : String) : List Setting :=
  (binds.filter fun bind => definitions.pathOf? bind = some path).flatMap
    (Setting.madeBy options path)

theorem isProper_of_mem_settingsAt {path : String} {setting : Setting}
    (hmem : setting ∈ definitions.settingsAt options binds path) : setting.IsProper := by
  obtain ⟨bind, -, hmade⟩ := List.mem_flatMap.mp hmem
  exact Setting.isProper_of_mem_madeBy hmade

/-- Where all binds come to their end, what they declare at a field is set. -/
theorem map_declaration_settingsAt (hbase : definitions.basePath = some basePath)
    (hbinds : definitions.applyBinds options binds = (bound, true)) {path : String}
    (hpath : path ∈ definitions.fields.paths) :
    (definitions.settingsAt options binds path).map Setting.declaration =
      definitions.declaredAt options binds path := by
  rw [settingsAt, declaredAt, List.map_flatMap]
  apply List.flatMap_congr
  intro bind hbind
  obtain ⟨hmem, hmeant⟩ := List.mem_filter.mp hbind
  have hreadable := isUnreadable_of_applyBinds hbase hbinds hmem (by simpa using hmeant) hpath
  exact Setting.map_declaration_of_ofBind (Setting.ofBind_eq_map_some hreadable)

/-- A field is left as the settings at its path make it. -/
theorem exists_foldl_settingsAt (hbinds : definitions.applyBinds options binds = (bound, true))
    (hpaths : bound.fields.paths.Nodup) {field : Field} (hfield : field ∈ bound.fields) :
    ∃ initial, definitions.fields.get? field.path = some initial ∧
      (definitions.settingsAt options binds field.path).foldl Setting.apply initial = field := by
  have hmade := FieldMap.get?_of_mem hpaths hfield
  rw [show bound = definitions.applyEach options binds from applyBinds_eq_foldl hbinds,
    get?_applyEach] at hmade
  obtain ⟨initial, hinitial, hfinal⟩ := Option.map_eq_some_iff.mp hmade
  rw [fieldAfterEach, ← List.foldl_flatMap, ← settingsAt] at hfinal
  exact ⟨initial, hinitial, hfinal⟩

/-- A field that stated nothing is left with at most as many unread expressions as binds
declare there, and with fewer exactly if one of them got lost. -/
theorem unreadCount_wholes_of_applyBinds (hbase : definitions.basePath = some basePath)
    (hbinds : definitions.applyBinds options binds = (bound, true))
    (hpaths : bound.fields.paths.Nodup)
    (hnone : ∀ field ∈ definitions.fields, field.wholes = []) {field : Field}
    (hfield : field ∈ bound.fields) :
    let declared := definitions.declaredAt options binds field.path
    unreadCount field.wholes ≤ unreadCount (declared.flatMap Declaration.wholes) ∧
      (unreadCount (declared.flatMap Declaration.wholes) = unreadCount field.wholes ↔
        Declaration.NothingLost declared) := by
  obtain ⟨initial, hinitial, hfinal⟩ := exists_foldl_settingsAt hbinds hpaths hfield
  have hpath : field.path ∈ definitions.fields.paths := by
    rw [← FieldMap.contains_iff, FieldMap.contains, hinitial]
    rfl
  have hproper : ∀ setting ∈ definitions.settingsAt options binds field.path, setting.IsProper :=
    fun _ => isProper_of_mem_settingsAt
  have hstart := hnone initial (List.mem_of_find?_eq_some hinitial)
  have hcounts := Setting.unreadCount_wholes_foldl_apply hstart hproper
  rwa [hfinal, ← Setting.flatMap_wholes_map_declaration,
    map_declaration_settingsAt hbase hbinds hpath] at hcounts

end Definitions

end SurveyForm
