import SurveyForm.Proofs.Bind.Logic
import SurveyForm.Proofs.Expr.Slices
import SurveyForm.Proofs.Occurrences
import SurveyForm.Proofs.Path.Absolute
/-!
The paths in the logic of fields.  A condition is read at the path of its field and resolves
every reference there, so that fields at absolute paths only ever refer to absolute ones.
-/

namespace SurveyForm

open Xml (Element)

namespace Expr

variable {path : String} {expr : Expr}

/-- Whether all paths that a condition refers to are absolute. -/
def RefersAbsolutely (expr : Expr) : Prop :=
  ∀ reference ∈ expr.referencedPaths, Path.IsAbsolute reference

/-- A path of a node is a slice of the text that was resolved. -/
theorem NodeSlices.exists_ownPath?_eq {node : Expr} {slices : List (List Char)}
    (hnode : NodeSlices path node slices) (reference : String)
    (hown : node.ownPath? = some reference) : ∃ raw, reference = Path.resolve raw path := by
  cases hnode with
  | matching op raw => exact ⟨raw, (Option.some.inj hown).symm⟩
  | comparison op raw => exact ⟨raw, (Option.some.inj hown).symm⟩
  | _ => contradiction

/-- Whatever is read at an absolute path refers to absolute paths. -/
theorem Traced.refersAbsolutely {text : List Char} (htraced : Traced path expr.walk text)
    (hpath : Path.IsAbsolute path) : expr.RefersAbsolutely := by
  intro reference hreference
  obtain ⟨parts, hparts, -⟩ := htraced
  rw [ExprOver.referencedPaths, mem_firstOccurrences_iff, List.mem_filterMap] at hreference
  obtain ⟨node, hnode, hown⟩ := hreference
  have hresolved := ((List.forall₂_and_left expr.walk parts).mp
    (hparts.imp fun _ _ hslices => ⟨hslices.exists_ownPath?_eq, hslices⟩)).1
  obtain ⟨raw, rfl⟩ := hresolved node hnode reference hown
  exact hpath.resolve raw

theorem refersAbsolutely_of_parse? {raw : String} {limit : Int} (hpath : Path.IsAbsolute path)
    (hparse : parse? raw path limit = some expr) : expr.RefersAbsolutely := by
  obtain ⟨text, -, rfl⟩ := Option.map_eq_some_iff.mp hparse
  exact (traced_read path _ text).refersAbsolutely hpath

theorem refersAbsolutely_of_parseGroup? {raw : String} {limit : Int}
    (hpath : Path.IsAbsolute path) (hparse : parseGroup? raw path limit = some expr) :
    expr.RefersAbsolutely := by
  obtain ⟨text, -, rfl⟩ := Option.map_eq_some_iff.mp hparse
  exact (traced_group (traced_read path _) text).refersAbsolutely hpath

end Expr

theorem Expr.IsReadAt.refersAbsolutely {options : Options} {path : String} {expr : Expr}
    (hread : expr.IsReadAt options path) (hpath : Path.IsAbsolute path) :
    expr.RefersAbsolutely := by
  obtain ⟨raw, hsingle | hgroup⟩ := hread
  · exact refersAbsolutely_of_parse? hpath hsingle
  · exact refersAbsolutely_of_parseGroup? hpath hgroup

/-- Whether a field lies at an absolute path and its logic refers to such paths. -/
structure Field.RefersAbsolutely (field : Field) : Prop where
  path : Path.IsAbsolute field.path
  logic : ∀ expr ∈ field.logic, expr.RefersAbsolutely

namespace Definitions

variable {options : Options} {bound : Definitions}

/-- Whether all fields lie at absolute paths and refer to such paths. -/
def RefersAbsolutely (definitions : Definitions) : Prop :=
  ∀ field ∈ definitions.fields, field.RefersAbsolutely

/-- The walk over an instance makes fields at absolute paths. -/
theorem isAbsolute_of_mem_paths_ofInstance {data : Element} {path : String}
    (hpath : path ∈ (ofInstance data).fields.paths) : Path.IsAbsolute path := by
  rw [ofInstance, InstanceVisit.paths_foldl_record, mem_firstOccurrences_iff] at hpath
  obtain ⟨place, hplace, rfl⟩ := List.mem_map.mp hpath
  by_cases hroot : place.path = "/" ++ data.name
  · exact hroot ▸ Path.isAbsolute_slash_append data.name
  · obtain ⟨rest, hrest⟩ := Xml.Place.exists_path_within_eq hplace hroot
    rw [hrest]
    exact ((Path.isAbsolute_slash_append data.name).append "/").append rest

/-- Binds leave the paths as they are, and what they state is read there. -/
theorem refersAbsolutely_of_applyBinds {data : Element} {binds : List Element}
    (hbinds : (ofInstance data).applyBinds options binds = (bound, true)) :
    bound.RefersAbsolutely := by
  have houtline : bound.fields.outline = (ofInstance data).fields.outline := by
    rw [applyBinds_eq_foldl hbinds, (outline_foldl_applyBind ..).1]
  intro field hfield
  have hpath : Path.IsAbsolute field.path := by
    apply isAbsolute_of_mem_paths_ofInstance
    rw [← FieldMap.paths_eq_of_outline_eq houtline]
    exact List.mem_map_of_mem hfield
  refine ⟨hpath, fun expr hexpr => ?_⟩
  exact (statesRead_of_applyBinds hbinds field hfield expr hexpr).refersAbsolutely hpath

end Definitions

end SurveyForm
