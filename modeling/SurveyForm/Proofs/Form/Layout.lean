import SurveyForm.Proofs.Bind.Steps
import SurveyForm.Proofs.Form.Loading
import SurveyForm.Proofs.Xml.Names
/-!
How the fields of a form are laid out.  They follow the first instance of its model, and
neither the binds nor the body change anything about that.
-/

namespace SurveyForm

open Xml (Element Node)

/-- A reader of heads keeps the paths and the containers, whichever binds are applied. -/
theorem HeadReader.outline_foldl_applyBind (reader : HeadReader) (binds : List Element) :
    (binds.foldl (fun reader bind => (reader.applyBind bind).1) reader).definitions.fields.outline =
      reader.definitions.fields.outline := by
  induction binds generalizing reader with
  | nil => rfl
  | cons bind rest ih =>
      rw [List.foldl_cons, ih]
      exact (Definitions.outline_applyBind reader.options reader.definitions bind).1

theorem Definitions.nodup_paths_ofInstance (data : Element) :
    (ofInstance data).fields.paths.Nodup := by
  rw [ofInstance, InstanceVisit.paths_foldl_record]
  exact nodup_firstOccurrences _

namespace Form

variable {options : Options} {root : Element} {form : Form}

/-- The names in the instance are among those in the document. -/
theorem Source.hasNames_data (source : Source options root) (hnames : root.HasNames) :
    source.data.HasNames := by
  obtain ⟨hmodel, holder, hholder, hdata⟩ :=
    Definitions.mem_of_instanceRoot? source.instance_eq
  have hhead := hnames.child (Frame.mem_of_ofRoot source.frame_eq).1
  exact ((hhead.child hmodel).child hholder).child hdata

/-- The binds of a form keep the outline that its instance gives to the fields. -/
theorem Source.outline_fields (source : Source options root) :
    source.form.fields.outline = (Definitions.ofInstance source.data).fields.outline := by
  rw [form, Definitions.applyBinds_eq_foldl source.binds_eq]
  exact (Definitions.outline_foldl_applyBind options _ _).1

theorem Source.nodup_paths (source : Source options root) : source.form.fields.paths.Nodup := by
  rw [FieldMap.paths_eq_of_outline_eq source.outline_fields]
  exact Definitions.nodup_paths_ofInstance source.data

/-- No two fields of a form that loads have one path. -/
theorem nodup_paths_of_ofTree (hload : Form.ofTree options root = .ok form) :
    form.fields.paths.Nodup := by
  obtain ⟨source, rfl⟩ := exists_source_of_ofTree hload
  exact source.nodup_paths

theorem Source.follows (source : Source options root) (hnames : root.HasNames) :
    source.form.fields.Follows source.data :=
  FieldMap.follows_of_outline_eq (source.hasNames_data hnames) source.outline_fields

theorem hasNames_of_rootOf {bytes : ByteArray} (hroot : Frame.rootOf bytes = .ok root) :
    root.HasNames := by
  unfold Frame.rootOf at hroot
  split at hroot
  · contradiction
  · next document hread =>
      split at hroot
      · contradiction
      · split at hroot
        · contradiction
        · obtain rfl := Except.ok.inj hroot
          exact Xml.Document.hasNames_of_read? hread

/-- The fields of a form that loads from a document follow its instance, whatever the names
in the document are. -/
theorem follows_of_ofBytes {bytes : ByteArray} (hload : Form.ofBytes options bytes = .ok form) :
    ∃ root, Frame.rootOf bytes = .ok root ∧
      ∃ source : Source options root, form = source.form ∧ form.fields.Follows source.data := by
  cases hroot : Frame.rootOf bytes with
  | error cause =>
      rw [ofBytes, hroot] at hload
      contradiction
  | ok root =>
      rw [ofBytes, hroot] at hload
      obtain ⟨source, rfl⟩ := exists_source_of_ofTree hload
      exact ⟨root, rfl, source, rfl, source.follows (hasNames_of_rootOf hroot)⟩

/-- The fields of a form that loads follow the first instance of its model.  They have the
outline that the walk over the instance gave to them, so that binds and body change
nothing about it, and no binds that a reader is told to apply ever do. -/
theorem follows_instance_of_ofTree (hnames : root.HasNames)
    (hload : Form.ofTree options root = .ok form) :
    (∃ frame model data, Frame.ofRoot root = .ok frame ∧
        Definitions.instanceRoot? frame.head = .ok (model, data) ∧
        form.basePath = "/" ++ data.name ∧ form.fields.Follows data ∧
        form.fields.outline = (Definitions.ofInstance data).fields.outline) ∧
      ∀ (reader : HeadReader) (binds : List Element),
        (binds.foldl (fun reader bind => (reader.applyBind bind).1)
            reader).definitions.fields.outline =
          reader.definitions.fields.outline := by
  refine ⟨?_, HeadReader.outline_foldl_applyBind⟩
  obtain ⟨source, rfl⟩ := exists_source_of_ofTree hload
  exact ⟨source.frame, source.model, source.data, source.frame_eq, source.instance_eq, rfl,
    source.follows hnames, source.outline_fields⟩

/-- A form with an instance in which a leaf and two containers are named alike, and with a
bind for such a field, for a container and for no field. -/
def mixedSiblings : Element :=
  let leaf (name text : String) := Node.ofParts name [] [.text text]
  let data := Node.ofParts "data" []
    [leaf "a" "1", Node.ofParts "a" [] [leaf "b" "2", .comment], leaf "c" "3",
      Node.ofParts "a" [] [leaf "d" "4", leaf "b" "5"]]
  documentOf [.text "Mixed"]
    [Node.ofParts "instance" [] [data],
      Node.ofParts "bind" [("nodeset", "/data/a"), ("type", "int")] [],
      Node.ofParts "bind" [("nodeset", "/data"), ("relevant", "../x = 1 and")] [],
      Node.ofParts "bind" [("nodeset", "/data/x"), ("type", "int")] []]
    []

theorem follows_instance_of_ofTree_mixedSiblings :
    ∃ form, Form.ofTree {} mixedSiblings = .ok form ∧ mixedSiblings.HasNames ∧
      form.fields.outline =
        [("/data", true), ("/data/a", true), ("/data/a/b", false), ("/data/c", false),
          ("/data/a/d", false)] ∧
      ∃ data, form.fields.Follows data := by
  have houtline : (Form.ofTree {} mixedSiblings).map (·.fields.outline) =
      .ok [("/data", true), ("/data/a", true), ("/data/a/b", false), ("/data/c", false),
        ("/data/a/d", false)] := by
    decide +kernel
  have hnames : mixedSiblings.HasNames := by decide
  cases hload : Form.ofTree {} mixedSiblings with
  | error cause =>
      rw [hload] at houtline
      contradiction
  | ok form =>
      rw [hload] at houtline
      obtain ⟨⟨-, -, data, -, -, -, hfollows, -⟩, -⟩ := follows_instance_of_ofTree hnames hload
      exact ⟨form, rfl, hnames, Except.ok.inj houtline, data, hfollows⟩

end Form

end SurveyForm
