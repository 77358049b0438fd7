import Mathlib.Data.List.Pairwise
import SurveyForm.Proofs.Occurrences
import SurveyForm.Report.Basic
/-!
The warnings of a report.  Each occasion to warn has its turn, and a message that has been
given is not given again, so that a report warns of everything once and is silent only if
there is nothing to warn of.
-/

namespace SurveyForm.Report

/-- The occasions to warn, each with its message and its turn: paths that are no fields,
questions without a field, logic that is too deep, and whatever has been found, one finding
after the other. -/
inductive Occasion (unknown unbound : List String) (depthLimit : Option Int) (depth : Nat)
    (found : List String) : String → Nat → Prop
  | unknown (hunknown : unknown ≠ []) :
      Occasion unknown unbound depthLimit depth found
        ("Logic refers to unknown fields: " ++ ", ".intercalate unknown) 0
  | unbound (hunbound : unbound ≠ []) :
      Occasion unknown unbound depthLimit depth found
        ("Controls without a field: " ++ ", ".intercalate unbound) 1
  | depth {limit : Int} (hlimit : depthLimit = some limit) (hdepth : limit < depth) :
      Occasion unknown unbound depthLimit depth found
        ("High expression complexity: max depth " ++ toString depth) 2
  | found {text : String} {place : Nat} (hfound : found[place]? = some text) :
      Occasion unknown unbound depthLimit depth found text (place + 3)

/-- What a list of warnings has to be like: it holds the message of every occasion and no
other, each once, and in the order of their first turns. -/
structure WarnsInTurn (unknown unbound : List String) (depthLimit : Option Int) (depth : Nat)
    (found warnings : List String) : Prop where
  nodup : warnings.Nodup
  mem_iff : ∀ text, text ∈ warnings ↔
    ∃ turn, Occasion unknown unbound depthLimit depth found text turn
  ordered : warnings.Pairwise fun first second =>
    ∃ turn, Occasion unknown unbound depthLimit depth found first turn ∧
      ∀ later, Occasion unknown unbound depthLimit depth found second later → turn < later
  found_subset : found ⊆ warnings
  eq_nil_iff : warnings = [] ↔
    unknown = [] ∧ unbound = [] ∧ found = [] ∧
      ∀ limit, depthLimit = some limit → (depth : Int) ≤ limit

variable {unknown unbound found : List String} {depthLimit : Option Int} {depth : Nat}

/-- The warnings about sets of paths, a depth and what has been found. -/
def warningsAbout (unknown unbound : List String) (depthLimit : Option Int) (depth : Nat)
    (found : List String) : List String :=
  firstOccurrences
    (listWarning "Logic refers to unknown fields: " unknown ++
      listWarning "Controls without a field: " unbound ++ depthWarning depthLimit depth ++ found)

theorem mem_listWarning_iff {start text : String} {texts : List String} :
    text ∈ listWarning start texts ↔ texts ≠ [] ∧ text = start ++ ", ".intercalate texts := by
  cases texts <;> simp [listWarning]

theorem mem_depthWarning_iff {text : String} :
    text ∈ depthWarning depthLimit depth ↔
      ∃ limit, depthLimit = some limit ∧ limit < depth ∧
        text = "High expression complexity: max depth " ++ toString depth := by
  cases depthLimit with
  | none => simp [depthWarning]
  | some limit => simp [depthWarning]

theorem listWarning_eq_nil_iff {start : String} {texts : List String} :
    listWarning start texts = [] ↔ texts = [] := by
  cases texts <;> simp [listWarning]

theorem depthWarning_eq_nil_iff :
    depthWarning depthLimit depth = [] ↔
      ∀ limit, depthLimit = some limit → (depth : Int) ≤ limit := by
  cases depthLimit with
  | none => simp [depthWarning]
  | some limit => simp [depthWarning]

theorem length_listWarning_le (start : String) (texts : List String) :
    (listWarning start texts).length ≤ 1 := by
  unfold listWarning
  split <;> simp

theorem length_depthWarning_le (depthLimit : Option Int) (depth : Nat) :
    (depthWarning depthLimit depth).length ≤ 1 := by
  unfold depthWarning
  split
  · split <;> simp
  · simp

/-- All messages with their turns. -/
def turns (unknown unbound : List String) (depthLimit : Option Int) (depth : Nat)
    (found : List String) : List (String × Nat) :=
  (listWarning "Logic refers to unknown fields: " unknown).map (·, 0) ++
    (listWarning "Controls without a field: " unbound).map (·, 1) ++
    (depthWarning depthLimit depth).map (·, 2) ++ found.zipIdx 3

theorem warningsAbout_eq :
    warningsAbout unknown unbound depthLimit depth found =
      firstOccurrences ((turns unknown unbound depthLimit depth found).map Prod.fst) := by
  simp [warningsAbout, turns, List.map_append, List.map_map, Function.comp_def]

theorem mem_turns_iff {text : String} {turn : Nat} :
    (text, turn) ∈ turns unknown unbound depthLimit depth found ↔
      Occasion unknown unbound depthLimit depth found text turn := by
  simp only [turns, List.mem_append, List.mem_map, mem_listWarning_iff, mem_depthWarning_iff,
    List.mk_mem_zipIdx_iff_le_and_getElem?_sub]
  constructor
  · rintro (((⟨_, ⟨hunknown, rfl⟩, heq⟩ | ⟨_, ⟨hunbound, rfl⟩, heq⟩) |
      ⟨_, ⟨limit, hlimit, hdepth, rfl⟩, heq⟩) | ⟨hturn, hfound⟩)
    · obtain ⟨rfl, rfl⟩ := Prod.mk.inj heq
      exact .unknown hunknown
    · obtain ⟨rfl, rfl⟩ := Prod.mk.inj heq
      exact .unbound hunbound
    · obtain ⟨rfl, rfl⟩ := Prod.mk.inj heq
      exact .depth hlimit hdepth
    · obtain ⟨place, rfl⟩ := Nat.exists_eq_add_of_le' hturn
      rw [Nat.add_sub_cancel] at hfound
      exact .found hfound
  · intro hoccasion
    cases hoccasion with
    | unknown hunknown => exact .inl (.inl (.inl ⟨_, ⟨hunknown, rfl⟩, rfl⟩))
    | unbound hunbound => exact .inl (.inl (.inr ⟨_, ⟨hunbound, rfl⟩, rfl⟩))
    | depth hlimit hdepth => exact .inl (.inr ⟨_, ⟨_, hlimit, hdepth, rfl⟩, rfl⟩)
    | found hfound => exact .inr ⟨Nat.le_add_left 3 _, by rwa [Nat.add_sub_cancel]⟩

/-- Whether the turns of messages rise, and none comes before a given one. -/
structure RiseFrom (first : Nat) (messages : List (String × Nat)) : Prop where
  le : ∀ message ∈ messages, first ≤ message.2
  pairwise : messages.Pairwise fun earlier later => earlier.2 < later.2

/-- There is one message at most ahead of those with later turns. -/
theorem RiseFrom.append {later : List (String × Nat)} {turn : Nat}
    (hlater : RiseFrom (turn + 1) later) {texts : List String} (hlength : texts.length ≤ 1) :
    RiseFrom turn (texts.map (·, turn) ++ later) := by
  have hle : ∀ message ∈ later, turn < message.2 := hlater.le
  match texts, hlength with
  | [], _ => exact ⟨fun message hmessage => Nat.le_of_lt (hle message hmessage), hlater.pairwise⟩
  | [text], _ =>
      refine ⟨fun message hmessage => ?_, List.pairwise_cons.mpr ⟨hle, hlater.pairwise⟩⟩
      rcases List.mem_cons.mp hmessage with rfl | hmessage
      · exact Nat.le_refl turn
      · exact Nat.le_of_lt (hle message hmessage)

theorem riseFrom_zipIdx (first : Nat) (texts : List String) :
    RiseFrom first (texts.zipIdx first) := by
  constructor
  · intro message hmessage
    exact (List.mem_zipIdx_iff_le_and_getElem?_sub.mp hmessage).1
  · rw [← List.pairwise_map (f := Prod.snd), List.zipIdx_map_snd]
    exact List.pairwise_lt_range' 1

theorem riseFrom_turns : RiseFrom 0 (turns unknown unbound depthLimit depth found) := by
  rw [turns, List.append_assoc, List.append_assoc]
  have hfound := riseFrom_zipIdx 3 found
  have hdepth := hfound.append (length_depthWarning_le depthLimit depth)
  have hunbound := hdepth.append (length_listWarning_le "Controls without a field: " unbound)
  exact hunbound.append (length_listWarning_le "Logic refers to unknown fields: " unknown)

theorem warningsAbout_eq_nil_iff :
    warningsAbout unknown unbound depthLimit depth found = [] ↔
      unknown = [] ∧ unbound = [] ∧ found = [] ∧
        ∀ limit, depthLimit = some limit → (depth : Int) ≤ limit := by
  rw [warningsAbout, firstOccurrences_eq_nil_iff, List.append_eq_nil_iff, List.append_eq_nil_iff,
    List.append_eq_nil_iff, listWarning_eq_nil_iff, listWarning_eq_nil_iff,
    depthWarning_eq_nil_iff]
  constructor
  · rintro ⟨⟨⟨hunknown, hunbound⟩, hdepth⟩, hfound⟩
    exact ⟨hunknown, hunbound, hfound, hdepth⟩
  · rintro ⟨hunknown, hunbound, hfound, hdepth⟩
    exact ⟨⟨⟨hunknown, hunbound⟩, hdepth⟩, hfound⟩

/-- The warnings come in turn, whatever they are about. -/
theorem warnsInTurn_warningsAbout (unknown unbound : List String) (depthLimit : Option Int)
    (depth : Nat) (found : List String) :
    WarnsInTurn unknown unbound depthLimit depth found
      (warningsAbout unknown unbound depthLimit depth found) := by
  have hordered := pairwise_turn_firstOccurrences
    (@riseFrom_turns unknown unbound found depthLimit depth).pairwise
  simp only [← warningsAbout_eq, mem_turns_iff] at hordered
  constructor
  case nodup => exact nodup_firstOccurrences _
  case mem_iff =>
    intro text
    rw [warningsAbout_eq, mem_firstOccurrences_iff, List.mem_map]
    constructor
    · rintro ⟨⟨_, turn⟩, hturn, rfl⟩
      exact ⟨turn, mem_turns_iff.mp hturn⟩
    · rintro ⟨turn, hoccasion⟩
      exact ⟨(text, turn), mem_turns_iff.mpr hoccasion, rfl⟩
  case ordered => exact hordered
  case found_subset =>
    intro text htext
    rw [warningsAbout, mem_firstOccurrences_iff]
    exact List.mem_append_right _ htext
  case eq_nil_iff => exact warningsAbout_eq_nil_iff

/-- A report on a form warns in turn of the paths that are mentioned in its logic and are no
fields, of the questions without a field, of the depth of its logic, and of what was found
while it was loaded.  Its warnings are those about these four, and warnings about others come
in turn as well, whatever their messages. -/
theorem warnsInTurn_ofForm (form : Form) (depthLimit : Option Int) :
    let report := ofForm form depthLimit
    let found := form.diagnostics.map Diagnostic.message
    WarnsInTurn report.logic.undefinedReferences report.unboundQuestions depthLimit
        report.logic.maxDepth found report.warnings ∧
      report.warnings = warningsAbout report.logic.undefinedReferences report.unboundQuestions
        depthLimit report.logic.maxDepth found ∧
      ∀ unknown unbound depth found, WarnsInTurn unknown unbound depthLimit depth found
        (warningsAbout unknown unbound depthLimit depth found) := by
  intro report found
  have hwarnings : report.warnings = warningsAbout report.logic.undefinedReferences
      report.unboundQuestions depthLimit report.logic.maxDepth found := rfl
  refine ⟨?_, hwarnings, fun unknown unbound depth found => warnsInTurn_warningsAbout ..⟩
  rw [hwarnings]
  exact warnsInTurn_warningsAbout ..

/-- A message that is found twice, and one that was given before anything was found. -/
example :
    warningsAbout [] ["/data/x", "<no ref>"] (some 5) 3
        ["A", "Controls without a field: /data/x, <no ref>", "A", "B"] =
      ["Controls without a field: /data/x, <no ref>", "A", "B"] := by
  decide

end SurveyForm.Report
