import SurveyForm.Proofs.Expr.RoundTrip
import SurveyForm.Proofs.Expr.Slices
import SurveyForm.Proofs.Path.Siblings
/-!
The operands of conditions.  Wherever in a text a reference stands as the operand of a match or
of a comparison, its node gets the path that the reference means.
-/

namespace SurveyForm

namespace Xml

variable {path name : String}

/-- A name after a step up is a word of its own. -/
theorem IsPlainName.wrapperText_up (hname : IsPlainName name) :
    Expr.WrapperText ("../" ++ name) := by
  have hplain : IsPlainPath ("../" ++ name) := IsPlainPath.append (by decide) hname.isPlainPath
  have hword : Expr.WordText ("../" ++ name) :=
    ⟨⟨by simp, fun c hc => hplain.isWordChar_of_mem hc⟩, hplain.ampersand_not_mem⟩
  have hhead : ("../" ++ name).toList.head? = some '.' := by simp
  exact hword.wrapperText hhead (by decide)

theorem IsPlainPath.pathText (hpath : IsPlainPath path) (habsolute : Path.IsAbsolute path) :
    Expr.PathText path := by
  refine ⟨⟨⟨?_, fun c hc => hpath.isWordChar_of_mem hc⟩, hpath.ampersand_not_mem⟩, habsolute⟩
  obtain ⟨rest, hrest⟩ := Path.isAbsolute_iff.mp habsolute
  rw [hrest]
  exact List.cons_ne_nil '/' rest

end Xml

namespace Expr

variable {path reference : String} {node : Expr} {slices : List (List Char)}

/-- Whether a node that stands for the given slices has an operand that is written as the
given reference. -/
inductive HasOperand (reference : String) : Expr → List (List Char) → Prop
  | matching (op : MatchOp) (path value : String) :
      HasOperand reference (.matching op path value) [reference.toList, value.toList]
  | comparison (op path value : String) (wrapper : Option String) :
      HasOperand reference (.comparison op path value wrapper)
        (wrapper.toList.map String.toList ++ [reference.toList, op.toList, value.toList])

/-- The path of a node is what its operand means. -/
theorem ownPath?_of_hasOperand (hslices : NodeSlices path node slices)
    (hoperand : HasOperand reference node slices) :
    node.ownPath? = some (Path.resolve reference path) := by
  cases hslices with
  | matching op other value =>
      generalize hparts : [other.toList, value.toList] = parts at hoperand
      cases hoperand
      obtain rfl := String.toList_inj.mp (List.cons.inj hparts).1
      rfl
  | comparison op other value wrapper =>
      generalize hparts : wrapper.toList.map String.toList ++
        [other.toList, op.toList, value.toList] = parts at hoperand
      cases hoperand
      have hlast := List.append_cancel_left hparts
      obtain rfl := String.toList_inj.mp (List.cons.inj hlast).1
      rfl
  | call | conditional | group | unparsed => contradiction

/-- Whether the nodes of a condition stand for slices of a text one after another, and it holds
of all nodes whose operand is written as one of the given references. -/
def Refers (path : String) (references : List String) (holds : Expr → Prop) (expr : Expr)
    (text : List Char) : Prop :=
  ∃ parts, List.Forall₂ (fun node slices => NodeSlices path node slices ∧
      ∀ reference ∈ references, HasOperand reference node slices → holds node) expr.walk parts ∧
    Token.Laid [] parts.flatten text []

/-- It holds of these nodes if it holds of every node with the path that a reference means. -/
theorem Sliced.refers {references : List String} {holds : Expr → Prop} {expr : Expr}
    {text : List Char} (hsliced : Sliced path expr text)
    (hmeant : ∀ reference ∈ references, ∀ node : Expr,
      node.ownPath? = some (Path.resolve reference path) → holds node) :
    Refers path references holds expr text := by
  obtain ⟨parts, hparts, hlaid⟩ := hsliced
  refine ⟨parts, hparts.imp fun node slices hslices => ⟨hslices, ?_⟩, hlaid⟩
  intro reference hreference hoperand
  exact hmeant reference hreference node (ownPath?_of_hasOperand hslices hoperand)

/-- What is read, alone or as a group, is read from slices of a plain text. -/
theorem exists_sliced_of_read {raw : String} {depth : Int} {expr : Expr}
    (hread : parse? raw path depth = some expr ∨ parseGroup? raw path depth = some expr) :
    ∃ text, plainText? raw = some text ∧ Sliced path expr text := by
  rcases hread with halone | hgroup
  · obtain ⟨text, htext, rfl⟩ := Option.map_eq_some_iff.mp halone
    exact ⟨text, htext, (traced_read path _ text).sliced⟩
  · obtain ⟨text, htext, rfl⟩ := Option.map_eq_some_iff.mp hgroup
    exact ⟨text, htext, (traced_group (traced_read path _) text).sliced⟩

/-- What tests one operand against a value in the documented syntax, for any operand. -/
inductive Tests : (String → Expr) → Prop
  | matching {op : MatchOp} {value : String} (hvalue : ValueText value) :
      Tests fun operand => .matching op operand value
  | comparison {op value : String} {wrapper : Option String} (hop : OperatorText op)
      (hvalue : ValueText value) (hwrapper : ∀ name ∈ wrapper, WrapperText name) :
      Tests fun operand => .comparison op operand value wrapper

namespace Tests

variable {test : String → Expr} {levels : Nat}

theorem sentence (htest : Tests test) (hreference : WrapperText reference) :
    Sentence (written (test reference)) := by
  cases htest with
  | matching hvalue => exact sentence_matching hreference hvalue
  | comparison hop hvalue hwrapper => exact sentence_comparison hop hreference hvalue hwrapper

/-- A test is read at a path with the operand that its reference means there. -/
theorem read_eq (htest : Tests test) (hreference : WrapperText reference) :
    read path (levels + 1) (written (test reference)) = test (Path.resolve reference path) ∧
      read path (levels + 1) (stripQuotes (written (test reference))) =
        test (Path.resolve reference path) := by
  cases htest with
  | matching hvalue =>
      exact ⟨read_matching hreference hvalue, read_stripQuotes_matching hreference hvalue⟩
  | comparison hop hvalue hwrapper =>
      exact ⟨read_written_comparison hop hreference hvalue hwrapper,
        read_stripQuotes_comparison hop hreference hvalue hwrapper⟩

theorem groupOf_eq (htest : Tests test) (hreference : WrapperText reference) :
    groupOf (read path (levels + 1)) (written (test reference)) =
      .group [.one (test (Path.resolve reference path))] := by
  have hsentence := htest.sentence hreference
  have hjoined : joined [[written (test reference)]] = written (test reference) :=
    (joined_singleton _).trans (conjoined_singleton _)
  have hmember : Member (written (test reference)) :=
    ⟨hsentence.toPhrase, hsentence.hides isSeparator_of_and, hsentence.hides isSeparator_of_or⟩
  have hgroup := @groupOf_joined (read path (levels + 1)) [[written (test reference)]]
    (by simp) (by simp) (by simpa using hmember)
    (by simpa [hjoined] using unwrap_ofText hsentence.toLegible)
  rw [hjoined] at hgroup
  rw [hgroup, List.map_singleton, List.map_singleton, termOf, (htest.read_eq hreference).2]

/-- Alone and as a group, whatever depth is allowed. -/
theorem parse_eq (htest : Tests test) (hreference : WrapperText reference) (depth : Nat) :
    parse? (String.ofList (written (test reference))) path depth =
        some (test (Path.resolve reference path)) ∧
      parseGroup? (String.ofList (written (test reference))) path depth =
        some (.group [.one (test (Path.resolve reference path))]) := by
  have hsentence := htest.sentence hreference
  have htext := plainText?_ofList hsentence.plain hsentence.trimmed
  have hlevels : levelsOf depth = depth + 1 := by
    unfold levelsOf
    omega
  constructor
  · rw [parse?, htext, Option.map_some, hlevels, (htest.read_eq hreference).1]
  · rw [parseGroup?, htext, Option.map_some, hlevels, htest.groupOf_eq hreference]

end Tests

end Expr

end SurveyForm
