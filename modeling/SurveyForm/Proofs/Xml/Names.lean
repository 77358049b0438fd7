import Mathlib.Data.List.TakeWhile
import SurveyForm.Proofs.Instance.Paths
import SurveyForm.Xml.Document
/-!
The names in documents.  Every name that is read is a run of name characters, which no slash
is among, and so the names in the tree of a document can stand in paths.
-/

namespace SurveyForm.Xml

open SurveyForm.Path (IsName)

/-- Whatever a step gives has a property. -/
def Gives {σ α : Type} (step : StateT σ Option α) (good : α → Prop) : Prop :=
  ∀ before found after, step before = some (found, after) → good found

section Steps

variable {σ α β : Type} {good : α → Prop} {fine : β → Prop}

theorem gives_pure {found : α} (hfound : good found) :
    Gives (pure found : StateT σ Option α) good := by
  intro before other after heq
  obtain ⟨rfl, -⟩ := Prod.mk.inj (Option.some.inj heq)
  exact hfound

theorem gives_refuse : Gives (fun _ => none : StateT σ Option α) good := by
  intro before found after heq
  contradiction

theorem Gives.bind {step : StateT σ Option α} {next : α → StateT σ Option β}
    (hstep : Gives step good) (hnext : ∀ found, good found → Gives (next found) fine) :
    Gives (step >>= next) fine := by
  intro before found after heq
  obtain ⟨⟨first, middle⟩, hfirst, hrest⟩ := Option.bind_eq_some_iff.mp heq
  exact hnext first (hstep before first middle hfirst) middle found after hrest

theorem gives_refuse_bind {next : α → StateT σ Option β} :
    Gives ((fun _ => none : StateT σ Option α) >>= next) fine := by
  intro before found after heq
  contradiction

/-- Nothing has to be known of a step that only goes ahead of another one. -/
theorem gives_after {step : StateT σ Option α} {next : α → StateT σ Option β}
    (hnext : ∀ found, Gives (next found) fine) : Gives (step >>= next) fine := by
  intro before found after heq
  obtain ⟨⟨first, middle⟩, -, hrest⟩ := Option.bind_eq_some_iff.mp heq
  exact hnext first middle found after hrest

theorem Gives.lift {scan : Scan α} (hscan : Gives scan good) :
    Gives (liftM scan : Reader α) good := by
  intro before found after heq
  obtain ⟨⟨first, rest⟩, hfirst, hrest⟩ := Option.map_eq_some_iff.mp heq
  obtain ⟨rfl, -⟩ := Prod.mk.inj hrest
  exact hscan before.rest first rest hfirst

theorem Gives.imp {step : StateT σ Option α} {other : α → Prop} (hstep : Gives step good)
    (himp : ∀ found, good found → other found) : Gives step other :=
  fun before found after heq => himp found (hstep before found after heq)

/-- What every step of a loop keeps, the loop keeps. -/
theorem Gives.foldlM {step : β → α → StateT σ Option β}
    (hstep : ∀ made item, fine made → Gives (step made item) fine) (items : List α) {made : β}
    (hmade : fine made) : Gives (items.foldlM step made) fine := by
  induction items generalizing made with
  | nil => exact gives_pure hmade
  | cons item rest ih =>
      rw [List.foldlM_cons]
      exact (hstep made item hmade).bind fun next hnext => ih hnext

end Steps

/-! ### Names as they are written -/

/-- Whether all characters of a text can stand in a name. -/
def IsToken (text : String) : Prop :=
  ∀ c ∈ text.toList, isNameChar c = true

theorem IsToken.append {text other : String} (htext : IsToken text) (hother : IsToken other) :
    IsToken (text ++ other) := by
  intro c hc
  rw [String.toList_append, List.mem_append] at hc
  exact hc.elim (htext c) (hother c)

theorem isToken_colon : IsToken ":" := by
  intro c hc
  obtain rfl : c = ':' := by simpa using hc
  decide

theorem IsToken.slash_not_mem {text : String} (htext : IsToken text) : '/' ∉ text.toList :=
  fun hmem => absurd (htext '/' hmem) (by decide)

theorem gives_named {chars : List Char} (hchars : ∀ c ∈ chars, isNameChar c = true) :
    Gives (Scan.named chars) fun text => text = String.ofList chars ∧ IsToken text := by
  unfold Scan.named
  dsimp only
  split
  · exact gives_refuse
  · refine gives_pure ⟨rfl, fun c hc => hchars c ?_⟩
    rwa [String.toList_ofList] at hc

theorem gives_run (belongs : Char → Bool) :
    Gives (Scan.run belongs) fun chars => ∀ c ∈ chars, belongs c = true := by
  intro before found after heq
  obtain ⟨rfl, -⟩ := Prod.mk.inj (Option.some.inj heq)
  exact fun c hc => List.mem_takeWhile_imp hc

theorem gives_token : Gives Scan.token IsToken := by
  unfold Scan.token
  refine (gives_run isNameChar).bind fun chars hchars => ?_
  exact (gives_named hchars).imp fun text htext => htext.2

/-- A run of name characters that starts like a name is not empty. -/
theorem gives_nameOf? {belongs : Char → Bool}
    (hbelongs : ∀ c, belongs c = true → isNameChar c = true) :
    Gives (Scan.nameOf? belongs) fun found => ∀ name ∈ found, IsToken name ∧ name ≠ "" := by
  intro before found after heq
  cases before with
  | nil =>
      obtain ⟨rfl, -⟩ := Prod.mk.inj (Option.some.inj heq)
      simp
  | cons first rest =>
      have hcases : Scan.nameOf? belongs (first :: rest) =
          (if (isNameStart first && belongs first) = true then
            (do return some (← Scan.named (← Scan.run belongs)))
          else return none : Scan (Option String)) (first :: rest) :=
        rfl
      rw [hcases] at heq
      split at heq
      · next hstarts =>
          obtain ⟨⟨text, last⟩, htext, hpure⟩ := Option.bind_eq_some_iff.mp heq
          have hchars : ∀ c ∈ (first :: rest).takeWhile belongs, isNameChar c = true :=
            fun c hc => hbelongs c (List.mem_takeWhile_imp hc)
          obtain ⟨rfl, htoken⟩ := gives_named hchars _ _ _ htext
          obtain ⟨rfl, -⟩ := Prod.mk.inj (Option.some.inj hpure)
          rw [Bool.and_eq_true] at hstarts
          simp only [List.takeWhile_cons_of_pos hstarts.2] at htoken ⊢
          simpa using htoken
      · obtain ⟨rfl, -⟩ := Prod.mk.inj (Option.some.inj heq)
        simp

theorem gives_name? : Gives Scan.name? fun found => ∀ name ∈ found, IsToken name ∧ name ≠ "" :=
  gives_nameOf? fun _ hc => hc

theorem gives_localName? :
    Gives Scan.localName? fun found => ∀ name ∈ found, IsToken name ∧ name ≠ "" :=
  gives_nameOf? fun _ hc => (Bool.and_eq_true _ _ ▸ hc).1

theorem gives_name : Gives Scan.name fun name => IsToken name ∧ name ≠ "" := by
  unfold Scan.name
  refine gives_name?.bind fun found hfound => ?_
  cases found with
  | none => exact gives_refuse
  | some name => exact gives_pure (hfound name rfl)

/-- Whether a name with a prefix is made of name characters. -/
def QName.IsWritten (name : QName) : Prop :=
  IsToken name.prefixName ∧ IsToken name.localName ∧ name.localName ≠ ""

theorem QName.IsWritten.isName_localName {name : QName} (hname : name.IsWritten) :
    IsName name.localName :=
  ⟨hname.2.2, hname.2.1.slash_not_mem⟩

theorem QName.IsWritten.isName_spelling {name : QName} (hname : name.IsWritten) :
    IsName name.spelling := by
  unfold QName.spelling
  split
  · exact hname.isName_localName
  · refine ⟨?_, ((hname.1.append isToken_colon).append hname.2.1).slash_not_mem⟩
    intro hempty
    have hlength := congrArg String.length hempty
    simp at hlength

theorem QName.isWritten_plain {name : String} (hname : IsToken name ∧ name ≠ "") :
    (QName.plain name).IsWritten :=
  ⟨by simp [IsToken, QName.plain], hname⟩

theorem append_colon_ne_empty (first second : String) : first ++ ":" ++ second ≠ "" := by
  intro hempty
  have hlength := congrArg String.length hempty
  simp at hlength

theorem gives_readName : Gives QName.read QName.IsWritten := by
  unfold QName.read
  refine gives_localName?.lift.bind fun first hfirst => ?_
  cases first with
  | none =>
      refine gives_after fun ahead => ?_
      dsimp only
      split
      · exact gives_refuse_bind
      · refine gives_name.lift.bind fun whole hwhole => gives_after fun _ => ?_
        exact gives_pure (QName.isWritten_plain hwhole)
  | some first =>
      have hfirst := hfirst first rfl
      refine gives_after fun colon => ?_
      split
      · exact gives_pure (QName.isWritten_plain hfirst)
      · refine gives_localName?.lift.bind fun second hsecond => ?_
        cases second with
        | none =>
            refine gives_after fun _ => gives_token.lift.bind fun rest hrest => gives_pure ?_
            exact QName.isWritten_plain
              ⟨(hfirst.1.append isToken_colon).append hrest, append_colon_ne_empty first rest⟩
        | some second =>
            have hsecond := hsecond second rfl
            refine gives_after fun other => ?_
            split
            · exact gives_pure ⟨hfirst.1, hsecond⟩
            · refine gives_after fun _ => gives_name?.lift.bind fun rest hrest => gives_pure ?_
              have htoken : IsToken (rest.getD "") := by
                cases rest with
                | none => simp [IsToken]
                | some rest => exact (hrest rest rfl).1
              exact ⟨hfirst.1, (hsecond.1.append isToken_colon).append htoken,
                append_colon_ne_empty second _⟩

/-! ### Tags -/

namespace StartTag

theorem gives_readAttribute (tag : StartTag) :
    Gives tag.readAttribute fun made => made.name = tag.name := by
  have hbinding (prefixName value : String) : Gives (do
      if !(← admits ⟨prefixName, value⟩) then return tag
      if NamespaceBinding.binds tag.bindings prefixName then Reader.refuse
      return { tag with bindings := tag.bindings ++ [⟨prefixName, value⟩] } : Reader StartTag)
      fun made => made.name = tag.name := by
    refine gives_after fun admitted => ?_
    split
    · exact gives_pure rfl
    · dsimp only
      split
      · exact gives_refuse_bind
      · exact gives_pure rfl
  unfold readAttribute
  refine gives_after fun name => gives_after fun _ => gives_after fun written =>
    gives_after fun rule => ?_
  cases rule with
  | none | some =>
      cases name.boundPrefix? with
      | none =>
          dsimp only
          split
          · exact gives_after fun _ => gives_pure rfl
          · exact gives_pure rfl
      | some prefixName =>
          dsimp only
          split
          · exact gives_after fun _ => hbinding prefixName _
          · exact hbinding prefixName _

theorem gives_readAttributes (fuel : Nat) (tag : StartTag) :
    Gives (readAttributes fuel tag) fun made => made.name = tag.name := by
  induction fuel generalizing tag with
  | zero => exact gives_refuse
  | succ fuel ih =>
      rw [readAttributes]
      refine gives_after fun spaced => gives_after fun ended => ?_
      dsimp only
      split
      · exact gives_pure rfl
      · refine gives_after fun closed => ?_
        split
        · exact gives_pure rfl
        · split
          · exact gives_refuse_bind
          · refine (gives_readAttribute tag).bind fun made hmade => ?_
            exact (ih made).imp fun last hlast => hlast.trans hmade

theorem gives_read : Gives read fun tag => tag.name.IsWritten := by
  unfold read
  refine gives_readName.bind fun name hname => gives_after fun fuel => ?_
  exact (gives_readAttributes fuel { name }).imp fun tag htag => htag ▸ hname

theorem gives_addStandardBindings (tag : StartTag) (rules : List AttributeRule) :
    Gives (tag.addStandardBindings rules) fun made => made.name = tag.name := by
  unfold addStandardBindings
  refine Gives.foldlM (fun made rule hmade => ?_) rules rfl
  split
  · refine gives_after fun _ => ?_
    split
    · exact gives_pure hmade
    · exact gives_pure hmade
  · exact gives_pure hmade

theorem gives_elementName (scope : List NamespaceBinding) {name : QName} (hname : name.IsWritten) :
    Gives (elementName scope name) fun found => IsName found.1 := by
  unfold elementName
  split
  · exact gives_pure hname.isName_localName
  · dsimp only
    split
    · exact gives_after fun _ => gives_pure hname.isName_spelling
    · exact gives_pure hname.isName_spelling

theorem gives_place {tag : StartTag} (htag : tag.name.IsWritten)
    (outer : List NamespaceBinding) (depth : Nat) :
    Gives (tag.place outer depth) fun made => IsName made.name := by
  unfold place
  refine gives_after fun rules => (gives_addStandardBindings tag rules).bind fun made hmade => ?_
  refine gives_after fun names => gives_after fun _ => gives_after fun _ => ?_
  refine (gives_elementName _ (hmade ▸ htag)).bind fun found hfound => ?_
  dsimp only
  split
  · exact gives_refuse_bind
  · refine gives_after fun attributes => gives_after fun _ => ?_
    exact gives_pure hfound

end StartTag

/-! ### Trees -/

/-- Whether a node is no element or an element whose names can all stand in paths. -/
def Node.HasNames (node : Node) : Prop :=
  ∀ element ∈ node.element?, element.HasNames

theorem hasNames_mk_iff {tag : Tag} {children : List Node} :
    (Element.mk tag children).HasNames ↔
      IsName tag.name ∧ ∀ node ∈ children, node.HasNames := by
  have hbelow : (∀ element ∈ elementsBelow children, IsName element.name) ↔
      ∀ node ∈ children, node.HasNames := by
    induction children using nodesInduction with
    | nil => simp
    | other node rest hnode ih =>
        rw [elementsBelow_other hnode, ih, List.forall_mem_cons]
        simp [Node.HasNames, hnode]
    | element inner nodes rest ihInside ihRest =>
        have hown : Node.HasNames (.element ⟨inner, nodes⟩) ↔
            IsName inner.name ∧ ∀ element ∈ elementsBelow nodes, IsName element.name := by
          simp [Node.HasNames, Node.element?, Element.HasNames]
        rw [elementsBelow_element, List.forall_mem_cons, List.forall_mem_append, descendants_mk,
          ihRest, List.forall_mem_cons, hown, and_assoc]
        rfl
  rw [Element.HasNames, List.forall_mem_cons, descendants_mk, hbelow, name_mk]

/-- Whether all names in a tree in the making can stand in paths. -/
structure Growth.HasNames (growth : Growth) : Prop where
  path : ∀ outer ∈ growth.path, IsName outer.tag.name ∧ ∀ node ∈ outer.children, node.HasNames
  root : ∀ root ∈ growth.root, root.HasNames

variable {growth : Growth}

theorem Growth.HasNames.add? (hgrowth : growth.HasNames) {node : Node} (hnode : node.HasNames) :
    ∀ grown ∈ growth.add? node, grown.HasNames := by
  intro grown hgrown
  unfold Growth.add? at hgrown
  split at hgrown
  · next innermost outer hpath =>
      obtain rfl := Option.some.inj hgrown
      have hall := hgrowth.path
      rw [hpath, List.forall_mem_cons] at hall
      obtain ⟨⟨hname, hchildren⟩, houter⟩ := hall
      exact ⟨List.forall_mem_cons.mpr
        ⟨⟨hname, List.forall_mem_cons.mpr ⟨hnode, hchildren⟩⟩, houter⟩, hgrowth.root⟩
  · contradiction

theorem Growth.HasNames.addElement (hgrowth : growth.HasNames) {element : Element}
    (helement : element.HasNames) : (growth.addElement element).HasNames := by
  unfold Growth.addElement
  cases hgrown : growth.add? (.element element) with
  | none => exact ⟨hgrowth.path, by simpa using helement⟩
  | some grown => exact hgrowth.add? (by simpa [Node.HasNames, Node.element?]) grown hgrown

namespace Content

theorem gives_add (hgrowth : growth.HasNames) {node : Node} (hnode : node.HasNames) :
    Gives (add growth node) Growth.HasNames := by
  unfold add
  cases hgrown : growth.add? node with
  | none => exact gives_refuse
  | some grown => exact gives_pure (hgrowth.add? hnode grown hgrown)

theorem gives_opening (hgrowth : growth.HasNames) : Gives (opening growth) Growth.HasNames := by
  unfold opening
  refine StartTag.gives_read.bind fun written hwritten => ?_
  refine (StartTag.gives_place hwritten _ _).bind fun tag htag => ?_
  split
  · exact gives_pure (hgrowth.addElement (hasNames_mk_iff.mpr ⟨htag, by simp⟩))
  · refine gives_pure ⟨List.forall_mem_cons.mpr ⟨⟨htag, by simp⟩, hgrowth.path⟩, hgrowth.root⟩

theorem gives_closing (hgrowth : growth.HasNames) : Gives (closing growth) Growth.HasNames := by
  unfold closing
  refine gives_after fun name => gives_after fun _ => gives_after fun _ => ?_
  split
  · next innermost outer hpath =>
      have hall := hgrowth.path
      rw [hpath, List.forall_mem_cons] at hall
      obtain ⟨⟨hname, hchildren⟩, houter⟩ := hall
      have hended : (Element.mk innermost.tag innermost.children.reverse).HasNames :=
        hasNames_mk_iff.mpr ⟨hname, fun node hnode => hchildren node (List.mem_reverse.mp hnode)⟩
      have hleft : Growth.HasNames { growth with path := outer } := ⟨houter, hgrowth.root⟩
      dsimp only
      split
      · exact gives_refuse_bind
      · exact gives_pure (hleft.addElement hended)
  · exact gives_refuse

theorem gives_reference (readContent : Nat → Entity → Reader Unit) (hgrowth : growth.HasNames) :
    Gives (reference readContent growth) Growth.HasNames := by
  unfold reference
  refine gives_after fun found => ?_
  cases found with
  | character c => exact gives_add hgrowth (by simp [Node.HasNames, Node.element?])
  | entity name =>
      have hadded : Gives (add growth (.reference name)) Growth.HasNames :=
        gives_add hgrowth (by simp [Node.HasNames, Node.element?])
      refine gives_after fun known => ?_
      cases known with
      | none => exact hadded
      | some entity =>
          dsimp only
          split
          · exact gives_after fun _ => gives_after fun _ => gives_after fun _ => gives_after fun _ =>
              hadded
          · exact gives_after fun _ => gives_after fun _ => hadded

theorem gives_step (readContent : Nat → Entity → Reader Unit) (hgrowth : growth.HasNames) :
    Gives (step readContent growth) Growth.HasNames := by
  have hplain : ∀ node : Node, node.element? = none →
      Gives (add growth node) Growth.HasNames := by
    intro node hnode
    exact gives_add hgrowth (by simp [Node.HasNames, hnode])
  unfold step
  refine gives_after fun _ => ?_
  split
  · exact gives_after fun _ => hplain .comment rfl
  refine gives_after fun _ => ?_
  split
  · exact gives_after fun _ => hplain (.text _) rfl
  refine gives_after fun _ => ?_
  split
  · exact gives_after fun _ => hplain .instruction rfl
  refine gives_after fun _ => ?_
  split
  · exact gives_closing hgrowth
  refine gives_after fun _ => ?_
  split
  · exact gives_opening hgrowth
  refine gives_after fun _ => ?_
  split
  · exact gives_reference readContent hgrowth
  refine gives_after fun text => ?_
  dsimp only
  split
  · exact gives_refuse_bind
  · exact hplain (.text _) rfl

/-- Reading on keeps the names in a tree, however long it takes. -/
theorem gives_steps (readContent : Nat → Entity → Reader Unit) (fuel : Nat)
    (hgrowth : growth.HasNames) : Gives (steps readContent fuel growth) Growth.HasNames := by
  induction fuel generalizing growth with
  | zero => exact gives_refuse
  | succ fuel ih =>
      rw [steps]
      refine gives_after fun progress => ?_
      split
      · exact gives_pure hgrowth
      · exact (gives_step readContent hgrowth).bind fun grown hgrown => ih hgrown

theorem gives_elementRest : Gives elementRest Element.HasNames := by
  unfold elementRest
  refine (gives_opening ⟨by simp, by simp⟩).bind fun start hstart => ?_
  refine gives_after fun progress => gives_after fun fuel => ?_
  refine (gives_steps _ _ hstart).bind fun grown hgrown => ?_
  split
  · next element hroot => exact gives_pure (hgrown.root element hroot)
  · exact gives_refuse

end Content

namespace Document

theorem gives_tree : Gives tree Element.HasNames := by
  unfold tree
  have hrest : Gives (do
      Scan.take "<"
      let root ← Content.elementRest
      anyMargin
      if (← get).rest.isEmpty then return root else Reader.refuse : Reader Element)
      Element.HasNames := by
    refine gives_after fun _ => Content.gives_elementRest.bind fun root hroot => ?_
    refine gives_after fun _ => gives_after fun progress => ?_
    split
    · exact gives_pure hroot
    · exact gives_refuse
  refine gives_after fun _ => gives_after fun doctype => ?_
  dsimp only
  split
  · exact gives_after fun _ => gives_after fun _ => hrest
  · exact hrest

theorem hasNames_of_ofChars? {signature : Signature} {chars : List Char} {document : Document}
    (hread : ofChars? signature chars = some document) : document.root.HasNames := by
  unfold ofChars? at hread
  split at hread
  · contradiction
  · obtain ⟨⟨declaration, rest⟩, -, hrest⟩ := Option.bind_eq_some_iff.mp hread
    obtain ⟨⟨root, progress⟩, htree, hended⟩ := Option.bind_eq_some_iff.mp hrest
    dsimp only at hended
    split at hended
    · contradiction
    · obtain rfl := Option.some.inj hended
      exact gives_tree _ root progress htree

/-- The names in the tree of a document can all stand in paths. -/
theorem hasNames_of_read? {bytes : ByteArray} {document : Document}
    (hread : read? bytes = some document) : document.root.HasNames := by
  obtain ⟨⟨signature, chars⟩, -, hchars⟩ := Option.bind_eq_some_iff.mp hread
  exact hasNames_of_ofChars? hchars

end Document

end SurveyForm.Xml
