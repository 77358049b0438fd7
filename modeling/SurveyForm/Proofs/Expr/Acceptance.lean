import SurveyForm.Proofs.Expr.Decoding
/-!
Which data stands for a condition.  The format is a grammar of values; reading accepts just
that grammar, and writing what was read gives the normal form of the data.
-/

namespace SurveyForm

namespace Value

def isText : Value → Bool
  | .text _ => true
  | _ => false

def isNull : Value → Bool
  | .null => true
  | _ => false

def isList : Value → Bool
  | .list _ => true
  | _ => false

/-- Whether the members that the format has are of the right type wherever they are present. -/
def HasTypedMembers (value : Value) : Prop :=
  (∀ name ∈ ["name", "op", "path", "value", "text"], (value.get? name).all isText = true) ∧
    (value.get? "wrapper_function").all (fun item => item.isText || item.isNull) = true ∧
    ∀ name ∈ ["args", "terms"], (value.get? name).all isList = true

instance (value : Value) : Decidable value.HasTypedMembers :=
  inferInstanceAs (Decidable (_ ∧ _ ∧ _))

/-- The names of the members, besides the kind itself, that an expression of a kind has. -/
def memberNames : Option Value → List String
  | some (.text "call") => ["name", "args"]
  | some (.text "if") => ["test", "when_true", "when_false"]
  | some (.text "match") => ["op", "path", "value"]
  | some (.text "compare") => ["op", "path", "value", "wrapper_function"]
  | some (.text "group") => ["terms"]
  | some (.text "unparsed") => ["text"]
  | _ => []

mutual

/-- The maps at which the format has an expression, at every level. -/
def nodes : Value → List Value
  | .map entries =>
      .map entries :: nodesOfMembers (memberNames ((Value.map entries).get? "type")) entries
  | .list items => nodesOfAll items
  | _ => []

def nodesOfAll : List Value → List Value
  | [] => []
  | item :: rest => nodes item ++ nodesOfAll rest

def nodesOfMembers (names : List String) : List (Value × Value) → List Value
  | [] => []
  | (key, item) :: rest =>
      if names.any (key.isKey ·) then nodes item ++ nodesOfMembers names rest
      else nodesOfMembers names rest

end

/-- Whether all members of the format are of the right type, at every level. -/
def IsTyped (value : Value) : Prop :=
  ∀ node ∈ value.nodes, node.HasTypedMembers

instance (value : Value) : Decidable value.IsTyped :=
  inferInstanceAs (Decidable (∀ node ∈ value.nodes, node.HasTypedMembers))

/-- What stands for a member that is left out. -/
def missingMember (name : String) : Value :=
  if name = "args" ∨ name = "terms" then .list [] else .null

mutual

/-- The normal form of data: other members are dropped and missing ones filled in, at every
level. -/
def normalized : Value → Value
  | .map entries =>
      let kind := (Value.map entries).get? "type"
      let members := normalizedEntries entries
      .object (("type", kind.getD .null) :: (memberNames kind).map fun name =>
        (name, ((Value.map members).get? name).getD (missingMember name)))
  | .list items => .list (normalizedAll items)
  | value => value

def normalizedAll : List Value → List Value
  | [] => []
  | item :: rest => normalized item :: normalizedAll rest

def normalizedEntries : List (Value × Value) → List (Value × Value)
  | [] => []
  | (key, item) :: rest => (key, normalized item) :: normalizedEntries rest

end

variable {value item : Value} {items : List Value} {entries : List (Value × Value)}
  {names : List String} {name : String}

theorem normalizedAll_eq_map (items : List Value) : normalizedAll items = items.map normalized := by
  induction items with
  | nil => rfl
  | cons item rest ih => rw [normalizedAll, ih, List.map_cons]

theorem get?_normalizedEntries (entries : List (Value × Value)) (name : String) :
    (Value.map (normalizedEntries entries)).get? name =
      ((Value.map entries).get? name).map normalized := by
  induction entries with
  | nil => rfl
  | cons entry rest ih =>
      obtain ⟨key, item⟩ := entry
      simp only [get?] at ih
      cases hkey : key.isKey name <;> simp [normalizedEntries, get?, hkey, ih]

/-- The member that the normal form has in the place of one. -/
def normalizedMember (value : Value) (name : String) : Value :=
  ((value.get? name).map normalized).getD (missingMember name)

/-- The normal form of a map has its kind and the members of the kind. -/
theorem normalized_eq {kind : Value} (hkind : value.get? "type" = some kind) :
    value.normalized = .object (("type", kind) :: (memberNames (some kind)).map fun name =>
      (name, value.normalizedMember name)) := by
  cases value with
  | map entries =>
      rw [normalized, hkind]
      simp only [get?_normalizedEntries, Option.getD_some]
      rfl
  | _ => contradiction

theorem normalized_of_isText (htext : item.isText = true) : item.normalized = item := by
  cases item <;> first | contradiction | rfl

theorem nodes_subset_of_mem (hmem : item ∈ items) : item.nodes ⊆ (Value.list items).nodes := by
  rw [nodes]
  induction items with
  | nil => contradiction
  | cons first rest ih =>
      intro node hnode
      rw [nodesOfAll]
      rcases List.mem_cons.mp hmem with rfl | hmem
      · exact List.mem_append_left _ hnode
      · exact List.mem_append_right _ (ih hmem hnode)

theorem nodes_subset_nodesOfMembers (hget : (Value.map entries).get? name = some item)
    (hname : name ∈ names) : item.nodes ⊆ nodesOfMembers names entries := by
  intro node hnode
  induction entries with
  | nil => contradiction
  | cons entry rest ih =>
      obtain ⟨key, first⟩ := entry
      cases hkey : key.isKey name with
      | true =>
          obtain rfl : first = item := by simpa [get?, hkey] using hget
          rw [nodesOfMembers, if_pos (List.any_eq_true.mpr ⟨name, hname, hkey⟩)]
          exact List.mem_append_left _ hnode
      | false =>
          have hrest := ih (by simpa [get?, hkey] using hget)
          rw [nodesOfMembers]
          split
          · exact List.mem_append_right _ hrest
          · exact hrest

theorem IsTyped.of_mem (htyped : (Value.list items).IsTyped) (hmem : item ∈ items) : item.IsTyped :=
  fun node hnode => htyped node (nodes_subset_of_mem hmem hnode)

theorem IsTyped.of_get? (htyped : value.IsTyped) (hget : value.get? name = some item)
    (hname : name ∈ memberNames (value.get? "type")) : item.IsTyped := by
  cases value with
  | map entries =>
      intro node hnode
      rw [IsTyped, nodes] at htyped
      exact htyped node (List.mem_cons_of_mem _ (nodes_subset_nodesOfMembers hget hname hnode))
  | _ => contradiction

theorem IsTyped.hasTypedMembers (htyped : value.IsTyped) (hget : value.get? name = some item) :
    value.HasTypedMembers := by
  cases value with
  | map entries =>
      rw [IsTyped, nodes] at htyped
      exact htyped _ List.mem_cons_self
  | _ => contradiction

theorem IsTyped.isText (htyped : value.IsTyped) (hget : value.get? name = some item)
    (hname : name ∈ ["name", "op", "path", "value", "text"]) : item.isText = true := by
  simpa [hget] using (htyped.hasTypedMembers hget).1 name hname

/-- A member that is a list is one, or is left out. -/
theorem IsTyped.list_or_none (htyped : value.IsTyped) (hname : name ∈ ["args", "terms"]) :
    (∃ items, value.get? name = some (.list items)) ∨ value.get? name = none := by
  cases hget : value.get? name with
  | none => exact .inr rfl
  | some found =>
      have hlist := (htyped.hasTypedMembers hget).2.2 name hname
      rw [hget] at hlist
      cases found with
      | list items => exact .inl ⟨items, rfl⟩
      | _ => contradiction

/-- The items of a member are those of the list there, and none if it is left out. -/
theorem IsTyped.get?_of_itemsOf? (htyped : value.IsTyped) (hname : name ∈ ["args", "terms"])
    (hitems : StoredExpr.itemsOf? (value.get? name) = some items) :
    value.get? name = some (.list items) ∨ value.get? name = none ∧ items = [] := by
  rcases htyped.list_or_none hname with ⟨others, hget⟩ | hget
  · rw [hget] at hitems
    obtain rfl := Option.some.inj hitems
    exact .inl hget
  · rw [hget] at hitems
    exact .inr ⟨hget, (Option.some.inj hitems).symm⟩

/-- The items of a list member are typed, and are parts of the map. -/
theorem IsTyped.of_itemsOf? (htyped : value.IsTyped) (hname : name ∈ ["args", "terms"])
    (hmember : name ∈ memberNames (value.get? "type"))
    (hitems : StoredExpr.itemsOf? (value.get? name) = some items) (hitem : item ∈ items) :
    item.IsTyped ∧ sizeOf item < sizeOf value := by
  rcases htyped.get?_of_itemsOf? hname hitems with hget | ⟨-, rfl⟩
  · refine ⟨(htyped.of_get? hget hmember).of_mem hitem, ?_⟩
    have hlist := sizeOf_of_get? hget
    have hinside := List.sizeOf_lt_of_mem hitem
    rw [list.sizeOf_spec] at hlist
    omega
  · contradiction

theorem IsTyped.normalizedMember_items (htyped : value.IsTyped) (hname : name ∈ ["args", "terms"])
    (hitems : StoredExpr.itemsOf? (value.get? name) = some items) :
    value.normalizedMember name = .list (normalizedAll items) := by
  rcases htyped.get?_of_itemsOf? hname hitems with hget | ⟨hget, rfl⟩
  · rw [normalizedMember, hget, Option.map_some, Option.getD_some, normalized]
  · rw [normalizedMember, hget, Option.map_none, Option.getD_none, normalizedAll, missingMember,
      if_pos (by simpa using hname)]

theorem IsTyped.normalizedMember_text (htyped : value.IsTyped) (hget : value.get? name = some item)
    (hname : name ∈ ["name", "op", "path", "value", "text"]) :
    value.normalizedMember name = item := by
  rw [normalizedMember, hget, Option.map_some, Option.getD_some,
    normalized_of_isText (htyped.isText hget hname)]

theorem normalizedMember_of_get? (hget : value.get? name = some item) :
    value.normalizedMember name = item.normalized := by
  rw [normalizedMember, hget, Option.map_some, Option.getD_some]

/-- The call around a left operand is null in the normal form if there is none. -/
theorem IsTyped.normalizedMember_wrapper (htyped : value.IsTyped) {kind : Value}
    (hkind : value.get? "type" = some kind) :
    value.normalizedMember "wrapper_function" =
      (StoredExpr.wrapperOf? (value.get? "wrapper_function")).getD .null := by
  have htypes := (htyped.hasTypedMembers hkind).2.1
  rw [normalizedMember]
  cases hget : value.get? "wrapper_function" with
  | none => rfl
  | some found =>
      rw [hget] at htypes
      cases found with
      | null => rfl
      | text s => rfl
      | _ => contradiction

end Value

namespace StoredExpr

mutual

/-- The values that stand for an expression. -/
inductive Acceptable : Value → Prop
  | null : Acceptable .null
  | call {value name : Value} (hkind : value.get? "type" = some (.text "call"))
      (hname : value.get? "name" = some name)
      (hargs : ∀ items, value.get? "args" = some (.list items) → ∀ item ∈ items, Acceptable item) :
      Acceptable value
  | conditional {value test whenTrue whenFalse : Value}
      (hkind : value.get? "type" = some (.text "if"))
      (htest : value.get? "test" = some test) (hwhenTrue : value.get? "when_true" = some whenTrue)
      (hwhenFalse : value.get? "when_false" = some whenFalse) (htestAccepted : Acceptable test)
      (hwhenTrueAccepted : Acceptable whenTrue) (hwhenFalseAccepted : Acceptable whenFalse) :
      Acceptable value
  | matching {value path operand : Value} {op : String}
      (hkind : value.get? "type" = some (.text "match")) (hop : value.get? "op" = some (.text op))
      (hsymbol : op = "=" ∨ op = "~") (hpath : value.get? "path" = some path)
      (hoperand : value.get? "value" = some operand) : Acceptable value
  | comparison {value op path operand : Value}
      (hkind : value.get? "type" = some (.text "compare")) (hop : value.get? "op" = some op)
      (hpath : value.get? "path" = some path) (hoperand : value.get? "value" = some operand) :
      Acceptable value
  | group {value : Value} (hkind : value.get? "type" = some (.text "group"))
      (hterms : ∀ items, value.get? "terms" = some (.list items) →
        ∀ item ∈ items, AcceptableTerm item) : Acceptable value
  | unparsed {value text : Value} (hkind : value.get? "type" = some (.text "unparsed"))
      (htext : value.get? "text" = some text) : Acceptable value

/-- The values that stand for a disjunct.  A list is no expression itself, so lists do not
stand inside lists. -/
inductive AcceptableTerm : Value → Prop
  | one {value : Value} (hvalue : Acceptable value) : AcceptableTerm value
  | all {members : List Value} (hmembers : ∀ member ∈ members, Acceptable member) :
      AcceptableTerm (.list members)

end

variable {value item : Value} {items : List Value}

/-- The symbols of the format are those of the two ways to match. -/
theorem symbol_iff {symbol : String} :
    (∃ op, MatchOp.ofSymbol? symbol = some op) ↔ symbol = "=" ∨ symbol = "~" := by
  unfold MatchOp.ofSymbol?
  split <;> simp_all

theorem symbol_of_ofSymbol? {symbol : String} {op : MatchOp}
    (hop : MatchOp.ofSymbol? symbol = some op) : op.symbol = symbol := by
  unfold MatchOp.ofSymbol? at hop
  split at hop
  · obtain rfl := Option.some.inj hop
    rfl
  · obtain rfl := Option.some.inj hop
    rfl
  · contradiction

theorem encodeAll_eq_map (exprs : List StoredExpr) : encodeAll exprs = exprs.map encode := by
  induction exprs with
  | nil => rfl
  | cons expr rest ih => rw [encodeAll, ih, List.map_cons]

/-- The data that a disjunct is written as. -/
def encodeTerm : Term StoredExpr → Value
  | .one member => encode member
  | .all members => .list (encodeAll members)

theorem encodeTerms_eq_map (terms : List (Term StoredExpr)) :
    encodeTerms terms = terms.map encodeTerm := by
  induction terms with
  | nil => rfl
  | cons term rest ih => cases term <;> rw [encodeTerms, ih, List.map_cons, encodeTerm]

/-! ### What is read is acceptable, and is written in normal form -/

/-- Whatever a value is read as, the value is acceptable, and its normal form is what is
written. -/
def IsSound (value : Value) : Prop :=
  ∀ expr, decode value = .ok expr → Acceptable value ∧ encode expr = value.normalized

theorem pointwise_of_forall₂ {α β γ : Type} {reads : α → β → Prop} {good : α → Prop} {f : β → γ}
    {g : α → γ} {values : List α} {results : List β} (hresults : List.Forall₂ reads values results)
    (hreads : ∀ value ∈ values, ∀ result, reads value result → good value ∧ f result = g value) :
    (∀ value ∈ values, good value) ∧ results.map f = values.map g := by
  induction hresults with
  | nil => simp
  | cons hfirst hrest ih =>
      obtain ⟨hgood, hequal⟩ := hreads _ List.mem_cons_self _ hfirst
      obtain ⟨hgoods, hequals⟩ := ih fun value hvalue =>
        hreads value (List.mem_cons_of_mem _ hvalue)
      refine ⟨List.forall_mem_cons.mpr ⟨hgood, hgoods⟩, ?_⟩
      rw [List.map_cons, List.map_cons, hequal, hequals]

theorem sound_decodeAll {exprs : List StoredExpr} (hdecode : decodeAll items = .ok exprs)
    (hsound : ∀ item ∈ items, IsSound item) :
    (∀ item ∈ items, Acceptable item) ∧ encodeAll exprs = Value.normalizedAll items := by
  rw [encodeAll_eq_map, Value.normalizedAll_eq_map]
  exact pointwise_of_forall₂ (decodeAll_eq_ok_iff.mp hdecode) hsound

theorem sound_decodeTerm {term : Term StoredExpr} (hdecode : decodeTerm item = .ok term)
    (hsound : IsSound item)
    (hinside : ∀ members, item = .list members → ∀ member ∈ members, IsSound member) :
    AcceptableTerm item ∧ encodeTerm term = item.normalized := by
  unfold decodeTerm at hdecode
  split at hdecode
  · next members =>
      cases hmembers : decodeAll members with
      | error cause => simp [hmembers, Except.map] at hdecode
      | ok exprs =>
          obtain rfl : Term.all exprs = term := by simpa [hmembers, Except.map] using hdecode
          obtain ⟨haccepted, hencode⟩ := sound_decodeAll hmembers (hinside members rfl)
          exact ⟨.all haccepted, by rw [encodeTerm, hencode, Value.normalized]⟩
  · cases hitem : decode item with
    | error cause => simp [hitem, Except.map] at hdecode
    | ok expr =>
        obtain rfl : Term.one expr = term := by simpa [hitem, Except.map] using hdecode
        obtain ⟨haccepted, hencode⟩ := hsound expr hitem
        exact ⟨.one haccepted, hencode⟩

theorem sound_decodeTerms {terms : List (Term StoredExpr)} (hdecode : decodeTerms items = .ok terms)
    (hsound : ∀ item ∈ items, IsSound item)
    (hinside : ∀ item ∈ items, ∀ members, item = .list members →
      ∀ member ∈ members, IsSound member) :
    (∀ item ∈ items, AcceptableTerm item) ∧ encodeTerms terms = Value.normalizedAll items := by
  rw [encodeTerms_eq_map, Value.normalizedAll_eq_map]
  exact pointwise_of_forall₂ (decodeTerms_eq_ok_iff.mp hdecode) fun item hitem term hterm =>
    sound_decodeTerm hterm (hsound item hitem) (hinside item hitem)

section Step

variable (hparts : ∀ part, sizeOf part < sizeOf value → part.IsTyped → IsSound part)
include hparts

theorem isSound_items {name : String} (htyped : value.IsTyped) (hname : name ∈ ["args", "terms"])
    (hmember : name ∈ Value.memberNames (value.get? "type"))
    (hitems : itemsOf? (value.get? name) = some items) : ∀ item ∈ items, IsSound item := by
  intro item hitem
  obtain ⟨hitemTyped, hsize⟩ := htyped.of_itemsOf? hname hmember hitems hitem
  exact hparts item hsize hitemTyped

/-- The members of the disjuncts that are lists are parts as well. -/
theorem isSound_inside {name : String} (htyped : value.IsTyped) (hname : name ∈ ["args", "terms"])
    (hmember : name ∈ Value.memberNames (value.get? "type"))
    (hitems : itemsOf? (value.get? name) = some items) :
    ∀ item ∈ items, ∀ members, item = .list members → ∀ member ∈ members, IsSound member := by
  rintro item hitem members rfl member hmem
  obtain ⟨hitemTyped, hsize⟩ := htyped.of_itemsOf? hname hmember hitems hitem
  have hinside := List.sizeOf_lt_of_mem hmem
  rw [Value.list.sizeOf_spec] at hsize
  exact hparts member (by omega) (hitemTyped.of_mem hmem)

theorem isSound_part {name : String} (htyped : value.IsTyped) (hget : value.get? name = some item)
    (hmember : name ∈ Value.memberNames (value.get? "type")) : IsSound item :=
  hparts item (Value.sizeOf_of_get? hget) (htyped.of_get? hget hmember)

/-- A value is sound if its parts are. -/
theorem isSound_of_parts (htyped : value.IsTyped) : IsSound value := by
  intro expr hdecode
  cases readsAs_of_decode hdecode with
  | absent hnull =>
      subst hnull
      exact ⟨.null, rfl⟩
  | @call name items args hkind hname hitems hargs =>
      have hmember : "args" ∈ Value.memberNames (value.get? "type") := by
        simp [hkind, Value.memberNames]
      have hsound := isSound_items hparts htyped (by simp) hmember hitems
      obtain ⟨haccepted, hencode⟩ := sound_decodeAll hargs hsound
      refine ⟨.call hkind hname fun others hothers => ?_, ?_⟩
      · obtain rfl : others = items := by simpa [hothers, itemsOf?] using hitems
        exact haccepted
      · simp [encode, hencode, Value.normalized_eq hkind, Value.memberNames,
          htyped.normalizedMember_text hname, htyped.normalizedMember_items _ hitems]
  | conditional hkind htest hwhenTrue hwhenFalse htestExpr hwhenTrueExpr hwhenFalseExpr =>
      have hmember : ∀ name ∈ ["test", "when_true", "when_false"],
          name ∈ Value.memberNames (value.get? "type") := by
        simp [hkind, Value.memberNames]
      obtain ⟨htestAccepted, htestEncode⟩ :=
        isSound_part hparts htyped htest (hmember _ (by simp)) _ htestExpr
      obtain ⟨hwhenTrueAccepted, hwhenTrueEncode⟩ :=
        isSound_part hparts htyped hwhenTrue (hmember _ (by simp)) _ hwhenTrueExpr
      obtain ⟨hwhenFalseAccepted, hwhenFalseEncode⟩ :=
        isSound_part hparts htyped hwhenFalse (hmember _ (by simp)) _ hwhenFalseExpr
      refine ⟨.conditional hkind htest hwhenTrue hwhenFalse htestAccepted hwhenTrueAccepted
        hwhenFalseAccepted, ?_⟩
      simp [encode, htestEncode, hwhenTrueEncode, hwhenFalseEncode, Value.normalized_eq hkind,
        Value.memberNames, Value.normalizedMember_of_get? htest,
        Value.normalizedMember_of_get? hwhenTrue, Value.normalizedMember_of_get? hwhenFalse]
  | matching hkind hsymbol hop hpath hoperand =>
      refine ⟨.matching hkind hsymbol (symbol_iff.mp ⟨_, hop⟩) hpath hoperand, ?_⟩
      simp [encode, symbol_of_ofSymbol? hop, Value.normalized_eq hkind, Value.memberNames,
        htyped.normalizedMember_text hsymbol, htyped.normalizedMember_text hpath,
        htyped.normalizedMember_text hoperand]
  | comparison hkind hop hpath hoperand =>
      refine ⟨.comparison hkind hop hpath hoperand, ?_⟩
      simp [encode, Value.normalized_eq hkind, Value.memberNames,
        htyped.normalizedMember_text hop, htyped.normalizedMember_text hpath,
        htyped.normalizedMember_text hoperand, htyped.normalizedMember_wrapper hkind]
  | @group items terms hkind hitems hterms =>
      have hmember : "terms" ∈ Value.memberNames (value.get? "type") := by
        simp [hkind, Value.memberNames]
      have hsound := isSound_items hparts htyped (by simp) hmember hitems
      have hinside := isSound_inside hparts htyped (by simp) hmember hitems
      obtain ⟨haccepted, hencode⟩ := sound_decodeTerms hterms hsound hinside
      refine ⟨.group hkind fun others hothers => ?_, ?_⟩
      · obtain rfl : others = items := by simpa [hothers, itemsOf?] using hitems
        exact haccepted
      · simp [encode, hencode, Value.normalized_eq hkind, Value.memberNames,
          htyped.normalizedMember_items _ hitems]
  | unparsed hkind htext =>
      refine ⟨.unparsed hkind htext, ?_⟩
      simp [encode, Value.normalized_eq hkind, Value.memberNames,
        htyped.normalizedMember_text htext]

end Step

theorem isSound (value : Value) (htyped : value.IsTyped) : IsSound value :=
  isSound_of_parts (fun part _ hpart => isSound part hpart) htyped
termination_by sizeOf value

/-! ### What is acceptable is read -/

theorem exists_forall₂ {α β : Type} {reads : α → β → Prop} {values : List α}
    (hreads : ∀ value ∈ values, ∃ result, reads value result) :
    ∃ results, List.Forall₂ reads values results := by
  induction values with
  | nil => exact ⟨[], .nil⟩
  | cons value rest ih =>
      obtain ⟨hfirst, hrest⟩ := List.forall_mem_cons.mp hreads
      obtain ⟨result, hresult⟩ := hfirst
      obtain ⟨results, hresults⟩ := ih hrest
      exact ⟨result :: results, .cons hresult hresults⟩

theorem exists_decodeAll (hitems : ∀ item ∈ items, ∃ expr, decode item = .ok expr) :
    ∃ exprs, decodeAll items = .ok exprs := by
  simp only [decodeAll_eq_ok_iff]
  exact exists_forall₂ hitems

theorem exists_decodeTerms (hitems : ∀ item ∈ items, ∃ term, decodeTerm item = .ok term) :
    ∃ terms, decodeTerms items = .ok terms := by
  simp only [decodeTerms_eq_ok_iff]
  exact exists_forall₂ hitems

mutual

theorem Acceptable.exists_decode {value : Value} : Acceptable value → value.IsTyped →
    ∃ expr, decode value = .ok expr
  | .null, _ => ⟨_, decode_eq_ok_iff.mpr (.absent rfl)⟩
  | .call hkind hname hargs, htyped => by
      have hlisted : "args" ∈ ["args", "terms"] := by simp
      rcases htyped.list_or_none hlisted with ⟨items, hitems⟩ | hnone
      · have hlist := htyped.of_get? hitems (by simp [hkind, Value.memberNames])
        obtain ⟨args, hdecoded⟩ := exists_decodeAll fun item hitem =>
          (hargs items hitems item hitem).exists_decode (hlist.of_mem hitem)
        exact ⟨_, decode_eq_ok_iff.mpr (.call hkind hname (by rw [hitems, itemsOf?]) hdecoded)⟩
      · exact ⟨_, decode_eq_ok_iff.mpr (.call hkind hname (by rw [hnone, itemsOf?])
          (decodeAll_eq_ok_iff.mpr .nil))⟩
  | .conditional hkind htest hwhenTrue hwhenFalse htestAccepted hwhenTrueAccepted
      hwhenFalseAccepted, htyped => by
      have hmember : ∀ name ∈ ["test", "when_true", "when_false"],
          name ∈ Value.memberNames (value.get? "type") := by
        simp [hkind, Value.memberNames]
      obtain ⟨testExpr, htestExpr⟩ :=
        htestAccepted.exists_decode (htyped.of_get? htest (hmember _ (by simp)))
      obtain ⟨whenTrueExpr, hwhenTrueExpr⟩ :=
        hwhenTrueAccepted.exists_decode (htyped.of_get? hwhenTrue (hmember _ (by simp)))
      obtain ⟨whenFalseExpr, hwhenFalseExpr⟩ :=
        hwhenFalseAccepted.exists_decode (htyped.of_get? hwhenFalse (hmember _ (by simp)))
      exact ⟨_, decode_eq_ok_iff.mpr
        (.conditional hkind htest hwhenTrue hwhenFalse htestExpr hwhenTrueExpr hwhenFalseExpr)⟩
  | .matching hkind hop hsymbol hpath hoperand, _ => by
      obtain ⟨op, hread⟩ := symbol_iff.mpr hsymbol
      exact ⟨_, decode_eq_ok_iff.mpr (.matching hkind hop hread hpath hoperand)⟩
  | .comparison hkind hop hpath hoperand, _ =>
      ⟨_, decode_eq_ok_iff.mpr (.comparison hkind hop hpath hoperand)⟩
  | .group hkind hterms, htyped => by
      have hlisted : "terms" ∈ ["args", "terms"] := by simp
      rcases htyped.list_or_none hlisted with ⟨items, hitems⟩ | hnone
      · have hlist := htyped.of_get? hitems (by simp [hkind, Value.memberNames])
        obtain ⟨terms, hdecoded⟩ := exists_decodeTerms fun item hitem =>
          (hterms items hitems item hitem).exists_decodeTerm (hlist.of_mem hitem)
        exact ⟨_, decode_eq_ok_iff.mpr (.group hkind (by rw [hitems, itemsOf?]) hdecoded)⟩
      · exact ⟨_, decode_eq_ok_iff.mpr (.group hkind (by rw [hnone, itemsOf?])
          (decodeTerms_eq_ok_iff.mpr .nil))⟩
  | .unparsed hkind htext, _ => ⟨_, decode_eq_ok_iff.mpr (.unparsed hkind htext)⟩

theorem AcceptableTerm.exists_decodeTerm {value : Value} : AcceptableTerm value → value.IsTyped →
    ∃ term, decodeTerm value = .ok term
  | .one hvalue, htyped => by
      obtain ⟨expr, hexpr⟩ := hvalue.exists_decode htyped
      exact ⟨_, decodeTerm_of_decode hexpr⟩
  | .all hmembers, htyped => by
      obtain ⟨exprs, hexprs⟩ := exists_decodeAll fun member hmember =>
        (hmembers member hmember).exists_decode (htyped.of_mem hmember)
      exact ⟨_, decodeTerm_list hexprs⟩

end

/-- Data with members of the right types is read exactly if it is acceptable; and written
again, what was read is the normal form of the data. -/
theorem exists_decode_iff_acceptable {value : Value} (htyped : value.IsTyped) :
    ((∃ expr, decode value = .ok expr) ↔ Acceptable value) ∧
      ∀ expr, decode value = .ok expr → encode expr = value.normalized := by
  refine ⟨⟨?_, fun haccepted => haccepted.exists_decode htyped⟩, ?_⟩
  · rintro ⟨expr, hdecode⟩
    exact (isSound value htyped expr hdecode).1
  · intro expr hdecode
    exact (isSound value htyped expr hdecode).2

/-- Data for a group: members of other kinds and unknown ones, arguments and disjuncts that
are left out, null for an expression, and disjuncts with no member and with one in a row. -/
def looseData : Value :=
  let call := Value.object [("name", .text "uuid"), ("size", .int 8), ("type", .text "call")]
  let comparison := Value.object [("path", .text "/data/a"), ("value", .text "1"),
    ("op", .text ">="), ("args", .list []), ("type", .text "compare")]
  let conditional := Value.object [("type", .text "if"), ("when_true", call), ("when_false", .null),
    ("test", .object [("type", .text "group")])]
  .object [("terms", .list [conditional, .list [], .list [comparison], .null]), ("note", .null),
    ("type", .text "group")]

/-- A group with a list inside one of its lists. -/
def nestedLists : Value :=
  .object [("type", .text "group"), ("terms", .list [.list [.list []]])]

theorem exists_decode_iff_acceptable_looseData :
    looseData.IsTyped ∧ nestedLists.IsTyped ∧ Acceptable looseData ∧ ¬ Acceptable nestedLists ∧
      ∃ expr, decode looseData = .ok expr ∧
        encode expr = .object [("type", .text "group"), ("terms", .list
          [.object [("type", .text "if"),
              ("test", .object [("type", .text "group"), ("terms", .list [])]),
              ("when_true", .object [("type", .text "call"), ("name", .text "uuid"),
                ("args", .list [])]),
              ("when_false", .null)],
            .list [],
            .list [.object [("type", .text "compare"), ("op", .text ">="),
              ("path", .text "/data/a"), ("value", .text "1"), ("wrapper_function", .null)]],
            .null])] := by
  have htyped : looseData.IsTyped := by decide
  have hrefused : nestedLists.IsTyped := by decide
  have hread : (decode looseData).isOk = true := by decide +kernel
  have hunread : (decode nestedLists).isOk = false := by decide +kernel
  obtain ⟨haccepts, hnormal⟩ := exists_decode_iff_acceptable htyped
  obtain ⟨hrefuses, -⟩ := exists_decode_iff_acceptable hrefused
  cases hdecode : decode looseData with
  | error cause => simp [hdecode, Except.isOk, Except.toBool] at hread
  | ok expr =>
      refine ⟨htyped, hrefused, haccepts.mp ⟨expr, hdecode⟩, fun haccepted => ?_, expr, rfl,
        hnormal expr hdecode⟩
      obtain ⟨other, hother⟩ := hrefuses.mpr haccepted
      simp [hother, Except.isOk, Except.toBool] at hunread

end StoredExpr

end SurveyForm
