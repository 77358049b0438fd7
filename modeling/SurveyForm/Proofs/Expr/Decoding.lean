import Mathlib.Data.List.Forall2
import SurveyForm.Expr.Encoding
/-!
Reading stored conditions.  What a value must hold to be read as an expression of some
kind, and that every condition is read back from the data it is written as.
-/

namespace SurveyForm

/-- Two steps end well if the first one does and the second goes on from its result. -/
theorem bind_eq_ok_iff {ε α β : Type} {first : Except ε α} {second : α → Except ε β} {result : β} :
    first >>= second = .ok result ↔ ∃ found, first = .ok found ∧ second found = .ok result := by
  cases first with
  | error cause => simp [bind, Except.bind]
  | ok found => simp [bind, Except.bind]

/-- A reader of lists that goes from item to item reads each item as one of the results. -/
theorem eq_ok_iff_forall₂ {ε α β : Type} {item : α → Except ε β} {all : List α → Except ε (List β)}
    (hnil : all [] = .ok [])
    (hcons : ∀ first rest, all (first :: rest) = do
      let result ← item first
      return result :: (← all rest))
    {items : List α} {results : List β} :
    all items = .ok results ↔
      List.Forall₂ (fun first result => item first = .ok result) items results := by
  induction items generalizing results with
  | nil => simp [hnil, eq_comm]
  | cons first rest ih =>
      rw [hcons, bind_eq_ok_iff, List.forall₂_cons_left_iff]
      refine exists_congr fun result => ?_
      rw [bind_eq_ok_iff]
      simp only [ih, pure, Except.pure, Except.ok.injEq]
      constructor
      · rintro ⟨hresult, more, hmore, rfl⟩
        exact ⟨more, hresult, hmore, rfl⟩
      · rintro ⟨more, hresult, hmore, rfl⟩
        exact ⟨hresult, more, hmore, rfl⟩

namespace Value

/-- A value that holds something under a name is a map, and what it holds is a part of it. -/
theorem sizeOf_of_get? {value item : Value} {name : String} (hget : value.get? name = some item) :
    sizeOf item < sizeOf value := by
  cases value with
  | map entries =>
      obtain ⟨entry, hfound, rfl⟩ := Option.map_eq_some_iff.mp hget
      have hentry := List.sizeOf_lt_of_mem (List.mem_of_find?_eq_some hfound)
      obtain ⟨key, item⟩ := entry
      simp only [Prod.mk.sizeOf_spec, map.sizeOf_spec] at hentry ⊢
      omega
  | _ => contradiction

end Value

namespace StoredExpr

variable {entries : List (Value × Value)} {name : String}

/-! ### The members of a map -/

theorem map_member?_cons (key item : Value) (rest : List (Value × Value)) (name : String) :
    (member? ((key, item) :: rest) name).map (·.1) =
      if key.isKey name then some item else (member? rest name).map (·.1) := by
  -- The definition is opened by what it is, since its cases carry proofs.
  let Part := { part : Value // sizeOf part < sizeOf ((key, item) :: rest) }
  change Option.map (fun found : Part => found.1) (if key.isKey name then some ⟨item, _⟩
    else (member? rest name).map fun found => ⟨found.1, _⟩) = _
  split
  · rfl
  · rw [Option.map_map]
    rfl

theorem map_member? (entries : List (Value × Value)) (name : String) :
    (member? entries name).map (·.1) = (Value.map entries).get? name := by
  induction entries with
  | nil => rfl
  | cons entry rest ih =>
      obtain ⟨key, item⟩ := entry
      simp only [Value.get?] at ih
      rw [map_member?_cons, ih]
      cases hkey : key.isKey name <;> simp [Value.get?, hkey]

theorem kindMember_eq (entries : List (Value × Value)) :
    kindMember entries = ((Value.map entries).get? "type").getD .null := by
  rw [kindMember, map_member?]

/-- The call that a member names, if it is given and is not null. -/
def wrapperOf? : Option Value → Option Value
  | some .null => none
  | found => found

theorem wrapperMember_eq (entries : List (Value × Value)) :
    wrapperMember entries = wrapperOf? ((Value.map entries).get? "wrapper_function") := by
  rw [wrapperMember, ← map_member?]
  cases member? entries "wrapper_function" with
  | none => rfl
  | some found =>
      obtain ⟨item, hsize⟩ := found
      cases item <;> rfl

theorem exists_requireMember_iff {item : Value} :
    (∃ found, requireMember entries name = .ok found ∧ found.1 = item) ↔
      (Value.map entries).get? name = some item := by
  rw [requireMember, ← map_member?]
  cases member? entries name with
  | none => simp
  | some found => simp

theorem get?_of_requireMember {found : { item : Value // sizeOf item < sizeOf entries }}
    (hfound : requireMember entries name = .ok found) :
    (Value.map entries).get? name = some found.1 :=
  exists_requireMember_iff.mp ⟨found, hfound, rfl⟩

/-- The items of a member that may be left out.  An empty text and an empty map count as
lists without items. -/
def itemsOf? : Option Value → Option (List Value)
  | none => some []
  | some (.list items) => some items
  | some (.text s) => if s = "" then some [] else none
  | some (.map []) => some []
  | some _ => none

theorem exists_listMember_iff {items : List Value} :
    (∃ found, listMember entries name = .ok found ∧ found.1 = items) ↔
      itemsOf? ((Value.map entries).get? name) = some items := by
  rw [listMember, ← map_member?]
  cases member? entries name with
  | none => simp [itemsOf?]
  | some found =>
      obtain ⟨item, hsize⟩ := found
      cases item with
      | text s => by_cases hs : s = "" <;> simp [itemsOf?, hs]
      | map inner => cases inner <;> simp [itemsOf?]
      | _ => simp [itemsOf?]

theorem itemsOf?_of_listMember {found : { items : List Value // sizeOf items ≤ sizeOf entries }}
    (hfound : listMember entries name = .ok found) :
    itemsOf? ((Value.map entries).get? name) = some found.1 :=
  exists_listMember_iff.mp ⟨found, hfound, rfl⟩

theorem operatorMember_eq_ok_iff {op : MatchOp} :
    operatorMember entries = .ok op ↔
      ∃ symbol, (Value.map entries).get? "op" = some (.text symbol) ∧
        MatchOp.ofSymbol? symbol = some op := by
  rw [operatorMember, requireMember, ← map_member?]
  cases member? entries "op" with
  | none => simp
  | some found =>
      obtain ⟨item, hsize⟩ := found
      cases item with
      | text s => cases hop : MatchOp.ofSymbol? s <;> simp [hop]
      | _ => simp

/-! ### What is read as what -/

/-- The expression that a value is read as, said one level deep. -/
inductive ReadsAs (value : Value) : StoredExpr → Prop
  | absent (hnull : value = .null) : ReadsAs value .absent
  | call {name : Value} {items : List Value} {args : List StoredExpr}
      (hkind : value.get? "type" = some (.text "call")) (hname : value.get? "name" = some name)
      (hitems : itemsOf? (value.get? "args") = some items) (hargs : decodeAll items = .ok args) :
      ReadsAs value (.call name args)
  | conditional {test whenTrue whenFalse : Value} {testExpr whenTrueExpr whenFalseExpr : StoredExpr}
      (hkind : value.get? "type" = some (.text "if")) (htest : value.get? "test" = some test)
      (hwhenTrue : value.get? "when_true" = some whenTrue)
      (hwhenFalse : value.get? "when_false" = some whenFalse)
      (htestExpr : decode test = .ok testExpr) (hwhenTrueExpr : decode whenTrue = .ok whenTrueExpr)
      (hwhenFalseExpr : decode whenFalse = .ok whenFalseExpr) :
      ReadsAs value (.conditional testExpr whenTrueExpr whenFalseExpr)
  | matching {symbol : String} {op : MatchOp} {path operand : Value}
      (hkind : value.get? "type" = some (.text "match"))
      (hsymbol : value.get? "op" = some (.text symbol)) (hop : MatchOp.ofSymbol? symbol = some op)
      (hpath : value.get? "path" = some path) (hoperand : value.get? "value" = some operand) :
      ReadsAs value (.matching op path operand)
  | comparison {op path operand : Value} (hkind : value.get? "type" = some (.text "compare"))
      (hop : value.get? "op" = some op) (hpath : value.get? "path" = some path)
      (hoperand : value.get? "value" = some operand) :
      ReadsAs value (.comparison op path operand (wrapperOf? (value.get? "wrapper_function")))
  | group {items : List Value} {terms : List (Term StoredExpr)}
      (hkind : value.get? "type" = some (.text "group"))
      (hitems : itemsOf? (value.get? "terms") = some items)
      (hterms : decodeTerms items = .ok terms) : ReadsAs value (.group terms)
  | unparsed {text : Value} (hkind : value.get? "type" = some (.text "unparsed"))
      (htext : value.get? "text" = some text) : ReadsAs value (.unparsed text)

theorem get?_type_eq {kind : String} (hkind : kindMember entries = .text kind) :
    (Value.map entries).get? "type" = some (.text kind) := by
  rw [kindMember_eq] at hkind
  cases hget : (Value.map entries).get? "type" <;> simp_all

theorem readsAs_of_decode {value : Value} {expr : StoredExpr} (hdecode : decode value = .ok expr) :
    ReadsAs value expr := by
  rw [decode.eq_def] at hdecode
  split at hdecode
  · obtain rfl := Except.ok.inj hdecode
    exact .absent rfl
  · split at hdecode
    · next hkind =>
        obtain ⟨name, hname, hdecode⟩ := bind_eq_ok_iff.mp hdecode
        obtain ⟨items, hitems, hdecode⟩ := bind_eq_ok_iff.mp hdecode
        obtain ⟨args, hargs, hdecode⟩ := bind_eq_ok_iff.mp hdecode
        obtain rfl := Except.ok.inj hdecode
        exact .call (get?_type_eq hkind) (get?_of_requireMember hname)
          (itemsOf?_of_listMember hitems) hargs
    · next hkind =>
        obtain ⟨test, htest, hdecode⟩ := bind_eq_ok_iff.mp hdecode
        obtain ⟨testExpr, htestExpr, hdecode⟩ := bind_eq_ok_iff.mp hdecode
        obtain ⟨whenTrue, hwhenTrue, hdecode⟩ := bind_eq_ok_iff.mp hdecode
        obtain ⟨whenTrueExpr, hwhenTrueExpr, hdecode⟩ := bind_eq_ok_iff.mp hdecode
        obtain ⟨whenFalse, hwhenFalse, hdecode⟩ := bind_eq_ok_iff.mp hdecode
        obtain ⟨whenFalseExpr, hwhenFalseExpr, hdecode⟩ := bind_eq_ok_iff.mp hdecode
        obtain rfl := Except.ok.inj hdecode
        exact .conditional (get?_type_eq hkind) (get?_of_requireMember htest)
          (get?_of_requireMember hwhenTrue) (get?_of_requireMember hwhenFalse)
          htestExpr hwhenTrueExpr hwhenFalseExpr
    · next hkind =>
        obtain ⟨op, hop, hdecode⟩ := bind_eq_ok_iff.mp hdecode
        obtain ⟨path, hpath, hdecode⟩ := bind_eq_ok_iff.mp hdecode
        obtain ⟨operand, hoperand, hdecode⟩ := bind_eq_ok_iff.mp hdecode
        obtain rfl := Except.ok.inj hdecode
        obtain ⟨symbol, hsymbol, hop⟩ := operatorMember_eq_ok_iff.mp hop
        exact .matching (get?_type_eq hkind) hsymbol hop (get?_of_requireMember hpath)
          (get?_of_requireMember hoperand)
    · next hkind =>
        obtain ⟨op, hop, hdecode⟩ := bind_eq_ok_iff.mp hdecode
        obtain ⟨path, hpath, hdecode⟩ := bind_eq_ok_iff.mp hdecode
        obtain ⟨operand, hoperand, hdecode⟩ := bind_eq_ok_iff.mp hdecode
        obtain rfl := Except.ok.inj hdecode
        rw [wrapperMember_eq]
        exact .comparison (get?_type_eq hkind) (get?_of_requireMember hop)
          (get?_of_requireMember hpath) (get?_of_requireMember hoperand)
    · next hkind =>
        obtain ⟨items, hitems, hdecode⟩ := bind_eq_ok_iff.mp hdecode
        obtain ⟨terms, hterms, hdecode⟩ := bind_eq_ok_iff.mp hdecode
        obtain rfl := Except.ok.inj hdecode
        exact .group (get?_type_eq hkind) (itemsOf?_of_listMember hitems) hterms
    · next hkind =>
        obtain ⟨text, htext, hdecode⟩ := bind_eq_ok_iff.mp hdecode
        obtain rfl := Except.ok.inj hdecode
        exact .unparsed (get?_type_eq hkind) (get?_of_requireMember htext)
    · contradiction
  · contradiction

theorem exists_map_of_get? {value item : Value} {name : String}
    (hget : value.get? name = some item) : ∃ entries, value = .map entries := by
  cases value with
  | map entries => exact ⟨entries, rfl⟩
  | _ => contradiction

theorem ReadsAs.decode_eq {value : Value} {expr : StoredExpr} (hreads : ReadsAs value expr) :
    decode value = .ok expr := by
  cases hreads with
  | absent hnull =>
      subst hnull
      rw [decode]
  | call hkind hname hitems hargs =>
      obtain ⟨entries, rfl⟩ := exists_map_of_get? hkind
      obtain ⟨name, hrequired, rfl⟩ := exists_requireMember_iff.mpr hname
      obtain ⟨items, hlisted, rfl⟩ := exists_listMember_iff.mpr hitems
      simp [decode, kindMember_eq, hkind, hrequired, hlisted, hargs, bind, Except.bind, pure,
        Except.pure]
  | conditional hkind htest hwhenTrue hwhenFalse htestExpr hwhenTrueExpr hwhenFalseExpr =>
      obtain ⟨entries, rfl⟩ := exists_map_of_get? hkind
      obtain ⟨test, htest, rfl⟩ := exists_requireMember_iff.mpr htest
      obtain ⟨whenTrue, hwhenTrue, rfl⟩ := exists_requireMember_iff.mpr hwhenTrue
      obtain ⟨whenFalse, hwhenFalse, rfl⟩ := exists_requireMember_iff.mpr hwhenFalse
      simp [decode, kindMember_eq, *, bind, Except.bind, pure, Except.pure]
  | matching hkind hsymbol hop hpath hoperand =>
      obtain ⟨entries, rfl⟩ := exists_map_of_get? hkind
      obtain ⟨path, hpath, rfl⟩ := exists_requireMember_iff.mpr hpath
      obtain ⟨operand, hoperand, rfl⟩ := exists_requireMember_iff.mpr hoperand
      have hoperator := operatorMember_eq_ok_iff.mpr ⟨_, hsymbol, hop⟩
      simp [decode, kindMember_eq, *, bind, Except.bind, pure, Except.pure]
  | comparison hkind hop hpath hoperand =>
      obtain ⟨entries, rfl⟩ := exists_map_of_get? hkind
      obtain ⟨op, hop, rfl⟩ := exists_requireMember_iff.mpr hop
      obtain ⟨path, hpath, rfl⟩ := exists_requireMember_iff.mpr hpath
      obtain ⟨operand, hoperand, rfl⟩ := exists_requireMember_iff.mpr hoperand
      simp [decode, kindMember_eq, wrapperMember_eq, *, bind, Except.bind, pure, Except.pure]
  | group hkind hitems hterms =>
      obtain ⟨entries, rfl⟩ := exists_map_of_get? hkind
      obtain ⟨items, hlisted, rfl⟩ := exists_listMember_iff.mpr hitems
      simp [decode, kindMember_eq, hkind, hlisted, hterms, bind, Except.bind, pure, Except.pure]
  | unparsed hkind htext =>
      obtain ⟨entries, rfl⟩ := exists_map_of_get? hkind
      obtain ⟨text, hrequired, rfl⟩ := exists_requireMember_iff.mpr htext
      simp [decode, kindMember_eq, hkind, hrequired, bind, Except.bind, pure, Except.pure]

theorem decode_eq_ok_iff {value : Value} {expr : StoredExpr} :
    decode value = .ok expr ↔ ReadsAs value expr :=
  ⟨readsAs_of_decode, ReadsAs.decode_eq⟩

theorem decodeAll_eq_ok_iff {values : List Value} {exprs : List StoredExpr} :
    decodeAll values = .ok exprs ↔
      List.Forall₂ (fun value expr => decode value = .ok expr) values exprs := by
  refine eq_ok_iff_forall₂ ?_ fun value rest => ?_
  · rw [decodeAll]
  · rw [decodeAll]
    rfl

/-- The disjunct that a value is read as: a list is one with several members. -/
def decodeTerm : Value → Except DecodeError (Term StoredExpr)
  | .list members => (decodeAll members).map .all
  | value => (decode value).map .one

theorem decodeTerm_list {members : List Value} {exprs : List StoredExpr}
    (hmembers : decodeAll members = .ok exprs) :
    decodeTerm (.list members) = .ok (.all exprs) := by
  rw [decodeTerm, hmembers]
  rfl

/-- No list is read as an expression. -/
theorem decodeTerm_of_decode {value : Value} {expr : StoredExpr}
    (hvalue : decode value = .ok expr) : decodeTerm value = .ok (.one expr) := by
  cases value with
  | list members => cases readsAs_of_decode hvalue <;> contradiction
  | _ =>
      rw [decodeTerm, hvalue]
      · rfl
      · simp

theorem decodeTerms_cons (value : Value) (rest : List Value) :
    decodeTerms (value :: rest) = do
      let term ← decodeTerm value
      return term :: (← decodeTerms rest) := by
  cases value with
  | list members =>
      rw [decodeTerms, decodeTerm]
      cases decodeAll members <;> rfl
  | _ =>
      rw [decodeTerms, decodeTerm]
      · cases decode _ <;> rfl
      all_goals simp

theorem decodeTerms_eq_ok_iff {values : List Value} {terms : List (Term StoredExpr)} :
    decodeTerms values = .ok terms ↔
      List.Forall₂ (fun value term => decodeTerm value = .ok term) values terms := by
  refine eq_ok_iff_forall₂ ?_ decodeTerms_cons
  rw [decodeTerms]

end StoredExpr

namespace ExprOver

variable {α β : Type} {f : α → β} {g : β → α}

mutual

/-- What is changed and changed back is the same tree. -/
theorem map_map_of_leftInverse (hinverse : ∀ x, g (f x) = x) :
    ∀ expr : ExprOver α, (expr.map f).map g = expr
  | .absent => rfl
  | .call name args => by simp [map, hinverse, mapAll_mapAll_of_leftInverse hinverse args]
  | .conditional test whenTrue whenFalse => by
      simp [map, map_map_of_leftInverse hinverse test, map_map_of_leftInverse hinverse whenTrue,
        map_map_of_leftInverse hinverse whenFalse]
  | .matching op path value => by simp [map, hinverse]
  | .comparison op path value wrapper => by
      cases wrapper <;> simp [map, hinverse]
  | .group terms => by simp [map, mapTerms_mapTerms_of_leftInverse hinverse terms]
  | .unparsed text => by simp [map, hinverse]

theorem mapAll_mapAll_of_leftInverse (hinverse : ∀ x, g (f x) = x) :
    ∀ exprs : List (ExprOver α), mapAll g (mapAll f exprs) = exprs
  | [] => rfl
  | expr :: rest => by
      simp [mapAll, map_map_of_leftInverse hinverse expr,
        mapAll_mapAll_of_leftInverse hinverse rest]

theorem mapTerms_mapTerms_of_leftInverse (hinverse : ∀ x, g (f x) = x) :
    ∀ terms : List (Term (ExprOver α)), mapTerms g (mapTerms f terms) = terms
  | [] => rfl
  | .one member :: rest => by
      simp [mapTerms, map_map_of_leftInverse hinverse member,
        mapTerms_mapTerms_of_leftInverse hinverse rest]
  | .all members :: rest => by
      simp [mapTerms, mapAll_mapAll_of_leftInverse hinverse members,
        mapTerms_mapTerms_of_leftInverse hinverse rest]

end

end ExprOver

namespace StoredExpr

mutual

theorem decode_encode_map_text : ∀ expr : Expr,
    decode (encode (expr.map .text)) = .ok (expr.map .text)
  | .absent => decode_eq_ok_iff.mpr (.absent rfl)
  | .call name args => decode_eq_ok_iff.mpr (.call rfl rfl rfl (decodeAll_encodeAll args))
  | .conditional test whenTrue whenFalse =>
      decode_eq_ok_iff.mpr
        (.conditional rfl rfl rfl rfl (decode_encode_map_text test)
          (decode_encode_map_text whenTrue) (decode_encode_map_text whenFalse))
  | .matching op path value => by
      cases op <;> exact decode_eq_ok_iff.mpr (.matching rfl rfl rfl rfl rfl)
  | .comparison op path value wrapper => by
      cases wrapper <;> exact decode_eq_ok_iff.mpr (.comparison rfl rfl rfl rfl)
  | .group terms => decode_eq_ok_iff.mpr (.group rfl rfl (decodeTerms_encodeTerms terms))
  | .unparsed text => decode_eq_ok_iff.mpr (.unparsed rfl rfl)

theorem decodeAll_encodeAll : ∀ exprs : List Expr,
    decodeAll (encodeAll (ExprOver.mapAll .text exprs)) = .ok (ExprOver.mapAll .text exprs)
  | [] => decodeAll_eq_ok_iff.mpr .nil
  | expr :: rest =>
      decodeAll_eq_ok_iff.mpr
        (.cons (decode_encode_map_text expr) (decodeAll_eq_ok_iff.mp (decodeAll_encodeAll rest)))

theorem decodeTerms_encodeTerms : ∀ terms : List (Term Expr),
    decodeTerms (encodeTerms (ExprOver.mapTerms .text terms)) =
      .ok (ExprOver.mapTerms .text terms)
  | [] => decodeTerms_eq_ok_iff.mpr .nil
  | .one member :: rest =>
      decodeTerms_eq_ok_iff.mpr
        (.cons (decodeTerm_of_decode (decode_encode_map_text member))
          (decodeTerms_eq_ok_iff.mp (decodeTerms_encodeTerms rest)))
  | .all members :: rest =>
      decodeTerms_eq_ok_iff.mpr
        (.cons (decodeTerm_list (decodeAll_encodeAll members))
          (decodeTerms_eq_ok_iff.mp (decodeTerms_encodeTerms rest)))

end

end StoredExpr

/-- The text that a value is; it is empty for what is no text. -/
def Value.textOrEmpty : Value → String
  | .text s => s
  | _ => ""

/-- A condition is read back from the data it is written as: the same tree, with its names,
paths and texts as values, and no other condition is read as that tree. -/
theorem Expr.decode_encode (expr : Expr) :
    StoredExpr.decode expr.encode = .ok (expr.map Value.text) ∧
      ∀ other : Expr, other.map Value.text = expr.map Value.text → other = expr := by
  refine ⟨StoredExpr.decode_encode_map_text expr, fun other hother => ?_⟩
  have hinverse : ∀ s, Value.textOrEmpty (.text s) = s := fun _ => rfl
  calc
    other = (other.map Value.text).map Value.textOrEmpty :=
      (ExprOver.map_map_of_leftInverse hinverse other).symm
    _ = (expr.map Value.text).map Value.textOrEmpty := by rw [hother]
    _ = expr := ExprOver.map_map_of_leftInverse hinverse expr

-- A list keeps a disjunct that has one member in a row apart from a single member.
example : Expr.encode (.group [.one .absent, .all [.absent], .all []]) =
    .object [("type", .text "group"), ("terms", .list [.null, .list [.null], .list []])] :=
  rfl

end SurveyForm
