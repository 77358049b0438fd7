import SurveyForm.Proofs.Token.Reading
/-!
Where the tokens of a text stand.  They follow each other without a gap from the
first character to the last, and the text between the two ends of any run of them
is read as that run again, only that its places are counted from zero.
-/

namespace SurveyForm.Token

/-- A token with the places at which it begins and ends, counted in characters. -/
structure Placed where
  token : Token
  start : Nat
  stop : Nat
deriving DecidableEq, Repr

/-- The tokens of what is left of a text from a place on.  A token ends where
reading goes on, after all the characters that are no longer left. -/
def placedFrom (start : Nat) : List Char → List Placed
  | [] => []
  | first :: rest =>
      ⟨(next first rest).1, start, start + (rest.length + 1 - (next first rest).2.length)⟩ ::
        placedFrom (start + (rest.length + 1 - (next first rest).2.length)) (next first rest).2
termination_by text => text.length
decreasing_by
  have := length_next_le first rest
  simp only [List.length_cons]
  omega

/-- The tokens of a text, each with its places. -/
def placed (text : List Char) : List Placed :=
  placedFrom 0 text

/-- The same token in a text that begins that many characters earlier. -/
def Placed.moveBy (offset : Nat) (piece : Placed) : Placed :=
  ⟨piece.token, offset + piece.start, offset + piece.stop⟩

/-- `Covers start pieces stop`: each token begins where the one before it ends, from
the one place to the other, and none is empty. -/
def Covers : Nat → List Placed → Nat → Prop
  | start, [], stop => start = stop
  | start, piece :: rest, stop =>
      piece.start = start ∧ piece.start < piece.stop ∧ Covers piece.stop rest stop

/-- What the places say about the text: the tokens are all of it, each is what stands
between its places, and each is read there because of what follows it. -/
structure Tiles (text : List Char) (pieces : List Placed) : Prop where
  tokens_eq : pieces.map Placed.token = ofText text
  text_eq : textOf (pieces.map Placed.token) = text
  covers : Covers 0 pieces text.length
  ne_nil : ∀ piece ∈ pieces, piece.token.text ≠ []
  extract_eq : ∀ piece ∈ pieces, text.extract piece.start piece.stop = piece.token.text
  reads : ∀ piece ∈ pieces, Reads piece.token (text.drop piece.stop)

/-! ### Places by length -/

/-- The places of tokens that stand one behind the other, by the lengths of their texts. -/
def locate (start : Nat) : List Token → List Placed
  | [] => []
  | token :: rest =>
      ⟨token, start, start + token.text.length⟩ :: locate (start + token.text.length) rest

/-- Reading goes on right behind the text of the token. -/
theorem placedFrom_eq_locate (start : Nat) (text : List Char) :
    placedFrom start text = locate start (ofText text) := by
  induction text using ofText.induct generalizing start with
  | case1 => rw [placedFrom, ofText, locate]
  | case2 first rest ih =>
      have hlength : rest.length + 1 =
          (next first rest).1.text.length + (next first rest).2.length := by
        simpa using congrArg List.length (reads_next first rest).1
      rw [placedFrom, ofText, locate, hlength, Nat.add_sub_cancel, ih]

theorem placed_eq_locate (text : List Char) : placed text = locate 0 (ofText text) :=
  placedFrom_eq_locate 0 text

theorem map_token_locate (start : Nat) (tokens : List Token) :
    (locate start tokens).map Placed.token = tokens := by
  induction tokens generalizing start with
  | nil => rfl
  | cons token rest ih => rw [locate, List.map_cons, ih]

theorem map_moveBy_locate (offset start : Nat) (tokens : List Token) :
    (locate start tokens).map (Placed.moveBy offset) = locate (offset + start) tokens := by
  induction tokens generalizing start with
  | nil => rfl
  | cons token rest ih =>
      rw [locate, locate, List.map_cons, ih, Placed.moveBy, Nat.add_assoc]

/-- A cut between placed tokens is a cut between the tokens themselves. -/
theorem exists_of_locate_eq_append {start : Nat} {tokens : List Token}
    {left right : List Placed} (hlocate : locate start tokens = left ++ right) :
    ∃ front back, tokens = front ++ back ∧ left = locate start front ∧
      right = locate (start + (textOf front).length) back := by
  induction left generalizing start tokens with
  | nil => exact ⟨[], tokens, rfl, rfl, hlocate.symm⟩
  | cons piece left ih =>
      cases tokens with
      | nil => simp [locate] at hlocate
      | cons token rest =>
          obtain ⟨rfl, hrest⟩ := List.cons_eq_cons.mp hlocate
          obtain ⟨front, back, rfl, rfl, rfl⟩ := ih hrest
          exact ⟨token :: front, back, rfl, rfl, by simp [Nat.add_assoc]⟩

theorem exists_of_mem_locate {start : Nat} {tokens : List Token} {piece : Placed}
    (hmem : piece ∈ locate start tokens) :
    ∃ front back, tokens = front ++ piece.token :: back ∧
      piece.start = start + (textOf front).length ∧
      piece.stop = piece.start + piece.token.text.length := by
  obtain ⟨left, right, hlocate⟩ := List.append_of_mem hmem
  obtain ⟨front, back, rfl, -, hback⟩ := exists_of_locate_eq_append hlocate
  cases back with
  | nil => simp [locate] at hback
  | cons token back =>
      obtain ⟨rfl, -⟩ := List.cons_eq_cons.mp hback
      exact ⟨front, back, rfl, rfl, rfl⟩

theorem covers_locate {tokens : List Token} (hlexed : Lexed tokens) (start : Nat) :
    Covers start (locate start tokens) (start + (textOf tokens).length) := by
  induction tokens generalizing start with
  | nil => rfl
  | cons token rest ih =>
      have hpos : 0 < token.text.length := List.length_pos_iff.mpr hlexed.1.text_ne_nil
      refine ⟨rfl, Nat.lt_add_of_pos_right hpos, ?_⟩
      rw [textOf_cons, List.length_append, ← Nat.add_assoc]
      exact ih hlexed.2 _

/-! ### The text between two places -/

theorem extract_append (front middle back : List Char) :
    (front ++ middle ++ back).extract front.length (front.length + middle.length) = middle := by
  rw [List.extract_eq_take_drop, List.append_assoc, List.drop_left, Nat.add_sub_cancel_left,
    List.take_left]

/-- A token stands behind the text of the tokens before it. -/
theorem exists_of_mem_placed {text : List Char} {piece : Placed} (hmem : piece ∈ placed text) :
    ∃ front back, ofText text = front ++ piece.token :: back ∧
      text = textOf front ++ piece.token.text ++ textOf back ∧
      piece.start = (textOf front).length ∧
      piece.stop = (textOf front).length + piece.token.text.length := by
  rw [placed_eq_locate] at hmem
  obtain ⟨front, back, htokens, hstart, hstop⟩ := exists_of_mem_locate hmem
  rw [Nat.zero_add] at hstart
  have htext : text = textOf front ++ piece.token.text ++ textOf back := by
    rw [← textOf_ofText text, htokens]
    simp
  exact ⟨front, back, htokens, htext, hstart, by rw [hstop, hstart]⟩

theorem tiles_placed (text : List Char) : Tiles text (placed text) := by
  obtain ⟨htext, hlexed⟩ := lexed_ofText text
  have htokens : (placed text).map Placed.token = ofText text := by
    rw [placed_eq_locate, map_token_locate]
  refine ⟨htokens, by rw [htokens, htext], ?_, ?_, ?_, ?_⟩
  · have hcovers := covers_locate hlexed 0
    rwa [htext, Nat.zero_add, ← placed_eq_locate] at hcovers
  · intro piece hmem
    obtain ⟨after, hreads⟩ := hlexed.reads_of_mem (htokens ▸ List.mem_map_of_mem hmem)
    exact hreads.text_ne_nil
  · intro piece hmem
    obtain ⟨front, back, -, heq, hstart, hstop⟩ := exists_of_mem_placed hmem
    rw [hstart, hstop, heq]
    exact extract_append _ _ _
  · intro piece hmem
    obtain ⟨front, back, htokens, heq, -, hstop⟩ := exists_of_mem_placed hmem
    rw [htokens] at hlexed
    rw [hstop, heq, ← List.length_append, List.drop_left]
    exact hlexed.right.1

/-- The text that a run of tokens covers is read as that run. -/
theorem placed_extract_of_run {text : List Char} {before run after : List Placed}
    (hplaced : placed text = before ++ run ++ after) :
    ∃ start stop, Covers start run stop ∧
      text.extract start stop = textOf (run.map Placed.token) ∧
      (placed (text.extract start stop)).map (Placed.moveBy start) = run := by
  obtain ⟨htext, hlexed⟩ := lexed_ofText text
  rw [placed_eq_locate, List.append_assoc] at hplaced
  obtain ⟨front, rest, hfront, -, hrest⟩ := exists_of_locate_eq_append hplaced
  obtain ⟨middle, back, rfl, rfl, -⟩ := exists_of_locate_eq_append hrest.symm
  rw [hfront, ← List.append_assoc] at htext hlexed
  have hextract : text.extract (textOf front).length
      ((textOf front).length + (textOf middle).length) = textOf middle := by
    rw [← htext, textOf_append, textOf_append]
    exact extract_append _ _ _
  refine ⟨(textOf front).length, (textOf front).length + (textOf middle).length, ?_, ?_, ?_⟩
  · rw [Nat.zero_add]
    exact covers_locate hlexed.left.right _
  · rw [hextract, map_token_locate]
  · rw [hextract, placed_eq_locate, ofText_stretch hlexed, map_moveBy_locate, Nat.zero_add,
      Nat.add_zero]

/-- Reading a text loses nothing, and what it finds does not depend on where it begins or
ends: any run of the tokens is found again, at the same places, in the text that it covers. -/
theorem placed_tiles_and_rereads (text : List Char) :
    Tiles text (placed text) ∧
      ∀ before run after, placed text = before ++ run ++ after →
        ∃ start stop, Covers start run stop ∧
          text.extract start stop = textOf (run.map Placed.token) ∧
          (placed (text.extract start stop)).map (Placed.moveBy start) = run :=
  ⟨tiles_placed text, fun _ _ _ hplaced => placed_extract_of_run hplaced⟩

/-- Operators that run into each other, an exclamation mark alone and a quote that is never
closed. -/
def tangledText : List Char :=
  "x!==='a b'!(\"c".toList

/-- The tokens from the first operator to the exclamation mark. -/
def tangledRun : List Placed :=
  [⟨⟨.operator, ['!', '=']⟩, 1, 3⟩, ⟨⟨.operator, ['=', '=']⟩, 3, 5⟩,
    ⟨⟨.quoted, ['\'', 'a', ' ', 'b', '\'']⟩, 5, 10⟩, ⟨⟨.word, ['!']⟩, 10, 11⟩]

theorem placed_tiles_and_rereads_tangledRun :
    placed tangledText = [⟨⟨.word, ['x']⟩, 0, 1⟩] ++ tangledRun ++
        [⟨⟨.opening, ['(']⟩, 11, 12⟩, ⟨⟨.word, ['"']⟩, 12, 13⟩, ⟨⟨.word, ['c']⟩, 13, 14⟩] ∧
      Tiles tangledText (placed tangledText) ∧
      ∃ start stop, Covers start tangledRun stop ∧
        tangledText.extract start stop = textOf (tangledRun.map Placed.token) ∧
        (placed (tangledText.extract start stop)).map (Placed.moveBy start) = tangledRun := by
  obtain ⟨htiles, hruns⟩ := placed_tiles_and_rereads tangledText
  have hplaced : placed tangledText = [⟨⟨.word, ['x']⟩, 0, 1⟩] ++ tangledRun ++
      [⟨⟨.opening, ['(']⟩, 11, 12⟩, ⟨⟨.word, ['"']⟩, 12, 13⟩, ⟨⟨.word, ['c']⟩, 13, 14⟩] := by
    decide +kernel
  exact ⟨hplaced, htiles, hruns _ _ _ hplaced⟩

end SurveyForm.Token
