import Mathlib.Data.List.DropRight
import EncodingLint.Fix.Basic
import EncodingLint.Proofs.EditList
import EncodingLint.Proofs.LineLayout

/-!
# Where a fix goes in

The pieces of an argument list make up its text (`flatMap_pieces`), and a piece of code ends in a
character other than CR unless the text ends with it (`pieces_closed`). So the end of the last piece of
code is a caret of the source, whatever the list holds: literals and comments without an end, line
breaks of any kind, characters of any width (`isCaret_of_edit?`).
-/

set_option autoImplicit false

namespace EncodingLint.Fix

open Text (byteSize IsCaret)

variable {f : Fix} {source inside text : Text} {call : Call} {edit : Edit}

/-! ## Pieces -/

/-- The pieces of a text make it up. -/
theorem flatMap_pieces (text : Text) : (pieces text).flatMap Piece.text = text := by
  fun_induction pieces text with
  | case1 => rfl
  | case2 c cs ih => rw [List.flatMap_cons, ih, Piece.next_append]

/-- A literal goes on to its closing mark, or else to the end of the text. -/
theorem splitLiteral_closed (mark : Char) (cs : Text) :
    (Piece.splitLiteral mark cs).2 = [] ∨
      ∃ init, (Piece.splitLiteral mark cs).1 = init ++ [mark] := by
  fun_induction Piece.splitLiteral mark cs with
  | case1 => exact .inl rfl
  | case2 => exact .inl rfl
  | case3 c cs inside rest split ih =>
    rw [split] at ih
    rcases ih with ended | ⟨init, closed⟩
    · exact .inl ended
    · obtain rfl : inside = init ++ [mark] := closed
      exact .inr ⟨'\\' :: c :: init, rfl⟩
  | case4 => exact .inr ⟨[], rfl⟩
  | case5 c cs _ _ _ inside rest split ih =>
    rw [split] at ih
    rcases ih with ended | ⟨init, closed⟩
    · exact .inl ended
    · obtain rfl : inside = init ++ [mark] := closed
      exact .inr ⟨c :: init, rfl⟩

/-- A piece of code ends in a character other than CR, or else it ends the text. -/
theorem next_closed (c : Char) (cs : Text) :
    (Piece.next c cs).1.isCode = true →
      (Piece.next c cs).2 = [] ∨
        ∃ init last, (Piece.next c cs).1.text = init ++ [last] ∧ last ≠ '\r' := by
  fun_cases Piece.next c cs with
  | case1 => simp [Piece.isCode]
  | case2 => simp [Piece.isCode]
  | case3 _ _ _ _ mark inside rest split =>
    intro _
    have closed := splitLiteral_closed c cs
    rw [split] at closed
    rcases closed with ended | ⟨init, closed⟩
    · exact .inl ended
    · obtain rfl : inside = init ++ [c] := closed
      refine .inr ⟨c :: init, c, rfl, ?_⟩
      rcases mark with rfl | rfl <;> decide
  | case4 => simp [Piece.isCode]
  | case5 _ _ _ _ _ filled =>
    intro _
    refine .inr ⟨[], c, rfl, ?_⟩
    rintro rfl
    exact filled rfl

theorem pieces_closed {before behind : List Piece} {p : Piece}
    (whole : pieces text = before ++ p :: behind) (isCode : p.isCode = true) :
    behind = [] ∨ ∃ init last, p.text = init ++ [last] ∧ last ≠ '\r' := by
  fun_induction pieces text generalizing before with
  | case1 => simp at whole
  | case2 c cs ih =>
    cases before with
    | nil =>
      obtain ⟨rfl, rfl⟩ := List.cons.inj whole
      rcases next_closed c cs isCode with ended | closed
      · rw [ended, pieces]
        exact .inl rfl
      · exact .inr closed
    | cons q before => exact ih (List.cons.inj whole).2

/-- Pieces of which the last one, if there is one, is code. -/
def EndInCode (ps : List Piece) : Prop :=
  ∀ p ∈ ps.getLast?, p.isCode = true

/-- The pieces of a text are those up to the last code and others, which are not code. -/
theorem exists_trivia (text : Text) :
    ∃ trivia, pieces text = codePieces text ++ trivia ∧ (∀ q ∈ trivia, q.isCode = false) ∧
      EndInCode (codePieces text) := by
  have reversed : codePieces text = (pieces text).rdropWhile fun p => !p.isCode := rfl
  refine ⟨(pieces text).rtakeWhile fun p => !p.isCode, ?_, fun q member => ?_, fun p last => ?_⟩
  · rw [reversed, List.rdropWhile_append_rtakeWhile]
  · simpa using List.mem_rtakeWhile_imp member
  · obtain ⟨some_code, rfl⟩ := List.mem_getLast?_eq_getLast last
    have last_code := List.rdropWhile_last_not (fun p : Piece => !p.isCode) (pieces text) some_code
    rwa [Bool.not_eq_true, Bool.not_eq_false'] at last_code

/-- The text up to the end of its last piece of code begins the text, and does not end in CR unless it
is the whole text. -/
theorem codeText_append (text : Text) :
    ∃ trivia, text = codeText text ++ trivia ∧
      (trivia = [] ∨ (codeText text).getLast? ≠ some '\r') := by
  obtain ⟨behind, whole, -, code⟩ := exists_trivia text
  refine ⟨behind.flatMap Piece.text, ?_, ?_⟩
  · rw [codeText, ← List.flatMap_append, ← whole, flatMap_pieces]
  · rcases List.eq_nil_or_concat (codePieces text) with empty | ⟨init, p, ends⟩
    · rw [codeText, empty]
      exact .inr (by simp)
    · have isCode : p.isCode = true := code p (by simp [ends])
      rw [ends, List.concat_eq_append, List.append_assoc] at whole
      rcases pieces_closed whole isCode with rfl | ⟨front, last, closed, other⟩
      · exact .inl rfl
      · rw [codeText, ends, List.concat_eq_append, List.flatMap_append, List.flatMap_singleton, closed]
        exact .inr (by simp [other])

/-! ## The edit of a fix -/

/-- The range of a span has the same ends. -/
theorem toRange?_eq_some_iff {span : Span} {range : TextRange} :
    span.toRange? = some range ↔
      span.start ≤ maxOffset ∧ span.stop ≤ maxOffset ∧ range.start = span.start ∧
        range.stop = span.stop := by
  unfold Span.toRange? TextRange.between?
  constructor
  · intro h
    obtain ⟨small, h⟩ := Option.ite_none_right_eq_some.1 h
    split at h
    next => cases h; exact ⟨small.1, small.2, rfl, rfl⟩
    next => cases h
  · rintro ⟨start, stop, same_start, same_stop⟩
    obtain ⟨a, b, ordered⟩ := range
    obtain rfl : a = span.start := same_start
    obtain rfl : b = span.stop := same_stop
    rw [if_pos ⟨start, stop⟩, dif_pos ordered]

theorem insideParentheses?_eq_some_iff :
    insideParentheses? text = some inside ↔ text = '(' :: (inside ++ [')']) := by
  constructor
  · intro h
    unfold insideParentheses? at h
    split at h
    next rest =>
      obtain ⟨closed, same⟩ := Option.ite_none_right_eq_some.1 h
      obtain ⟨init, rfl⟩ := List.getLast?_eq_some_iff.1 closed
      rw [List.dropLast_concat, Option.some.injEq] at same
      rw [same]
    next => cases h
  · rintro rfl
    simp [insideParentheses?]

/-- A span delimits an argument list of a source: both ends are boundaries, and between them stand an
opening parenthesis, the text inside and a closing parenthesis. -/
def Delimits (source : Text) (span : Span) (inside : Text) : Prop :=
  ∃ before after, source = before ++ '(' :: (inside ++ [')']) ++ after ∧
    span.start = byteSize before ∧
    span.stop = byteSize before + byteSize ('(' :: (inside ++ [')']))

/-- An argument list is found at a span that can be counted and delimits it. -/
theorem inside?_eq_some_iff {span : Span} :
    (span.toRange?.bind fun range =>
        (Text.slice? source range.start range.stop).bind insideParentheses?) = some inside ↔
      span.start ≤ maxOffset ∧ span.stop ≤ maxOffset ∧ Delimits source span inside := by
  simp only [Option.bind_eq_some_iff, insideParentheses?_eq_some_iff]
  constructor
  · rintro ⟨range, ordered, _, cut, rfl⟩
    obtain ⟨start_le, stop_le, start, stop⟩ := toRange?_eq_some_iff.1 ordered
    obtain ⟨before, after, whole, at_start, at_stop⟩ := Text.slice?_eq_some_iff.1 cut
    exact ⟨start_le, stop_le, before, after, whole, start ▸ at_start, stop ▸ at_stop⟩
  · rintro ⟨start_le, stop_le, before, after, whole, at_start, at_stop⟩
    have ordered : span.start ≤ span.stop := by omega
    refine ⟨⟨span.start, span.stop, ordered⟩, ?_, _, ?_, rfl⟩
    · exact toRange?_eq_some_iff.2 ⟨start_le, stop_le, rfl, rfl⟩
    · exact Text.slice?_eq_some_iff.2 ⟨before, after, whole, at_start, at_stop⟩

/-- The text that a fix puts in. -/
def insertedText (f : Fix) (call : Call) : Text :=
  ((if call.arguments.isEmpty then "" else ", ") ++ f.insertion).toList

/-- A fix with something to edit has found the arguments of the call, and inserts its text behind their code. -/
theorem exists_delimits_of_edit? (edited : f.edit? source call = .ok (some edit)) :
    ∃ span inside, call.argumentList = some span ∧ span.start ≤ maxOffset ∧ Delimits source span inside ∧
      edit = .insert (span.start + 1 + codeEnd inside) (f.insertedText call) := by
  cases recorded : call.argumentList with
  | none => simp [edit?, recorded, pure, Except.pure] at edited
  | some list =>
    simp only [edit?, recorded] at edited
    split at edited
    next => exact absurd edited Outcome.throw_ne_ok
    next inside found =>
      obtain ⟨start_le, -, delimits⟩ := inside?_eq_some_iff.1 found
      have same := Option.some.inj (Outcome.pure_eq_ok_iff.1 edited)
      exact ⟨list, inside, rfl, start_le, delimits, same.symm⟩

/-- The text of a fix goes in between two parentheses. -/
theorem exists_list_of_edit? (edited : f.edit? source call = .ok (some edit)) :
    ∃ before inside after, source = before ++ '(' :: (inside ++ [')']) ++ after ∧
      edit = .insert (byteSize before + 1 + codeEnd inside) (f.insertedText call) := by
  obtain ⟨span, inside, -, -, ⟨before, after, whole, at_start, -⟩, rfl⟩ := exists_delimits_of_edit? edited
  rw [at_start]
  exact ⟨before, inside, after, whole, rfl⟩

theorem isInsert_of_edit? (edited : f.edit? source call = .ok (some edit)) :
    edit.isInsert = true := by
  obtain ⟨before, inside, after, -, rfl⟩ := exists_list_of_edit? edited
  simp [Edit.isInsert, Edit.insert, TextRange.point, TextRange.isEmpty]

/-- An argument list and what is around it, cut behind the code between the parentheses. -/
theorem cut_behind_code {inside trivia : Text} (whole : inside = codeText inside ++ trivia) (before after : Text) :
    before ++ '(' :: (inside ++ [')']) ++ after =
      (before ++ '(' :: codeText inside) ++ (trivia ++ ')' :: after) := by
  conv => lhs; rw [whole]
  simp

theorem byteSize_upTo_code (before inside : Text) :
    byteSize (before ++ '(' :: codeText inside) = byteSize before + 1 + codeEnd inside := by
  rw [Text.byteSize_append, Nat.add_assoc]
  rfl

/-- A fix goes in at a caret of the source. -/
theorem isCaret_of_edit? (edited : f.edit? source call = .ok (some edit)) :
    IsCaret source edit.range.start := by
  obtain ⟨before, inside, after, rfl, rfl⟩ := exists_list_of_edit? edited
  obtain ⟨trivia, whole, closed⟩ := codeText_append inside
  have size : (Edit.insert (byteSize before + 1 + codeEnd inside) (f.insertedText call)).range.start =
      byteSize (before ++ '(' :: codeText inside) := (byteSize_upTo_code before inside).symm
  rw [cut_behind_code whole, size]
  apply Text.isCaret_append
  intro last head
  rcases closed with rfl | other
  · -- All of the text inside is code, so that the closing parenthesis comes next.
    simp at head
  · cases code : codeText inside with
    | nil => simp [code] at last
    | cons c cs =>
      rw [code] at last other
      exact other (by simpa using last)

/-- To apply a fix is to put its text in at the caret of its edit. -/
theorem apply_of_edit? (edited : f.edit? source call = .ok (some edit)) :
    f.apply source call =
      .ok (Text.splice source edit.range.start edit.range.start edit.replacement) := by
  have boundary := (isCaret_of_edit? edited).boundary
  obtain ⟨before, inside, after, -, rfl⟩ := exists_list_of_edit? edited
  have within : Edit.Within source
      (.insert (byteSize before + 1 + codeEnd inside) (f.insertedText call)) :=
    ⟨boundary, boundary⟩
  rw [apply, edited]
  change (Edit.applyAll source [_]).mapError FixError.edit = _
  rw [Edit.applyAll_singleton within]
  rfl

end EncodingLint.Fix
