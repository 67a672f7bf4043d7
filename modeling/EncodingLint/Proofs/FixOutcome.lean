import EncodingLint.Proofs.ArgumentList

/-!
# What comes of a fix

A fix has three outcomes. Without a recorded argument list there is nothing to do; a span that is
`Misplaced` is refused; and in every other case the fix puts its text in between the two parentheses.
It never fails midway: the end of the code is a boundary of the text inside, whatever this is
(`isBoundary_codeEnd`), so the edit is accepted and applied (`inserted_of_delimits`).
-/

set_option autoImplicit false

namespace EncodingLint.Fix

open Text (byteSize)

variable {f : Fix} {source inside : Text} {call : Call} {span : Span}

/-- A span that is no place of an argument list: its ends are out of order or too large to count, or no
list in parentheses stands between them. -/
def Misplaced (source : Text) (span : Span) : Prop :=
  span.stop < span.start ∨ maxOffset < span.start ∨ maxOffset < span.stop ∨
    ¬ ∃ inside, Delimits source span inside

theorem Delimits.start_le_stop (delimits : Delimits source span inside) : span.start ≤ span.stop := by
  obtain ⟨before, after, -, at_start, at_stop⟩ := delimits
  omega

theorem Delimits.stop_le (delimits : Delimits source span inside) : span.stop ≤ byteSize source := by
  obtain ⟨start, rest, rfl, -, at_stop⟩ := delimits
  simp only [at_stop, Text.byteSize_append]
  omega

theorem not_misplaced_iff :
    ¬ Misplaced source span ↔
      ∃ inside, span.start ≤ maxOffset ∧ span.stop ≤ maxOffset ∧ Delimits source span inside := by
  simp only [Misplaced, not_or, not_lt, not_not]
  constructor
  · rintro ⟨-, start_le, stop_le, inside, delimits⟩
    exact ⟨inside, start_le, stop_le, delimits⟩
  · rintro ⟨inside, start_le, stop_le, delimits⟩
    exact ⟨delimits.start_le_stop, start_le, stop_le, inside, delimits⟩

/-! ## The edit -/

theorem edit?_of_misplaced (recorded : call.argumentList = some span)
    (misplaced : Misplaced source span) :
    f.edit? source call = .error (.noArgumentList span) := by
  simp only [edit?, recorded]
  split
  next => rfl
  next inside found =>
    have fits := inside?_eq_some_iff.1 found
    exact absurd misplaced (not_misplaced_iff.2 ⟨inside, fits⟩)

theorem edit?_of_delimits (recorded : call.argumentList = some span) (start_le : span.start ≤ maxOffset)
    (stop_le : span.stop ≤ maxOffset) (delimits : Delimits source span inside) :
    f.edit? source call =
      .ok (some (.insert (span.start + 1 + codeEnd inside) (f.insertedText call))) := by
  have found := inside?_eq_some_iff.2 ⟨start_le, stop_le, delimits⟩
  simp only [edit?, recorded, Option.bind_eq_bind, found]
  rfl

/-- The code inside ends on a boundary, whatever stands there. -/
theorem isBoundary_codeEnd (inside : Text) : Text.isBoundary inside (codeEnd inside) = true := by
  obtain ⟨trivia, whole, -⟩ := codeText_append inside
  exact Text.isBoundary_iff.2 ⟨codeText inside, trivia, whole, rfl⟩

/-- The end of the code inside lies between the parentheses. -/
theorem Delimits.between (delimits : Delimits source span inside) :
    span.start < span.start + 1 + codeEnd inside ∧ span.start + 1 + codeEnd inside < span.stop := by
  obtain ⟨before, after, -, at_start, at_stop⟩ := delimits
  have bounded : codeEnd inside ≤ byteSize inside :=
    Text.le_byteSize_of_isBoundary (isBoundary_codeEnd inside)
  have opening : Char.utf8Size '(' = 1 := rfl
  have closing : Char.utf8Size ')' = 1 := rfl
  simp only [Text.byteSize_cons, Text.byteSize_append, Text.byteSize_nil, opening, closing] at at_stop
  omega

/-! ## The outcome -/

/-- A fix puts its text in at an offset between the parentheses of a span. The text inside is cut at the
end of its code and the source at the offset, both between two characters. -/
structure Inserted (f : Fix) (source : Text) (call : Call) (span : Span) (offset : Nat) : Prop where
  cut : ∃ inside, Delimits source span inside ∧ Text.isBoundary inside (codeEnd inside) = true ∧
    offset = span.start + 1 + codeEnd inside
  after_opening : span.start < offset
  before_closing : offset < span.stop
  countable : offset ≤ maxOffset
  edited : f.edit? source call = .ok (some (.insert offset (f.insertedText call)))
  applied : ∃ front back, source = front ++ back ∧ offset = byteSize front ∧
    f.apply source call = .ok (front ++ f.insertedText call ++ back)

/-- A fix puts its text in where its edit says. -/
theorem apply_of_front {front back : Text} {edit : Edit} (edited : f.edit? (front ++ back) call = .ok (some edit))
    (at_front : edit.range.start = byteSize front) :
    f.apply (front ++ back) call = .ok (front ++ edit.replacement ++ back) := by
  rw [apply_of_edit? edited, at_front, Text.splice, Text.takeBytes_append, Text.dropBytes_append]

/-- The source is cut at the offset of the edit. -/
theorem exists_applied {offset : Nat}
    (edited : f.edit? source call = .ok (some (.insert offset (f.insertedText call)))) :
    ∃ front back, source = front ++ back ∧ offset = byteSize front ∧
      f.apply source call = .ok (front ++ f.insertedText call ++ back) := by
  have boundary : Text.isBoundary source offset = true := (isCaret_of_edit? edited).boundary
  obtain ⟨front, back, rfl, rfl⟩ := Text.isBoundary_iff.1 boundary
  exact ⟨front, back, rfl, rfl, apply_of_front edited rfl⟩

theorem inserted_of_delimits (recorded : call.argumentList = some span)
    (start_le : span.start ≤ maxOffset) (stop_le : span.stop ≤ maxOffset)
    (delimits : Delimits source span inside) :
    Inserted f source call span (span.start + 1 + codeEnd inside) := by
  obtain ⟨after_opening, before_closing⟩ := delimits.between
  have edited := edit?_of_delimits (f := f) recorded start_le stop_le delimits
  exact {
    cut := ⟨inside, delimits, isBoundary_codeEnd inside, rfl⟩
    after_opening
    before_closing
    countable := by omega
    edited
    applied := exists_applied edited }

theorem edit?_of_none (recorded : call.argumentList = none) : f.edit? source call = .ok none := by
  simp only [edit?, recorded]
  rfl

theorem apply_of_none (recorded : call.argumentList = none) : f.apply source call = .ok source := by
  rw [apply, edit?_of_none recorded]
  rfl

theorem apply_of_misplaced (recorded : call.argumentList = some span)
    (misplaced : Misplaced source span) :
    f.apply source call = .error (.noArgumentList span) := by
  rw [apply, edit?_of_misplaced recorded misplaced]
  rfl

/-- **A fix is a pure insertion.** Without a recorded argument list the source stays as it is; a misplaced
list is refused, and nothing else is; in any other case the text goes in between the parentheses. The
edit itself never fails. -/
theorem apply_outcome (f : Fix) (source : Text) (call : Call) :
    (call.argumentList = none →
      f.edit? source call = .ok none ∧ f.apply source call = .ok source) ∧
    (∀ span, call.argumentList = some span →
      (f.edit? source call = .error (.noArgumentList span) ↔ Misplaced source span) ∧
      (¬ Misplaced source span → ∃ offset, Inserted f source call span offset)) ∧
    ∀ cause, f.apply source call ≠ .error (.edit cause) := by
  have inserted (span : Span) (recorded : call.argumentList = some span)
      (placed : ¬ Misplaced source span) : ∃ offset, Inserted f source call span offset := by
    obtain ⟨inside, start_le, stop_le, delimits⟩ := not_misplaced_iff.1 placed
    exact ⟨_, inserted_of_delimits recorded start_le stop_le delimits⟩
  refine ⟨fun recorded => ⟨edit?_of_none recorded, apply_of_none recorded⟩, ?_, ?_⟩
  · intro span recorded
    refine ⟨⟨fun refused => ?_, edit?_of_misplaced recorded⟩, inserted span recorded⟩
    by_contra placed
    obtain ⟨offset, done⟩ := inserted span recorded placed
    rw [done.edited] at refused
    cases refused
  · intro cause failed
    cases recorded : call.argumentList with
    | none =>
      rw [apply_of_none recorded] at failed
      cases failed
    | some span =>
      by_cases misplaced : Misplaced source span
      · rw [apply_of_misplaced recorded misplaced] at failed
        cases failed
      · obtain ⟨offset, done⟩ := inserted span recorded misplaced
        obtain ⟨front, back, -, -, applied⟩ := done.applied
        rw [applied] at failed
        cases failed

/-- `f("\é)`, a literal without an end whose last character takes two bytes. -/
theorem apply_outcome_open_literal :
    let source : Text := ['f', '(', '"', '\\', 'é', ')']
    let call : Call := { argumentList := some ⟨1, 7⟩, arguments := [none] }
    ¬ Misplaced source ⟨1, 7⟩ ∧
      Inserted (charsetName "UTF-8") source call ⟨1, 7⟩ 6 ∧
      (charsetName "UTF-8").apply source call =
        .ok ['f', '(', '"', '\\', 'é', ',', ' ', '"', 'U', 'T', 'F', '-', '8', '"', ')'] := by
  intro source call
  have placed : ¬ Misplaced source ⟨1, 7⟩ :=
    not_misplaced_iff.2 ⟨['"', '\\', 'é'], by decide, by decide, ['f'], [], rfl, rfl, rfl⟩
  obtain ⟨-, listed, -⟩ := apply_outcome (charsetName "UTF-8") source call
  obtain ⟨offset, done⟩ := (listed _ rfl).2 placed
  have computed : (charsetName "UTF-8").edit? source call =
      .ok (some (.insert 6 ((charsetName "UTF-8").insertedText call))) := by decide +kernel
  obtain rfl : 6 = offset := by
    have same := Option.some.inj (Except.ok.inj (computed.symm.trans done.edited))
    exact congrArg (fun e : Edit => e.range.start) same
  exact ⟨placed, done, by decide +kernel⟩

end EncodingLint.Fix
