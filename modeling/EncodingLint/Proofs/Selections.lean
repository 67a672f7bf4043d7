import Mathlib.Data.List.Basic
import Mathlib.Data.List.Flatten
import Mathlib.Order.MinMax
import EncodingLint.CodeAction
import EncodingLint.Proofs.Outcome
import EncodingLint.Proofs.PositionOrder

/-!
# Actions for a selection

The span of a selection is known by its earlier and its later end (`CodeAction.selectedSpan?_eq_some_iff`), so it does
not matter which way round the selection was made, and a selection within another one has a span within that of the
other. What a selection touches is then touched by the larger one too. An editor that selects the range of a problem
gets a span that can differ from that of the problem where an end splits a line break, and touches it all the same.
-/

set_option autoImplicit false

namespace EncodingLint

open Text (byteSize)

namespace Span

variable {span selected inner outer : Span}

theorem touches_iff : span.touches selected = true ↔ span.start ≤ selected.stop ∧ selected.start ≤ span.stop := by
  simp [touches]

/-- What touches a span touches every span around it. -/
theorem touches_of_around (touched : span.touches inner = true) (start : outer.start ≤ inner.start)
    (stop : inner.stop ≤ outer.stop) : span.touches outer = true := by
  rw [touches_iff] at touched ⊢
  omega

end Span

namespace PositionRange

/-- A selection made the other way round. -/
def reversed (selection : PositionRange) : PositionRange :=
  ⟨selection.stop, selection.start⟩

/-- The end of a selection that comes first in the text. -/
def first (selection : PositionRange) : Position :=
  min selection.start selection.stop

/-- The end of a selection that comes last in the text. -/
def last (selection : PositionRange) : Position :=
  max selection.start selection.stop

/-- A selection within another one, whichever way round they were made. -/
def Within (inner outer : PositionRange) : Prop :=
  outer.first ≤ inner.first ∧ inner.last ≤ outer.last

end PositionRange

namespace LineIndex

variable {text : Text} {p q : Position} {a b : Nat}

theorem Marks.min (marks : Marks text a p) (marks' : Marks text b q) : Marks text (min a b) (min p q) := by
  rcases le_total p q with ordered | ordered
  · rwa [min_eq_left ordered, min_eq_left ((marks.le_iff marks').2 ordered)]
  · rwa [min_eq_right ordered, min_eq_right ((marks'.le_iff marks).2 ordered)]

theorem Marks.max (marks : Marks text a p) (marks' : Marks text b q) : Marks text (max a b) (max p q) := by
  rcases le_total p q with ordered | ordered
  · rwa [max_eq_right ordered, max_eq_right ((marks.le_iff marks').2 ordered)]
  · rwa [max_eq_left ordered, max_eq_left ((marks'.le_iff marks).2 ordered)]

end LineIndex

namespace CodeAction

open LineIndex (Marks offset?_eq_some_iff)

variable {source : Text} {selection inner outer : PositionRange} {selected span : Span} {problem : Problem}
  {problems : List Problem} {actions : List CodeAction} {a b : Nat}

/-! ## The span of a selection -/

theorem selectedSpan?_of_marks (start : Marks source a selection.start) (stop : Marks source b selection.stop) :
    selectedSpan? source selection = some ⟨min a b, max a b⟩ := by
  simp [selectedSpan?, offset?_eq_some_iff.2 start, offset?_eq_some_iff.2 stop]

/-- The ends of a selection mark the ends of its span, each in their order. -/
theorem selectedSpan?_eq_some_iff :
    selectedSpan? source selection = some selected ↔
      Marks source selected.start selection.first ∧ Marks source selected.stop selection.last := by
  constructor
  · intro found
    simp only [selectedSpan?, Option.bind_eq_bind, Option.bind_eq_some_iff, Option.pure_def, Option.some.injEq,
      offset?_eq_some_iff] at found
    obtain ⟨a, start, b, stop, rfl⟩ := found
    exact ⟨start.min stop, start.max stop⟩
  · rintro ⟨first, last⟩
    have ordered : selected.start ≤ selected.stop := (first.le_iff last).2 min_le_max
    rcases le_total selection.start selection.stop with forward | backward
    · rw [PositionRange.first, min_eq_left forward] at first
      rw [PositionRange.last, max_eq_right forward] at last
      rw [selectedSpan?_of_marks first last, min_eq_left ordered, max_eq_right ordered]
    · rw [PositionRange.first, min_eq_right backward] at first
      rw [PositionRange.last, max_eq_left backward] at last
      rw [selectedSpan?_of_marks last first, min_eq_right ordered, max_eq_left ordered]

theorem selectedSpan?_reversed (source : Text) (selection : PositionRange) :
    selectedSpan? source selection.reversed = selectedSpan? source selection := by
  ext selected
  rw [selectedSpan?_eq_some_iff, selectedSpan?_eq_some_iff, PositionRange.first, PositionRange.last,
    PositionRange.first, PositionRange.last, min_comm, max_comm]
  rfl

/-! ## What a selection touches -/

/-- The problems that a span touches. -/
def touched (selected : Span) (problems : List Problem) : List Problem :=
  problems.filter fun p => p.span.any fun span => span.touches selected

theorem inSelection_of_some (found : selectedSpan? source selection = some selected) :
    inSelection source selection problems =
      (do return (← (touched selected problems).mapM (ofProblem source)).flatten) := by
  rw [inSelection, found]
  rfl

theorem inSelection_of_none (none : selectedSpan? source selection = none) :
    inSelection source selection problems = .ok [] := by
  rw [inSelection, none]
  rfl

/-- A span touches no less than the spans inside it. -/
theorem touched_sublist {small large : Span} (start : large.start ≤ small.start) (stop : small.stop ≤ large.stop) :
    (touched small problems).Sublist (touched large problems) := by
  apply List.monotone_filter_right
  intro problem touching
  rw [Option.any_eq_true] at touching ⊢
  obtain ⟨span, reported, touching⟩ := touching
  exact ⟨span, reported, Span.touches_of_around touching start stop⟩

theorem inSelection_singleton (found : selectedSpan? source selection = some selected)
    (reported : problem.span = some span) (touches : span.touches selected = true) :
    inSelection source selection [problem] = ofProblem source problem := by
  have only : touched selected [problem] = [problem] := by simp [touched, reported, touches]
  rw [inSelection_of_some found, only]
  simp

/-! ## Selecting a problem -/

/-- **The range of a problem selects it.** If the span of a problem is not empty and its ends are boundaries of the
source, then the actions for the range at which the problem is shown are the actions of the problem, or the same error
comes out; also if an end of the span splits a line break. -/
theorem inSelection_range (source : Text) (problem : Problem) (span : Span) (size : byteSize source < 2 ^ 32)
    (reported : problem.span = some span) (nonempty : span.start < span.stop)
    (start : Text.isBoundary source span.start = true) (stop : Text.isBoundary source span.stop = true) :
    inSelection source (Diagnostic.ofProblem source problem).range [problem] = ofProblem source problem := by
  have countable : span.stop ≤ maxOffset := by
    have bounded := Text.le_byteSize_of_isBoundary stop
    unfold maxOffset
    omega
  have shown : (Diagnostic.ofProblem source problem).range =
      ⟨(LineIndex.ofText source).position source span.start, (LineIndex.ofText source).position source span.stop⟩ := by
    rw [Diagnostic.ofProblem, reported]
    simp only [LineIndex.range, Nat.min_eq_left countable, Nat.min_eq_left (nonempty.le.trans countable)]
  obtain ⟨a, marks, a_le, le_a⟩ := LineIndex.exists_marks_of_isBoundary start
  obtain ⟨b, marks', b_le, le_b⟩ := LineIndex.exists_marks_of_isBoundary stop
  rw [shown]
  refine inSelection_singleton (selectedSpan?_of_marks marks marks') reported ?_
  rw [Span.touches_iff]
  -- An end that splits a line break comes back one byte earlier, and the span has at least one.
  constructor
  · exact (Nat.le_of_lt_succ (nonempty.trans_le le_b)).trans (Nat.le_max_right a b)
  · exact (Nat.min_le_left a b).trans (a_le.trans nonempty.le)

/-- A call between two line breaks, with a span that splits both of them. -/
theorem inSelection_range_split :
    let source : Text := ['\r', '\n', 'f', '(', ')', '\r', '\n']
    let problem : Problem :=
      ⟨.warning, 0, [⟨.string, "x"⟩], { span := some ⟨1, 6⟩, argumentList := some ⟨3, 5⟩ }⟩
    Text.SplitsBreak source 1 ∧ Text.SplitsBreak source 6 ∧
      ∃ action, inSelection source (Diagnostic.ofProblem source problem).range [problem] = .ok [action] ∧
        action.position = ⟨1, 2⟩ ∧ action.newText = ['x'] := by
  intro source problem
  have offered : ofProblem source problem =
      .ok [⟨"Add parameter x", ⟨⟨⟨0, 0⟩, ⟨1, 3⟩⟩, .warning⟩, ⟨1, 2⟩, ['x'], true⟩] := by
    decide +kernel
  have found := inSelection_range source problem ⟨1, 6⟩ (by decide) rfl (by decide) (by decide) (by decide)
  exact ⟨⟨[], _, rfl, rfl⟩, ⟨['\r', '\n', 'f', '(', ')'], _, rfl, rfl⟩, _, found.trans offered, rfl, rfl⟩

/-! ## Selections within each other -/

/-- **Selections have no direction, and larger ones offer no less.** A selection made the other way round gives the same
actions, or the same error. If a selection lies within another one with both ends on the source, and the actions for the
larger one are found, then so are those for the smaller one, and these are among the former in the same order. -/
theorem inSelection_reversed_and_within (source : Text) (problems : List Problem) :
    (∀ selection, inSelection source selection.reversed problems = inSelection source selection problems) ∧
    ∀ inner outer actions, ((LineIndex.ofText source).offset? source outer.start).isSome →
      ((LineIndex.ofText source).offset? source outer.stop).isSome → inner.Within outer →
      inSelection source outer problems = .ok actions →
      ∃ fewer, inSelection source inner problems = .ok fewer ∧ fewer.Sublist actions := by
  constructor
  · intro selection
    rw [inSelection, selectedSpan?_reversed, ← inSelection]
  · intro inner outer actions start stop within offered
    obtain ⟨a, marks⟩ := Option.isSome_iff_exists.1 start
    obtain ⟨b, marks'⟩ := Option.isSome_iff_exists.1 stop
    have found := selectedSpan?_of_marks (offset?_eq_some_iff.1 marks) (offset?_eq_some_iff.1 marks')
    obtain ⟨first, last⟩ := selectedSpan?_eq_some_iff.1 found
    cases found' : selectedSpan? source inner with
    | none => exact ⟨[], inSelection_of_none found', List.nil_sublist actions⟩
    | some selected =>
      obtain ⟨first', last'⟩ := selectedSpan?_eq_some_iff.1 found'
      rw [inSelection_of_some found] at offered
      obtain ⟨offers, done, made⟩ := Outcome.bind_eq_ok_iff.1 offered
      obtain rfl := Outcome.pure_eq_ok_iff.1 made
      have fewer : (touched selected problems).Sublist (touched _ problems) :=
        touched_sublist ((first.le_iff first').2 within.1) ((last'.le_iff last).2 within.2)
      obtain ⟨less, done', sublist⟩ := Outcome.mapM_sublist fewer done
      refine ⟨less.flatten, ?_, sublist.flatten⟩
      rw [inSelection_of_some found', done']
      rfl

/-- A cursor in the second of two lines, and a selection of both lines made backwards. -/
theorem inSelection_within_lines :
    let source : Text := ['f', '(', ')', '\n', 'g', '(', ')']
    let problems : List Problem :=
      [⟨.warning, 0, [⟨.string, "x"⟩], { span := some ⟨0, 3⟩, argumentList := some ⟨1, 3⟩ }⟩,
       ⟨.warning, 0, [⟨.string, "y"⟩], { span := some ⟨4, 7⟩, argumentList := some ⟨5, 7⟩ }⟩]
    let cursor : PositionRange := ⟨⟨1, 1⟩, ⟨1, 1⟩⟩
    let lines : PositionRange := ⟨⟨1, 3⟩, ⟨0, 0⟩⟩
    cursor.Within lines ∧ inSelection source lines.reversed problems = inSelection source lines problems ∧
      ∃ fewer actions, inSelection source lines problems = .ok actions ∧ actions.map (·.newText) = [['x'], ['y']] ∧
        inSelection source cursor problems = .ok fewer ∧ fewer.Sublist actions := by
  intro source problems cursor lines
  have within : cursor.Within lines := by
    constructor
    · exact le_of_lt (Position.lt_iff.2 (.inl (by decide)))
    · exact le_of_lt (Position.lt_iff.2 (.inr ⟨by decide, by decide⟩))
  have offered : inSelection source lines problems =
      .ok [⟨"Add parameter x", ⟨⟨⟨0, 0⟩, ⟨0, 3⟩⟩, .warning⟩, ⟨0, 2⟩, ['x'], true⟩,
        ⟨"Add parameter y", ⟨⟨⟨1, 0⟩, ⟨1, 3⟩⟩, .warning⟩, ⟨1, 2⟩, ['y'], true⟩] := by
    decide +kernel
  obtain ⟨reversed, smaller⟩ := inSelection_reversed_and_within source problems
  obtain ⟨fewer, found, sublist⟩ := smaller cursor lines _ (by decide) (by decide) within offered
  exact ⟨within, reversed lines, fewer, _, offered, rfl, found, sublist⟩

end CodeAction

end EncodingLint
