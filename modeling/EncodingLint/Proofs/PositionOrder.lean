import Mathlib.Algebra.Group.Nat.Defs
import Mathlib.Data.Prod.Lex
import EncodingLint.Proofs.Positions

/-!
# The order of positions

Positions are ordered by line, and on a line by code units. The offsets that they mark have the same order
(`LineIndex.Marks.lt_iff`): on one line what comes before the later position is longer, and a line ends before all
later ones begin. The position of any boundary marks the boundary, or the end of the line whose break it splits
(`exists_marks_of_isBoundary`), so positions never go back as offsets go on (`LineIndex.position_le`), and the range of
a span is in order if the span is.
-/

set_option autoImplicit false

namespace EncodingLint

namespace Position

/-- Positions as pairs in lexicographic order. -/
def key (p : Position) : ℕ ×ₗ ℕ :=
  toLex (p.line, p.character)

theorem key_injective : Function.Injective key := by
  rintro ⟨line, character⟩ ⟨line', character'⟩ same
  obtain ⟨rfl, rfl⟩ := Prod.mk.inj (toLex.injective same)
  rfl

instance : LinearOrder Position :=
  LinearOrder.lift' key key_injective

theorem lt_iff {p q : Position} :
    p < q ↔ p.line < q.line ∨ p.line = q.line ∧ p.character < q.character :=
  Prod.Lex.toLex_lt_toLex

end Position

namespace Text

variable {text : Text} {offset : Nat}

/-- An offset between two characters of a text, at one of its ends, or past its end. -/
def IsPlace (text : Text) (offset : Nat) : Prop :=
  isBoundary text offset = true ∨ byteSize text < offset

theorem IsPlace.isBoundary (place : IsPlace text offset) (inside : offset ≤ byteSize text) :
    isBoundary text offset = true :=
  place.resolve_right (Nat.not_lt_of_le inside)

/-- A place past the end of a text counts as its end. -/
theorem IsPlace.isBoundary_min (place : IsPlace text offset) :
    Text.isBoundary text (min offset (byteSize text)) = true := by
  rcases place with boundary | past
  · rwa [Nat.min_eq_left (le_byteSize_of_isBoundary boundary)]
  · rw [Nat.min_eq_right (Nat.le_of_lt past)]
    exact isBoundary_iff.2 ⟨text, [], (List.append_nil text).symm, rfl⟩

end Text

namespace LineIndex

open Text (byteSize unitSize)
open Line (Stands)

variable {text before before' content content' after after' part part' rest rest' : Text} {line : Line}
  {p q : Position} {a b : Nat}

/-- A line has one place in a text. -/
theorem eq_of_stands (stands : Stands text line before content after)
    (stands' : Stands text line before' content' after') : before = before' ∧ content = content' := by
  have first : byteSize before = byteSize before' := stands.start.symm.trans stands'.start
  have whole : before ++ (content ++ after) = before' ++ (content' ++ after') := by
    rw [← List.append_assoc, ← List.append_assoc, ← stands.whole, stands'.whole]
  obtain ⟨rfl, behind⟩ := Text.append_inj_of_byteSize whole first
  have ends := stands.stop.symm.trans stands'.stop
  rw [Text.byteSize_append, Text.byteSize_append, Nat.add_right_inj] at ends
  exact ⟨rfl, (Text.append_inj_of_byteSize behind ends).1⟩

/-- Of two first parts of a text the one with fewer code units has fewer bytes. -/
theorem byteSize_lt_of_unitSize_lt (whole : part ++ rest = part' ++ rest') (fewer : unitSize part < unitSize part') :
    byteSize part < byteSize part' := by
  by_contra notFewer
  obtain ⟨m, rfl, -⟩ := Text.exists_append_of_byteSize_le whole.symm (Nat.le_of_not_lt notFewer)
  rw [Text.unitSize_append] at fewer
  omega

theorem Marks.lt_of_lt (marks : Marks text a p) (marks' : Marks text b q) (earlier : p < q) : a < b := by
  obtain @⟨number, line, before, part, rest, after, found, stands⟩ := marks
  obtain @⟨number', line', before', part', rest', after', found', stands'⟩ := marks'
  obtain lines | ⟨same, units⟩ := Position.lt_iff.1 earlier
  · have ends : line.stop < line'.start := by
      obtain ⟨bounded, rfl⟩ := List.getElem?_eq_some_iff.1 found
      obtain ⟨bounded', rfl⟩ := List.getElem?_eq_some_iff.1 found'
      exact List.pairwise_iff_getElem.1 (layout_lines text).pairwise number number' bounded bounded' lines
    have left := start_le_of_stands stands
    have right := start_le_of_stands stands'
    omega
  · obtain rfl : number = number' := same
    obtain rfl : line = line' := Option.some.inj (found.symm.trans found')
    obtain ⟨rfl, content⟩ := eq_of_stands stands stands'
    rw [Text.byteSize_append, Text.byteSize_append]
    exact Nat.add_lt_add_left (byteSize_lt_of_unitSize_lt content units) _

theorem Marks.offset_unique (marks : Marks text a p) (marks' : Marks text b p) : a = b :=
  Option.some.inj ((offset?_eq_some_iff.2 marks).symm.trans (offset?_eq_some_iff.2 marks'))

/-- Offsets are in the order of the positions that mark them. -/
theorem Marks.lt_iff (marks : Marks text a p) (marks' : Marks text b q) : a < b ↔ p < q := by
  refine ⟨fun earlier => ?_, marks.lt_of_lt marks'⟩
  by_contra notEarlier
  obtain later | rfl := lt_or_eq_of_le (not_lt.1 notEarlier)
  · exact Nat.lt_asymm earlier (marks'.lt_of_lt marks later)
  · exact Nat.ne_of_lt earlier (marks.offset_unique marks')

theorem Marks.le_iff (marks : Marks text a p) (marks' : Marks text b q) : a ≤ b ↔ p ≤ q := by
  rw [← not_lt, ← not_lt, marks'.lt_iff marks]

/-! ## The positions of places -/

/-- A boundary comes back from its position, or else the end of the line whose break it splits does. -/
theorem exists_marks_of_isBoundary (boundary : Text.isBoundary text a = true) :
    ∃ o, Marks text o ((ofText text).position text a) ∧ o ≤ a ∧ a ≤ o + 1 := by
  by_cases split : Text.SplitsBreak text a
  · obtain ⟨before, after, rfl, rfl⟩ := split
    exact ⟨byteSize before, marks_of_splitsBreak before after, Nat.le_succ _, Nat.le_refl _⟩
  · exact ⟨a, offset?_eq_some_iff.1 (offset?_position ⟨boundary, split⟩), Nat.le_refl _, Nat.le_succ _⟩

theorem position_min (text : Text) (offset : Nat) :
    (ofText text).position text (min offset (byteSize text)) = (ofText text).position text offset := by
  simp only [position, ofText, Nat.min_assoc, Nat.min_self]

theorem position_lt (boundary : Text.isBoundary text a = true) (caret : Text.IsCaret text b) (earlier : a < b) :
    (ofText text).position text a < (ofText text).position text b := by
  obtain ⟨o, marks, o_le, -⟩ := exists_marks_of_isBoundary boundary
  obtain ⟨q, marks'⟩ := exists_marks caret
  rw [marks'.position_eq]
  exact (marks.lt_iff marks').1 (Nat.lt_of_le_of_lt o_le earlier)

theorem position_le_of_isBoundary (boundary : Text.isBoundary text a = true)
    (boundary' : Text.isBoundary text b = true) (ordered : a ≤ b) :
    (ofText text).position text a ≤ (ofText text).position text b := by
  rcases Nat.eq_or_lt_of_le ordered with rfl | earlier
  · exact le_refl _
  · obtain ⟨o, marks, o_le, -⟩ := exists_marks_of_isBoundary boundary
    obtain ⟨o', marks', -, le_o'⟩ := exists_marks_of_isBoundary boundary'
    -- The later offset comes back one byte earlier at most, and there is at least one between the two.
    exact (marks.le_iff marks').1 (by omega)

theorem position_le (place : Text.IsPlace text a) (place' : Text.IsPlace text b) (ordered : a ≤ b) :
    (ofText text).position text a ≤ (ofText text).position text b := by
  rw [← position_min text a, ← position_min text b]
  exact position_le_of_isBoundary place.isBoundary_min place'.isBoundary_min (by omega)

/-- In a text whose offsets can all be counted, the range of a span is that of its ends, however large they are. -/
theorem range_eq (countable : byteSize text ≤ maxOffset) (span : Span) :
    (ofText text).range text span =
      ⟨(ofText text).position text span.start, (ofText text).position text span.stop⟩ := by
  have clamped (offset : Nat) :
      (ofText text).position text (min offset maxOffset) = (ofText text).position text offset := by
    rw [← position_min text (min offset maxOffset), Nat.min_assoc, Nat.min_eq_right countable, position_min]
  rw [range, clamped, clamped]

/-- **Positions are in the order of the offsets.** For places of a text, the position of a later one is not earlier. It
is later if the place lies in the text and does not split a line break. So the range of a span is in order if the span
is, also if its ends are past the end of the text or too large to count. -/
theorem position_ordered (text : Text) (size : byteSize text < 2 ^ 32) :
    (∀ a b, Text.IsPlace text a → Text.IsPlace text b → a ≤ b →
      (ofText text).position text a ≤ (ofText text).position text b ∧
        (a < b → b ≤ byteSize text → ¬ Text.SplitsBreak text b →
          (ofText text).position text a < (ofText text).position text b)) ∧
    ∀ span : Span, Text.IsPlace text span.start → Text.IsPlace text span.stop → span.start ≤ span.stop →
      ((ofText text).range text span).start ≤ ((ofText text).range text span).stop := by
  constructor
  · intro a b place place' ordered
    refine ⟨position_le place place' ordered, fun earlier inside whole => ?_⟩
    have boundary := place.isBoundary (Nat.le_of_lt (Nat.lt_of_lt_of_le earlier inside))
    exact position_lt boundary ⟨place'.isBoundary inside, whole⟩ earlier
  · intro span start stop ordered
    have countable : byteSize text ≤ maxOffset := Nat.le_of_lt_succ size
    rw [range_eq countable]
    exact position_le start stop ordered

/-- The end of a line, the inside of its break and the start of the next line, and a span from inside the break to past
all offsets that can be counted. -/
theorem position_ordered_break :
    let text : Text := ['😀', '\r', '\n', 'b']
    (Text.SplitsBreak text 5 ∧ (ofText text).position text 4 = (ofText text).position text 5) ∧
    (¬ Text.SplitsBreak text 6 ∧ (ofText text).position text 5 < (ofText text).position text 6) ∧
    ((ofText text).range text ⟨5, 2 ^ 64 - 1⟩).start ≤ ((ofText text).range text ⟨5, 2 ^ 64 - 1⟩).stop := by
  intro text
  obtain ⟨ordered, rangeOrdered⟩ := position_ordered text (by decide)
  have caret : Text.IsCaret (['😀', '\r', '\n'] ++ ['b']) (byteSize ['😀', '\r', '\n']) :=
    Text.isCaret_append (by decide)
  have inBreak : Text.IsPlace text 5 := .inl (by decide)
  have nextLine : Text.IsPlace text 6 := .inl (by decide)
  have beyond : Text.IsPlace text (2 ^ 64 - 1) := .inr (by decide)
  refine ⟨⟨⟨['😀'], ['b'], rfl, rfl⟩, by decide⟩, ⟨caret.whole, ?_⟩, ?_⟩
  · exact (ordered 5 6 inBreak nextLine (by decide)).2 (by decide) (by decide) caret.whole
  · exact rangeOrdered ⟨5, 2 ^ 64 - 1⟩ inBreak beyond (by decide)

end LineIndex

end EncodingLint
