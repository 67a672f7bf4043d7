import EncodingLint.Proofs.LineLayout

/-!
# Positions and offsets are inverse to each other

A position marks an offset (`Marks`) if a line stands in the text such that the part of its content up
to the offset has as many code units as the position says. `offset?` is this relation read from the
position (`offset?_eq_some_iff`) and `position` is it read from the offset (`Marks.position_eq`), so the
two are inverse on the offsets that some position marks, and these are the carets (`exists_marks`).
-/

set_option autoImplicit false

namespace EncodingLint.LineIndex

open Text (byteSize unitSize IsCaret SplitsBreak)
open Line (Stands Layout)

variable {text content before part rest after : Text} {line : Line} {p : Position}
  {number offset units bytes : Nat}

/-- A position and an offset that say the same place of a text. -/
inductive Marks (text : Text) : Nat → Position → Prop where
  | intro {number : Nat} {line : Line} {before part rest after : Text}
      (found : (ofText text).lines[number]? = some line)
      (stands : Stands text line before (part ++ rest) after) :
      Marks text (byteSize (before ++ part)) ⟨number, unitSize part⟩

theorem charUnits_pos (c : Char) : 0 < Text.charUnits c := by
  unfold Text.charUnits
  split <;> omega

/-- Counting code units finds the end of a first part of the text. -/
theorem bytesOfUnits?_eq_some_iff :
    bytesOfUnits? content units = some bytes ↔
      ∃ part rest, content = part ++ rest ∧ unitSize part = units ∧ byteSize part = bytes := by
  induction content generalizing units bytes with
  | nil =>
    cases units with
    | zero => simp [bytesOfUnits?]
    | succ n => simp [bytesOfUnits?]
  | cons c cs ih =>
    have positive := charUnits_pos c
    constructor
    · intro h
      cases units with
      | zero =>
        rw [bytesOfUnits?, Option.some.injEq] at h
        exact ⟨[], c :: cs, rfl, rfl, h⟩
      | succ n =>
        rw [bytesOfUnits?] at h
        simp only [Option.ite_none_right_eq_some, Option.map_eq_some_iff, ih] at h
        obtain ⟨fits, -, ⟨part, rest, rfl, units, rfl⟩, rfl⟩ := h
        exact ⟨c :: part, rest, rfl, by rw [Text.unitSize_cons, units]; omega, rfl⟩
    · rintro ⟨part, rest, whole, rfl, rfl⟩
      cases part with
      | nil => simp [bytesOfUnits?]
      | cons d part =>
        obtain ⟨rfl, rfl⟩ := List.cons.inj whole
        obtain ⟨n, size⟩ := Nat.exists_eq_add_one_of_ne_zero
          (n := unitSize (c :: part)) (by rw [Text.unitSize_cons]; omega)
        have left : n + 1 - Text.charUnits c = unitSize part := by
          rw [← size, Text.unitSize_cons, Nat.add_sub_cancel_left]
        have fits : Text.charUnits c ≤ n + 1 := by
          rw [← size, Text.unitSize_cons]
          exact Nat.le_add_right _ _
        rw [size, bytesOfUnits?, if_pos fits, left, ih.2 ⟨part, rest, rfl, rfl, rfl⟩]
        rfl

theorem stands_of_found (found : (ofText text).lines[number]? = some line) :
    ∃ before content after, Stands text line before content after := by
  have caret : IsCaret ([] ++ text) (byteSize []) := Text.isCaret_append (by simp)
  exact (layout_lines text).stands caret found

theorem slice?_of_stands (stands : Stands text line before (part ++ rest) after) :
    Text.slice? text line.start (byteSize (before ++ part)) = some part := by
  rw [stands.whole, stands.start, Text.byteSize_append, ← List.append_assoc before part rest,
    List.append_assoc _ rest after]
  exact Text.slice?_append before part (rest ++ after)

theorem slice?_content (stands : Stands text line before content after) :
    Text.slice? text line.start line.stop = some content := by
  rw [stands.stop]
  rw [← List.append_nil content] at stands
  exact slice?_of_stands stands

theorem start_le_of_stands (stands : Stands text line before (part ++ rest) after) :
    line.start ≤ byteSize (before ++ part) ∧ byteSize (before ++ part) ≤ line.stop ∧
      byteSize (before ++ part) ≤ byteSize text := by
  rw [stands.start, stands.stop, stands.whole]
  simp only [Text.byteSize_append]
  omega

/-- An offset of a line cuts its content. -/
theorem exists_part_of_stands (stands : Stands text line before content after)
    (boundary : Text.isBoundary text offset = true) (begun : line.start ≤ offset)
    (ended : offset ≤ line.stop) :
    ∃ part rest, offset = byteSize (before ++ part) ∧
      Stands text line before (part ++ rest) after := by
  obtain ⟨upTo, behind, whole, rfl⟩ := Text.isBoundary_iff.1 boundary
  have cut := stands.whole.symm.trans whole
  rw [stands.start] at begun
  rw [stands.stop] at ended
  obtain ⟨part, rfl, -⟩ :=
    Text.exists_append_of_byteSize_le (by rw [← cut, List.append_assoc]) begun
  obtain ⟨rest, same, -⟩ := Text.exists_append_of_byteSize_le cut.symm ended
  rw [List.append_assoc, List.append_cancel_left_eq] at same
  subst same
  exact ⟨part, rest, rfl, stands⟩

/-- The position of an offset, given the line of the offset: what the line holds up to it counts, and
nothing does if the offset is inside a character. -/
theorem position_eq_of_count (found : (ofText text).lines[number]? = some line)
    (count : ((ofText text).lines.takeWhile fun line =>
      line.start ≤ min offset (byteSize text)).length = number + 1) :
    (ofText text).position text offset = ⟨number, ((Text.slice? text line.start
      (min (min offset (byteSize text)) line.stop)).map unitSize).getD 0⟩ := by
  have size : (ofText text).size = byteSize text := rfl
  have at_line : (ofText text).lineAt (min offset (byteSize text)) = number := by
    rw [lineAt, ← map_start_lines, List.takeWhile_map, List.length_map]
    exact Nat.sub_eq_of_eq_add count
  obtain ⟨start, stop⟩ := getElem?_lines_eq_some_iff.1 found
  simp only [position, size, at_line, List.getD_eq_getElem?_getD, start, stop, Option.getD_some]
  cases Text.slice? text line.start (min (min offset (byteSize text)) line.stop) with
  | none => rfl
  | some part => rfl

theorem Marks.position_eq (marks : Marks text offset p) : (ofText text).position text offset = p := by
  obtain ⟨found, stands⟩ := marks
  obtain ⟨begun, ended, bounded⟩ := start_le_of_stands stands
  have count := (layout_lines text).length_takeWhile found begun ended
  rw [position_eq_of_count found (by rw [Nat.min_eq_left bounded]; exact count),
    Nat.min_eq_left bounded, Nat.min_eq_left ended, slice?_of_stands stands]
  rfl

theorem Marks.isCaret (marks : Marks text offset p) : IsCaret text offset := by
  obtain ⟨found, stands⟩ := marks
  rename_i before part rest after
  rcases List.eq_nil_or_concat part with rfl | ⟨init, c, rfl⟩
  · rw [List.append_nil, ← stands.start]
    exact stands.caret
  · have plain : c ≠ '\r' := (stands.plain c (by simp)).1
    rw [stands.whole, ← List.append_assoc, List.append_assoc _ rest after]
    apply Text.isCaret_append
    simp [plain]

/-- The offset at a position is the one that the position marks. -/
theorem offset?_eq_some_iff : (ofText text).offset? text p = some offset ↔ Marks text offset p := by
  simp only [offset?, Option.bind_eq_bind, Option.bind_eq_some_iff, Option.pure_def,
    Option.some.injEq, bytesOfUnits?_eq_some_iff]
  constructor
  · rintro ⟨start, started, stop, stopped, content, cut, -, ⟨part, rest, rfl, units, rfl⟩, rfl⟩
    have found := getElem?_lines_eq_some_iff.2 ⟨started, stopped⟩
    obtain ⟨before, content, after, stands⟩ := stands_of_found found
    rw [slice?_content stands, Option.some.injEq] at cut
    subst cut
    have marks := Marks.intro found stands
    rw [units, Text.byteSize_append, ← stands.start] at marks
    exact marks
  · rintro ⟨found, stands⟩
    rename_i line before part rest after
    obtain ⟨started, stopped⟩ := getElem?_lines_eq_some_iff.1 found
    refine ⟨line.start, started, line.stop, stopped, part ++ rest, slice?_content stands,
      byteSize part, ?_, ?_⟩
    · exact ⟨part, rest, rfl, rfl, rfl⟩
    · rw [stands.start, Text.byteSize_append]

/-- The line of an offset, which is counted as the end of the text if it lies beyond. -/
theorem exists_line (text : Text) (offset : Nat) :
    ∃ number line before content after, (ofText text).lines[number]? = some line ∧
      Stands text line before content after ∧
      ((ofText text).lines.takeWhile fun line =>
        line.start ≤ min offset (byteSize text)).length = number + 1 ∧
      line.start ≤ min offset (byteSize text) ∧
      (min offset (byteSize text) ≤ line.stop ∨
        SplitsBreak text (min offset (byteSize text)) ∧
          min offset (byteSize text) = line.stop + 1) := by
  have bounded : min offset (byteSize text) ≤ byteSize ([] ++ text) := Nat.min_le_right _ _
  obtain ⟨number, line, found, located⟩ :=
    (layout_lines text).locate (Nat.zero_le _) bounded
  obtain ⟨before, content, after, stands⟩ := stands_of_found found
  exact ⟨number, line, before, content, after, found, stands, located⟩

/-- Every caret has its mark. -/
theorem exists_marks (caret : IsCaret text offset) : ∃ p, Marks text offset p := by
  obtain ⟨number, line, before, content, after, found, stands, -, begun, place⟩ :=
    exists_line text offset
  rw [Nat.min_eq_left (Text.le_byteSize_of_isBoundary caret.boundary)] at begun place
  rcases place with ended | ⟨split, -⟩
  · obtain ⟨part, rest, rfl, stands⟩ := exists_part_of_stands stands caret.boundary begun ended
    exact ⟨_, .intro found stands⟩
  · exact absurd split caret.whole

/-- A caret comes back from its position. -/
theorem offset?_position (caret : IsCaret text offset) :
    (ofText text).offset? text ((ofText text).position text offset) = some offset := by
  obtain ⟨p, marks⟩ := exists_marks caret
  rw [marks.position_eq]
  exact offset?_eq_some_iff.2 marks

/-- Whatever an offset is, its position marks some offset. -/
theorem exists_marks_position (text : Text) (offset : Nat) :
    ∃ o, Marks text o ((ofText text).position text offset) := by
  obtain ⟨number, line, before, content, after, found, stands, count, begun, -⟩ :=
    exists_line text offset
  have nonempty : line.start ≤ line.stop := by
    rw [stands.start, stands.stop, Text.byteSize_append]
    exact Nat.le_add_right _ _
  rw [position_eq_of_count found count]
  by_cases boundary :
      Text.isBoundary text (min (min offset (byteSize text)) line.stop) = true
  · obtain ⟨part, rest, cut, stands⟩ := exists_part_of_stands stands boundary
      (Nat.le_min.2 ⟨begun, nonempty⟩) (Nat.min_le_right _ _)
    rw [cut, slice?_of_stands stands]
    exact ⟨_, .intro found stands⟩
  · -- Inside a character: the position is that of the start of the line.
    rw [Text.slice?, if_neg fun h => boundary h.2.2]
    have from_start : Stands text line before ([] ++ content) after := stands
    exact ⟨_, .intro found from_start⟩

/-- The position within a line break marks the end of its line. -/
theorem marks_of_splitsBreak (before after : Text) :
    Marks (before ++ '\r' :: '\n' :: after) (byteSize before)
      ((ofText (before ++ '\r' :: '\n' :: after)).position (before ++ '\r' :: '\n' :: after)
        (byteSize before + 1)) := by
  have split : SplitsBreak (before ++ '\r' :: '\n' :: after) (byteSize before + 1) :=
    ⟨before, after, rfl, rfl⟩
  have boundary : Text.isBoundary (before ++ '\r' :: '\n' :: after) (byteSize before + 1) = true :=
    Text.isBoundary_iff.2 ⟨before ++ ['\r'], '\n' :: after, by simp, by
      rw [Text.byteSize_append, Text.byteSize_cr]⟩
  obtain ⟨number, line, b, content, a, found, stands, count, begun, place⟩ :=
    exists_line (before ++ '\r' :: '\n' :: after) (byteSize before + 1)
  rw [position_eq_of_count found count]
  rw [Nat.min_eq_left (Text.le_byteSize_of_isBoundary boundary)] at begun place ⊢
  rcases place with ended | ⟨-, ended⟩
  · obtain ⟨part, rest, cut, stands⟩ := exists_part_of_stands stands boundary begun ended
    have caret := (Marks.intro found stands).isCaret
    rw [← cut] at caret
    exact absurd split caret.whole
  · have at_stop : byteSize before = line.stop := Nat.succ.inj ended
    rw [at_stop, Nat.min_eq_right (Nat.le_succ _), slice?_content stands, stands.stop]
    rw [← List.append_nil content] at stands
    exact .intro found stands

/-- **Positions and offsets are inverse to each other.** The carets of a text are just the offsets that
come back from their positions; an offset within a line break comes back as the end of its line; and a
position has an offset if and only if it is the position of one. -/
theorem position_offset_inverse (text : Text) :
    (∀ offset, IsCaret text offset →
      (ofText text).offset? text ((ofText text).position text offset) = some offset) ∧
    (∀ before after, text = before ++ '\r' :: '\n' :: after →
      (ofText text).offset? text ((ofText text).position text (byteSize before + 1)) =
        some (byteSize before)) ∧
    (∀ p offset, (ofText text).offset? text p = some offset →
      IsCaret text offset ∧ (ofText text).position text offset = p) ∧
    ∀ p, (ofText text).offset? text p = none ↔
      ∀ offset, (ofText text).position text offset ≠ p := by
  refine ⟨?_, ?_, ?_, ?_⟩
  · exact fun offset caret => offset?_position caret
  · rintro before after rfl
    exact offset?_eq_some_iff.2 (marks_of_splitsBreak before after)
  · intro p offset found
    have marks := offset?_eq_some_iff.1 found
    exact ⟨marks.isCaret, marks.position_eq⟩
  · intro p
    constructor
    · rintro missing offset rfl
      obtain ⟨o, marks⟩ := exists_marks_position text offset
      rw [offset?_eq_some_iff.2 marks] at missing
      cases missing
    · intro nowhere
      rw [Option.eq_none_iff_forall_not_mem]
      intro offset found
      exact nowhere offset (offset?_eq_some_iff.1 found).position_eq

/-- The end of a line with a surrogate pair, the inside of its break, and the inside of the pair. -/
theorem position_offset_inverse_pair :
    IsCaret ['😀', '\r', '\n', 'b'] 4 ∧
      (ofText ['😀', '\r', '\n', 'b']).offset? ['😀', '\r', '\n', 'b']
        ((ofText ['😀', '\r', '\n', 'b']).position ['😀', '\r', '\n', 'b'] 4) = some 4 ∧
      (ofText ['😀', '\r', '\n', 'b']).offset? ['😀', '\r', '\n', 'b']
        ((ofText ['😀', '\r', '\n', 'b']).position ['😀', '\r', '\n', 'b'] 5) = some 4 ∧
      (ofText ['😀', '\r', '\n', 'b']).position ['😀', '\r', '\n', 'b'] 7 = ⟨1, 1⟩ ∧
      ∀ offset, (ofText ['😀', '\r', '\n', 'b']).position ['😀', '\r', '\n', 'b'] offset ≠ ⟨0, 1⟩ := by
  have caret : IsCaret (['😀'] ++ ['\r', '\n', 'b']) (byteSize ['😀']) :=
    Text.isCaret_append (by decide)
  obtain ⟨fromCaret, fromBreak, fromPosition, nowhere⟩ :=
    position_offset_inverse ['😀', '\r', '\n', 'b']
  exact ⟨caret, fromCaret 4 caret, fromBreak ['😀'] ['b'] rfl,
    (fromPosition ⟨1, 1⟩ 7 (by decide)).2, (nowhere ⟨0, 1⟩).1 (by decide)⟩

end EncodingLint.LineIndex
