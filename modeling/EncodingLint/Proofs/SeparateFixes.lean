import Mathlib.Algebra.Group.Nat.Defs
import EncodingLint.Proofs.EditConflicts
import EncodingLint.Proofs.FixOutcome

/-!
# Fixes of separate calls

Two calls of one source can be fixed one after the other, in either order, or both at once. A text put in behind an
argument list leaves the list where it is (`Delimits.of_before`), one put in before it moves the list as a whole
(`Delimits.of_behind`), and in neither case does the text between the parentheses change. So the later fix finds
the same end of the code as it would have found before the earlier one, and the three ways give one text
(`apply_separate`).
-/

set_option autoImplicit false

namespace EncodingLint

open Text (byteSize)

/-- A span after `size` bytes were put in at an offset that is not inside it. -/
def Span.moved (span : Span) (offset size : Nat) : Span :=
  if offset ≤ span.start then ⟨span.start + size, span.stop + size⟩ else span

/-- A call after an edit that put text in outside its argument list. -/
def Call.movedBy (call : Call) (edit : Edit) : Call :=
  let move (span : Span) := span.moved edit.range.start (byteSize edit.replacement)
  { call with span := call.span.map move, argumentList := call.argumentList.map move }

/-- One text becomes another by two inserts, the first of which goes in before the second. -/
def Edit.InsertBoth (first second : Edit) (source both : Text) : Prop :=
  ∃ front middle back, source = front ++ middle ++ back ∧
    first.range = .point (byteSize front) ∧ second.range = .point (byteSize (front ++ middle)) ∧
    both = front ++ first.replacement ++ middle ++ second.replacement ++ back

namespace Edit

variable {e first second : Edit} {before after source both : Text}

/-! ## Two inserts -/

theorem within_of_point (at_before : e.range = .point (byteSize before)) : Within (before ++ after) e := by
  have boundary := Text.isBoundary_append before after
  constructor
  · rw [at_before]
    exact boundary
  · rw [at_before]
    exact boundary

theorem apply_of_point (at_before : e.range = .point (byteSize before)) :
    e.apply (before ++ after) = before ++ e.replacement ++ after := by
  rw [apply, at_before]
  change Text.splice (before ++ after) (byteSize before) (byteSize before) e.replacement = _
  rw [Text.splice, Text.takeBytes_append, Text.dropBytes_append]

/-- Two inserts at different offsets are made together, whichever is given first. -/
theorem InsertBoth.applyAll_eq (inserted : first.InsertBoth second source both)
    (ordered : first.range.start < second.range.start) :
    applyAll source [first, second] = .ok both ∧ applyAll source [second, first] = .ok both := by
  obtain ⟨front, middle, back, rfl, at_first, at_second, rfl⟩ := inserted
  have sorted : sort [first, second] = [first, second] := by
    apply List.mergeSort_of_pairwise
    simpa using le_iff.2 (.inl ordered)
  have apart : clashes first second = false := by
    rw [clashes_eq_false_iff]
    refine ⟨?_, fun clash => absurd clash.2.2 (Nat.ne_of_lt ordered)⟩
    rw [at_first] at ordered ⊢
    exact Nat.le_of_lt ordered
  have accepted : normalize (front ++ middle ++ back) [first, second] = .ok [first, second] := by
    refine normalize_eq_ok_iff.2 ⟨sorted.symm, ?_, .cons_cons apart (.singleton second)⟩
    simp only [List.forall_mem_cons]
    refine ⟨?_, within_of_point at_second, by simp⟩
    rw [List.append_assoc]
    exact within_of_point at_first
  -- The second insert is made first, so that the offset of the first one still holds.
  have applied : first.apply (second.apply (front ++ middle ++ back)) =
      front ++ first.replacement ++ middle ++ second.replacement ++ back := by
    rw [apply_of_point at_second, List.append_assoc front, List.append_assoc front, apply_of_point at_first]
    simp only [List.append_assoc]
  constructor
  · rw [applyAll, accepted]
    exact congrArg Except.ok applied
  · rw [applyAll, normalize_perm (.swap first second []), accepted]
    exact congrArg Except.ok applied

end Edit

namespace Fix

variable {f g : Fix} {source front back inside both : Text} {a b call : Call} {span s t : Span}
  {edit other first second : Edit}

/-- Two fixes of one source give one text: one after the other in either order, the call that is still to be fixed
taken as it stands by then, and both edits at once in either order. The text has what both of them put in. -/
structure Agree (f g : Fix) (source : Text) (a b : Call) (first second : Edit) (both : Text) : Prop where
  forward : ∃ once, f.apply source a = .ok once ∧ g.apply once (b.movedBy first) = .ok both
  backward : ∃ once, g.apply source b = .ok once ∧ f.apply once (a.movedBy second) = .ok both
  together : Edit.applyAll source [first, second] = .ok both
  reversed : Edit.applyAll source [second, first] = .ok both
  inserted : first.InsertBoth second source both ∨ second.InsertBoth first source both

theorem Agree.symm (agree : Agree f g source a b first second both) :
    Agree g f source b a second first both where
  forward := agree.backward
  backward := agree.forward
  together := agree.reversed
  reversed := agree.together
  inserted := agree.inserted.symm

/-! ## Argument lists beside an insertion -/

/-- A text put in behind an argument list leaves it where it is. -/
theorem Delimits.of_before (delimits : Delimits (front ++ back) span inside) (before : span.stop ≤ byteSize front)
    (text : Text) : Delimits (front ++ text ++ back) span inside := by
  obtain ⟨start, rest, whole, at_start, at_stop⟩ := delimits
  rw [at_stop, ← Text.byteSize_append] at before
  obtain ⟨between, rfl, rfl⟩ := Text.exists_append_of_byteSize_le whole.symm before
  exact ⟨start, between ++ text ++ back, by simp, at_start, at_stop⟩

/-- A text put in before an argument list moves it by the size of the text. -/
theorem Delimits.of_behind (delimits : Delimits (front ++ back) span inside) (behind : byteSize front ≤ span.start)
    (text : Text) :
    Delimits (front ++ text ++ back) ⟨span.start + byteSize text, span.stop + byteSize text⟩ inside := by
  obtain ⟨start, rest, whole, at_start, at_stop⟩ := delimits
  rw [at_start] at behind
  rw [List.append_assoc start] at whole
  obtain ⟨between, rfl, rfl⟩ := Text.exists_append_of_byteSize_le whole behind
  refine ⟨front ++ text ++ between, rest, by simp, ?_, ?_⟩
  · simp only [at_start, Text.byteSize_append]
    omega
  · simp only [at_stop, Text.byteSize_append]
    omega

/-! ## A fix beside an edit -/

theorem argumentList_movedBy_of_le (recorded : call.argumentList = some span)
    (behind : edit.range.start ≤ span.start) :
    (call.movedBy edit).argumentList =
      some ⟨span.start + byteSize edit.replacement, span.stop + byteSize edit.replacement⟩ := by
  simp only [Call.movedBy, recorded, Option.map_some, Span.moved, if_pos behind]

theorem argumentList_movedBy_of_lt (recorded : call.argumentList = some span)
    (before : span.start < edit.range.start) : (call.movedBy edit).argumentList = some span := by
  simp only [Call.movedBy, recorded, Option.map_some, Span.moved, if_neg (Nat.not_le_of_lt before)]

/-- A fix has something to edit if its call has an argument list, and puts its text in between the parentheses. -/
theorem exists_cut_of_edit? (edited : f.edit? source call = .ok (some edit))
    (recorded : call.argumentList = some span) :
    ∃ inside, Delimits source span inside ∧ edit = .insert (span.start + 1 + codeEnd inside) (f.insertedText call) ∧
      span.start < edit.range.start ∧ edit.range.start < span.stop := by
  obtain ⟨own, inside, recorded', -, delimits, rfl⟩ := exists_delimits_of_edit? edited
  obtain rfl : own = span := Option.some.inj (recorded'.symm.trans recorded)
  exact ⟨inside, delimits, rfl, delimits.between⟩

/-- Behind an inserted text a fix makes the edit that it made before, moved by the size of that text. -/
theorem edit?_movedBy_of_le (edited : f.edit? (front ++ back) call = .ok (some edit))
    (recorded : call.argumentList = some span) (at_front : other.range.start = byteSize front)
    (behind : byteSize front ≤ span.start) (small : span.stop + byteSize other.replacement ≤ maxOffset) :
    f.edit? (front ++ other.replacement ++ back) (call.movedBy other) =
      .ok (some (.insert (edit.range.start + byteSize other.replacement) edit.replacement)) := by
  obtain ⟨inside, delimits, rfl, -, -⟩ := exists_cut_of_edit? edited recorded
  have recorded' := argumentList_movedBy_of_le recorded (at_front ▸ behind)
  have start_le := delimits.start_le_stop
  have edited' := edit?_of_delimits (f := f) recorded' (by dsimp only; omega) small (delimits.of_behind behind _)
  have moved : span.start + byteSize other.replacement + 1 + codeEnd inside =
      span.start + 1 + codeEnd inside + byteSize other.replacement := by omega
  rw [edited', moved]
  rfl

/-- Before an inserted text a fix makes the edit that it made before. -/
theorem edit?_movedBy_of_lt (edited : f.edit? (front ++ back) call = .ok (some edit))
    (recorded : call.argumentList = some span) (at_front : other.range.start = byteSize front)
    (before : span.stop ≤ byteSize front) (small : byteSize front ≤ maxOffset) :
    f.edit? (front ++ other.replacement ++ back) (call.movedBy other) = .ok (some edit) := by
  obtain ⟨inside, delimits, rfl, after_opening, before_closing⟩ := exists_cut_of_edit? edited recorded
  have recorded' : (call.movedBy other).argumentList = some span :=
    argumentList_movedBy_of_lt recorded (by omega)
  exact edit?_of_delimits recorded' (by omega) (by omega) (delimits.of_before before _)

/-- Of two separate calls the one that stands first can be fixed first or last. -/
theorem exists_agree_of_le (edited_f : f.edit? source a = .ok (some first))
    (edited_g : g.edit? source b = .ok (some second)) (recorded_a : a.argumentList = some s)
    (recorded_b : b.argumentList = some t) (before : s.stop ≤ t.start)
    (small : byteSize source + byteSize first.replacement + byteSize second.replacement ≤ maxOffset) :
    ∃ both, Agree f g source a b first second both := by
  obtain ⟨inside_a, -, edit_a, after_a, before_a⟩ := exists_cut_of_edit? edited_f recorded_a
  obtain ⟨inside_b, delimits_b, edit_b, after_b, before_b⟩ := exists_cut_of_edit? edited_g recorded_b
  have stop_b := delimits_b.stop_le
  -- The source is cut at the two offsets, of which that of the first call is the smaller one.
  obtain ⟨front, rest, whole, at_first⟩ := Text.isBoundary_iff.1 (isCaret_of_edit? edited_f).boundary
  obtain ⟨upTo, back, whole', at_second⟩ := Text.isBoundary_iff.1 (isCaret_of_edit? edited_g).boundary
  obtain ⟨middle, rfl, rfl⟩ := Text.exists_append_of_byteSize_le (whole.symm.trans whole') (by omega)
  subst whole
  have size := Text.byteSize_append front (middle ++ back)
  have inserted : first.InsertBoth second (front ++ (middle ++ back))
      (front ++ first.replacement ++ middle ++ second.replacement ++ back) := by
    refine ⟨front, middle, back, by simp, ?_, ?_, rfl⟩
    · rw [← at_first, edit_a]
      rfl
    · rw [← at_second, edit_b]
      rfl
  obtain ⟨together, reversed⟩ := inserted.applyAll_eq (by omega)
  refine ⟨_, ⟨_, apply_of_front edited_f at_first, ?_⟩, ?_, together, reversed, .inl inserted⟩
  · have edited' := edit?_movedBy_of_le edited_g recorded_b at_first (by omega) (by omega)
    have moved : second.range.start + byteSize first.replacement =
        byteSize (front ++ first.replacement ++ middle) := by
      simp only [at_second, Text.byteSize_append]
      omega
    rw [← List.append_assoc] at edited' ⊢
    have applied := apply_of_front edited' moved
    exact applied
  · have small_front : byteSize (front ++ middle) ≤ maxOffset := by omega
    rw [← List.append_assoc] at edited_f edited_g ⊢
    refine ⟨_, apply_of_front edited_g at_second, ?_⟩
    have edited' := edit?_movedBy_of_lt edited_f recorded_a at_second (by omega) small_front
    rw [List.append_assoc, List.append_assoc] at edited' ⊢
    rw [apply_of_front edited' at_first]
    simp only [List.append_assoc]

/-- **Fixes of separate calls commute.** Two calls whose argument lists stand at their spans and do not overlap can be
fixed one after the other in either order, or both at once in either order. None of this fails, and all of it gives one
text, as long as the source with both insertions can be counted. What the fixes insert does not matter. -/
theorem apply_separate (f g : Fix) (source inside_a inside_b : Text) (a b : Call) (s t : Span)
    (recorded_a : a.argumentList = some s) (recorded_b : b.argumentList = some t)
    (delimits_a : Delimits source s inside_a) (delimits_b : Delimits source t inside_b)
    (apart : s.stop ≤ t.start ∨ t.stop ≤ s.start)
    (small : byteSize source + byteSize (f.insertedText a) + byteSize (g.insertedText b) < 2 ^ 32) :
    ∃ first second both, f.edit? source a = .ok (some first) ∧ g.edit? source b = .ok (some second) ∧
      Agree f g source a b first second both := by
  have countable : (2 : Nat) ^ 32 = maxOffset + 1 := rfl
  have start_a := delimits_a.start_le_stop
  have start_b := delimits_b.start_le_stop
  have stop_a := delimits_a.stop_le
  have stop_b := delimits_b.stop_le
  have edited_f := edit?_of_delimits (f := f) recorded_a (by omega) (by omega) delimits_a
  have edited_g := edit?_of_delimits (f := g) recorded_b (by omega) (by omega) delimits_b
  rcases apart with before | behind
  · have countable_both : byteSize source + byteSize (f.insertedText a) + byteSize (g.insertedText b) ≤ maxOffset := by
      omega
    obtain ⟨both, agree⟩ := exists_agree_of_le edited_f edited_g recorded_a recorded_b before countable_both
    exact ⟨_, _, both, edited_f, edited_g, agree⟩
  · have countable_both : byteSize source + byteSize (g.insertedText b) + byteSize (f.insertedText a) ≤ maxOffset := by
      omega
    obtain ⟨both, agree⟩ := exists_agree_of_le edited_g edited_f recorded_b recorded_a behind countable_both
    exact ⟨_, _, both, edited_f, edited_g, agree.symm⟩

/-- `f(é)()`, two argument lists that touch. The later one is fixed first, and the text that is then put in before it
has a character of two bytes. -/
theorem apply_separate_touching :
    let source : Text := ['f', '(', 'é', ')', '(', ')']
    let inner : Call := { argumentList := some ⟨1, 5⟩, arguments := [none] }
    let outer : Call := { argumentList := some ⟨5, 7⟩ }
    let f : Fix := ⟨.string, "x"⟩
    let g : Fix := ⟨.charset, "ü"⟩
    Delimits source ⟨1, 5⟩ ['é'] ∧ Delimits source ⟨5, 7⟩ [] ∧
      Agree f g source outer inner (.insert 6 ['x']) (.insert 4 [',', ' ', 'ü'])
        ['f', '(', 'é', ',', ' ', 'ü', ')', '(', 'x', ')'] := by
  intro source inner outer f g
  have inner_delimits : Delimits source ⟨1, 5⟩ ['é'] := ⟨['f'], ['(', ')'], rfl, rfl, rfl⟩
  have outer_delimits : Delimits source ⟨5, 7⟩ [] := ⟨['f', '(', 'é', ')'], [], rfl, rfl, rfl⟩
  have inner_inserted : g.insertedText inner = [',', ' ', 'ü'] := by decide
  have outer_inserted : f.insertedText outer = ['x'] := by decide
  obtain ⟨first, second, both, outer_edited, inner_edited, agree⟩ :=
    apply_separate f g source [] ['é'] outer inner ⟨5, 7⟩ ⟨1, 5⟩ rfl rfl outer_delimits inner_delimits
      (.inr (by decide)) (by rw [inner_inserted, outer_inserted]; decide)
  obtain rfl : first = .insert 6 ['x'] := by
    have code : codeEnd [] = 0 := by decide +kernel
    rw [edit?_of_delimits rfl (by decide) (by decide) outer_delimits, code, outer_inserted] at outer_edited
    exact (Option.some.inj (Except.ok.inj outer_edited)).symm
  obtain rfl : second = .insert 4 [',', ' ', 'ü'] := by
    have code : codeEnd ['é'] = 2 := by decide +kernel
    rw [edit?_of_delimits rfl (by decide) (by decide) inner_delimits, code, inner_inserted] at inner_edited
    exact (Option.some.inj (Except.ok.inj inner_edited)).symm
  have computed : Edit.applyAll source [.insert 6 ['x'], .insert 4 [',', ' ', 'ü']] =
      .ok ['f', '(', 'é', ',', ' ', 'ü', ')', '(', 'x', ')'] := by
    have sorted : Edit.sort [.insert 6 ['x'], .insert 4 [',', ' ', 'ü']] =
        [.insert 4 [',', ' ', 'ü'], .insert 6 ['x']] := by
      simp [Edit.sort, List.mergeSort, Edit.le, Edit.insert, TextRange.point]
    rw [Edit.applyAll, Edit.normalize, sorted]
    rfl
  obtain rfl : both = _ := Except.ok.inj (agree.together.symm.trans computed)
  exact ⟨inner_delimits, outer_delimits, agree⟩

end Fix

end EncodingLint
