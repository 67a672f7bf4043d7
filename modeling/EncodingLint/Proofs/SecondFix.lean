import Mathlib.Algebra.Group.Nat.Defs
import EncodingLint.Proofs.FixOutcome
import EncodingLint.Proofs.LiteralMeaning
import EncodingLint.Rule.Basic
import EncodingLint.Settings.Basic

/-!
# One fix after another

A second fix goes in right behind the first, whatever stands between the parentheses. The inserted text may change how
the text before it is cut: a literal without an end ends at its first quote, and its last quote begins another one.
But it is `Insertable`: what stands before it does not become a comment, and what of it is left over ends in code, so
that the code ends where the inserted text does (`codeText_insert`).
-/

set_option autoImplicit false

namespace EncodingLint

open Text (byteSize)

/-- The call after a text was inserted as one more argument. -/
def Call.lengthened (call : Call) (inserted : Text) (argument : Option TypeRef) : Call :=
  { call with
    argumentList := call.argumentList.map fun span => ⟨span.start, span.stop + byteSize inserted⟩
    arguments := call.arguments ++ [argument] }

namespace Fix

open Piece (isBlank)

/-- A text that is code to its end, wherever behind code it is put in. -/
structure Insertable (text : Text) : Prop where
  apart : Apart text
  nonempty : text ≠ []
  starts : ∀ d ∈ text.head?, d ≠ '*'
  noSlash : '/' ∉ text
  filled : ∀ c ∈ text.getLast?, isBlank c = false

variable {c : Char} {text inside rest trivia front back source : Text} {ps qs : List Piece} {call : Call}
  {span : Span} {f : Fix} {edit : Edit} {name : String}

/-! ## The end of the code -/

theorem Insertable.noComment (insertable : Insertable text) (rest : Text) :
    ∀ d ∈ (text ++ rest).head?, d ≠ '/' ∧ d ≠ '*' := by
  intro d first
  rw [List.head?_append_of_ne_nil _ insertable.nonempty] at first
  refine ⟨fun slash => ?_, insertable.starts d first⟩
  exact insertable.noSlash (slash ▸ List.mem_of_mem_head? first)

/-- What is left of an insertable text ends in code. -/
theorem Insertable.endInCode (insertable : Insertable text) (suffix : rest <:+ text) : EndInCode (pieces rest) := by
  apply endInCode_pieces
  · exact fun slash => insertable.noSlash (suffix.subset slash)
  · intro c last
    obtain ⟨init, rfl⟩ := suffix
    apply insertable.filled c
    rw [List.getLast?_append, last]
    rfl

/-- Code that has something behind it stays as it is if a text is put in between. -/
theorem StandBefore.insert (standBefore : StandBefore ps rest) (code : EndInCode ps) (more : rest ≠ [])
    (insertable : Insertable text) : StandBefore ps (text ++ rest) := by
  rcases List.eq_nil_or_concat ps with rfl | ⟨init, p, rfl⟩
  · trivial
  · rw [List.concat_eq_append] at code standBefore ⊢
    have isCode : p.isCode = true := endInCode_concat_iff.1 code
    obtain ⟨earlier, stands⟩ := standBefore_concat_iff.1 standBefore
    exact standBefore_concat_iff.2
      ⟨earlier.swap_behind stands, stands.of_isCode isCode more (insertable.noComment rest)⟩

/-- Code at the end of a text is still code with a text behind it, into which a literal may go on. -/
theorem StandBefore.endInCode (standBefore : StandBefore ps []) (code : EndInCode ps)
    (insertable : Insertable text) : EndInCode (pieces (ps.flatMap Piece.text ++ text)) := by
  rcases List.eq_nil_or_concat ps with rfl | ⟨init, p, rfl⟩
  · exact insertable.endInCode List.suffix_rfl
  · rw [List.concat_eq_append] at code standBefore ⊢
    have isCode : p.isCode = true := endInCode_concat_iff.1 code
    obtain ⟨earlier, stands⟩ := standBefore_concat_iff.1 standBefore
    have noComment := insertable.noComment []
    rw [List.append_nil] at noComment
    obtain ⟨p', left, isCode', suffix, cut⟩ := stands.exists_of_isCode isCode noComment
    have whole : pieces ((init ++ [p]).flatMap Piece.text ++ text) = init ++ [p'] ++ pieces left := by
      rw [List.flatMap_append, List.flatMap_singleton, List.append_assoc]
      rw [(earlier.swap_behind stands).pieces_append, cut, List.append_assoc, List.singleton_append]
    rw [whole]
    exact (endInCode_concat_iff.2 isCode').append (insertable.endInCode suffix)

/-- The code ends where the inserted text does. -/
theorem codeText_insert (insertable : Insertable text) (whole : inside = codeText inside ++ trivia) :
    codeText (codeText inside ++ text ++ trivia) = codeText inside ++ text := by
  obtain ⟨qs, cut, noCode, code⟩ := exists_trivia inside
  obtain ⟨same, standBefore, onlyTrivia⟩ := pieces_eq_append_iff.1 cut
  obtain rfl : trivia = qs.flatMap Piece.text := List.append_cancel_left (whole.symm.trans same)
  obtain ⟨ps, cut, code⟩ :
      ∃ ps, pieces (codeText inside ++ text ++ qs.flatMap Piece.text) = ps ++ qs ∧ EndInCode ps := by
    by_cases more : qs.flatMap Piece.text = []
    · -- Only here can the last piece of code go on into the text.
      obtain rfl : qs = [] := by rw [← onlyTrivia, more, pieces]
      refine ⟨_, ?_, standBefore.endInCode code insertable⟩
      rw [List.flatMap_nil, List.append_nil, List.append_nil]
      rfl
    · have inserted := (standBefore.insert code more insertable).pieces_append
      rw [insertable.apart, onlyTrivia, ← List.append_assoc, ← List.append_assoc] at inserted
      exact ⟨_, inserted, code.append (insertable.endInCode List.suffix_rfl)⟩
  have made := flatMap_pieces (codeText inside ++ text ++ qs.flatMap Piece.text)
  rw [cut, List.flatMap_append] at made
  rw [codeText, codePieces_eq cut code noCode]
  exact List.append_cancel_right made

/-! ## The span of the arguments -/

/-- A text put in behind the code of an argument list becomes a part of its code. -/
theorem Delimits.insert (delimits : Delimits source span inside) :
    ∃ front back, source = front ++ back ∧ span.start + 1 + codeEnd inside = byteSize front ∧
      ∀ text, Insertable text → ∃ inside',
        Delimits (front ++ text ++ back) ⟨span.start, span.stop + byteSize text⟩ inside' ∧
          span.start + 1 + codeEnd inside' = byteSize (front ++ text) := by
  obtain ⟨before, after, rfl, at_start, at_stop⟩ := delimits
  obtain ⟨trivia, whole, -⟩ := codeText_append inside
  refine ⟨before ++ '(' :: codeText inside, trivia ++ ')' :: after, cut_behind_code whole before after, ?_,
    fun text insertable => ?_⟩
  · rw [at_start, byteSize_upTo_code]
  · refine ⟨codeText inside ++ text ++ trivia, ⟨before, after, by simp, at_start, ?_⟩, ?_⟩
    · have size := congrArg byteSize whole
      simp only [Text.byteSize_append, Text.byteSize_cons] at at_stop size ⊢
      omega
    · rw [at_start, ← byteSize_upTo_code, codeText_insert insertable whole, List.append_assoc]
      rfl

theorem argumentList_lengthened (recorded : call.argumentList = some span) (inserted : Text)
    (argument : Option TypeRef) :
    (call.lengthened inserted argument).argumentList = some ⟨span.start, span.stop + byteSize inserted⟩ :=
  congrArg (Option.map _) recorded

/-- After the arguments that a call has by then, the next one comes behind a comma. -/
theorem insertedText_lengthened (inserted : Text) (argument : Option TypeRef) :
    f.insertedText (call.lengthened inserted argument) = (", " ++ f.insertion).toList := by
  have arguments : (call.lengthened inserted argument).arguments.isEmpty = false := by
    simp [Call.lengthened]
  rw [insertedText, arguments]
  rfl

/-! ## What the fixes insert -/

/-- An insertable text between texts that mark nothing. -/
theorem Insertable.enclose (insertable : Insertable text) (front back : Text)
    (plain : ∀ c ∈ front ++ back, c ≠ '/' ∧ c ≠ '"' ∧ c ≠ '\'') (starts : ∀ d ∈ front.head?, d ≠ '*')
    (filled : ∀ c ∈ back.getLast?, isBlank c = false) : Insertable (front ++ text ++ back) where
  apart := by
    rw [List.forall_mem_append] at plain
    exact ((apart_of_plain plain.1).append insertable.apart).append (apart_of_plain plain.2)
  nonempty := by simp [insertable.nonempty]
  starts := by
    intro d first
    cases front with
    | nil =>
      rw [List.nil_append, List.head?_append_of_ne_nil _ insertable.nonempty] at first
      exact insertable.starts d first
    | cons c cs => exact starts d first
  noSlash := by
    rw [List.forall_mem_append] at plain
    simp only [List.mem_append, not_or]
    exact ⟨⟨fun slash => (plain.1 _ slash).1 rfl, insertable.noSlash⟩, fun slash => (plain.2 _ slash).1 rfl⟩
  filled := by
    intro c last
    rw [List.getLast?_append] at last
    cases ends : back.getLast? with
    | none =>
      rw [ends, Option.none_or, List.getLast?_append_of_ne_nil _ insertable.nonempty] at last
      exact insertable.filled c last
    | some d =>
      rw [ends] at last
      exact filled c (ends.trans last)

theorem isCharsetPart_of_mem (legal : isCharsetName name = true) (member : c ∈ name.toList) :
    isCharsetPart c = true := by
  unfold isCharsetName at legal
  split at legal
  next => cases legal
  next first others spelled =>
    rw [Bool.and_eq_true, List.all_eq_true] at legal
    rw [spelled] at member
    rcases List.mem_cons.1 member with rfl | later
    · rw [isCharsetPart, legal.1]
      rfl
    · exact legal.2 c later

theorem toNat_of_isCharsetPart (part : isCharsetPart c = true) : 0x2b ≤ c.toNat ∧ c.toNat ≤ 0x7a := by
  simp only [isCharsetPart, isCharsetStart, Bool.or_eq_true, Bool.and_eq_true, decide_eq_true_eq, beq_iff_eq,
    Char.le_def, UInt32.le_iff_toNat_le] at part
  rcases part with ((((((lower | upper) | digit) | rfl) | rfl) | rfl) | rfl) | rfl
  · change 0x61 ≤ c.toNat ∧ c.toNat ≤ 0x7a at lower
    omega
  · change 0x41 ≤ c.toNat ∧ c.toNat ≤ 0x5a at upper
    omega
  · change 0x30 ≤ c.toNat ∧ c.toNat ≤ 0x39 at digit
    omega
  all_goals decide

theorem literalChar_of_isCharsetPart (part : isCharsetPart c = true) : literalChar c = [c] := by
  obtain ⟨low, high⟩ := toNat_of_isCharsetPart part
  unfold literalChar
  split
  · cases part
  · cases part
  · cases part
  · cases part
  · cases part
  · have printable : isControl c = false := by
      simp only [isControl, Bool.or_eq_false_iff, Bool.and_eq_false_iff, decide_eq_false_iff_not]
      omega
    rw [printable]
    rfl

/-- A legal charset name stands in a literal as it is. -/
theorem literal_of_isCharsetName (legal : isCharsetName name = true) :
    literal name.toList = '"' :: (name.toList ++ ['"']) := by
  have unchanged : name.toList.flatMap literalChar = name.toList.flatMap fun c => [c] :=
    List.flatMap_congr fun c member => literalChar_of_isCharsetPart (isCharsetPart_of_mem legal member)
  rw [literal, unchanged, List.flatMap_singleton']

theorem insertable_literal (legal : isCharsetName name = true) : Insertable (literal name.toList) where
  apart := apart_literal name.toList
  nonempty := List.cons_ne_nil _ _
  starts := by
    rintro d ⟨⟩
    decide
  noSlash := by
    rw [literal_of_isCharsetName legal, List.mem_cons, List.mem_append, List.mem_singleton]
    rintro (quote | slash | quote)
    · cases quote
    · cases isCharsetPart_of_mem legal slash
    · cases quote
  filled := by
    intro c last
    rw [literal, ← List.cons_append, List.getLast?_concat] at last
    obtain rfl : '"' = c := Option.some.inj last
    rfl

theorem insertable_insertion (legal : isCharsetName name = true) (kind : FixKind) :
    Insertable (kind.toFix name).insertion.toList := by
  have quoted := insertable_literal legal
  cases kind with
  | charset =>
    have inserted := quoted.enclose "Charset.forName(".toList [')'] (by simp) (by simp) (by simp [isBlank])
    simpa [FixKind.toFix, charsetObject] using inserted
  | string => simpa [FixKind.toFix, charsetName] using quoted

theorem insertable_insertedText (legal : isCharsetName name = true) (kind : FixKind) (call : Call) :
    Insertable ((kind.toFix name).insertedText call) := by
  have inserted := insertable_insertion legal kind
  unfold insertedText
  split
  · rw [String.empty_append]
    exact inserted
  · have separated := inserted.enclose [',', ' '] [] (by simp) (by simp) (by simp)
    rw [String.toList_append]
    simpa using separated

/-- **A second fix goes in right behind the first.** Wherever the fix of a legal charset name has something to edit, a
fix of any kind is then put right behind its text, after a comma, if the call is taken as it stands by then and the
source with the first text in it can still be counted. -/
theorem apply_second (kind : FixKind) (name : String) (source : Text) (call : Call) (edit : Edit)
    (second : Fix) (argument : Option TypeRef) (legal : isCharsetName name = true)
    (edited : (kind.toFix name).edit? source call = .ok (some edit))
    (small : byteSize source + byteSize edit.replacement < 2 ^ 32) :
    ∃ front back, source = front ++ back ∧ edit.range.start = byteSize front ∧
      (kind.toFix name).apply source call = .ok (front ++ edit.replacement ++ back) ∧
      second.apply (front ++ edit.replacement ++ back) (call.lengthened edit.replacement argument) =
        .ok (front ++ edit.replacement ++ (", " ++ second.insertion).toList ++ back) := by
  obtain ⟨span, inside, recorded, start_le, delimits, rfl⟩ := exists_delimits_of_edit? edited
  have stop_le := delimits.stop_le
  obtain ⟨front, back, rfl, at_front, inserted⟩ := delimits.insert
  let text := (kind.toFix name).insertedText call
  have recorded' := argumentList_lengthened recorded text argument
  refine ⟨front, back, rfl, at_front, apply_of_front edited at_front, ?_⟩
  obtain ⟨inside', delimits', at_front'⟩ := inserted text (insertable_insertedText legal kind call)
  have countable : span.stop + byteSize text ≤ maxOffset :=
    Nat.le_of_lt_succ (Nat.lt_of_le_of_lt (Nat.add_le_add_right stop_le _) small)
  have edited' := edit?_of_delimits (f := second) recorded' start_le countable delimits'
  have applied := apply_of_front edited' at_front'
  rw [← insertedText_lengthened text argument]
  exact applied

/-- `f("é)`, a literal without an end. The first fix ends it and begins another one without an end, and still the
second fix goes in behind the first. -/
theorem apply_second_open_literal :
    let source : Text := "f(\"é)".toList
    let call : Call := { argumentList := some ⟨1, 6⟩, arguments := [none] }
    let edit : Edit := .insert 5 ", \"UTF-8\"".toList
    let first := FixKind.string.toFix "UTF-8"
    let second := FixKind.charset.toFix "UTF-16"
    let fixed : Text := "f(\"é, \"UTF-8\")".toList
    isCharsetName "UTF-8" = true ∧ first.edit? source call = .ok (some edit) ∧
      byteSize source + byteSize edit.replacement < 2 ^ 32 ∧ first.apply source call = .ok fixed ∧
      second.apply fixed (call.lengthened edit.replacement (some first.appended)) =
        .ok "f(\"é, \"UTF-8\", Charset.forName(\"UTF-16\"))".toList := by
  intro source call edit first second fixed
  have legal : isCharsetName "UTF-8" = true := by decide
  have edited : first.edit? source call = .ok (some edit) := by
    have delimits : Delimits source ⟨1, 6⟩ ['"', 'é'] := ⟨['f'], [], by decide, rfl, rfl⟩
    have code : codeEnd ['"', 'é'] = 3 := by decide +kernel
    have inserted : first.insertedText call = ", \"UTF-8\"".toList := by decide
    rw [edit?_of_delimits rfl (by decide) (by decide) delimits, code, inserted]
  have small : byteSize source + byteSize edit.replacement < 2 ^ 32 := by decide
  obtain ⟨front, back, whole, at_front, applied, appliedSecond⟩ :=
    apply_second .string "UTF-8" source call edit second (some first.appended) legal edited small
  obtain ⟨rfl, rfl⟩ : "f(\"é".toList = front ∧ [')'] = back :=
    Text.append_inj_of_byteSize (by rw [← whole]; decide) (by rw [← at_front]; decide)
  have same : "f(\"é".toList ++ edit.replacement ++ [')'] = fixed := by decide
  rw [same] at applied appliedSecond
  refine ⟨legal, edited, small, applied, ?_⟩
  rw [appliedSecond]
  decide

/-- An argument list that takes up a whole source of `maxOffset` bytes. The first fix goes in, and then the list ends
too far behind for any other. -/
theorem apply_second_uncountable :
    let source : Text := '(' :: (List.replicate (maxOffset - 2) 'a' ++ [')'])
    let call : Call := { argumentList := some ⟨0, maxOffset⟩, arguments := [none] }
    let first := FixKind.string.toFix "UTF-8"
    byteSize source = maxOffset ∧ isCharsetName "UTF-8" = true ∧
      ∃ edit fixed, first.edit? source call = .ok (some edit) ∧ first.apply source call = .ok fixed ∧
        ∀ second argument, apply second fixed (call.lengthened edit.replacement argument) =
          .error (.noArgumentList ⟨0, maxOffset + 9⟩) := by
  intro source call first
  have size : byteSize source = maxOffset := by
    rw [Text.byteSize_cons, Text.byteSize_append, Text.byteSize_replicate]
    rfl
  have delimits : Delimits source ⟨0, maxOffset⟩ (List.replicate (maxOffset - 2) 'a') := by
    refine ⟨[], [], ?_, rfl, ?_⟩
    · rw [List.nil_append, List.append_nil]
    · rw [Text.byteSize_nil, Nat.zero_add, size]
  have recorded : call.argumentList = some ⟨0, maxOffset⟩ := rfl
  have edited := edit?_of_delimits (f := first) recorded (Nat.zero_le _) (Nat.le_refl _) delimits
  obtain ⟨front, back, -, -, applied⟩ := exists_applied edited
  have inserted : byteSize (first.insertedText call) = 9 := by decide
  refine ⟨size, by decide, _, _, edited, applied, fun second argument => ?_⟩
  have recorded' := argumentList_lengthened recorded (first.insertedText call) argument
  rw [inserted] at recorded'
  exact apply_of_misplaced recorded' (.inr (.inr (.inl (Nat.lt_add_of_pos_right (by decide)))))

end Fix

end EncodingLint
