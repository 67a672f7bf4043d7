import EncodingLint.Proofs.PieceSeams
import EncodingLint.Toml.Strings

/-!
# What a string literal means

Java reads a string literal in two steps. The numbered escapes are replaced first, wherever an even number of
backslashes stands before them (`replaceNumbered`), and then the short ones (`replaceShort`). A `literal` survives
both: its text comes back, and no line break and no quote that would end it appears on the way. Character by
character a literal has only three forms (`Written`), and each leaves the number of backslashes before the next
character even, so that the forms do not run into each other.
-/

set_option autoImplicit false

namespace EncodingLint.Fix

open Piece (next splitLiteral isBlank)
open Text (byteSize)
open Toml (isHexDigit digitValue ofDigits)
open Toml.Strings (scalar?)

/-- Whether a text ends in an odd number of backslashes. -/
def endsOdd (text : Text) : Bool :=
  (text.rtakeWhile (· == '\\')).length % 2 == 1

/-- Replaces each `\uXXXX` by the character of that number, if an even number of backslashes stands right before it;
`odd` says whether the text comes after an odd number of them. A `\u` without such a number is refused. -/
def replaceNumbered : Bool → Text → Option Text
  | _, [] => some []
  | false, '\\' :: 'u' :: a :: b :: c :: d :: rest => do
    return (← scalar? [a, b, c, d]) :: (← replaceNumbered false rest)
  | false, '\\' :: 'u' :: _ => none
  | odd, '\\' :: rest => (replaceNumbered (!odd) rest).map ('\\' :: ·)
  | _, c :: rest => (replaceNumbered false rest).map (c :: ·)

/-- The character that stands for another one after a backslash. -/
def shortEscape? : Char → Option Char
  | '"' => some '"'
  | '\\' => some '\\'
  | 'n' => some '\n'
  | 'r' => some '\r'
  | 't' => some '\t'
  | _ => none

/-- Replaces each short escape. A quote or a line break without a backslash would end the literal and is refused. -/
def replaceShort : Text → Option Text
  | [] => some []
  | '\\' :: c :: rest => do
    return (← shortEscape? c) :: (← replaceShort rest)
  | c :: rest =>
    if c = '\\' ∨ c = '"' ∨ c = '\n' ∨ c = '\r' then none else (replaceShort rest).map (c :: ·)

/-- How a character may stand in a literal. -/
inductive Written : Char → Text → Prop where
  | short {c e : Char} (meaning : shortEscape? e = some c) : Written c ['\\', e]
  | numbered {c : Char} (control : isControl c = true) (notBreak : c ≠ '\n' ∧ c ≠ '\r') :
    Written c ('\\' :: 'u' :: fourDigits c.toNat)
  | plain {c : Char} (marksNothing : ¬ (c = '\\' ∨ c = '"' ∨ c = '\n' ∨ c = '\r')) : Written c [c]

variable {c e : Char} {n : Nat} {text written before after rest : Text}

/-! ## Four digits -/

theorem digitChar_hex : ∀ d < 16, isHexDigit d.digitChar = true ∧ digitValue d.digitChar = d := by
  decide

theorem ofDigits_concat (digits : Text) (c : Char) :
    ofDigits 16 (digits ++ [c]) = ofDigits 16 digits * 16 + digitValue c := by
  rw [ofDigits, List.foldl_append]
  rfl

/-- The hexadecimal digits of a number are digits and spell the number. -/
theorem hexDigits_spell (n : Nat) :
    (∀ c ∈ Text.hexDigits n, isHexDigit c = true) ∧ ofDigits 16 (Text.hexDigits n) = n := by
  induction n using Nat.strongRecOn with
  | ind n ih =>
    rw [Text.hexDigits, Nat.toDigits_eq_if (by decide)]
    split
    next single =>
      obtain ⟨isHex, value⟩ := digitChar_hex n single
      refine ⟨by simpa using isHex, ?_⟩
      rw [← List.nil_append [n.digitChar], ofDigits_concat, value]
      exact Nat.zero_add n
    next several =>
      obtain ⟨isHex, value⟩ := digitChar_hex (n % 16) (Nat.mod_lt n (by decide))
      obtain ⟨digits, spelled⟩ := ih (n / 16) (by omega)
      rw [Text.hexDigits] at digits spelled
      rw [ofDigits_concat, spelled, value]
      refine ⟨fun c member => ?_, by omega⟩
      rcases List.mem_append.1 member with high | low
      · exact digits c high
      · rw [List.mem_singleton.1 low]
        exact isHex

theorem ofDigits_zeros (count : Nat) (digits : Text) :
    ofDigits 16 (List.replicate count '0' ++ digits) = ofDigits 16 digits := by
  induction count with
  | zero => rfl
  | succ count ih => exact ih

theorem isHexDigit_of_mem_fourDigits (member : c ∈ fourDigits n) : isHexDigit c = true := by
  rcases List.mem_append.1 member with zero | digit
  · rw [List.eq_of_mem_replicate zero]
    rfl
  · exact (hexDigits_spell n).1 c digit

theorem length_fourDigits (small : n < 0x10000) : (fourDigits n).length = 4 := by
  have short : (Text.hexDigits n).length ≤ 4 := (Nat.length_toDigits_le_iff (by decide) (by decide)).2 small
  rw [fourDigits, List.length_append, List.length_replicate]
  omega

/-- Four digits are read as the character of which they are the number. -/
theorem scalar?_fourDigits (c : Char) : scalar? (fourDigits c.toNat) = some c := by
  have spelled : ofDigits 16 (fourDigits c.toNat) = c.toNat := by
    rw [fourDigits, ofDigits_zeros]
    exact (hexDigits_spell c.toNat).2
  have digits : (fourDigits c.toNat).all isHexDigit = true := by
    rw [List.all_eq_true]
    exact fun d member => isHexDigit_of_mem_fourDigits member
  have valid : (c.toNat < 0xd800 || (0xdfff < c.toNat && c.toNat < 0x110000)) = true := by
    have valid : c.toNat.isValidChar := c.valid
    simpa [Nat.isValidChar] using valid
  rw [scalar?, spelled]
  simp only [digits, valid]
  simp

/-! ## The forms of a character -/

theorem written_literalChar (c : Char) : Written c (literalChar c) := by
  unfold literalChar
  split
  · exact .short rfl
  · exact .short rfl
  · exact .short rfl
  · exact .short rfl
  · exact .short rfl
  next quote backslash feed carriage tab =>
    split
    next control => exact .numbered control ⟨feed, carriage⟩
    next => exact .plain (by rintro (rfl | rfl | rfl | rfl) <;> contradiction)

/-- A form is a backslash and what it escapes, or nothing, and then characters that neither escape nor end
anything. -/
theorem Written.exists_plain (form : Written c written) :
    ∃ opening tail, written = opening ++ tail ∧ (opening = [] ∨ ∃ e, opening = ['\\', e]) ∧
      ∀ d ∈ tail, d ≠ '\\' ∧ d ≠ '"' := by
  cases form with
  | @short e _ => exact ⟨['\\', e], [], rfl, .inr ⟨e, rfl⟩, by simp⟩
  | numbered _ _ =>
    refine ⟨['\\', 'u'], fourDigits c.toNat, rfl, .inr ⟨'u', rfl⟩, fun d member => ?_⟩
    have isHex := isHexDigit_of_mem_fourDigits member
    constructor
    · rintro rfl
      cases isHex
    · rintro rfl
      cases isHex
  | plain marksNothing =>
    rw [not_or, not_or] at marksNothing
    exact ⟨[], [c], rfl, .inl rfl, by simpa using ⟨marksNothing.1, marksNothing.2.1⟩⟩

theorem Written.inLine (form : Written c written) : '\n' ∉ written ∧ '\r' ∉ written := by
  cases form with
  | short meaning =>
    simp only [List.mem_pair, not_or]
    refine ⟨⟨by decide, ?_⟩, by decide, ?_⟩
    · rintro rfl
      cases meaning
    · rintro rfl
      cases meaning
  | numbered _ _ =>
    simp only [List.mem_cons, not_or]
    refine ⟨⟨by decide, by decide, fun feed => ?_⟩, by decide, by decide, fun carriage => ?_⟩
    · cases isHexDigit_of_mem_fourDigits feed
    · cases isHexDigit_of_mem_fourDigits carriage
  | plain marksNothing =>
    simp only [not_or] at marksNothing
    simp only [List.mem_singleton]
    exact ⟨Ne.symm marksNothing.2.2.1, Ne.symm marksNothing.2.2.2⟩

/-! ## Where a form ends -/

theorem endsOdd_concat (text : Text) (c : Char) : endsOdd (text ++ [c]) = (c == '\\' && !endsOdd text) := by
  unfold endsOdd
  rw [List.rtakeWhile_concat]
  split
  next backslash =>
    rw [backslash, Bool.true_and, List.length_append, List.length_singleton, Bool.eq_iff_iff]
    simp only [beq_iff_eq, Bool.not_eq_true', beq_eq_false_iff_ne]
    omega
  next other => simp [other]

theorem endsOdd_append (even : endsOdd text = false) : endsOdd (text ++ rest) = endsOdd rest := by
  induction rest using List.reverseRecOn with
  | nil =>
    rw [List.append_nil, even]
    rfl
  | append_singleton rest c ih => rw [← List.append_assoc, endsOdd_concat, endsOdd_concat, ih]

theorem endsOdd_plain (plain : ∀ d ∈ text, d ≠ '\\' ∧ d ≠ '"') : endsOdd text = false := by
  rcases List.eq_nil_or_concat text with rfl | ⟨init, c, rfl⟩
  · rfl
  · have last := (plain c (by simp)).1
    rw [List.concat_eq_append, endsOdd_concat, beq_false_of_ne last, Bool.false_and]

theorem splitLiteral_plain (plain : ∀ d ∈ text, d ≠ '\\' ∧ d ≠ '"') :
    splitLiteral '"' (text ++ rest) = (text ++ (splitLiteral '"' rest).1, (splitLiteral '"' rest).2) := by
  induction text with
  | nil => rfl
  | cons c cs ih =>
    rw [List.forall_mem_cons] at plain
    rw [List.cons_append, splitLiteral_cons plain.1.1 plain.1.2, ih plain.2]
    rfl

/-- A form leaves no backslash that would escape what comes next. -/
theorem Written.endsOdd_eq (form : Written c written) : endsOdd written = false := by
  obtain ⟨opening, tail, rfl, begins, plain⟩ := form.exists_plain
  have even : endsOdd opening = false := by
    rcases begins with rfl | ⟨e, rfl⟩
    · rfl
    · rw [← List.singleton_append, endsOdd_concat]
      exact Bool.and_false _
  rw [endsOdd_append even, endsOdd_plain plain]

/-- A quote in a form has a backslash before it. -/
theorem Written.endsOdd_before (form : Written c written) (cut : written = before ++ '"' :: after) :
    endsOdd before = true := by
  obtain ⟨opening, tail, rfl, begins, plain⟩ := form.exists_plain
  have noQuote : ∀ x, tail ≠ x ++ '"' :: after := by
    rintro x rfl
    exact (plain '"' (by simp)).2 rfl
  rcases begins with rfl | ⟨e, rfl⟩
  · exact absurd cut (noQuote before)
  · match before with
    | [] => cases cut
    | [d] =>
      obtain rfl : '\\' = d := (List.cons.inj cut).1
      rfl
    | _ :: _ :: before => exact absurd (List.cons.inj (List.cons.inj cut).2).2 (noQuote before)

/-- A form is taken into the literal as a whole. -/
theorem Written.splitLiteral_append (form : Written c written) :
    splitLiteral '"' (written ++ rest) = (written ++ (splitLiteral '"' rest).1, (splitLiteral '"' rest).2) := by
  obtain ⟨opening, tail, rfl, begins, plain⟩ := form.exists_plain
  rcases begins with rfl | ⟨e, rfl⟩
  · exact splitLiteral_plain plain
  · rw [List.append_assoc, List.cons_append, List.singleton_append, splitLiteral_escape, splitLiteral_plain plain]
    rfl

/-! ## Reading a form -/

theorem replaceNumbered_number {a b d : Char} :
    replaceNumbered false ('\\' :: 'u' :: a :: b :: c :: d :: rest) =
      (scalar? [a, b, c, d]).bind fun e => (replaceNumbered false rest).map (e :: ·) := by
  rw [replaceNumbered]
  cases scalar? [a, b, c, d] <;> cases replaceNumbered false rest <;> rfl

theorem replaceNumbered_plain {odd : Bool} (plain : c ≠ '\\') :
    replaceNumbered odd (c :: rest) = (replaceNumbered false rest).map (c :: ·) := by
  rw [replaceNumbered]
  all_goals simp_all

/-- Two backslashes, or one and a short escape, are passed over together. -/
theorem replaceNumbered_pair (short : e ≠ 'u') :
    replaceNumbered false ('\\' :: e :: rest) = (replaceNumbered false rest).map (['\\', e] ++ ·) := by
  have second : replaceNumbered true (e :: rest) = (replaceNumbered false rest).map (e :: ·) := by
    by_cases escape : e = '\\'
    · subst escape
      rw [replaceNumbered]
      · rfl
      all_goals simp
    · exact replaceNumbered_plain escape
  rw [replaceNumbered]
  · rw [Bool.not_false, second, Option.map_map]
    rfl
  all_goals simp [short]

theorem replaceShort_pair (meaning : shortEscape? e = some c) :
    replaceShort ('\\' :: e :: rest) = (replaceShort rest).map (c :: ·) := by
  rw [replaceShort, meaning]
  cases replaceShort rest <;> rfl

theorem replaceShort_plain (plain : ¬ (c = '\\' ∨ c = '"' ∨ c = '\n' ∨ c = '\r')) :
    replaceShort (c :: rest) = (replaceShort rest).map (c :: ·) := by
  rw [replaceShort, if_neg plain]
  simp_all

theorem replaceNumbered_fourDigits (control : isControl c = true) :
    replaceNumbered false ('\\' :: 'u' :: (fourDigits c.toNat ++ rest)) =
      (replaceNumbered false rest).map (c :: ·) := by
  have small : c.toNat < 0x10000 := by
    simp only [isControl, Bool.or_eq_true, Bool.and_eq_true, decide_eq_true_eq] at control
    omega
  have read := scalar?_fourDigits c
  match fourDigits c.toNat, length_fourDigits small, read with
  | [a, b, d, e], _, read =>
    simp only [List.cons_append, List.nil_append]
    rw [replaceNumbered_number, read]
    rfl

/-- The two steps of reading take a form for its character, and the text in between stays in its line. -/
theorem Written.exists_replaced (form : Written c written) :
    ∃ replaced, ('\n' ∉ replaced ∧ '\r' ∉ replaced) ∧
      (∀ rest, replaceNumbered false (written ++ rest) = (replaceNumbered false rest).map (replaced ++ ·)) ∧
      ∀ rest, replaceShort (replaced ++ rest) = (replaceShort rest).map (c :: ·) := by
  have inLine := form.inLine
  cases form with
  | @short e meaning =>
    have short : e ≠ 'u' := by
      rintro rfl
      cases meaning
    exact ⟨['\\', e], inLine, fun rest => replaceNumbered_pair short, fun rest => replaceShort_pair meaning⟩
  | numbered control notBreak =>
    have marksNothing : ¬ (c = '\\' ∨ c = '"' ∨ c = '\n' ∨ c = '\r') := by
      rintro (rfl | rfl | feed | carriage)
      · cases control
      · cases control
      · exact notBreak.1 feed
      · exact notBreak.2 carriage
    have inLine : '\n' ∉ [c] ∧ '\r' ∉ [c] := by simpa using ⟨Ne.symm notBreak.1, Ne.symm notBreak.2⟩
    exact ⟨[c], inLine, fun rest => replaceNumbered_fourDigits control, fun rest => replaceShort_plain marksNothing⟩
  | plain marksNothing =>
    exact ⟨[c], inLine, fun rest => replaceNumbered_plain (not_or.1 marksNothing).1,
      fun rest => replaceShort_plain marksNothing⟩

/-! ## Forms one behind the other -/

theorem inside_inLine (text : Text) : '\n' ∉ text.flatMap literalChar ∧ '\r' ∉ text.flatMap literalChar := by
  simp only [List.mem_flatMap, not_exists, not_and]
  exact ⟨fun c _ => (written_literalChar c).inLine.1, fun c _ => (written_literalChar c).inLine.2⟩

/-- Every quote between the outer ones is escaped. -/
theorem endsOdd_before_quote (cut : text.flatMap literalChar = before ++ '"' :: after) : endsOdd before = true := by
  induction text generalizing before with
  | nil => cases before <;> cases cut
  | cons c text ih =>
    rw [List.flatMap_cons, List.append_eq_append_iff] at cut
    rcases cut with ⟨x, rfl, later⟩ | ⟨y, here, rest⟩
    · rw [endsOdd_append (written_literalChar c).endsOdd_eq]
      exact ih later
    · cases y with
      | nil =>
        -- The quote would come first in what is left, and nothing escapes it there.
        have unescaped : endsOdd [] = true := ih rest.symm
        cases unescaped
      | cons d y =>
        obtain rfl : '"' = d := (List.cons.inj rest).1
        exact (written_literalChar c).endsOdd_before here

theorem splitLiteral_inside (text rest : Text) :
    splitLiteral '"' (text.flatMap literalChar ++ '"' :: rest) = (text.flatMap literalChar ++ ['"'], rest) := by
  induction text with
  | nil => exact splitLiteral_mark (by decide)
  | cons c text ih =>
    rw [List.flatMap_cons, List.append_assoc, (written_literalChar c).splitLiteral_append, ih, List.append_assoc]

/-- The two steps of reading give the text back. -/
theorem exists_replaced (text : Text) :
    ∃ replaced, replaceNumbered false (text.flatMap literalChar) = some replaced ∧
      ('\n' ∉ replaced ∧ '\r' ∉ replaced) ∧ replaceShort replaced = some text := by
  induction text with
  | nil => exact ⟨[], by rw [List.flatMap_nil, replaceNumbered], by simp, by rw [replaceShort]⟩
  | cons c text ih =>
    obtain ⟨later, numbered, inLine, short⟩ := ih
    obtain ⟨first, inLine', numbered', short'⟩ := (written_literalChar c).exists_replaced
    refine ⟨first ++ later, ?_, ?_, ?_⟩
    · rw [List.flatMap_cons, numbered', numbered, Option.map_some]
    · simp only [List.mem_append, not_or]
      exact ⟨⟨inLine'.1, inLine.1⟩, inLine'.2, inLine.2⟩
    · rw [short', short, Option.map_some]

/-- A literal is one piece, whatever comes next. -/
theorem pieces_literal_append (text rest : Text) :
    pieces (literal text ++ rest) = .literal (literal text) :: pieces rest := by
  have stands : Stands (.literal (literal text)) rest := by
    refine .literal (.inl rfl) ?_
    rw [List.append_assoc, List.singleton_append, splitLiteral_inside]
  exact stands.pieces_append

theorem pieces_literal (text : Text) : pieces (literal text) = [.literal (literal text)] := by
  have alone := pieces_literal_append text []
  rwa [List.append_nil, pieces] at alone

theorem apart_literal (text : Text) : Apart (literal text) := by
  intro rest
  rw [pieces_literal_append, pieces_literal, List.singleton_append]

/-- **A string literal means its text.** It is put between quotes without a line break and without a quote that is not
escaped. Replacing the numbered escapes and then the short ones gives the text back, and neither step comes upon a
line break or a quote that would end the literal. Looked at as a part of a call it is one piece of code. -/
theorem literal_decodes (text : Text) :
    ∃ inside replaced, literal text = '"' :: (inside ++ ['"']) ∧
      ('\n' ∉ inside ∧ '\r' ∉ inside) ∧
      (∀ before after, inside = before ++ '"' :: after → endsOdd before = true) ∧
      replaceNumbered false inside = some replaced ∧
      ('\n' ∉ replaced ∧ '\r' ∉ replaced) ∧
      replaceShort replaced = some text ∧
      pieces (literal text) = [.literal (literal text)] ∧
      codeEnd (literal text) = byteSize (literal text) := by
  obtain ⟨replaced, numbered, inLine, short⟩ := exists_replaced text
  have code : codeText (literal text) = literal text := by
    have cut : pieces (literal text) = [.literal (literal text)] ++ [] := pieces_literal text
    rw [codeText, codePieces_eq cut (by simp [EndInCode, Piece.isCode]) (by simp)]
    exact List.flatMap_singleton _ _
  exact ⟨text.flatMap literalChar, replaced, rfl, inside_inLine text, fun _ _ => endsOdd_before_quote, numbered,
    inLine, short, pieces_literal text, congrArg byteSize code⟩

end EncodingLint.Fix
