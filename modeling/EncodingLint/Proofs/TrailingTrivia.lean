import EncodingLint.Proofs.FixOutcome
import EncodingLint.Proofs.LineBreaks

/-!
# Code, and blanks and comments behind it

`Reads` says how a text is read, rule by rule and without a scanner: as blanks, comments, literals and other
characters, each up to its own end. Every text has one reading, which is the list of its pieces (`reads_iff`). The end
of the code cuts this list behind the last piece that is code, and the two parts of the text are read as before, each
on its own (`exists_reads`).
-/

set_option autoImplicit false

namespace EncodingLint.Fix

open Piece (splitBlock splitLiteral isBlank)
open Text (byteSize)

/-- A comment between stars goes up to the first `*/`, or to the end of the text if there is none. -/
def BlockEnds (body rest : Text) : Prop :=
  ¬ ['*', '/'] <:+: body.dropLast ∧ (['*', '/'] <:+ body ∨ rest = [])

/-- The inside of a literal: no mark that would end it, unless it comes behind a backslash. -/
inductive Inside (mark : Char) : Text → Prop where
  | nil : Inside mark []
  | plain {c : Char} {cs : Text} (other : c ≠ mark) (plain : c ≠ '\\') (behind : Inside mark cs) :
    Inside mark (c :: cs)
  | escaped {cs : Text} (c : Char) (behind : Inside mark cs) : Inside mark ('\\' :: c :: cs)

/-- A literal goes up to its mark, or to the end of the text, be it behind a backslash. -/
def LiteralEnds (mark : Char) (body rest : Text) : Prop :=
  ∃ inside, Inside mark inside ∧
    (body = inside ++ [mark] ∨ rest = [] ∧ (body = inside ∨ body = inside ++ ['\\']))

/-- How a text is read as pieces. -/
inductive Reads : Text → List Piece → Prop where
  | nil : Reads [] []
  | blank {c : Char} {rest : Text} {ps : List Piece} (isBlank : isBlank c = true) (behind : Reads rest ps) :
    Reads (c :: rest) (.blank c :: ps)
  | line {body rest : Text} {ps : List Piece} (inLine : '\n' ∉ body) (ends : ∀ d ∈ rest.head?, d = '\n')
    (behind : Reads rest ps) : Reads ('/' :: '/' :: body ++ rest) (.lineComment ('/' :: '/' :: body) :: ps)
  | block {body rest : Text} {ps : List Piece} (ends : BlockEnds body rest) (behind : Reads rest ps) :
    Reads ('/' :: '*' :: body ++ rest) (.blockComment ('/' :: '*' :: body) :: ps)
  | literal {mark : Char} {body rest : Text} {ps : List Piece} (isMark : mark = '"' ∨ mark = '\'')
    (ends : LiteralEnds mark body rest) (behind : Reads rest ps) :
    Reads (mark :: body ++ rest) (.literal (mark :: body) :: ps)
  | code {c : Char} {rest : Text} {ps : List Piece} (notMark : ¬ (c = '"' ∨ c = '\'')) (notBlank : isBlank c = false)
    (noComment : c = '/' → ∀ d ∈ rest.head?, d ≠ '/' ∧ d ≠ '*') (behind : Reads rest ps) :
    Reads (c :: rest) (.code c :: ps)

/-- A piece that a byte of a text belongs to. -/
def HoldsByte (text : Text) (offset : Nat) (p : Piece) : Prop :=
  ∃ before behind, Reads text (before ++ p :: behind) ∧ byteSize (before.flatMap Piece.text) ≤ offset ∧
    offset < byteSize (before.flatMap Piece.text) + byteSize p.text

variable {text rest body a b c d : Text} {mark : Char} {p q : Piece} {ps qs : List Piece} {offset : Nat}

/-! ## Where comments and literals end -/

theorem blockEnds_splitBlock (cs : Text) : BlockEnds (splitBlock cs).1 (splitBlock cs).2 := by
  fun_induction splitBlock cs with
  | case1 => exact ⟨by simp, .inr rfl⟩
  | case2 cs =>
    have first : ¬ ['*', '/'] <:+: ['*'] := by decide
    exact ⟨first, .inl List.suffix_rfl⟩
  | case3 c cs inner inside tail split ih =>
    have whole := Piece.splitBlock_append cs
    rw [split] at ih whole
    obtain ⟨first, ends⟩ := ih
    refine ⟨?_, ends.imp_left fun suffix => suffix.trans (List.suffix_cons c inside)⟩
    cases inside with
    | nil => simp
    | cons e es =>
      change ¬ ['*', '/'] <:+: c :: (e :: es).dropLast
      rw [List.infix_cons_iff]
      rintro (begins | later)
      · obtain ⟨star, slash⟩ := List.cons_prefix_cons.1 begins
        obtain ⟨t, same⟩ := slash.trans (List.dropLast_prefix _)
        obtain ⟨rfl, -⟩ := List.cons.inj same
        exact inner _ star.symm whole.symm
      · exact first later

/-- Of two comments at the front of one text none ends before the other. -/
theorem BlockEnds.length_le (ends : BlockEnds a b) (ends' : BlockEnds c d) (whole : a ++ b = c ++ d) :
    c.length ≤ a.length := by
  rcases List.append_eq_append_iff.1 whole with ⟨m, rfl, rfl⟩ | ⟨m, rfl, -⟩
  · cases m with
    | nil => simp
    | cons e es =>
      -- The first comment has its end mark, and the second one goes on behind it.
      have suffix : ['*', '/'] <:+ a := ends.2.resolve_right (by simp)
      have front : a <+: (a ++ e :: es).dropLast := by
        rw [List.dropLast_append_of_ne_nil (List.cons_ne_nil e es)]
        exact List.prefix_append _ _
      exact absurd (suffix.isInfix.trans front.isInfix) ends'.1
  · simp

theorem splitBlock_eq_iff : splitBlock (body ++ rest) = (body, rest) ↔ BlockEnds body rest := by
  constructor
  · intro split
    have ends := blockEnds_splitBlock (body ++ rest)
    rwa [split] at ends
  · intro ends
    have ends' := blockEnds_splitBlock (body ++ rest)
    have whole := Piece.splitBlock_append (body ++ rest)
    have lengths := Nat.le_antisymm (ends.length_le ends' whole.symm) (ends'.length_le ends whole)
    obtain ⟨first, second⟩ := List.append_inj whole lengths
    exact Prod.ext first second

theorem Inside.splitLiteral_append (inside : Inside mark body) (rest : Text) :
    splitLiteral mark (body ++ rest) = (body ++ (splitLiteral mark rest).1, (splitLiteral mark rest).2) := by
  induction inside with
  | nil => rfl
  | plain other plain behind ih => rw [List.cons_append, splitLiteral_cons plain other, ih, List.cons_append]
  | escaped c behind ih =>
    rw [List.cons_append, List.cons_append, splitLiteral_escape, ih, List.cons_append, List.cons_append]

theorem LiteralEnds.append (ends : LiteralEnds mark body rest) (front : Text)
    (longer : ∀ inside, Inside mark inside → Inside mark (front ++ inside)) :
    LiteralEnds mark (front ++ body) rest := by
  obtain ⟨inside, isInside, ends⟩ := ends
  refine ⟨front ++ inside, longer inside isInside, ?_⟩
  simpa only [List.append_assoc, List.append_cancel_left_eq] using ends

theorem literalEnds_splitLiteral (mark : Char) (cs : Text) :
    LiteralEnds mark (splitLiteral mark cs).1 (splitLiteral mark cs).2 := by
  fun_induction splitLiteral mark cs with
  | case1 => exact ⟨[], .nil, .inr ⟨rfl, .inl rfl⟩⟩
  | case2 => exact ⟨[], .nil, .inr ⟨rfl, .inr rfl⟩⟩
  | case3 c cs inside tail split ih =>
    rw [split] at ih
    exact ih.append ['\\', c] fun _ => .escaped c
  | case4 cs ended followed => exact ⟨[], .nil, .inl rfl⟩
  | case5 c cs ended followed other inside tail split ih =>
    rw [split] at ih
    exact ih.append [c] fun _ => .plain other (ne_backslash ended followed)

theorem splitLiteral_eq_iff (plain : mark ≠ '\\') :
    splitLiteral mark (body ++ rest) = (body, rest) ↔ LiteralEnds mark body rest := by
  constructor
  · intro split
    have ends := literalEnds_splitLiteral mark (body ++ rest)
    rwa [split] at ends
  · rintro ⟨inside, isInside, rfl | ⟨rfl, rfl | rfl⟩⟩
    · rw [List.append_assoc, isInside.splitLiteral_append, List.singleton_append, splitLiteral_mark plain]
    · rw [isInside.splitLiteral_append, splitLiteral, List.append_nil]
    · rw [List.append_nil, isInside.splitLiteral_append, splitLiteral]

/-! ## Readings -/

theorem ne_backslash_of_isMark (isMark : mark = '"' ∨ mark = '\'') : mark ≠ '\\' := by
  rcases isMark with rfl | rfl <;> decide

theorem Reads.pieces_eq (reads : Reads text ps) : pieces text = ps := by
  induction reads with
  | nil => rw [pieces]
  | blank isBlank behind ih =>
    rw [← ih]
    exact (Stands.blank isBlank).pieces_append
  | line inLine ends behind ih =>
    rw [← ih]
    exact (Stands.line inLine ends).pieces_append
  | block ends behind ih =>
    rw [← ih]
    exact (Stands.block (splitBlock_eq_iff.2 ends)).pieces_append
  | literal isMark ends behind ih =>
    rw [← ih]
    exact (Stands.literal isMark ((splitLiteral_eq_iff (ne_backslash_of_isMark isMark)).2 ends)).pieces_append
  | code notMark notBlank noComment behind ih =>
    rw [← ih]
    exact (Stands.code notMark notBlank noComment).pieces_append

theorem Stands.reads_append (stands : Stands p rest) (reads : Reads rest ps) : Reads (p.text ++ rest) (p :: ps) := by
  cases stands with
  | blank isBlank => exact .blank isBlank reads
  | line inLine ends => exact .line inLine ends reads
  | block split => exact .block (splitBlock_eq_iff.1 split) reads
  | literal isMark split => exact .literal isMark ((splitLiteral_eq_iff (ne_backslash_of_isMark isMark)).1 split) reads
  | code notMark notBlank noComment => exact .code notMark notBlank noComment reads

/-- Every text has one reading, as its pieces. -/
theorem reads_iff : Reads text ps ↔ pieces text = ps := by
  refine ⟨Reads.pieces_eq, fun cut => ?_⟩
  induction ps generalizing text with
  | nil =>
    obtain rfl : text = [] := by rw [← flatMap_pieces text, cut, List.flatMap_nil]
    exact .nil
  | cons p ps ih =>
    obtain ⟨rest, rfl, stands, cut⟩ := pieces_eq_cons_iff.1 cut
    exact stands.reads_append (ih cut)

/-- Pieces up to a piece of code stand as they do also if nothing comes behind them. -/
theorem StandBefore.alone (standBefore : StandBefore ps rest) (code : EndInCode ps) : StandBefore ps [] := by
  rcases List.eq_nil_or_concat ps with rfl | ⟨init, p, rfl⟩
  · trivial
  · rw [List.concat_eq_append] at *
    have isCode := endInCode_concat_iff.1 code
    obtain ⟨before, stands⟩ := standBefore_concat_iff.1 standBefore
    have notLine : p.isLineComment = false := by
      cases p with
      | lineComment => cases isCode
      | _ => rfl
    exact standBefore_concat_iff.2 ⟨before.swap_behind stands, stands.alone notLine⟩

theorem codeEnd_of_reads (reads : Reads text (ps ++ qs)) (code : EndInCode ps)
    (noCode : ∀ q ∈ qs, q.isCode = false) : codeEnd text = byteSize (ps.flatMap Piece.text) := by
  rw [codeEnd, codeText, codePieces_eq reads.pieces_eq code noCode]

/-- The end of the code cuts the reading of a text into the readings of the two parts. -/
theorem exists_reads (text : Text) : ∃ code trivia, Reads text (code ++ trivia) ∧
    Reads (Text.takeBytes (codeEnd text) text) code ∧ Reads (Text.dropBytes (codeEnd text) text) trivia ∧
    EndInCode code ∧ ∀ q ∈ trivia, q.isCode = false := by
  obtain ⟨trivia, cut, noCode, code⟩ := exists_trivia text
  obtain ⟨whole, standBefore, cut'⟩ := pieces_eq_append_iff.1 cut
  refine ⟨codePieces text, trivia, reads_iff.2 cut, ?_, ?_, code, noCode⟩
  · have only := (standBefore.alone code).pieces_append
    rw [List.append_nil, pieces, List.append_nil] at only
    have front : Text.takeBytes (codeEnd text) text = codeText text := codePart_eq text
    rw [front]
    exact reads_iff.2 only
  · have back := Text.dropBytes_append (codeText text) (trivia.flatMap Piece.text)
    rw [codeText, ← whole] at back
    change Text.dropBytes (codeEnd text) text = _ at back
    rw [back]
    exact reads_iff.2 cut'

/-! ## Bytes and pieces -/

/-- A piece that begins at a byte or before it does not come behind a piece that ends behind this byte. -/
theorem length_le_of_holds {before before' behind behind' : List Piece}
    (same : before ++ p :: behind = before' ++ q :: behind') (first : byteSize (before'.flatMap Piece.text) ≤ offset)
    (last : offset < byteSize (before.flatMap Piece.text) + byteSize p.text) : before'.length ≤ before.length := by
  rcases List.append_eq_append_iff.1 same with ⟨m, rfl, rest⟩ | ⟨m, rfl, -⟩
  · cases m with
    | nil => simp
    | cons e es =>
      obtain ⟨rfl, -⟩ := List.cons.inj rest
      simp only [List.flatMap_append, List.flatMap_cons, Text.byteSize_append] at first
      omega
  · simp

/-- A byte belongs to one piece. -/
theorem HoldsByte.unique (holds : HoldsByte text offset p) (holds' : HoldsByte text offset q) : p = q := by
  obtain ⟨before, behind, reads, first, last⟩ := holds
  obtain ⟨before', behind', reads', first', last'⟩ := holds'
  have same := reads.pieces_eq.symm.trans reads'.pieces_eq
  have lengths := Nat.le_antisymm (length_le_of_holds same.symm first last') (length_le_of_holds same first' last)
  exact (List.cons.inj (List.append_inj same lengths).2).1

theorem Reads.holdsByte_last (reads : Reads text (ps ++ [p] ++ qs)) :
    HoldsByte text (byteSize ((ps ++ [p]).flatMap Piece.text) - 1) p := by
  have member : p ∈ pieces text := by simp [reads.pieces_eq]
  obtain ⟨c, cs, filled⟩ := List.exists_cons_of_ne_nil (text_ne_nil_of_mem_pieces member)
  have size : 0 < byteSize p.text := by
    rw [filled, Text.byteSize_cons]
    exact Nat.add_pos_left (Char.utf8Size_pos c) _
  rw [List.append_assoc] at reads
  rw [List.flatMap_append, List.flatMap_singleton, Text.byteSize_append]
  exact ⟨ps, qs, reads, by omega, by omega⟩

/-- **Code, and what comes behind it.** The code of a text ends at a boundary of the text. The part before it has its
code up to the end, and the part behind it has no code: it is read as blanks and comments. If there is code, the byte
before its end belongs to one piece, and this piece is neither a blank nor a comment. -/
theorem codeEnd_splits (text : Text) :
    codeEnd text ≤ byteSize text ∧ Text.isBoundary text (codeEnd text) = true ∧
    codeEnd (Text.takeBytes (codeEnd text) text) = codeEnd text ∧
    codeEnd (Text.dropBytes (codeEnd text) text) = 0 ∧
    (∃ trivia, Reads (Text.dropBytes (codeEnd text) text) trivia ∧ ∀ p ∈ trivia, p.isCode = false) ∧
    (codeEnd text = 0 ∨ ∃ p, p.isCode = true ∧ ∀ q, HoldsByte text (codeEnd text - 1) q ↔ q = p) := by
  have boundary := isBoundary_codeEnd text
  obtain ⟨code, trivia, reads, front, back, ends, noCode⟩ := exists_reads text
  have size := codeEnd_of_reads reads ends noCode
  refine ⟨Text.le_byteSize_of_isBoundary boundary, boundary, ?_, ?_, ⟨trivia, back, noCode⟩, ?_⟩
  · rw [← List.append_nil code] at front
    rw [codeEnd_of_reads front ends (by simp), size]
  · have none : EndInCode [] := by simp [EndInCode]
    rw [← List.nil_append trivia] at back
    exact codeEnd_of_reads back none noCode
  · rcases List.eq_nil_or_concat code with rfl | ⟨init, p, rfl⟩
    · exact .inl size
    · rw [List.concat_eq_append] at reads ends size
      have last := reads.holdsByte_last
      rw [← size] at last
      refine .inr ⟨p, endInCode_concat_iff.1 ends, fun q => ⟨fun holds => holds.unique last, ?_⟩⟩
      rintro rfl
      exact last

end EncodingLint.Fix
