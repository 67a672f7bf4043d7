import EncodingLint.Proofs.PieceSeams

/-!
# Other line breaks

Lines end at LF, at CR LF or at a lone CR, and `LineIndex` counts the same lines whichever of them a text has
(`length_lines_withBreaks`). The pieces of an argument list are cut alike with LF and with CR LF, up to the CR that a
comment takes in at the end of its line (`codeText_crlf`). A lone CR, however, does not end a comment: with such line
breaks the first `//` hides all code behind it, and only what comes before it counts (`codeText_cr`).
-/

set_option autoImplicit false

namespace EncodingLint

/-- What a line can end with. -/
inductive LineBreak where
  | lf
  | crlf
  | cr
deriving DecidableEq, Repr

namespace LineBreak

def text : LineBreak → Text
  | lf => ['\n']
  | crlf => ['\r', '\n']
  | cr => ['\r']

end LineBreak

/-- A text with every LF replaced by a line break. -/
def Text.withBreaks (b : LineBreak) (text : Text) : Text :=
  text.flatMap fun c => if c = '\n' then b.text else [c]

namespace Text

variable {b : LineBreak} {c : Char} {cs text s t : Text}

@[simp] theorem withBreaks_nil (b : LineBreak) : withBreaks b [] = [] := rfl

@[simp] theorem withBreaks_lf (b : LineBreak) (cs : Text) :
    withBreaks b ('\n' :: cs) = b.text ++ withBreaks b cs := by
  simp [withBreaks]

@[simp] theorem withBreaks_cons (other : c ≠ '\n') : withBreaks b (c :: cs) = c :: withBreaks b cs := by
  simp [withBreaks, other]

@[simp] theorem withBreaks_append (b : LineBreak) (s t : Text) :
    withBreaks b (s ++ t) = withBreaks b s ++ withBreaks b t := by
  simp [withBreaks]

theorem withBreaks_of_not_mem (inLine : '\n' ∉ text) : withBreaks b text = text := by
  induction text with
  | nil => rfl
  | cons c cs ih =>
    rw [List.mem_cons, not_or] at inLine
    rw [withBreaks_cons (Ne.symm inLine.1), ih inLine.2]

theorem withBreaks_eq_nil_iff : withBreaks b text = [] ↔ text = [] := by
  constructor
  · intro empty
    cases text with
    | nil => rfl
    | cons c cs =>
      by_cases lf : c = '\n'
      · subst lf
        cases b <;> simp [LineBreak.text] at empty
      · simp [lf] at empty
  · rintro rfl
    rfl

/-- A line break has no character that marks or escapes anything. -/
theorem head?_withBreaks (mark : c ≠ '\r' ∧ c ≠ '\n') :
    (withBreaks b text).head? = some c ↔ text.head? = some c := by
  cases text with
  | nil => rfl
  | cons d ds =>
    by_cases lf : d = '\n'
    · subst lf
      cases b <;> simp [LineBreak.text, mark.1.symm, mark.2.symm]
    · simp [lf]

theorem not_mem_withBreaks_cr (text : Text) : '\n' ∉ withBreaks .cr text := by
  induction text with
  | nil => simp
  | cons c cs ih =>
    by_cases lf : c = '\n'
    · simp [lf, LineBreak.text, ih]
    · simp [lf, Ne.symm lf, ih]

theorem length_withBreaks_cr (text : Text) : (withBreaks .cr text).length = text.length := by
  induction text with
  | nil => rfl
  | cons c cs ih =>
    by_cases lf : c = '\n'
    · simp [lf, LineBreak.text, ih]
    · simp [lf, ih]

end Text

namespace LineIndex

variable {text : Text}

/-! ## Lines -/

/-- Every LF begins a line, whatever line break stands for it. -/
theorem length_scan_withBreaks (b : LineBreak) (here : Nat) (noCr : '\r' ∉ text) :
    (scan here (text.withBreaks b)).1.length = text.count '\n' := by
  induction text generalizing here with
  | nil => rfl
  | cons c cs ih =>
    rw [List.mem_cons, not_or] at noCr
    by_cases lf : c = '\n'
    · subst lf
      rw [Text.withBreaks_lf, List.count_cons_self]
      cases b with
      | lf => simp [LineBreak.text, scan, addBreak, ih _ noCr.2]
      | crlf => simp [LineBreak.text, scan, addBreak, ih _ noCr.2]
      | cr =>
        have alone : (Text.withBreaks .cr cs).head? ≠ some '\n' := fun first =>
          Text.not_mem_withBreaks_cr cs (List.mem_of_mem_head? first)
        rw [LineBreak.text, List.singleton_append, scan_cr _ alone, addBreak, List.length_cons, ih _ noCr.2]
    · rw [Text.withBreaks_cons lf, scan_cons _ (Ne.symm noCr.1) lf, ih _ noCr.2, List.count_cons_of_ne lf]

/-- A text has as many lines with one line break as with another. -/
theorem length_lines_withBreaks (b : LineBreak) (noCr : '\r' ∉ text) :
    (ofText (text.withBreaks b)).lines.length = text.count '\n' + 1 := by
  rw [← length_starts]
  exact congrArg (· + 1) (length_scan_withBreaks b 0 noCr)

end LineIndex

namespace Fix

open Piece (splitBlock splitLiteral isBlank)
open Text (withBreaks)

variable {b : LineBreak} {p : Piece} {mark : Char} {cs rest text : Text}

/-! ## Comments and literals -/

theorem splitBlock_break (b : LineBreak) (cs : Text) :
    splitBlock (b.text ++ cs) = (b.text ++ (splitBlock cs).1, (splitBlock cs).2) := by
  cases b <;> simp [LineBreak.text, splitBlock_cons]

/-- Line breaks neither end a comment between stars nor keep it from ending. -/
theorem splitBlock_withBreaks (b : LineBreak) (cs : Text) :
    splitBlock (withBreaks b cs) = (withBreaks b (splitBlock cs).1, withBreaks b (splitBlock cs).2) := by
  fun_induction splitBlock cs with
  | case1 => rfl
  | case2 cs => simp [splitBlock_end]
  | case3 c cs inner inside tail split ih =>
    rw [split] at ih
    by_cases lf : c = '\n'
    · subst lf
      simp [splitBlock_break, ih]
    · have inner : ¬ (c = '*' ∧ (withBreaks b cs).head? = some '/') := by
        rw [Text.head?_withBreaks (by decide)]
        rintro ⟨star, slash⟩
        obtain ⟨ds, rfl⟩ := List.head?_eq_some_iff.1 slash
        exact inner ds star rfl
      simp [lf, splitBlock_cons inner, ih]

theorem splitLiteral_break (isMark : mark = '"' ∨ mark = '\'') (b : LineBreak) (cs : Text) :
    splitLiteral mark (b.text ++ cs) = (b.text ++ (splitLiteral mark cs).1, (splitLiteral mark cs).2) := by
  rcases isMark with rfl | rfl <;> cases b <;> simp [LineBreak.text, splitLiteral_cons]

theorem splitLiteral_escape_break (isMark : mark = '"' ∨ mark = '\'') (b : LineBreak) (cs : Text) :
    splitLiteral mark ('\\' :: (b.text ++ cs)) =
      ('\\' :: (b.text ++ (splitLiteral mark cs).1), (splitLiteral mark cs).2) := by
  rcases isMark with rfl | rfl <;> cases b <;> simp [LineBreak.text, splitLiteral_escape, splitLiteral_cons]

/-- Line breaks neither end a literal nor keep it from ending. A backslash escapes the first character of a line
break, and the other one does not mark anything either. -/
theorem splitLiteral_withBreaks (isMark : mark = '"' ∨ mark = '\'') (b : LineBreak) (cs : Text) :
    splitLiteral mark (withBreaks b cs) =
      (withBreaks b (splitLiteral mark cs).1, withBreaks b (splitLiteral mark cs).2) := by
  have plain : mark ≠ '\\' ∧ mark ≠ '\n' := by rcases isMark with rfl | rfl <;> decide
  fun_induction splitLiteral mark cs with
  | case1 => rfl
  | case2 => rfl
  | case3 c cs inside tail split ih =>
    rw [split] at ih
    by_cases lf : c = '\n'
    · subst lf
      simp [splitLiteral_escape_break isMark, ih]
    · simp [lf, splitLiteral_escape, ih]
  | case4 cs ended followed => simp [plain.2, splitLiteral_mark plain.1]
  | case5 c cs ended followed other inside tail split ih =>
    rw [split] at ih
    by_cases lf : c = '\n'
    · subst lf
      simp [splitLiteral_break isMark, ih]
    · simp [lf, splitLiteral_cons (ne_backslash ended followed) other, ih]

/-! ## Code piece by piece -/

/-- The code of a text, from that of its rest: what stands in front counts if it is code or stands before code. -/
def joinCode (isCode : Bool) (front code : Text) : Text :=
  if isCode || !code.isEmpty then front ++ code else []

theorem joinCode_append (front behind code : Text) :
    joinCode false (front ++ behind) code = joinCode false front (joinCode false behind code) := by
  cases code with
  | nil => simp [joinCode]
  | cons c cs => simp [joinCode]

theorem withBreaks_joinCode (b : LineBreak) (isCode : Bool) (front code : Text) :
    withBreaks b (joinCode isCode front code) = joinCode isCode (withBreaks b front) (withBreaks b code) := by
  have empty : (withBreaks b code).isEmpty = code.isEmpty := by
    rw [Bool.eq_iff_iff, List.isEmpty_iff, List.isEmpty_iff, Text.withBreaks_eq_nil_iff]
  unfold joinCode
  rw [empty]
  split
  · exact Text.withBreaks_append b front code
  · rfl

theorem codeText_nil : codeText [] = [] := by
  rw [codeText, codePieces, pieces]
  rfl

theorem text_ne_nil_of_mem_pieces (member : p ∈ pieces text) : p.text ≠ [] := by
  fun_induction pieces text with
  | case1 => cases member
  | case2 c cs ih =>
    rcases List.mem_cons.1 member with rfl | later
    · exact Piece.next_text_ne_nil c cs
    · exact ih later

theorem codePieces_subset (text : Text) : codePieces text ⊆ pieces text := by
  obtain ⟨trivia, cut, -, -⟩ := exists_trivia text
  rw [cut]
  exact List.subset_append_left _ _

/-- A piece in front of a text counts if it is code or stands before code. -/
theorem Stands.codeText_append (stands : Stands p rest) :
    codeText (p.text ++ rest) = joinCode p.isCode p.text (codeText rest) := by
  obtain ⟨trivia, cut, noCode, code⟩ := exists_trivia rest
  have whole : pieces (p.text ++ rest) = p :: (codePieces rest ++ trivia) := by rw [stands.pieces_append, cut]
  rcases List.eq_nil_or_concat (codePieces rest) with none | ⟨init, q, ends⟩
  · rw [none, List.nil_append] at whole
    cases isCode : p.isCode with
    | true =>
      have code : EndInCode ([] ++ [p]) := endInCode_concat_iff.2 isCode
      have first : codePieces (p.text ++ rest) = [p] := codePieces_eq whole code noCode
      simp [codeText, first, none, joinCode]
    | false =>
      have code : EndInCode [] := by simp [EndInCode]
      have first : codePieces (p.text ++ rest) = [] := codePieces_eq whole code (by simpa [isCode] using noCode)
      simp [codeText, first, none, joinCode]
  · have some_code : codeText rest ≠ [] := by
      intro empty
      have member : q ∈ codePieces rest := by simp [ends]
      exact text_ne_nil_of_mem_pieces (codePieces_subset rest member) (List.flatMap_eq_nil_iff.1 empty q member)
    have first : codePieces (p.text ++ rest) = p :: codePieces rest := by
      refine codePieces_eq whole ?_ noCode
      rw [ends, List.concat_eq_append] at code ⊢
      rw [← List.cons_append]
      exact endInCode_concat_iff.2 (endInCode_concat_iff.1 code)
    rw [codeText, first, List.flatMap_cons, ← codeText, joinCode, if_pos (by simp [some_code])]

theorem codeText_blanks (blank : ∀ c ∈ cs, isBlank c = true) :
    codeText (cs ++ rest) = joinCode false cs (codeText rest) := by
  induction cs with
  | nil => cases none : codeText rest <;> simp [joinCode, none]
  | cons c cs ih =>
    rw [List.forall_mem_cons] at blank
    have first : codeText (c :: (cs ++ rest)) = joinCode false [c] (codeText (cs ++ rest)) :=
      (Stands.blank blank.1).codeText_append
    rw [List.cons_append, first, ih blank.2, ← joinCode_append, List.singleton_append]

/-! ## Pieces with other line breaks -/

/-- Whether a piece is a comment up to the end of its line. -/
def Piece.isLineComment : Piece → Bool
  | .lineComment _ => true
  | _ => false

/-- All pieces but LF and line comments are cut alike with other line breaks. -/
theorem Stands.exists_withBreaks (stands : Stands p rest) (notLine : p.isLineComment = false)
    (notLf : p ≠ .blank '\n') (b : LineBreak) :
    ∃ p', p'.text = withBreaks b p.text ∧ p'.isCode = p.isCode ∧ Stands p' (withBreaks b rest) := by
  cases stands with
  | @blank c _ blank =>
    have other : c ≠ '\n' := fun lf => notLf (lf ▸ rfl)
    exact ⟨.blank c, by simp [Piece.text, other], rfl, .blank blank⟩
  | line => cases notLine
  | @block body _ split =>
    refine ⟨.blockComment ('/' :: '*' :: withBreaks b body), by simp [Piece.text], rfl, .block ?_⟩
    rw [← Text.withBreaks_append, splitBlock_withBreaks, split]
  | @literal mark body _ isMark split =>
    have other : mark ≠ '\n' := by rcases isMark with rfl | rfl <;> decide
    refine ⟨.literal (mark :: withBreaks b body), by simp [Piece.text, other], rfl, .literal isMark ?_⟩
    rw [← Text.withBreaks_append, splitLiteral_withBreaks isMark, split]
  | @code c _ notMark notBlank noComment =>
    have other : c ≠ '\n' := by
      rintro rfl
      cases notBlank
    refine ⟨.code c, by simp [Piece.text, other], rfl, .code notMark notBlank fun slash d first => ?_⟩
    constructor
    · rintro rfl
      exact (noComment slash '/' ((Text.head?_withBreaks (by decide)).1 first)).1 rfl
    · rintro rfl
      exact (noComment slash '*' ((Text.head?_withBreaks (by decide)).1 first)).2 rfl

/-- Outside line comments the code of a text with other line breaks is found piece by piece as before. -/
theorem Stands.codeText_withBreaks (stands : Stands p rest) (notLine : p.isLineComment = false) (b : LineBreak) :
    codeText (withBreaks b (p.text ++ rest)) =
      joinCode p.isCode (withBreaks b p.text) (codeText (withBreaks b rest)) := by
  rw [Text.withBreaks_append]
  by_cases lf : p = .blank '\n'
  · subst lf
    apply codeText_blanks
    cases b <;> simp [Piece.text, LineBreak.text, isBlank]
  · obtain ⟨p', same, isCode, stands⟩ := stands.exists_withBreaks notLine lf b
    rw [← same, ← isCode]
    exact stands.codeText_append

/-! ## CR LF -/

/-- A line comment takes in the CR of the line break behind it, which makes no difference to the code. -/
theorem codeText_crlf_line {body : Text} (inLine : '\n' ∉ body) (ends : ∀ d ∈ rest.head?, d = '\n') :
    codeText ('/' :: '/' :: body ++ withBreaks .crlf rest) =
      joinCode false ('/' :: '/' :: body) (codeText (withBreaks .crlf rest)) := by
  cases rest with
  | nil =>
    have alone : Stands (.lineComment ('/' :: '/' :: body)) [] := .line inLine (by simp)
    exact alone.codeText_append
  | cons d ds =>
    obtain rfl : d = '\n' := ends d rfl
    have longer : Stands (.lineComment ('/' :: '/' :: (body ++ ['\r']))) ('\n' :: withBreaks .crlf ds) :=
      .line (by simp [inLine]) (by simp)
    have lf : codeText (['\n'] ++ withBreaks .crlf ds) = joinCode false ['\n'] _ := codeText_blanks (by simp [isBlank])
    have crlf : codeText (['\r', '\n'] ++ withBreaks .crlf ds) = joinCode false ['\r', '\n'] _ :=
      codeText_blanks (by simp [isBlank])
    calc codeText ('/' :: '/' :: body ++ withBreaks .crlf ('\n' :: ds))
      _ = codeText ('/' :: '/' :: (body ++ ['\r']) ++ '\n' :: withBreaks .crlf ds) := by simp [LineBreak.text]
      _ = joinCode false ('/' :: '/' :: (body ++ ['\r'])) (codeText (['\n'] ++ withBreaks .crlf ds)) :=
        longer.codeText_append
      _ = joinCode false ('/' :: '/' :: body) (codeText (['\r', '\n'] ++ withBreaks .crlf ds)) := by
        rw [lf, crlf, ← joinCode_append, ← joinCode_append]
        simp
      _ = joinCode false ('/' :: '/' :: body) (codeText (withBreaks .crlf ('\n' :: ds))) := by
        rw [Text.withBreaks_lf]
        rfl

/-- With CR LF the code ends where it ends with LF. -/
theorem codeText_crlf (text : Text) : codeText (withBreaks .crlf text) = withBreaks .crlf (codeText text) := by
  induction cut : pieces text generalizing text with
  | nil =>
    obtain rfl : text = [] := by rw [← flatMap_pieces text, cut, List.flatMap_nil]
    rw [codeText_nil, Text.withBreaks_nil, codeText_nil]
  | cons p ps ih =>
    obtain ⟨rest, rfl, stands, cut⟩ := pieces_eq_cons_iff.1 cut
    have step : codeText (withBreaks .crlf (p.text ++ rest)) =
        joinCode p.isCode (withBreaks .crlf p.text) (codeText (withBreaks .crlf rest)) := by
      cases isLine : p.isLineComment with
      | false => exact stands.codeText_withBreaks isLine .crlf
      | true =>
        cases stands with
        | blank | block | literal | code => cases isLine
        | @line body _ inLine ends =>
          have same : withBreaks .crlf ('/' :: '/' :: body) = '/' :: '/' :: body :=
            Text.withBreaks_of_not_mem (by simpa using inLine)
          rw [Text.withBreaks_append, Piece.text, same]
          exact codeText_crlf_line inLine ends
    rw [step, ih rest cut, stands.codeText_append, withBreaks_joinCode]

/-! ## Lone CR -/

/-- What of a text comes before its first line comment. -/
def beforeComment (text : Text) : Text :=
  ((pieces text).takeWhile fun p => !p.isLineComment).flatMap Piece.text

/-- Whether code stands behind a line comment. -/
def hidesCode (text : Text) : Bool :=
  ((pieces text).dropWhile fun p => !p.isLineComment).any Piece.isCode

theorem beforeComment_of_isLineComment (stands : Stands p rest) (isLine : p.isLineComment = true) :
    beforeComment (p.text ++ rest) = [] := by
  simp [beforeComment, stands.pieces_append, isLine]

theorem beforeComment_append (stands : Stands p rest) (notLine : p.isLineComment = false) :
    beforeComment (p.text ++ rest) = p.text ++ beforeComment rest := by
  simp [beforeComment, stands.pieces_append, notLine]

theorem exists_comment (text : Text) : ∃ behind, text = beforeComment text ++ behind := by
  refine ⟨((pieces text).dropWhile fun p => !p.isLineComment).flatMap Piece.text, ?_⟩
  rw [beforeComment, ← List.flatMap_append, List.takeWhile_append_dropWhile, flatMap_pieces]

/-- A piece that is no line comment ends where it does also if nothing comes behind it. -/
theorem Stands.alone (stands : Stands p rest) (notLine : p.isLineComment = false) : Stands p [] := by
  by_cases more : rest = []
  · rwa [more] at stands
  · cases stands with
    | blank blank => exact .blank blank
    | line => cases notLine
    | block split => exact .block (splitBlock_of_closed split more)
    | literal isMark split => exact .literal isMark (splitLiteral_of_closed split more)
    | code notMark notBlank _ => exact .code notMark notBlank (by simp)

theorem Stands.beforeComment (stands : Stands p rest) (notLine : p.isLineComment = false) :
    Stands p (beforeComment rest) := by
  obtain ⟨behind, whole⟩ := exists_comment rest
  by_cases none : Fix.beforeComment rest = []
  · rw [none]
    exact stands.alone notLine
  · apply stands.swap
    conv_lhs => rw [whole]
    exact List.head?_append_of_ne_nil _ none

theorem pieces_beforeComment (text : Text) :
    pieces (beforeComment text) = (pieces text).takeWhile fun p => !p.isLineComment := by
  induction cut : pieces text generalizing text with
  | nil => simp [beforeComment, cut, pieces]
  | cons p ps ih =>
    obtain ⟨rest, rfl, stands, rfl⟩ := pieces_eq_cons_iff.1 cut
    cases isLine : p.isLineComment with
    | true => simp [beforeComment_of_isLineComment stands isLine, isLine, pieces]
    | false =>
      rw [beforeComment_append stands isLine, (stands.beforeComment isLine).pieces_append, ih rest rfl]
      simp [isLine]

/-- With lone CRs the code ends where it ends before the first line comment. -/
theorem codeText_cr (text : Text) :
    codeText (withBreaks .cr text) = withBreaks .cr (codeText (beforeComment text)) := by
  induction cut : pieces text generalizing text with
  | nil =>
    obtain rfl : text = [] := by rw [← flatMap_pieces text, cut, List.flatMap_nil]
    simp [beforeComment, cut, codeText_nil]
  | cons p ps ih =>
    obtain ⟨rest, rfl, stands, cut⟩ := pieces_eq_cons_iff.1 cut
    cases isLine : p.isLineComment with
    | false =>
      rw [stands.codeText_withBreaks isLine, ih rest cut, beforeComment_append stands isLine,
        (stands.beforeComment isLine).codeText_append, withBreaks_joinCode]
    | true =>
      rw [beforeComment_of_isLineComment stands isLine, codeText_nil]
      cases stands with
      | blank | block | literal | code => cases isLine
      | @line body _ inLine ends =>
        -- No LF is left that could end the comment, so it takes up all of the text.
        have whole : Stands (.lineComment ('/' :: '/' :: withBreaks .cr (body ++ rest))) [] :=
          .line (Text.not_mem_withBreaks_cr _) (by simp)
        have none := whole.codeText_append
        simpa [Piece.text, Piece.isCode, joinCode, codeText_nil] using none

/-- Without code behind a line comment all code comes before the first of them. -/
theorem codeText_beforeComment (shown : hidesCode text = false) :
    codeText (beforeComment text) = codeText text := by
  obtain ⟨trivia, cut, noCode, code⟩ := exists_trivia (beforeComment text)
  have whole := List.takeWhile_append_dropWhile (p := fun p : Piece => !p.isLineComment) (l := pieces text)
  rw [← pieces_beforeComment, cut, List.append_assoc] at whole
  have same : codePieces text = codePieces (beforeComment text) := by
    refine codePieces_eq whole.symm code ?_
    rw [List.forall_mem_append]
    refine ⟨noCode, fun q member => ?_⟩
    simpa using List.any_eq_false.1 shown q member
  rw [codeText, codeText, same]

/-- Code behind a line comment lies beyond all that comes before the comment. -/
theorem length_beforeComment_lt (hidden : hidesCode text = true) :
    (beforeComment text).length < (codeText text).length := by
  obtain ⟨q, member, isCode⟩ := List.any_eq_true.1 hidden
  obtain ⟨trivia, cut, noCode, -⟩ := exists_trivia text
  have whole := List.takeWhile_append_dropWhile (p := fun p : Piece => !p.isLineComment) (l := pieces text)
  rcases List.append_eq_append_iff.1 (whole.trans cut) with ⟨m, codeCut, rest⟩ | ⟨m, -, rest⟩
  · have inside : q ∈ m := by
      rw [rest, List.mem_append] at member
      refine member.resolve_right fun trivial => ?_
      rw [noCode q trivial] at isCode
      cases isCode
    have known : q ∈ pieces text := codePieces_subset text (codeCut ▸ List.mem_append_right _ inside)
    have longer : m.flatMap Piece.text ≠ [] := by
      intro empty
      exact text_ne_nil_of_mem_pieces known (List.flatMap_eq_nil_iff.1 empty q inside)
    have positive := List.length_pos_iff.2 longer
    rw [codeText, codeCut, List.flatMap_append, List.length_append, beforeComment]
    omega
  · have trivial : q ∈ trivia := rest ▸ List.mem_append_right m member
    rw [noCode q trivial] at isCode
    cases isCode

/-- The part of a text that comes before the end of its code. -/
def codePart (text : Text) : Text :=
  Text.takeBytes (codeEnd text) text

theorem codePart_eq (text : Text) : codePart text = codeText text := by
  obtain ⟨trivia, whole, -⟩ := codeText_append text
  have cut := Text.takeBytes_append (codeText text) trivia
  rw [← whole] at cut
  exact cut

/-- **What ends a line, and what ends a comment.** Whether lines end at LF, CR LF or a lone CR, a text without other CRs
has the same number of lines. With CR LF the code ends where it ends with LF. With lone CRs it ends where it ends before
the first line comment, so that it ends where it ends with LF if and only if no code stands behind a line comment. -/
theorem codePart_withBreaks (text : Text) (noCr : '\r' ∉ text) :
    (∀ b, (LineIndex.ofText (withBreaks b text)).lines.length = text.count '\n' + 1) ∧
    codePart (withBreaks .crlf text) = withBreaks .crlf (codePart text) ∧
    codePart (withBreaks .cr text) = withBreaks .cr (codePart (beforeComment text)) ∧
    (codePart (withBreaks .cr text) = withBreaks .cr (codePart text) ↔ hidesCode text = false) := by
  simp only [codePart_eq]
  refine ⟨fun b => LineIndex.length_lines_withBreaks b noCr, codeText_crlf text, codeText_cr text, ?_⟩
  rw [codeText_cr]
  constructor
  · intro same
    by_contra hidden
    have shorter := length_beforeComment_lt (eq_true_of_ne_false hidden)
    have lengths := congrArg List.length same
    rw [Text.length_withBreaks_cr, Text.length_withBreaks_cr] at lengths
    obtain ⟨trivia, whole, -⟩ := codeText_append (beforeComment text)
    have bounded := congrArg List.length whole
    rw [List.length_append] at bounded
    omega
  · intro shown
    rw [codeText_beforeComment shown]

/-- A comment in the last line but one of the arguments, with the last argument behind it. -/
theorem codePart_withBreaks_comment :
    let text := ['a', '/', '/', 'é', '\n', ',', 'b']
    '\r' ∉ text ∧ codePart (withBreaks .crlf text) = ['a', '/', '/', 'é', '\r', '\n', ',', 'b'] ∧
      codePart (withBreaks .cr text) = ['a'] := by
  intro text
  have noCr : '\r' ∉ text := by decide
  obtain ⟨-, crlf, cr, -⟩ := codePart_withBreaks text noCr
  refine ⟨noCr, ?_, ?_⟩
  · rw [crlf]
    decide +kernel
  · rw [cr]
    decide +kernel

/-- A lone CR begins a new line, and does not end a comment: the code of that line is taken for a part of it. -/
theorem comment_goes_on_behind_cr :
    let text := ['a', '/', '/', 'c', '\n', ',', 'b']
    '\r' ∉ text ∧ (LineIndex.ofText (withBreaks .cr text)).lines.length = 2 ∧
      codePart (withBreaks .cr text) ≠ withBreaks .cr (codePart text) := by
  intro text
  have withLf : codePart text = text := by decide +kernel
  have withCr : codePart (withBreaks .cr text) = ['a'] := by decide +kernel
  refine ⟨by decide, by decide, ?_⟩
  rw [withLf, withCr]
  decide

end Fix

end EncodingLint
