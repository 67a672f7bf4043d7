import EncodingLint.Text.Basic

/-!
# Pieces of an argument list

The text between the parentheses of a call falls into pieces: blanks, comments, literals and other
code. A comment after `//` goes on to the next LF, a comment after `/*` to the next `*/`, and a literal
to its closing mark; each of them ends with the text at the latest. `codeText` is the text up to the
end of its last piece of code.
-/

set_option autoImplicit false

namespace EncodingLint.Fix

/-- A piece of the text of an argument list. -/
inductive Piece where
  | blank (c : Char)
  | lineComment (text : Text)
  | blockComment (text : Text)
  | literal (text : Text)
  | code (c : Char)
deriving DecidableEq, Repr

namespace Piece

/-- The text of a piece. -/
def text : Piece → Text
  | blank c => [c]
  | lineComment text => text
  | blockComment text => text
  | literal text => text
  | code c => [c]

/-- Whether a piece is code, and not a blank or a comment. -/
def isCode : Piece → Bool
  | literal _ => true
  | code _ => true
  | _ => false

/-- Whether a character is a blank between the tokens of source code. -/
def isBlank (c : Char) : Bool :=
  c == ' ' || c == '\t' || c == '\n' || c == '\x0c' || c == '\r'

/-- Splits a text after the first `*/`, or at its end if there is none. -/
def splitBlock : Text → Text × Text
  | [] => ([], [])
  | '*' :: '/' :: cs => (['*', '/'], cs)
  | c :: cs =>
    let (inside, rest) := splitBlock cs
    (c :: inside, rest)

/-- Splits a text after the first `mark` that has no backslash before it, or at its end. -/
def splitLiteral (mark : Char) : Text → Text × Text
  | [] => ([], [])
  | ['\\'] => (['\\'], [])
  | '\\' :: c :: cs =>
    let (inside, rest) := splitLiteral mark cs
    ('\\' :: c :: inside, rest)
  | c :: cs =>
    if c = mark then
      ([c], cs)
    else
      let (inside, rest) := splitLiteral mark cs
      (c :: inside, rest)

/-- The first piece of a text that starts with `c`, and the rest of the text. -/
def next (c : Char) (cs : Text) : Piece × Text :=
  match c, cs with
  | '/', '/' :: cs =>
    (lineComment ('/' :: '/' :: cs.takeWhile (· ≠ '\n')), cs.dropWhile (· ≠ '\n'))
  | '/', '*' :: cs =>
    let (inside, rest) := splitBlock cs
    (blockComment ('/' :: '*' :: inside), rest)
  | c, cs =>
    if c = '"' ∨ c = '\'' then
      let (inside, rest) := splitLiteral c cs
      (literal (c :: inside), rest)
    else if isBlank c then
      (blank c, cs)
    else
      (code c, cs)

theorem splitBlock_append (cs : Text) : (splitBlock cs).1 ++ (splitBlock cs).2 = cs := by
  fun_induction splitBlock cs <;> simp_all

theorem splitLiteral_append (mark : Char) (cs : Text) :
    (splitLiteral mark cs).1 ++ (splitLiteral mark cs).2 = cs := by
  fun_induction splitLiteral mark cs <;> simp_all

/-- The first piece and the rest make up the text. -/
theorem next_append (c : Char) (cs : Text) : (next c cs).1.text ++ (next c cs).2 = c :: cs := by
  unfold next
  split
  · simp [text, List.takeWhile_append_dropWhile]
  · simpa [text] using splitBlock_append _
  · split
    · simpa [text] using splitLiteral_append _ _
    · split <;> rfl

/-- No piece is empty. -/
theorem next_text_ne_nil (c : Char) (cs : Text) : (next c cs).1.text ≠ [] := by
  unfold next
  split
  · simp [text]
  · simp [text]
  · split
    · simp [text]
    · split <;> simp [text]

theorem next_length (c : Char) (cs : Text) : (next c cs).2.length ≤ cs.length := by
  have whole := congrArg List.length (next_append c cs)
  have some_text := List.length_pos_iff.2 (next_text_ne_nil c cs)
  simp only [List.length_append, List.length_cons] at whole
  omega

end Piece

/-- The pieces of a text. -/
def pieces (text : Text) : List Piece :=
  match text with
  | [] => []
  | c :: cs => (Piece.next c cs).1 :: pieces (Piece.next c cs).2
termination_by text.length
decreasing_by exact Nat.lt_succ_of_le (Piece.next_length c cs)

/-- The pieces up to the last one that is code. -/
def codePieces (text : Text) : List Piece :=
  ((pieces text).reverse.dropWhile fun p => !p.isCode).reverse

/-- The text up to the end of its last piece of code. -/
def codeText (text : Text) : Text :=
  (codePieces text).flatMap Piece.text

/-- The offset at which the last piece of code ends. -/
def codeEnd (text : Text) : Nat :=
  Text.byteSize (codeText text)

end EncodingLint.Fix
