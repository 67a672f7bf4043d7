import EncodingLint.Span
import EncodingLint.Text.Basic

/-!
# Lines and editor positions

A line ends at LF, at CR LF, or at a CR on its own. `LineIndex.ofText` finds where the lines of a text
start and stop; with it an offset is turned into a `Position` (`position`) and back (`offset?`).

Offsets are counted in 32 bits, so there is no index of a text of more than `maxOffset` bytes. They are
natural numbers here, and `ofText` is defined for these texts too; what is said of them is about no run.
-/

set_option autoImplicit false

namespace EncodingLint

/-- A place in a text as an editor counts it: a line, and UTF-16 code units into that line. -/
structure Position where
  line : Nat
  character : Nat
deriving DecidableEq, Repr

/-- The stretch of a text between two positions. -/
structure PositionRange where
  start : Position
  stop : Position
deriving DecidableEq, Repr

/-- The offsets at which the lines of a text start, those at which they stop, their line breaks left
out, and the size of the text. -/
structure LineIndex where
  starts : List Nat
  stops : List Nat
  size : Nat
deriving DecidableEq, Repr

namespace LineIndex

/-- A line break found, in front of the starts and stops found behind it: a line stops before the break
and the next one starts after it. -/
def addBreak (stop start : Nat) (behind : List Nat × List Nat) : List Nat × List Nat :=
  (start :: behind.1, stop :: behind.2)

/-- The starts and the stops found in a text that stands at offset `here`. The line that is under way
there has started before, and the last line stops with the text. -/
def scan (here : Nat) : Text → List Nat × List Nat
  | [] => ([], [here])
  | '\r' :: '\n' :: cs => addBreak here (here + 2) (scan (here + 2) cs)
  | '\r' :: cs => addBreak here (here + 1) (scan (here + 1) cs)
  | '\n' :: cs => addBreak here (here + 1) (scan (here + 1) cs)
  | c :: cs => scan (here + c.utf8Size) cs

/-- The lines of a text. -/
def ofText (text : Text) : LineIndex :=
  let found := scan 0 text
  { starts := 0 :: found.1, stops := found.2, size := Text.byteSize text }

/-- The number of lines, in 32 bits: `maxOffset + 1` lines, which a text of `maxOffset` line breaks has,
are counted as none. -/
def lineCount (index : LineIndex) : Nat :=
  index.starts.length % (maxOffset + 1)

/-- The number of the last line that starts at or before an offset. -/
def lineAt (index : LineIndex) (offset : Nat) : Nat :=
  (index.starts.takeWhile fun start => start ≤ offset).length - 1

/-- The position of an offset. An offset past the end of the text counts as its end, one inside a line
break as the end of its line, and one inside a character as the start of its line. -/
def position (index : LineIndex) (text : Text) (offset : Nat) : Position :=
  let offset := min offset index.size
  let number := index.lineAt offset
  let start := index.starts.getD number 0
  let stop := index.stops.getD number 0
  match Text.slice? text start (min offset stop) with
  | some before => ⟨number, Text.unitSize before⟩
  | none => ⟨number, 0⟩

/-- The number of bytes that `units` code units take at the start of a text, if they end between two
characters. -/
def bytesOfUnits? : Text → Nat → Option Nat
  | _, 0 => some 0
  | [], _ + 1 => none
  | c :: cs, n + 1 =>
    if Text.charUnits c ≤ n + 1 then
      (bytesOfUnits? cs (n + 1 - Text.charUnits c)).map (c.utf8Size + ·)
    else
      none

/-- The offset at a position, if the position lies on a line of the text and not inside a character. -/
def offset? (index : LineIndex) (text : Text) (position : Position) : Option Nat := do
  let start ← index.starts[position.line]?
  let stop ← index.stops[position.line]?
  let content ← Text.slice? text start stop
  let bytes ← bytesOfUnits? content position.character
  return start + bytes

/-- The positions of the two ends of a span. -/
def range (index : LineIndex) (text : Text) (span : Span) : PositionRange where
  start := index.position text (min span.start maxOffset)
  stop := index.position text (min span.stop maxOffset)

end LineIndex

end EncodingLint
