/-!
# Spans and ranges

A `Span` is what a caller says about a place in a source; its ends are unchecked and may be in the
wrong order. A `TextRange` is a span that was found to be in order, with ends that an editor can count.
-/

set_option autoImplicit false

namespace EncodingLint

/-- The greatest offset that an editor can count. -/
def maxOffset : Nat := 0xffffffff

/-- A place in a source, by the offsets of its two ends. -/
structure Span where
  start : Nat
  stop : Nat
deriving DecidableEq, Repr

/-- The stretch of a text between two offsets in order. -/
structure TextRange where
  start : Nat
  stop : Nat
  start_le_stop : start ≤ stop := by omega
deriving DecidableEq, Repr

namespace TextRange

/-- The range between two offsets, if they are in order. -/
def between? (start stop : Nat) : Option TextRange :=
  if h : start ≤ stop then some ⟨start, stop, h⟩ else none

/-- The empty range at an offset. -/
def point (offset : Nat) : TextRange where
  start := offset
  stop := offset

def isEmpty (r : TextRange) : Bool :=
  r.start == r.stop

/-- A range in messages, as in `3..5`. -/
def describe (r : TextRange) : String :=
  s!"{r.start}..{r.stop}"

end TextRange

namespace Span

/-- The number of bytes between the ends, none if they are out of order. -/
def length (s : Span) : Nat :=
  s.stop - s.start

def isEmpty (s : Span) : Bool :=
  s.stop ≤ s.start

/-- The range of a span, unless its ends are out of order or too large to count. -/
def toRange? (s : Span) : Option TextRange :=
  if s.start ≤ maxOffset ∧ s.stop ≤ maxOffset then TextRange.between? s.start s.stop else none

/-- A span in messages, as in `Span(3..5)`. -/
def describe (s : Span) : String :=
  s!"Span({s.start}..{s.stop})"

/-- Whether two spans have a point in common, their ends included. -/
def touches (a b : Span) : Bool :=
  a.start ≤ b.stop && b.start ≤ a.stop

end Span

end EncodingLint
