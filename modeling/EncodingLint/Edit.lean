import EncodingLint.Span
import EncodingLint.Text.Basic

/-!
# Edits

An edit replaces a range of a text. A list of edits is sorted by range (`Edit.sort`), checked against
the text and against each other (`Edit.normalize`), and then applied from the last range to the first,
so that no edit moves the range of one still to come (`Edit.applyAll`).

Offsets are counted in 32 bits, so no list of edits is made in a text of more than `maxOffset` bytes. They
are natural numbers here, and `applyAll` is defined for these texts too; what is said of them is about no run.
-/

set_option autoImplicit false

namespace EncodingLint

/-- A range of a text and what is to stand there instead. -/
structure Edit where
  range : TextRange
  replacement : Text
deriving DecidableEq, Repr

/-- Why a list of edits cannot be applied to a text. -/
inductive EditError where
  | outOfBounds (range : TextRange) (size : Nat)
  | insideCharacter (offset : Nat)
  | overlap (first second : TextRange)
deriving DecidableEq, Repr

namespace EditError

def message : EditError → String
  | outOfBounds range size =>
    s!"edit range {range.describe} is out of bounds for text length {size}"
  | insideCharacter offset => s!"offset {offset} is not a UTF-8 character boundary"
  | overlap first second => s!"overlapping edits: {first.describe} overlaps {second.describe}"

end EditError

namespace Edit

/-- The edit that puts a text in at an offset. -/
def insert (offset : Nat) (text : Text) : Edit :=
  ⟨TextRange.point offset, text⟩

def isInsert (e : Edit) : Bool :=
  e.range.isEmpty

/-- Ranges are ordered by their starts, and equal starts by their ends. -/
def le (a b : Edit) : Bool :=
  a.range.start < b.range.start ||
    (a.range.start == b.range.start && a.range.stop ≤ b.range.stop)

/-- The edits in the order of their ranges; edits of one range keep their order. -/
def sort (edits : List Edit) : List Edit :=
  edits.mergeSort le

/-- Refuses an edit with an end beyond the text or inside one of its characters. -/
def checkBounds (text : Text) (e : Edit) : Except EditError Unit :=
  if Text.byteSize text < e.range.stop then
    throw (.outOfBounds e.range (Text.byteSize text))
  else if !Text.isBoundary text e.range.start then
    throw (.insideCharacter e.range.start)
  else if !Text.isBoundary text e.range.stop then
    throw (.insideCharacter e.range.stop)
  else
    return ()

/-- Whether an edit and the next one clash: they overlap, or both put text in at one offset. -/
def clashes (first second : Edit) : Bool :=
  second.range.start < first.range.stop ||
    (first.isInsert && second.isInsert && first.range.start == second.range.start)

/-- Refuses sorted edits if one clashes with the next. -/
def checkOverlaps : List Edit → Except EditError Unit
  | first :: second :: rest =>
    if clashes first second then
      throw (.overlap first.range second.range)
    else
      checkOverlaps (second :: rest)
  | _ => return ()

/-- The edits in the order of their ranges, if they can be applied to the text together. -/
def normalize (text : Text) (edits : List Edit) : Except EditError (List Edit) := do
  let sorted := sort edits
  sorted.forM (checkBounds text)
  checkOverlaps sorted
  return sorted

/-- The text after one edit. -/
def apply (text : Text) (e : Edit) : Text :=
  Text.splice text e.range.start e.range.stop e.replacement

/-- The text after a list of edits, which are given in terms of the unchanged text. -/
def applyAll (text : Text) (edits : List Edit) : Except EditError Text := do
  let sorted ← normalize text edits
  return sorted.foldr (fun e text => e.apply text) text

end Edit

end EncodingLint
