import EncodingLint.Inspection
import EncodingLint.LineIndex

/-!
# Problems in an editor

An editor shows a problem as a diagnostic at a range of positions, and each fix with something to edit
as a code action. For a selection it asks for the actions of the problems that the selection touches.
-/

set_option autoImplicit false

namespace EncodingLint

/-- A problem as an editor shows it. -/
structure Diagnostic where
  range : PositionRange
  severity : Severity
deriving DecidableEq, Repr

/-- A fix as an editor offers it: a text to insert at a position. -/
structure CodeAction where
  title : String
  diagnostic : Diagnostic
  position : Position
  newText : Text
  isPreferred : Bool
deriving DecidableEq, Repr

namespace Diagnostic

/-- Where diagnostics come from, for the user to see. -/
def source : String := "charlint"

/-- The diagnostic of a problem; one without a span is shown at the start of the source. -/
def ofProblem (source : Text) (problem : Problem) : Diagnostic where
  range := match problem.span with
    | some span => (LineIndex.ofText source).range source span
    | none => ⟨⟨0, 0⟩, ⟨0, 0⟩⟩
  severity := problem.severity

end Diagnostic

namespace CodeAction

/-- The actions of the given fixes of a problem; `isFirst` says whether none came before them. -/
def ofFixes (source : Text) (problem : Problem) (isFirst : Bool) :
    List Fix → Except FixError (List CodeAction)
  | [] => return []
  | fix :: fixes => do
    match ← fix.edit? source problem.call with
    | none => ofFixes source problem isFirst fixes
    | some edit =>
      let action : CodeAction := {
        title := fix.title
        diagnostic := .ofProblem source problem
        position := (LineIndex.ofText source).position source edit.range.start
        newText := edit.replacement
        isPreferred := isFirst }
      return action :: (← ofFixes source problem false fixes)

/-- The actions of a problem, one for each fix with something to edit; the first is preferred. -/
def ofProblem (source : Text) (problem : Problem) : Except FixError (List CodeAction) :=
  ofFixes source problem true problem.fixes

/-- The span of a selection, whichever way round it was made. -/
def selectedSpan? (source : Text) (selection : PositionRange) : Option Span := do
  let index := LineIndex.ofText source
  let a ← index.offset? source selection.start
  let b ← index.offset? source selection.stop
  return ⟨min a b, max a b⟩

/-- The actions of the problems that a selection touches. A selection with an end outside the source
selects nothing. -/
def inSelection (source : Text) (selection : PositionRange) (problems : List Problem) :
    Except FixError (List CodeAction) :=
  match selectedSpan? source selection with
  | none => return []
  | some selected => do
    let touched := problems.filter fun p => p.span.any fun span => span.touches selected
    return (← touched.mapM (ofProblem source)).flatten

end CodeAction

end EncodingLint
