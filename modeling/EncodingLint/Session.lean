import EncodingLint.ClassPath.Resolution
import EncodingLint.Inspection

/-!
# Fixing a call step by step

A session takes the source of one call, shows its problems, applies the fix that was chosen and goes on
with the result, until there is nothing more to choose.
-/

set_option autoImplicit false

namespace EncodingLint

/-- What a session shows before a choice. -/
structure Round where
  source : Text
  /-- The call as it is written in the source. -/
  site : CallSite
  call : Call
  problems : List Problem
deriving DecidableEq, Repr

/-- What happens in a session. -/
inductive SessionStep where
  | shown (round : Round)
  /-- The chosen fix cannot be applied. -/
  | failed (cause : FixError)
deriving DecidableEq, Repr

namespace Round

/-- The fixes to choose from. -/
def choices (r : Round) : List Fix :=
  r.problems.flatMap (·.fixes)

end Round

namespace Session

/-- The place of the argument list of a source: from its first opening to its last closing
parenthesis. -/
def argumentList? (source : Text) : Option Span :=
  if source.contains '(' && source.contains ')' then
    let before := source.takeWhile (· ≠ '(')
    let after := source.reverse.takeWhile (· ≠ ')')
    some ⟨Text.byteSize before, Text.byteSize source - Text.byteSize after⟩
  else
    none

/-- The call with its places in a source. If the source has no parentheses, the argument list stays
what it was. -/
def locate (site : CallSite) (source : Text) : CallSite :=
  { site with
    span := some ⟨0, Text.byteSize source⟩
    argumentList := (argumentList? source).or site.argumentList }

/-- What is shown for a call with a source. -/
def round (cp : ClassPath) (i : Inspection) (site : CallSite) (source : Text) : Round :=
  let located := locate site source
  let call := cp.call located
  ⟨source, located, call, i.check call⟩

/-- The steps of a session. A choice is the number of a fix among all that are shown; one that is no such
number ends the session. -/
def run (cp : ClassPath) (i : Inspection) (site : CallSite) (source : Text) :
    List Nat → List SessionStep
  | [] => [.shown (round cp i site source)]
  | choice :: later =>
    let r := round cp i site source
    .shown r ::
      match r.choices[choice]? with
      | none => []
      | some fix =>
        match fix.apply source r.call with
        | .ok fixed => run cp i (r.site.withArgument fix.appended.name) fixed later
        | .error cause => [.failed cause]

end Session

end EncodingLint
