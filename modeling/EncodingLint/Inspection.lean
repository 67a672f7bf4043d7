import EncodingLint.Rule.Catalog

/-!
# Inspections

An inspection runs a catalog over calls, one after the other, and appends the problems of each call to
those found before. A call whose target is unknown is never reported, since no rule can tell a forbidden
overload from a harmless one.
-/

set_option autoImplicit false

namespace EncodingLint

/-- A catalog, and how it is run. -/
structure Inspection where
  catalog : Catalog := .builtin
  enabled : Bool := true
  severity : Severity := .warning
  matchMode : MatchMode := .first
deriving DecidableEq, Repr

/-- A call that a rule forbids. -/
structure Problem where
  severity : Severity
  /-- The number of the rule in its catalog. -/
  rule : Nat
  fixes : List Fix
  /-- The call, which the fixes are applied to. -/
  call : Call
deriving DecidableEq, Repr

namespace Problem

/-- The code of all problems. -/
def code : String := "platform-default-encoding"

/-- What all problems are about. -/
def message : String := "Method uses platform default encoding"

/-- Where the problem is. -/
def span (p : Problem) : Option Span :=
  p.call.span

end Problem

namespace Inspection

/-- The inspection that settings describe. -/
def ofSettings (s : Settings) : Inspection where
  catalog := .ofSettings s
  enabled := s.inspection.enabled
  severity := s.inspection.severity
  matchMode := s.inspection.matchMode

/-- The problem that a rule finds in a call. -/
def report? (i : Inspection) (call : Call) (rule : Rule × Nat) : Option Problem :=
  (rule.1.check call).map fun fixes => ⟨i.severity, rule.2, fixes, call⟩

/-- Runs rules on a call, and appends what they report to the problems found before. Unless all matches
are asked for, the first report is the last. -/
def visitRules (i : Inspection) (call : Call) :
    List (Rule × Nat) → List Problem → List Problem
  | [], found => found
  | rule :: rest, found =>
    match i.report? call rule with
    | none => i.visitRules call rest found
    | some problem =>
      match i.matchMode with
      | .first => found ++ [problem]
      | .all => i.visitRules call rest (found ++ [problem])

/-- Runs the catalog on a call, and appends what it reports to the problems found before. -/
def visit (i : Inspection) (found : List Problem) (call : Call) : List Problem :=
  if i.enabled && call.isResolved then
    i.visitRules call i.catalog.rules.zipIdx found
  else
    found

/-- The problems of a call. -/
def check (i : Inspection) (call : Call) : List Problem :=
  i.visit [] call

/-- The problems of calls, found one call after the other. -/
def checkAll (i : Inspection) (calls : List Call) : List Problem :=
  calls.foldl i.visit []

end Inspection

end EncodingLint
