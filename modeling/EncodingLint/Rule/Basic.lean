import EncodingLint.Rule.Predicate
import EncodingLint.Rule.Spec

/-!
# Rules

A rule forbids the calls that all its predicates accept, and offers fixes for them. Rules are built up
step by step, or from what a user wrote (`RuleSpec.toRule`).
-/

set_option autoImplicit false

namespace EncodingLint

/-- A conjunction of predicates, and fixes to offer whenever it holds. -/
structure Rule where
  predicates : List Predicate := []
  fixes : List Fix := []
deriving DecidableEq, Repr

/-- What keeps a rule that a user wrote from being built. -/
inductive SpecError where
  | missingClass
  | emptyName (className : String)
  | emptyType (className : String)
deriving DecidableEq, Repr

namespace SpecError

def message : SpecError → String
  | missingClass => "rule does not name a class"
  | emptyName className => s!"rule for `{className}` has an empty method name"
  | emptyType className => s!"rule for `{className}` has an empty parameter type"

end SpecError

namespace Rule

/-- The rule with one more predicate. -/
def withPredicate (r : Rule) (p : Predicate) : Rule :=
  { r with predicates := r.predicates ++ [p] }

/-- The rule with one more fix to offer whenever it holds. -/
def fixedBy (r : Rule) (fix : Fix) : Rule :=
  { r with fixes := r.fixes ++ [fix] }

/-- All methods and constructors of a class. -/
def membersOf (type : TypeName) : Rule :=
  ⟨[.ofClass type], []⟩

/-- All constructors of a class. -/
def constructorsOf (type : TypeName) : Rule :=
  (membersOf type).withPredicate .isConstructor

def named (r : Rule) (name : String) : Rule :=
  r.withPredicate (.named name)

def withArguments (r : Rule) (types : List TypeName) : Rule :=
  r.withPredicate (.argumentTypes types)

def withArgument (r : Rule) (type : TypeName) : Rule :=
  r.withPredicate (.hasArgument type)

def withoutArgument (r : Rule) (type : TypeName) : Rule :=
  r.withPredicate (.not (.hasArgument type))

def notThrowing (r : Rule) (type : TypeName) : Rule :=
  r.withPredicate (.doesNotThrow type)

/-- The rule with a predicate for each of the fixes; all of them have to accept a call, and each offers
its own fix. -/
def needing (r : Rule) (fixes : List Fix) : Rule :=
  fixes.foldl (fun r fix => r.withPredicate (.needParameter fix)) r

/-- The class that a rule is about. -/
def type? (r : Rule) : Option TypeName :=
  r.predicates.findSome? fun
    | .ofClass type => some type
    | _ => none

/-- Takes the verdict of one predicate into account: a rejection ends the check, and a fix is added
unless it is among the fixes already. -/
def addVerdict (fixes : List Fix) : Verdict → Option (List Fix)
  | .rejected => none
  | .accepted => some fixes
  | .acceptedWithFix fix => some (if fixes.contains fix then fixes else fixes ++ [fix])

/-- The fixes to offer for a call, if the rule forbids it. -/
def check (r : Rule) (call : Call) : Option (List Fix) :=
  r.predicates.foldlM (fun fixes p => addVerdict fixes (p.evaluate call)) r.fixes

/-- Whether the rule forbids a call. -/
def isMatch (r : Rule) (call : Call) : Bool :=
  (r.check call).isSome

end Rule

namespace FixKind

/-- The fix of a kind for a charset. -/
def toFix (charset : String) : FixKind → Fix
  | .charset => .charsetObject charset
  | .string => .charsetName charset

end FixKind

namespace RuleSpec

/-- A type that a user wrote, which must not be blank. -/
def readType (className type : String) : Except SpecError TypeName :=
  if Text.allBlank type then throw (.emptyType className) else return .ofString type

/-- The rule with what a setting adds to it, if there is that setting. -/
def extend {α : Type} (r : Rule) (setting : Option α) (add : α → Except SpecError Rule) :
    Except SpecError Rule :=
  match setting with
  | none => return r
  | some value => add value

/-- The rule that a user wrote, with fixes for a charset. -/
def toRule (spec : RuleSpec) (charset : String) : Except SpecError Rule := do
  if Text.allBlank spec.className then
    throw .missingClass
  let className := Text.trimmed spec.className
  let type := TypeName.ofString spec.className
  let r := if spec.constructorsOnly then Rule.constructorsOf type else Rule.membersOf type
  let r ← extend r spec.name fun name =>
    if Text.allBlank name then throw (.emptyName className) else return r.named (Text.trimmed name)
  let r ← extend r spec.parameterTypes fun types => do
    return r.withArguments (← types.mapM (readType className))
  let r ← extend r spec.withParameterType fun type => do
    return r.withArgument (← readType className type)
  let r ← extend r spec.exceptParameterType fun type => do
    return r.withoutArgument (← readType className type)
  let r ← extend r spec.dontThrow fun type => do
    return r.notThrowing (← readType className type)
  let r := r.needing (spec.need.map (FixKind.toFix charset))
  return (spec.fixes.map (FixKind.toFix charset)).foldl Rule.fixedBy r

end RuleSpec

end EncodingLint
