/-!
# Rules as users write them

A `RuleSpec` names a class and narrows down which of its members are forbidden. It is data from the
settings: nothing in it has been checked.
-/

set_option autoImplicit false

namespace EncodingLint

/-- The two shapes of an argument that makes an encoding explicit. -/
inductive FixKind where
  /-- A charset object. -/
  | charset
  /-- The name of a charset. -/
  | string
deriving DecidableEq, Repr

/-- A forbidden member of a class, by what its calls look like. -/
structure RuleSpec where
  className : String := ""
  /-- Only constructors are meant. -/
  constructorsOnly : Bool := false
  /-- The name of the member. -/
  name : Option String := none
  /-- The types of all arguments; the empty list means no arguments. -/
  parameterTypes : Option (List String) := none
  /-- A type that some argument has. -/
  withParameterType : Option String := none
  /-- A type that no argument has. -/
  exceptParameterType : Option String := none
  /-- An exception that the member does not declare. -/
  dontThrow : Option String := none
  /-- Fixes to offer if another overload takes them. -/
  need : List FixKind := []
  /-- Fixes to offer in any case. -/
  fixes : List FixKind := []
deriving DecidableEq, Repr

end EncodingLint
