import EncodingLint.Span
import EncodingLint.TypeName

/-!
# Calls

What is known about a call of a method or constructor: where it stands, the types of its arguments as
far as they are known, and the member that it calls if that was found out.
-/

set_option autoImplicit false

namespace EncodingLint

/-- A method or constructor as its class declares it. The name of a constructor is the simple name of
its class. -/
structure Signature where
  name : String
  declaringType : TypeName
  isConstructor : Bool := false
  parameters : List TypeRef
  throws : List TypeName
deriving DecidableEq, Repr

/-- The member that a call calls. -/
structure Target where
  method : Signature
  /-- All members of the same name that the class declares, the called one among them. -/
  siblings : List Signature
deriving DecidableEq, Repr

/-- A call of a method or constructor. -/
structure Call where
  /-- Where the whole call stands. -/
  span : Option Span := none
  /-- Where the arguments stand, with their parentheses. -/
  argumentList : Option Span := none
  /-- The types of the arguments; nothing where a type is unknown. -/
  arguments : List (Option TypeRef) := []
  /-- The type of the object that a method is called on. -/
  receiver : Option TypeName := none
  target : Option Target := none
deriving DecidableEq, Repr

namespace Signature

def arity (s : Signature) : Nat :=
  s.parameters.length

/-- Whether the parameters of a longer signature begin with those of this one, by name. -/
def isExtendedBy (s longer : Signature) : Bool :=
  s.arity ≤ longer.arity &&
    (s.parameters.zip longer.parameters).all fun (a, b) => a.name == b.name

/-- Whether the last parameter is assignable to a type. -/
def endsWith (s : Signature) (type : TypeName) : Bool :=
  s.parameters.getLast?.any (·.isAssignableTo type)

end Signature

namespace Call

def method? (c : Call) : Option Signature :=
  c.target.map (·.method)

def isResolved (c : Call) : Bool :=
  c.target.isSome

/-- The types of the arguments whose type is known. -/
def knownArguments (c : Call) : List TypeRef :=
  c.arguments.filterMap id

end Call

end EncodingLint
