import EncodingLint.Fix.Basic

/-!
# Predicates on calls

A predicate accepts or rejects a call by what is known about it. Where a fact is missing it rejects,
except for `needParameter`: that one rejects only a call that already ends in the argument which its
fix would append, and it offers the fix if another overload takes that argument.
-/

set_option autoImplicit false

namespace EncodingLint

/-- A test of calls. -/
inductive Predicate where
  /-- The receiver is of the class, or without a receiver the class declares the called member. -/
  | ofClass (type : TypeName)
  /-- The called member has the name. -/
  | named (name : String)
  /-- The called member is a constructor. -/
  | isConstructor
  /-- The arguments are assignable to just these types. -/
  | argumentTypes (types : List TypeName)
  /-- Some argument is assignable to the type. -/
  | hasArgument (type : TypeName)
  /-- The other predicate rejects the call. -/
  | not (inner : Predicate)
  /-- The called member does not declare the exception. -/
  | doesNotThrow (type : TypeName)
  /-- The call does not end in an argument that the fix would append. -/
  | needParameter (fix : Fix)
deriving DecidableEq, Repr

/-- What a predicate makes of a call. -/
inductive Verdict where
  | rejected
  | accepted
  | acceptedWithFix (fix : Fix)
deriving DecidableEq, Repr

namespace Verdict

def ofBool (b : Bool) : Verdict :=
  if b then accepted else rejected

def isAccepted : Verdict → Bool
  | rejected => false
  | _ => true

end Verdict

namespace Predicate

/-- Whether another overload takes the parameters of the called member and then one that the fix
provides. -/
def isFixable (target : Target) (fix : Fix) : Bool :=
  target.siblings.any fun sibling =>
    sibling.arity == target.method.arity + 1 &&
      target.method.isExtendedBy sibling && sibling.endsWith fix.providedType

/-- What `needParameter` makes of a call. A call with a single argument is never taken for fixed. -/
def needVerdict (call : Call) (fix : Fix) : Verdict :=
  match call.target with
  | none => .accepted
  | some target =>
    if 2 ≤ target.method.arity && target.method.endsWith fix.providedType then .rejected
    else if isFixable target fix then .acceptedWithFix fix
    else .accepted

/-- What a predicate makes of a call. -/
def evaluate (call : Call) : Predicate → Verdict
  | ofClass type =>
    .ofBool <| match call.receiver with
      | some receiver => receiver == type
      | none => call.method?.any fun m => m.declaringType == type
  | named name => .ofBool (call.method?.any fun m => m.name == name)
  | isConstructor => .ofBool (call.method?.any fun m => m.isConstructor)
  | argumentTypes types =>
    .ofBool (call.arguments.length == types.length &&
      (call.arguments.zip types).all fun (argument, type) =>
        argument.any fun a => a.isAssignableTo type)
  | hasArgument type => .ofBool (call.knownArguments.any fun a => a.isAssignableTo type)
  | not inner => .ofBool (!(evaluate call inner).isAccepted)
  | doesNotThrow type => .ofBool (call.method?.any fun m => !m.throws.contains type)
  | needParameter fix => needVerdict call fix

/-- Whether a predicate accepts a call. -/
def isMatch (p : Predicate) (call : Call) : Bool :=
  (p.evaluate call).isAccepted

end Predicate

end EncodingLint
