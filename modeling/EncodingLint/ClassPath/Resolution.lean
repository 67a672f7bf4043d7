import EncodingLint.ClassPath.Basic

/-!
# Which member a call calls

Of the members in question those are applicable that take as many arguments and whose parameters
accept the known ones. A call is resolved if one applicable member is the only one that is at least as
specific as every applicable member. A method is looked for in its class and then in the classes above.
-/

set_option autoImplicit false

namespace EncodingLint

/-- What a call names. -/
inductive Callee where
  /-- A constructor of a class. -/
  | constructor (owner : TypeName)
  /-- A method of an object of a type. -/
  | method (receiver : TypeName) (name : String)
  /-- A static method of a class. -/
  | static (owner : TypeName) (name : String)
deriving DecidableEq, Repr

/-- A call as it is written: what it names, and its arguments as far as their types are known. -/
structure CallSite where
  callee : Callee
  arguments : List (Option TypeName) := []
  span : Option Span := none
  argumentList : Option Span := none
deriving DecidableEq, Repr

namespace ClassPath

/-- Whether a parameter accepts an argument. An argument of unknown type is always accepted. -/
def accepts (cp : ClassPath) (parameter : TypeName) : Option TypeName → Bool
  | some argument => cp.isSubtype argument parameter
  | none => true

/-- Whether a member takes as many arguments and accepts each of them. -/
def isApplicable (cp : ClassPath) (arguments : List (Option TypeName)) (m : Member) : Bool :=
  m.parameters.length == arguments.length &&
    (m.parameters.zip arguments).all fun (parameter, argument) => cp.accepts parameter argument

/-- Whether each parameter of a member is at or below the parameter of the other one. -/
def isAsSpecific (cp : ClassPath) (m other : Member) : Bool :=
  (m.parameters.zip other.parameters).all fun (a, b) => cp.isSubtype a b

/-- The applicable members that are as specific as every applicable member. -/
def mostSpecific (cp : ClassPath) (candidates : List Member) (arguments : List (Option TypeName)) :
    List Member :=
  let applicable := candidates.filter (cp.isApplicable arguments)
  applicable.filter fun m => applicable.all (cp.isAsSpecific m)

/-- The one most specific member, if there is just one. -/
def select? (cp : ClassPath) (candidates : List Member) (arguments : List (Option TypeName)) :
    Option Member :=
  match cp.mostSpecific candidates arguments with
  | [m] => some m
  | _ => none

/-- A member as a call site sees it. -/
def signature (cp : ClassPath) (owner : ClassDecl) (isConstructor : Bool) (m : Member) :
    Signature where
  name := m.name
  declaringType := owner.name
  isConstructor := isConstructor
  parameters := m.parameters.map cp.typeRef
  throws := m.throws

/-- The target that is a member of a class. -/
def targetIn (cp : ClassPath) (owner : ClassDecl) (isConstructor : Bool) (m : Member)
    (siblings : List Member) : Target where
  method := cp.signature owner isConstructor m
  siblings := siblings.map (cp.signature owner isConstructor)

/-- The constructor of a class that arguments call. -/
def constructorIn? (cp : ClassPath) (owner : ClassDecl) (arguments : List (Option TypeName)) :
    Option Target :=
  (cp.select? owner.constructors arguments).map fun m => cp.targetIn owner true m owner.constructors

/-- The method of a class that arguments call; for a static call only static methods are in question. -/
def methodIn? (cp : ClassPath) (name : String) (staticOnly : Bool)
    (arguments : List (Option TypeName)) (owner : ClassDecl) : Option Target :=
  let named := owner.methods.filter fun m => m.name == name
  let candidates := named.filter fun m => !staticOnly || m.isStatic
  (cp.select? candidates arguments).map fun m => cp.targetIn owner false m named

/-- What a call calls. -/
def resolve? (cp : ClassPath) (callee : Callee) (arguments : List (Option TypeName)) :
    Option Target :=
  match callee with
  | .constructor owner => (cp.find? owner).bind fun c => cp.constructorIn? c arguments
  | .method receiver name => (cp.chain receiver).findSome? (cp.methodIn? name false arguments)
  | .static owner name => (cp.chain owner).findSome? (cp.methodIn? name true arguments)

/-- What is known about a call. -/
def call (cp : ClassPath) (site : CallSite) : Call where
  span := site.span
  argumentList := site.argumentList
  arguments := site.arguments.map (·.map cp.typeRef)
  receiver := match site.callee with
    | .method receiver _ => some receiver
    | _ => none
  target := cp.resolve? site.callee site.arguments

end ClassPath

namespace CallSite

/-- The same call with one more argument. -/
def withArgument (site : CallSite) (type : TypeName) : CallSite :=
  { site with arguments := site.arguments ++ [some type] }

end CallSite

end EncodingLint
