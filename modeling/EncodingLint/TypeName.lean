import EncodingLint.Text.Blank

/-!
# Type names

Types are known by their canonical names: `java.lang.String`, `byte[]`, `java.util.Map.Entry`. Two
types are the same if their names are. A `TypeRef` is a type as a call site sees it, together with the
names of the types directly above it.
-/

set_option autoImplicit false

namespace EncodingLint

/-- The canonical name of a type. -/
structure TypeName where
  text : String
deriving DecidableEq, Repr

/-- A type and the types directly above it. -/
structure TypeRef where
  name : TypeName
  supertypes : List TypeName := []
deriving DecidableEq, Repr

namespace TypeName

/-- The type name in a text; blanks around it do not count. -/
def ofString (s : String) : TypeName :=
  ⟨Text.trimmed s⟩

/-- The part of the name after its last dot. -/
def simpleName (t : TypeName) : String :=
  String.ofList (t.text.toList.reverse.takeWhile (· ≠ '.')).reverse

/-- The names of the primitive types. -/
def primitives : List TypeName :=
  [⟨"boolean"⟩, ⟨"byte"⟩, ⟨"char"⟩, ⟨"short"⟩, ⟨"int"⟩, ⟨"long"⟩, ⟨"float"⟩, ⟨"double"⟩]

def isPrimitive (t : TypeName) : Bool :=
  primitives.contains t

/-- Every type that is not primitive is a reference type. -/
def isReference (t : TypeName) : Bool :=
  !t.isPrimitive

/-- Type names in the order of their texts, by code point. -/
def sort (names : List TypeName) : List TypeName :=
  names.mergeSort fun a b => decide (a.text ≤ b.text)

/-- A type name in log events, as in `TypeName(byte[])`. -/
def describe (t : TypeName) : String :=
  s!"TypeName({t.text})"

def object : TypeName := ⟨"java.lang.Object"⟩
def string : TypeName := ⟨"java.lang.String"⟩
def byteArray : TypeName := ⟨"byte[]"⟩
def charset : TypeName := ⟨"java.nio.charset.Charset"⟩
def fileWriter : TypeName := ⟨"java.io.FileWriter"⟩
def inputStreamReader : TypeName := ⟨"java.io.InputStreamReader"⟩
def outputStreamWriter : TypeName := ⟨"java.io.OutputStreamWriter"⟩
def printStream : TypeName := ⟨"java.io.PrintStream"⟩
def printWriter : TypeName := ⟨"java.io.PrintWriter"⟩
def writer : TypeName := ⟨"java.io.Writer"⟩
def unsupportedEncoding : TypeName := ⟨"java.io.UnsupportedEncodingException"⟩

/-- The types that the built-in rules speak of. -/
def wellKnown : List TypeName :=
  [object, string, byteArray, charset, fileWriter, inputStreamReader, outputStreamWriter,
   printStream, printWriter, writer, unsupportedEncoding]

end TypeName

namespace TypeRef

/-- Whether a type is the target, or the target is directly above it. -/
def isAssignableTo (t : TypeRef) (target : TypeName) : Bool :=
  t.name == target || t.supertypes.contains target

end TypeRef

end EncodingLint
