import EncodingLint.Call
import EncodingLint.Edit
import EncodingLint.Fix.Literal
import EncodingLint.Fix.Pieces

/-!
# Fixes

A fix makes the encoding of a call explicit: it appends an expression to the arguments, right after the
last of them. Blanks and comments behind the last argument stay where they are.
-/

set_option autoImplicit false

namespace EncodingLint

/-- An expression to append to the arguments of a call, and the type that it has. -/
structure Fix where
  providedType : TypeName
  insertion : String
deriving DecidableEq, Repr

/-- Why a fix cannot be applied. -/
inductive FixError where
  /-- The recorded place of the arguments does not hold a list in parentheses. -/
  | noArgumentList (span : Span)
  | edit (cause : EditError)
deriving DecidableEq, Repr

namespace FixError

def message : FixError → String
  | noArgumentList span =>
    s!"argument list {span.describe} does not delimit a parenthesized list in the source"
  | edit cause => cause.message

end FixError

namespace Fix

/-- What all fixes do. -/
def familyName : String := "Fix call to method using platform default encoding"

/-- What a fix does, for the user to choose. -/
def title (f : Fix) : String :=
  "Add parameter " ++ f.insertion

/-- The fix that appends the name of a charset. -/
def charsetName (charset : String) : Fix where
  providedType := .string
  insertion := String.ofList (literal charset.toList)

/-- The fix that appends the charset of a name. -/
def charsetObject (charset : String) : Fix where
  providedType := .charset
  insertion := "Charset.forName(" ++ String.ofList (literal charset.toList) ++ ")"

/-- The argument that a fix appends. -/
def appended (f : Fix) : TypeRef :=
  ⟨f.providedType, []⟩

/-- The text between the parentheses of an argument list. -/
def insideParentheses? : Text → Option Text
  | '(' :: rest => if rest.getLast? = some ')' then some rest.dropLast else none
  | _ => none

/-- The edit that appends the expression. A call of which no argument list is recorded needs none. -/
def edit? (f : Fix) (source : Text) (call : Call) : Except FixError (Option Edit) :=
  match call.argumentList with
  | none => return none
  | some list =>
    let inside? := do
      let range ← list.toRange?
      let text ← Text.slice? source range.start range.stop
      insideParentheses? text
    match inside? with
    | none => throw (.noArgumentList list)
    | some inside =>
      let separator := if call.arguments.isEmpty then "" else ", "
      return some (.insert (list.start + 1 + codeEnd inside) (separator ++ f.insertion).toList)

/-- The source after the fix. -/
def apply (f : Fix) (source : Text) (call : Call) : Except FixError Text := do
  match ← f.edit? source call with
  | none => return source
  | some edit => (Edit.applyAll source [edit]).mapError .edit

end Fix

end EncodingLint
