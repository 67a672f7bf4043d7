import EncodingLint.Toml.Entries
import EncodingLint.Toml.Scalars

/-!
# Reading TOML documents

A document is read as a list of statements, one a line, which are then carried out in order. Values
nest less than eighty deep and keys have fewer than eighty parts.
-/

set_option autoImplicit false

namespace EncodingLint.Toml

/-- The bound that neither the depth of a value nor the number of parts of a key reaches. -/
def nestingLimit : Nat := 80

/-- A line of a document with content of its own. -/
inductive Statement where
  | pair (path : List String) (key : String) (value : Node)
  | table (path : List String) (key : String)
  | element (path : List String) (key : String)

namespace Statement

def skipBlanks : Reader Unit := do
  let _ ← Reader.takeWhile fun c => c = ' ' || c = '\t'

/-- Takes a comment, up to the end of its line. -/
def comment : Reader Unit := do
  Reader.expect '#'
  let _ ← Reader.takeWhile isPlain

/-- Takes blanks, line breaks and comments between the elements of an array. -/
def skipGap : Reader Unit := do
  let _ ← Reader.loop do
    skipBlanks
    match ← Reader.peek with
    | some '#' => comment; Strings.newline; return some ()
    | some '\n' | some '\r' => Strings.newline; return some ()
    | _ => return none

/-- Takes what may stand at the end of a line, and the line break unless the document ends there. -/
def lineEnd : Reader Unit := do
  skipBlanks
  if (← Reader.peek) = some '#' then comment
  if (← get).isEmpty then return () else Strings.newline

def isBareKeyChar (c : Char) : Bool :=
  ('A' ≤ c && c ≤ 'Z') || ('a' ≤ c && c ≤ 'z') || ('0' ≤ c && c ≤ '9') || c = '-' || c = '_'

/-- One part of a key, with the blanks around it. -/
def keyPart : Reader String := do
  skipBlanks
  let part ←
    Strings.quotedKey <|> (do return String.ofList (← Reader.takeWhile1 isBareKeyChar))
  skipBlanks
  return part

/-- A key: the parts before the last, and the last. -/
def key : Reader (List String × String) := do
  let first ← keyPart
  let others ← Reader.loop do
    if ← Reader.accept '.' then return some (← keyPart) else return none
  let parts := first :: others
  if nestingLimit ≤ parts.length then failure
  return (parts.dropLast, others.getLastD first)

/-- A key and its value, which `value` reads. -/
def pairOf (value : Reader Node) : Reader (List String × String × Node) := do
  let (path, last) ← key
  Reader.expect '='
  skipBlanks
  return (path, last, ← value)

/-- An array, after its opening bracket. -/
def arrayBody (value : Reader Node) : Reader Node := do
  skipGap
  let elements ← Reader.loop do
    if ← Reader.accept ']' then return none
    let element ← value
    skipGap
    if ← Reader.accept ',' then skipGap
    else if (← Reader.peek) ≠ some ']' then failure
    return some element
  return .array .inline elements

/-- A table between braces, after its opening brace. -/
def tableBody (value : Reader Node) : Reader Node := do
  skipBlanks
  if ← Reader.accept '\x7d' then return .table .inline []
  let first ← pairOf value
  let others ← Reader.loop do
    skipBlanks
    if ← Reader.accept '\x7d' then return none
    Reader.expect ','
    return some (← pairOf value)
  let entries ← (first :: others).foldlM (fun entries (path, key, node) =>
    Entries.insert? path key node entries) []
  return .table .inline entries

/-- A value whose parts nest at most `depth` deep. -/
def value : Nat → Reader Node
  | 0 => Scalars.scalar
  | depth + 1 => do
    match ← Reader.peek with
    | some '[' => Reader.expect '['; arrayBody (value depth)
    | some '\x7b' => Reader.expect '\x7b'; tableBody (value depth)
    | _ => Scalars.scalar

/-- The header of a table or of an element of an array of tables. -/
def header : Reader Statement := do
  Reader.expect '['
  if ← Reader.accept '[' then
    let (path, last) ← key
    Reader.expectAll [']', ']']
    lineEnd
    return .element path last
  else
    let (path, last) ← key
    Reader.expect ']'
    lineEnd
    return .table path last

/-- A key and its value on a line. -/
def pairLine : Reader Statement := do
  let (path, last, node) ← pairOf (value (nestingLimit - 1))
  lineEnd
  return .pair path last node

/-- The statements of a document, from here to its end. -/
def all : Reader (List Statement) := do
  let lines ← Reader.loop do
    skipBlanks
    match ← Reader.peek with
    | none => return none
    | some '#' | some '\n' | some '\r' => lineEnd; return some none
    | some '[' => return some (some (← header))
    | some _ => return some (some (← pairLine))
  Reader.atEnd
  return lines.filterMap id

end Statement

/-- A document in the making: its entries, and the path of the table opened last. -/
structure Draft where
  entries : Entries := []
  current : List String := []

namespace Draft

/-- Carries out a statement. -/
def add? (draft : Draft) : Statement → Option Draft
  | .pair path key value => do
    let entries ←
      Entries.changeUnder? draft.current (Entries.insert? path key value) draft.entries
    return { draft with entries }
  | .table path key => do
    return ⟨← Entries.openTable? path key draft.entries, path ++ [key]⟩
  | .element path key => do
    return ⟨← Entries.openElement? path key draft.entries, path ++ [key]⟩

end Draft

/-- The entries of a document, if the text is one. A byte order mark in front is skipped. -/
def parse? (text : Text) : Option Entries := do
  let text := match text with
    | '\ufeff' :: rest => rest
    | text => text
  let (statements, _) ← Statement.all.run text
  let draft ← statements.foldlM Draft.add? {}
  return draft.entries

end EncodingLint.Toml
