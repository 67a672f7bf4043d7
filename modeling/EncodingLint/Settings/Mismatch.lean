import EncodingLint.Decimal.Shortest
import EncodingLint.Text.Quoted
import EncodingLint.Toml.Node

/-!
# Mismatches between a document and the settings

What can be wrong with a value of a well-formed document, and how that is said.
-/

set_option autoImplicit false

namespace EncodingLint.Settings

/-- What a setting has to be. -/
inductive Shape where
  | boolean
  | text
  | list
  | record (name : String)
deriving DecidableEq, Repr

/-- What a document has in place of a setting. -/
inductive Found where
  | integer (value : Int)
  | float (value : Binary64)
  | boolean (value : Bool)
  | text (value : String)
  | list
  | map
deriving DecidableEq, Repr

/-- Why a document cannot be read as settings. -/
inductive Mismatch where
  /-- A value of another shape. -/
  | wrongShape (found : Found) (expected : Shape)
  /-- A choice that is none of those offered. -/
  | unknownChoice (found : String) (offered : List String)
  /-- A choice that is neither a text nor a table. -/
  | choiceShape
  /-- A choice given as an empty table. -/
  | noChoice
  /-- A choice given as a table of several keys. -/
  | manyChoices
  /-- A choice given as a table whose value is of the named type. -/
  | choiceValue (type : String)
  /-- A choice given as a table whose value has entries or elements. -/
  | choiceNotEmpty
  /-- A choice given as a table whose value is an array of tables. -/
  | choiceOfTables
deriving DecidableEq, Repr

namespace Shape

def describe : Shape → String
  | boolean => "a boolean"
  | text => "a string"
  | list => "a sequence"
  | record name => s!"struct {name}"

end Shape

namespace Found

/-- What a node is taken for. A date-time counts as a map. -/
def ofNode : Toml.Node → Found
  | .integer value => integer value
  | .float value => float value
  | .boolean value => boolean value
  | .string value => text value
  | .array .. => list
  | .table .. => map
  | .dateTime .. => map

def describe : Found → String
  | integer value => s!"integer `{value}`"
  | float value => s!"floating point `{value.describe}`"
  | boolean value => s!"boolean `{value}`"
  | text value => s!"string {Text.quoted value}"
  | list => "sequence"
  | map => "map"

end Found

namespace Mismatch

/-- The choices offered, each between backticks. -/
def describeOffer (offered : List String) : String :=
  match offered.map fun name => s!"`{name}`" with
  | [a] => a
  | [a, b] => s!"{a} or {b}"
  | names => "one of " ++ ", ".intercalate names

def message : Mismatch → String
  | wrongShape found expected =>
    s!"invalid type: {found.describe}, expected {expected.describe}"
  | unknownChoice found offered =>
    s!"unknown variant `{found}`, expected {describeOffer offered}"
  | choiceShape => "wanted string or table"
  | noChoice => "wanted exactly 1 element, found 0 elements"
  | manyChoices => "wanted exactly 1 element, more than 1 element"
  | choiceValue type => s!"expected table, found {type}"
  | choiceNotEmpty => "expected empty table"
  | choiceOfTables => "expected empty array"

end Mismatch

end EncodingLint.Settings
