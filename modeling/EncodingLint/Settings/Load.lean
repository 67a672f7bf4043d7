import EncodingLint.Settings.Decode
import EncodingLint.Settings.Warning
import EncodingLint.Toml.Document

/-!
# Loading settings

Settings are loaded from the text of a document, together with what was found odd about it: keys that
mean nothing, and warnings.
-/

set_option autoImplicit false

namespace EncodingLint

/-- What was found odd about settings that could be loaded. -/
structure Diagnostics where
  /-- Keys that mean nothing, in order and without repetition. -/
  unknownKeys : List String
  warnings : List Warning
deriving DecidableEq, Repr

/-- Settings and what was found odd about them. -/
structure LoadedSettings where
  settings : Settings
  diagnostics : Diagnostics
deriving DecidableEq, Repr

/-- Why settings cannot be loaded. -/
inductive LoadError where
  /-- The file cannot be read as text. -/
  | unreadable
  /-- The text is no document. -/
  | malformed
  /-- The document has a value that does not fit. -/
  | mismatch (cause : Settings.Mismatch)
deriving DecidableEq, Repr

namespace Diagnostics

def isClean (d : Diagnostics) : Bool :=
  d.unknownKeys.isEmpty && d.warnings.isEmpty

end Diagnostics

namespace LoadError

/-- What is said about settings that do not fit; the other causes are not put into words here. -/
def message? : LoadError → Option String
  | unreadable => none
  | malformed => none
  | mismatch cause => some s!"failed to parse toml config: {cause.message}"

end LoadError

namespace Settings

/-- Key paths in messages, sorted and without repetition. -/
def renderKeys (paths : List KeyPath) : List String :=
  ((paths.map KeyPath.render).mergeSort fun a b => decide (a ≤ b)).eraseReps

/-- Settings from the entries of a document. -/
def ofEntries (entries : Toml.Entries) : Except LoadError LoadedSettings :=
  match decode entries with
  | .ok ⟨settings, unknown⟩ => return ⟨settings, ⟨renderKeys unknown, settings.warnings⟩⟩
  | .error cause => throw (.mismatch cause)

/-- Settings from the text of a document. -/
def ofText (text : Text) : Except LoadError LoadedSettings :=
  match Toml.parse? text with
  | some entries => ofEntries entries
  | none => throw .malformed

end Settings

end EncodingLint
