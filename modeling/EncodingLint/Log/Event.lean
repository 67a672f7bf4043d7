import EncodingLint.ClassPath.Resolution
import EncodingLint.Inspection
import EncodingLint.Log.Level
import EncodingLint.Session
import EncodingLint.Settings.Load
import EncodingLint.Text.Quoted

/-!
# Log events

An event says what happened, and has a level, a target (the part of the program that it is about), a
message and named fields. What is done and what is logged about it are told apart: for each activity
there is a function that lists its events.
-/

set_option autoImplicit false

namespace EncodingLint

/-- Something that is worth logging. -/
inductive Event where
  | unresolvedConstructor (owner : TypeName)
  | unresolvedMethod (owner : TypeName) (name : String)
  /-- A call is not inspected because its target is unknown. -/
  | skippedCall (span : Option Span)
  | reportedCall (rule : Nat) (type : Option TypeName) (fixes : Nat) (span : Option Span)
  /-- A rule of the user is left out of a catalog. -/
  | skippedRule (index : Nat) (cause : SpecError)
  | unknownKey (key : String)
  | settingsWarning (warning : Warning)
  /-- There is a log already, so a second one is not set up. -/
  | alreadyInstalled
deriving DecidableEq, Repr

/-- The value of a field of an event. -/
inductive FieldValue where
  | number (n : Nat)
  /-- A text that goes into log lines as it is. -/
  | shown (text : String)
  /-- A text that goes into log lines in quotes. -/
  | quoted (text : String)
deriving DecidableEq, Repr

namespace FieldValue

/-- The value in a log line. -/
def line : FieldValue → String
  | number n => s!"{n}"
  | shown text => text
  | quoted text => Text.quoted text

end FieldValue

namespace Event

def level : Event → Level
  | unresolvedConstructor _ | unresolvedMethod _ _ | skippedCall _ => .trace
  | reportedCall .. | alreadyInstalled => .debug
  | skippedRule .. | unknownKey _ | settingsWarning _ => .warn

/-- The part of the program that an event is about. -/
def target : Event → String
  | unresolvedConstructor _ | unresolvedMethod _ _ => "charlint.types"
  | skippedCall _ | reportedCall .. | skippedRule .. => "charlint.rules"
  | unknownKey _ | settingsWarning _ | alreadyInstalled => "charlint.config"

def message : Event → String
  | unresolvedConstructor _ => "constructor call left unresolved"
  | unresolvedMethod _ _ => "method call left unresolved"
  | skippedCall _ => "skipping unresolved call"
  | reportedCall .. => "call uses platform default encoding"
  | skippedRule .. => "skipping invalid rule"
  | unknownKey _ => "ignoring unknown config key"
  | settingsWarning _ => "config warning"
  | alreadyInstalled => "global subscriber already installed"

/-- A description that may be missing, as in `Some(Span(3..5))` or `None`. -/
def describeOption (description : Option String) : String :=
  match description with
  | some d => s!"Some({d})"
  | none => "None"

/-- The fields of an event besides its message, in the order of log lines. -/
def fields : Event → List (String × FieldValue)
  | unresolvedConstructor owner => [("class", .shown owner.text)]
  | unresolvedMethod owner name => [("owner", .shown owner.text), ("name", .quoted name)]
  | skippedCall span => [("span", .shown (describeOption (span.map Span.describe)))]
  | reportedCall rule type fixes span =>
    [("rule", .number rule), ("class", .shown (describeOption (type.map TypeName.describe))),
     ("fixes", .number fixes), ("span", .shown (describeOption (span.map Span.describe)))]
  | skippedRule index cause => [("index", .number index), ("error", .shown cause.message)]
  | unknownKey key => [("key", .shown key)]
  | settingsWarning warning => [("warning", .shown warning.message)]
  | alreadyInstalled => []

/-- The line of an event in a log of plain text. -/
def line (e : Event) : String :=
  let parts := e.fields.map fun (name, value) => s!" {name}={value.line}"
  s!"{e.level.label} {e.target}: {e.message}{String.join parts}"

end Event

/-! ## What is logged about each activity -/

namespace LoadedSettings

/-- The events of loading settings. -/
def events (l : LoadedSettings) : List Event :=
  l.diagnostics.unknownKeys.map .unknownKey ++ l.diagnostics.warnings.map .settingsWarning

end LoadedSettings

namespace Catalog

/-- The events of building the catalog of settings. -/
def events (settings : Settings) : List Event :=
  (skipped settings).map fun (index, cause) => .skippedRule index cause

end Catalog

namespace CallSite

/-- The events of finding out what is known about a call. -/
def events (site : CallSite) (call : Call) : List Event :=
  if call.isResolved then []
  else match site.callee with
    | .constructor owner => [.unresolvedConstructor owner]
    | .method owner name | .static owner name => [.unresolvedMethod owner name]

end CallSite

namespace Inspection

/-- The events of checking a call. -/
def events (i : Inspection) (call : Call) : List Event :=
  if !i.enabled then []
  else if !call.isResolved then [.skippedCall call.span]
  else (i.check call).map fun p =>
    .reportedCall p.rule (i.catalog.rules[p.rule]?.bind Rule.type?) p.fixes.length p.span

end Inspection

namespace SessionStep

/-- The events of a step of a session. -/
def events (i : Inspection) : SessionStep → List Event
  | shown r => r.site.events r.call ++ i.events r.call
  | failed _ => []

end SessionStep

end EncodingLint
