import EncodingLint.Settings.Basic
import EncodingLint.Settings.KeyPath
import EncodingLint.Settings.Mismatch

/-!
# Settings from a document

A record of settings is read field by field in the order of the document, so the first mismatch of the
document is the one reported. A key that no field has is noted with its path and not looked into. In
place of a table, an array gives the fields in their order.
-/

set_option autoImplicit false

namespace EncodingLint.Settings

open Toml (Node Entries)

/-- A value read from a node, with the paths of the unknown keys below that node. -/
structure Decoded (α : Type) where
  value : α
  unknown : List KeyPath

/-- A field of a record of type `σ`: its key, and how a node changes the record. -/
structure Field (σ : Type) where
  name : String
  read : Node → σ → Except Mismatch (Decoded σ)

/-- The one key that a date-time shows where a table is expected. -/
def dateTimeKey : String := "$__toml_private_datetime"

variable {α σ : Type}

namespace Field

/-- A field with no keys below it. -/
def leaf (name : String) (read : Node → Except Mismatch α) (put : α → σ → σ) : Field σ where
  name := name
  read node s := do return ⟨put (← read node) s, []⟩

/-- A field with keys below it. -/
def nested (name : String) (read : Node → Except Mismatch (Decoded α)) (put : α → σ → σ) :
    Field σ where
  name := name
  read node s := do
    let ⟨value, unknown⟩ ← read node
    return ⟨put value s, unknown⟩

end Field

/-- Reads the fields of a record from the entries of a table. -/
def readEntries (fields : List (Field σ)) : Entries → σ → Except Mismatch (Decoded σ)
  | [], s => return ⟨s, []⟩
  | (key, node) :: rest, s =>
    match fields.find? fun f => f.name = key with
    | none => do
      let ⟨s, unknown⟩ ← readEntries fields rest s
      return ⟨s, [.key key] :: unknown⟩
    | some field => do
      let ⟨s, inner⟩ ← field.read node s
      let ⟨s, unknown⟩ ← readEntries fields rest s
      return ⟨s, inner.map (.key key :: ·) ++ unknown⟩

/-- Reads the fields of a record from the elements of an array, the first of which has the given
index. Elements without a field are not looked at. -/
def readElements (index : Nat) : List (Field σ) → List Node → σ → Except Mismatch (Decoded σ)
  | field :: fields, node :: rest, s => do
    let ⟨s, inner⟩ ← field.read node s
    let ⟨s, unknown⟩ ← readElements (index + 1) fields rest s
    return ⟨s, inner.map (.index index :: ·) ++ unknown⟩
  | _, _, s => return ⟨s, []⟩

/-- Reads a record, starting from its defaults. -/
def readRecord (name : String) (fields : List (Field σ)) (defaults : σ) :
    Node → Except Mismatch (Decoded σ)
  | .table _ entries => readEntries fields entries defaults
  | .array _ elements => readElements 0 fields elements defaults
  | .dateTime _ => return ⟨defaults, [[.key dateTimeKey]]⟩
  | node => throw (.wrongShape (.ofNode node) (.record name))

/-- Reads the elements of an array, the first of which has the given index. -/
def readItems (read : Node → Except Mismatch (Decoded α)) (index : Nat) :
    List Node → Except Mismatch (Decoded (List α))
  | [] => return ⟨[], []⟩
  | node :: rest => do
    let ⟨a, inner⟩ ← read node
    let ⟨others, unknown⟩ ← readItems read (index + 1) rest
    return ⟨a :: others, inner.map (.index index :: ·) ++ unknown⟩

/-- Reads a list. -/
def readList (read : Node → Except Mismatch (Decoded α)) :
    Node → Except Mismatch (Decoded (List α))
  | .array _ elements => readItems read 0 elements
  | node => throw (.wrongShape (.ofNode node) .list)

/-- Reads a list of values without keys below them. -/
def readPlainList (read : Node → Except Mismatch α) : Node → Except Mismatch (List α)
  | .array _ elements => elements.mapM read
  | node => throw (.wrongShape (.ofNode node) .list)

def readBool : Node → Except Mismatch Bool
  | .boolean b => return b
  | node => throw (.wrongShape (.ofNode node) .boolean)

def readString : Node → Except Mismatch String
  | .string s => return s
  | node => throw (.wrongShape (.ofNode node) .text)

/-- The choice with a name. -/
def readChoiceName (choices : List (String × α)) (name : String) : Except Mismatch α :=
  match choices.lookup name with
  | some a => return a
  | none => throw (.unknownChoice name (choices.map (·.1)))

/-- Refuses the value beside a choice unless it is an empty table or array. -/
def checkChoiceValue : Node → Except Mismatch Unit
  | .table _ [] => return ()
  | .table _ _ => throw .choiceNotEmpty
  | .array .tables _ => throw .choiceOfTables
  | .array .inline [] => return ()
  | .array .inline _ => throw .choiceNotEmpty
  | .string _ => throw (.choiceValue "string")
  | .integer _ => throw (.choiceValue "integer")
  | .float _ => throw (.choiceValue "float")
  | .boolean _ => throw (.choiceValue "boolean")
  | .dateTime _ => throw (.choiceValue "datetime")

/-- Reads a choice: its name, or a table with its name as the only key. -/
def readChoice (choices : List (String × α)) : Node → Except Mismatch α
  | .string name => readChoiceName choices name
  | .table _ [] => throw .noChoice
  | .table _ [(name, value)] => do
    let a ← readChoiceName choices name
    checkChoiceValue value
    return a
  | .table _ _ => throw .manyChoices
  | _ => throw .choiceShape

def severities : List (String × Severity) :=
  [("error", .error), ("warning", .warning), ("info", .info)]

def matchModes : List (String × MatchMode) :=
  [("first", .first), ("all", .all)]

def fixKinds : List (String × FixKind) :=
  [("charset", .charset), ("string", .string)]

def inspectionFields : List (Field InspectionSettings) :=
  [.leaf "enabled" readBool fun v s => { s with enabled := v },
   .leaf "severity" (readChoice severities) fun v s => { s with severity := v },
   .leaf "match_mode" (readChoice matchModes) fun v s => { s with matchMode := v },
   .leaf "charset" readString fun v s => { s with charset := v }]

def loggingFields : List (Field LoggingSettings) :=
  [.leaf "level" readString fun v s => { s with level := v },
   .leaf "json" readBool fun v s => { s with json := v }]

def ruleFields : List (Field RuleSpec) :=
  [.leaf "class" readString fun v s => { s with className := v },
   .leaf "constructor" readBool fun v s => { s with constructorsOnly := v },
   .leaf "name" readString fun v s => { s with name := some v },
   .leaf "parameter_types" (readPlainList readString) fun v s =>
     { s with parameterTypes := some v },
   .leaf "with_parameter_type" readString fun v s => { s with withParameterType := some v },
   .leaf "except_parameter_type" readString fun v s => { s with exceptParameterType := some v },
   .leaf "dont_throw" readString fun v s => { s with dontThrow := some v },
   .leaf "need" (readPlainList (readChoice fixKinds)) fun v s => { s with need := v },
   .leaf "fixes" (readPlainList (readChoice fixKinds)) fun v s => { s with fixes := v }]

def settingsFields : List (Field Settings) :=
  [.nested "inspection" (readRecord "InspectionConfig" inspectionFields {}) fun v s =>
     { s with inspection := v },
   .nested "logging" (readRecord "LoggingConfig" loggingFields {}) fun v s =>
     { s with logging := v },
   .nested "rules" (readList (readRecord "RuleSpec" ruleFields {})) fun v s =>
     { s with rules := v }]

/-- Settings from the entries of a document. -/
def decode (entries : Entries) : Except Mismatch (Decoded Settings) :=
  readEntries settingsFields entries {}

end EncodingLint.Settings
