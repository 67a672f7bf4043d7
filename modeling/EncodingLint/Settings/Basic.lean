import EncodingLint.Rule.Spec

/-!
# Settings

What a user can set: how the inspection runs, how it logs, and rules of their own. Every setting has a
default. A charset that is no legal charset name is replaced by the default one.
-/

set_option autoImplicit false

namespace EncodingLint

/-- How grave a problem is. -/
inductive Severity where
  | error
  | warning
  | info
deriving DecidableEq, Repr

/-- How many rules may report one call. -/
inductive MatchMode where
  /-- Only the first rule that matches. -/
  | first
  /-- Every rule that matches. -/
  | all
deriving DecidableEq, Repr

/-- The charset that fixes insert if no other is set. -/
def defaultCharset : String := "UTF-8"

/-- The names of settings files, in the order in which they are looked for. -/
def settingsFileNames : List String := ["charlint.toml", ".charlint.toml"]

/-- A letter or digit of the ASCII range. -/
def isCharsetStart (c : Char) : Bool :=
  ('a' ≤ c && c ≤ 'z') || ('A' ≤ c && c ≤ 'Z') || ('0' ≤ c && c ≤ '9')

/-- A letter, a digit or one of five marks. -/
def isCharsetPart (c : Char) : Bool :=
  isCharsetStart c || c == '-' || c == '+' || c == '.' || c == ':' || c == '_'

/-- Whether a text is a legal charset name: a letter or digit, then letters, digits and marks. -/
def isCharsetName (name : String) : Bool :=
  match name.toList with
  | [] => false
  | c :: cs => isCharsetStart c && cs.all isCharsetPart

/-- How the inspection runs. -/
structure InspectionSettings where
  enabled : Bool := true
  severity : Severity := .warning
  matchMode : MatchMode := .first
  /-- The charset that fixes insert. -/
  charset : String := defaultCharset
deriving DecidableEq, Repr

/-- What is logged. -/
structure LoggingSettings where
  /-- A level, or directives of a log filter. -/
  level : String := "info"
  json : Bool := false
deriving DecidableEq, Repr

/-- All settings. -/
structure Settings where
  inspection : InspectionSettings := {}
  logging : LoggingSettings := {}
  rules : List RuleSpec := []
deriving DecidableEq, Repr

namespace InspectionSettings

/-- The charset that fixes insert: the one set if its name is legal, else the default one. -/
def effectiveCharset (s : InspectionSettings) : String :=
  if isCharsetName s.charset then s.charset else defaultCharset

end InspectionSettings

end EncodingLint
