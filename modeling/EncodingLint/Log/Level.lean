/-!
# Levels of log events

Levels are ordered by how much is logged at them. A limit lets through the levels up to some level, or
none at all.
-/

set_option autoImplicit false

namespace EncodingLint

/-- How important a log event is. -/
inductive Level where
  | error
  | warn
  | info
  | debug
  | trace
deriving DecidableEq, Repr

/-- The last level that is let through, if any. -/
abbrev Limit := Option Level

namespace Level

/-- All levels, from the most to the least important. -/
def all : List Level :=
  [error, warn, info, debug, trace]

/-- The place of a level among all levels. -/
def rank : Level → Nat
  | error => 1
  | warn => 2
  | info => 3
  | debug => 4
  | trace => 5

/-- The name of a level in log lines. -/
def label : Level → String
  | error => "ERROR"
  | warn => "WARN"
  | info => "INFO"
  | debug => "DEBUG"
  | trace => "TRACE"

/-- The name of a level in directives. -/
def keyword : Level → String
  | error => "error"
  | warn => "warn"
  | info => "info"
  | debug => "debug"
  | trace => "trace"

end Level

namespace Limit

/-- All limits, from the strictest. -/
def all : List Limit :=
  none :: Level.all.map some

/-- The name of a limit in directives. -/
def keyword : Limit → String
  | none => "off"
  | some level => level.keyword

/-- Whether a level is let through. -/
def allows (limit : Limit) (level : Level) : Bool :=
  limit.any fun last => level.rank ≤ last.rank

end Limit

end EncodingLint
