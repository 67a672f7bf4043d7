import EncodingLint.Log.Filter

/-!
# Where log events go

Events go to the log of the host if it has one, which takes them all. Otherwise they go to the log that
was set up first, through its filter; later attempts to set one up change nothing.
-/

set_option autoImplicit false

namespace EncodingLint

/-- A log that was set up. -/
structure Log where
  filter : Filter
  /-- Whether events are written as objects rather than lines. -/
  json : Bool
deriving DecidableEq, Repr

namespace Log

/-- The log that attempts to set one up leave: that of the first attempt. -/
def setUp? (attempts : List LoggingSettings) (environment : Option String) : Option Log :=
  attempts.head?.map fun s => ⟨s.filter environment, s.json⟩

/-- The events that a log writes. -/
def written (log : Log) (events : List Event) : List Event :=
  events.filter log.filter.allows

/-- The events that the log of the host takes: the first attempt to set up another one is itself worth
an event. -/
def hosted (attempts : List LoggingSettings) (events : List Event) : List Event :=
  if attempts.isEmpty then events else .alreadyInstalled :: events

end Log

end EncodingLint
