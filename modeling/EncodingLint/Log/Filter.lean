import EncodingLint.Log.Event
import EncodingLint.Text.Alphanumeric
import EncodingLint.Text.Blank

/-!
# Log filters

A filter is a list of directives, each a limit for the targets that begin with some text or for all
targets. Of the directives for a target the one with the longest text counts. Filters are written as
directives with commas between them: `info,rules=debug`.
-/

set_option autoImplicit false

namespace EncodingLint

/-- A limit for the targets that begin with a text, or for all targets. -/
structure Directive where
  target : Option Text
  limit : Limit
deriving DecidableEq, Repr

/-- Directives with different targets. -/
structure Filter where
  directives : List Directive
deriving DecidableEq, Repr

namespace Limit

/-- The limit with a name, in upper or lower case. -/
def ofKeyword? (text : Text) : Option Limit :=
  let lower := String.ofList (text.map Char.toLower)
  all.find? fun limit => keyword limit == lower

/-- The limit with a number, which may have a plus sign and leading zeros. -/
def ofNumber? (text : Text) : Option Limit :=
  let digits := match text with
    | '+' :: rest => rest
    | _ => text
  if digits ≠ [] && digits.all Char.isDigit then
    all[digits.foldl (fun n c => 10 * n + (c.toNat - '0'.toNat)) 0]?
  else
    none

/-- The limit that a text names. -/
def ofText? (text : Text) : Option Limit :=
  (ofNumber? text).or (ofKeyword? text)

end Limit

namespace Directive

/-- Whether a directive may start with a character, blanks apart. -/
def isStart (c : Char) : Bool :=
  Text.isAlphanumeric c || c = '-' || c = ':' || c = '_'

/-- The directive in a text. Without a limit everything is let through. Blanks are part of a target that
stands alone; where a limit follows, the text must not begin with one. -/
def ofText? (text : Text) : Option Directive :=
  if (text.dropWhile Text.isBlank).head?.any isStart then
    match text.span (· ≠ '=') with
    | (target, []) =>
      match Limit.ofText? target with
      | some limit => some ⟨none, limit⟩
      | none => some ⟨some target, some .trace⟩
    | (target, _ :: limit) =>
      if target.head?.any Text.isBlank then none
      else if limit = [] then some ⟨some target, some .trace⟩
      else (Limit.ofText? limit).map fun l => ⟨some target, l⟩
  else
    none

/-- How a directive is written. -/
def render (d : Directive) : String :=
  match d.target with
  | some target => s!"{String.ofList target}={d.limit.keyword}"
  | none => d.limit.keyword

/-- Whether a directive is about a target. -/
def covers (d : Directive) (target : Text) : Bool :=
  d.target.all fun start => start.isPrefixOf target

/-- How specific a directive is. -/
def specificity (d : Directive) : Nat :=
  match d.target with
  | some target => target.length + 1
  | none => 0

end Directive

namespace Filter

/-- The filter with one more directive, which replaces that for the same target. -/
def add (f : Filter) (d : Directive) : Filter :=
  ⟨f.directives.filter (fun e => e.target ≠ d.target) ++ [d]⟩

/-- The filter of some directives. -/
def ofDirectives (directives : List Directive) : Filter :=
  directives.foldl add ⟨[]⟩

/-- The pieces of a text between commas. -/
def pieces : Text → List Text
  | [] => [[]]
  | c :: cs =>
    match pieces cs with
    | [] => [[c]]
    | first :: rest => if c = ',' then [] :: first :: rest else (c :: first) :: rest

/-- The filter in a text; empty pieces of it do not count. -/
def ofText? (text : Text) : Option Filter :=
  (((pieces text).filter (· ≠ [])).mapM Directive.ofText?).map ofDirectives

/-- The directive for a target. -/
def directive? (f : Filter) (target : Text) : Option Directive :=
  (f.directives.filter fun d => d.covers target).foldl (fun best d =>
    match best with
    | none => some d
    | some b => some (if b.specificity < d.specificity then d else b)) none

/-- Whether an event is let through. -/
def allows (f : Filter) (e : Event) : Bool :=
  (f.directive? e.target.toList).any fun d => d.limit.allows e.level

/-- How a filter is written. -/
def render (f : Filter) : String :=
  ",".intercalate (f.directives.map Directive.render)

end Filter

namespace LoggingSettings

/-- The directives that the settings ask for; a level on its own is taken in upper or lower case, and
`warning` for `warn`. -/
def directiveText (s : LoggingSettings) : Text :=
  let text := Text.trim s.level.toList
  let lower := String.ofList (text.map Char.toLower)
  if text = [] then Level.info.keyword.toList
  else if lower = "warning" then Level.warn.keyword.toList
  else if Level.all.any fun level => level.keyword == lower then lower.toList
  else text

/-- The filter that the settings ask for, on their own. -/
def ownFilter (s : LoggingSettings) : Filter :=
  (Filter.ofText? s.directiveText).getD ⟨[⟨none, some .info⟩]⟩

/-- The filter of the settings and of directives from the environment, which come after them. Where the
two do not make a filter together, the environment counts if it makes one alone. -/
def filter (s : LoggingSettings) (environment : Option String) : Filter :=
  match environment.map fun e => Text.trim e.toList with
  | none | some [] => s.ownFilter
  | some text =>
    ((Filter.ofText? (s.directiveText ++ ',' :: text)).or (Filter.ofText? text)).getD s.ownFilter

end LoggingSettings

end EncodingLint
