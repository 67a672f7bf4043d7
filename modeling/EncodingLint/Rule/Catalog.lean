import EncodingLint.Rule.Basic
import EncodingLint.Settings.Basic

/-!
# Catalogs of rules

A catalog is a list of rules; the first rule that forbids a call is the one that counts if only one
may. The built-in catalog covers the platform. Rules of the user come after it, and those that cannot
be built are skipped.
-/

set_option autoImplicit false

namespace EncodingLint

/-- Rules in the order in which they are tried. -/
structure Catalog where
  rules : List Rule
deriving DecidableEq, Repr

namespace Catalog

/-- The built-in rules, with fixes that insert a charset. -/
def withCharset (charset : String) : Catalog :=
  let name := Fix.charsetName charset
  let either := [Fix.charsetObject charset, name]
  ⟨[((Rule.membersOf .string).named "getBytes").withArguments [] |>.needing either,
    (Rule.constructorsOf .string).withArgument .byteArray |>.needing either,
    (Rule.membersOf .charset).named "defaultCharset",
    Rule.membersOf .fileWriter,
    (Rule.constructorsOf .inputStreamReader).needing either,
    (Rule.constructorsOf .outputStreamWriter).needing either,
    (Rule.constructorsOf .printStream).notThrowing .unsupportedEncoding |>.needing [name],
    (Rule.constructorsOf .printWriter).withoutArgument .writer
      |>.notThrowing .unsupportedEncoding |>.needing [name]]⟩

/-- The built-in rules with the default charset. -/
def builtin : Catalog :=
  withCharset defaultCharset

/-- The rules that a user wrote, each with its number, as far as they can be built. -/
def userRules (settings : Settings) : List (Except (Nat × SpecError) Rule) :=
  settings.rules.zipIdx.map fun (spec, index) =>
    (spec.toRule settings.inspection.effectiveCharset).mapError fun cause => (index, cause)

/-- The built-in rules followed by those of the user, all with the charset of the settings. -/
def ofSettings (settings : Settings) : Catalog :=
  ⟨(withCharset settings.inspection.effectiveCharset).rules ++
    (userRules settings).filterMap Except.toOption⟩

/-- The rules of the user that are skipped, by number, and why. -/
def skipped (settings : Settings) : List (Nat × SpecError) :=
  (userRules settings).filterMap fun
    | .error skip => some skip
    | .ok _ => none

end Catalog

end EncodingLint
