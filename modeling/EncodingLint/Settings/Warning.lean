import EncodingLint.Settings.Basic
import EncodingLint.Text.Blank
import EncodingLint.Text.Quoted

/-!
# Warnings about settings

Settings that can be read may still not make sense. `Settings.warnings` lists what is replaced by a
default or skipped when they are used.
-/

set_option autoImplicit false

namespace EncodingLint

/-- The settings of a rule that hold types. -/
inductive TypeField where
  | parameterTypes
  | withParameterType
  | exceptParameterType
  | dontThrow
deriving DecidableEq, Repr

/-- Something in the settings that does not make sense. Rules are meant by their number. -/
inductive Warning where
  | invalidCharset (value : String)
  | missingClass (index : Nat)
  | emptyName (index : Nat)
  | emptyType (index : Nat) (field : TypeField)
  | duplicateFix (index : Nat) (kind : FixKind)
deriving DecidableEq, Repr

namespace TypeField

/-- The key of the setting. -/
def key : TypeField → String
  | parameterTypes => "parameter_types"
  | withParameterType => "with_parameter_type"
  | exceptParameterType => "except_parameter_type"
  | dontThrow => "dont_throw"

end TypeField

namespace Warning

def message : Warning → String
  | invalidCharset value =>
    s!"inspection.charset {Text.quoted value} is not a valid charset name; using {defaultCharset}"
  | missingClass index => s!"rules[{index}] has no class and will be skipped"
  | emptyName index => s!"rules[{index}] has an empty name and will be skipped"
  | emptyType index field =>
    s!"rules[{index}].{field.key} has an empty type and the rule will be skipped"
  | duplicateFix index kind =>
    let name := match kind with
      | .charset => "Charset"
      | .string => "String"
    s!"rules[{index}] lists {name} both as a needed and an unconditional fix"

end Warning

namespace RuleSpec

/-- The first type setting, in the order of `TypeField`, that holds a blank type. -/
def blankTypeField? (spec : RuleSpec) : Option TypeField :=
  if (spec.parameterTypes.getD []).any Text.allBlank then some .parameterTypes
  else if spec.withParameterType.any Text.allBlank then some .withParameterType
  else if spec.exceptParameterType.any Text.allBlank then some .exceptParameterType
  else if spec.dontThrow.any Text.allBlank then some .dontThrow
  else none

/-- The warnings about one rule. -/
def warnings (index : Nat) (spec : RuleSpec) : List Warning :=
  (if Text.allBlank spec.className then [.missingClass index] else []) ++
  (if spec.name.any Text.allBlank then [.emptyName index] else []) ++
  (spec.blankTypeField?.map (Warning.emptyType index)).toList ++
  (spec.need.filter spec.fixes.contains).map (Warning.duplicateFix index)

end RuleSpec

namespace Settings

/-- All warnings: about the charset, then rule by rule. -/
def warnings (s : Settings) : List Warning :=
  (if isCharsetName s.inspection.charset then []
    else [.invalidCharset s.inspection.charset]) ++
  s.rules.zipIdx.flatMap fun (spec, index) => spec.warnings index

end Settings

end EncodingLint
