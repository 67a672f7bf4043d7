import Mathlib.Data.List.Forall2
import EncodingLint.Log.Event
import EncodingLint.Proofs.Outcome

/-!
# Which rules of the user are skipped

Settings are looked at twice: `Settings.warnings` lists all that is wrong with them, and
`RuleSpec.toRule` stops at the first thing that keeps a rule from being built. `error?_toRule` says where it
stops and `cause?_first_warning` that the first warning about the rule says the same. So the catalog leaves out
exactly the rules with a warning, and logs them (`ofSettings_agrees_with_warnings`).
-/

set_option autoImplicit false

namespace EncodingLint

open Outcome (error?)

namespace TypeField

/-- All settings that hold types, in the order in which they are read. -/
def all : List TypeField :=
  [.parameterTypes, .withParameterType, .exceptParameterType, .dontThrow]

end TypeField

namespace RuleSpec

variable {α : Type} {spec : RuleSpec} {className charset : String} {r : Rule}

/-- The types that a setting of a rule holds. -/
def types (spec : RuleSpec) : TypeField → List String
  | .parameterTypes => spec.parameterTypes.getD []
  | .withParameterType => spec.withParameterType.toList
  | .exceptParameterType => spec.exceptParameterType.toList
  | .dontThrow => spec.dontThrow.toList

/-- Whether a setting of a rule holds a blank type. -/
def holdsBlank (spec : RuleSpec) (field : TypeField) : Bool :=
  (spec.types field).any Text.allBlank

/-! ## Where the building of a rule stops -/

theorem or_of_ite {ε : Type} (b : Bool) (cause : ε) (later : Option ε) :
    (if b then some cause else none).or later = if b then some cause else later := by
  cases b <;> rfl

theorem error?_extend {setting : Option α} {add : α → Except SpecError Rule} :
    error? (extend r setting add) = setting.bind fun value => error? (add value) := by
  cases setting <;> rfl

theorem error?_readType (type : String) :
    error? (readType className type) =
      if Text.allBlank type then some (.emptyType className) else none := by
  unfold readType
  split <;> rfl

/-- A list of types cannot be read if one of them is blank. -/
theorem error?_mapM_readType (types : List String) :
    error? (types.mapM (readType className)) =
      if types.any Text.allBlank then some (.emptyType className) else none := by
  induction types with
  | nil => rfl
  | cons type types ih =>
    rw [List.mapM_cons, Outcome.error?_bind (error?_readType type) fun _ =>
      Outcome.error?_bind ih fun _ => Outcome.error?_pure _]
    rw [Option.or_none, or_of_ite, List.any_cons]
    cases Text.allBlank type <;> rfl

/-- A setting with one type stops the building of a rule if the type is blank. -/
theorem error?_extend_readType {setting : Option String} {add : TypeName → Rule} :
    error? (extend r setting fun type => do return add (← readType className type)) =
      if setting.any Text.allBlank then some (.emptyType className) else none := by
  rw [error?_extend]
  cases setting with
  | none => rfl
  | some type =>
    exact (Outcome.error?_bind (error?_readType type) fun _ => Outcome.error?_pure _).trans
      (Option.or_none)

theorem error?_extend_mapM {setting : Option (List String)} {add : List TypeName → Rule} :
    error? (extend r setting fun types => do return add (← types.mapM (readType className))) =
      if (setting.getD []).any Text.allBlank then some (.emptyType className) else none := by
  rw [error?_extend]
  cases setting with
  | none => rfl
  | some types =>
    exact (Outcome.error?_bind (error?_mapM_readType types) fun _ => Outcome.error?_pure _).trans
      Option.or_none

theorem error?_extend_name {setting : Option String} {add : String → Rule} :
    error? (extend r setting fun name =>
      if Text.allBlank name then throw (.emptyName className) else return add name) =
      if setting.any Text.allBlank then some (.emptyName className) else none := by
  rw [error?_extend]
  cases setting with
  | none => rfl
  | some name =>
    rw [Option.bind_some, Option.any_some]
    split <;> rfl

/-- A rule cannot be built if its class is missing, its name is blank or it holds a blank type; the first
of these counts. -/
theorem error?_toRule :
    error? (spec.toRule charset) =
      if Text.allBlank spec.className then some .missingClass
      else if spec.name.any Text.allBlank then some (.emptyName (Text.trimmed spec.className))
      else spec.blankTypeField?.map fun _ => .emptyType (Text.trimmed spec.className) := by
  unfold toRule
  dsimp only
  split
  · rfl
  · refine (Outcome.error?_bind error?_extend_name fun r =>
      Outcome.error?_bind error?_extend_mapM fun r =>
      Outcome.error?_bind error?_extend_readType fun r =>
      Outcome.error?_bind error?_extend_readType fun r =>
      Outcome.error?_bind error?_extend_readType fun r => Outcome.error?_pure _).trans ?_
    simp only [or_of_ite, Option.or_none, blankTypeField?, apply_ite (Option.map _), Option.map_some,
      Option.map_none]

/-! ## What the warnings say -/

theorem blankTypeField?_eq_find? : spec.blankTypeField? = TypeField.all.find? spec.holdsBlank := by
  have single (setting : Option String) :
      setting.toList.any Text.allBlank = setting.any Text.allBlank := by
    cases setting <;> simp
  have find?_cons (field : TypeField) (fields : List TypeField) :
      (field :: fields).find? spec.holdsBlank =
        if spec.holdsBlank field then some field else fields.find? spec.holdsBlank := by
    rw [List.find?_cons]
    cases spec.holdsBlank field <;> rfl
  simp only [TypeField.all, find?_cons, List.find?_nil, holdsBlank, types, single, blankTypeField?]

end RuleSpec

namespace Warning

/-- The number of the rule that is skipped, if a warning says so. -/
def skipped? : Warning → Option Nat
  | missingClass index | emptyName index | emptyType index _ => some index
  | invalidCharset _ | duplicateFix _ _ => none

/-- Whether a warning says that the rule of a number is skipped. -/
def skips (index : Nat) (w : Warning) : Bool :=
  w.skipped? == some index

/-- What keeps a rule on a class from being built, if a warning says so. -/
def cause? (className : String) : Warning → Option SpecError
  | missingClass _ => some .missingClass
  | emptyName _ => some (.emptyName className)
  | emptyType _ _ => some (.emptyType className)
  | invalidCharset _ | duplicateFix _ _ => none

theorem isSome_cause?_of_skips {w : Warning} {index : Nat} (skips : w.skips index = true)
    (className : String) : (w.cause? className).isSome = true := by
  cases w with
  | missingClass _ | emptyName _ | emptyType _ _ => rfl
  | invalidCharset _ | duplicateFix _ _ => cases skips

end Warning

namespace RuleSpec

variable {spec : RuleSpec} {charset : String} {index : Nat} {w : Warning}

theorem mem_warnings_iff :
    w ∈ spec.warnings index ↔
      (Text.allBlank spec.className = true ∧ w = .missingClass index) ∨
      (spec.name.any Text.allBlank = true ∧ w = .emptyName index) ∨
      (∃ field, spec.blankTypeField? = some field ∧ w = .emptyType index field) ∨
      ∃ kind, (kind ∈ spec.need ∧ kind ∈ spec.fixes) ∧ w = .duplicateFix index kind := by
  simp [warnings, eq_comm (a := w)]

/-- The first warning that a rule is skipped says what keeps it from being built. -/
theorem cause?_first_warning :
    ((spec.warnings index).find? (Warning.skips index)).bind
      (Warning.cause? (Text.trimmed spec.className)) = error? (spec.toRule charset) := by
  rw [error?_toRule]
  by_cases missing : Text.allBlank spec.className = true
  · simp [warnings, missing, Warning.skips, Warning.skipped?, Warning.cause?]
  · by_cases blank : spec.name.any Text.allBlank = true
    · simp [warnings, missing, blank, Warning.skips, Warning.skipped?, Warning.cause?]
    · cases first : spec.blankTypeField? with
      | none =>
        have unwarned : (spec.warnings index).find? (Warning.skips index) = none := by
          rw [List.find?_eq_none]
          intro w member
          rcases mem_warnings_iff.1 member with ⟨isMissing, -⟩ | ⟨isBlank, -⟩ | ⟨field, found, -⟩ |
            ⟨kind, -, rfl⟩
          · exact absurd isMissing missing
          · exact absurd isBlank blank
          · rw [first] at found
            cases found
          · simp [Warning.skips, Warning.skipped?]
        simp [unwarned, missing, blank]
      | some field =>
        simp [warnings, missing, blank, first, Warning.skips, Warning.skipped?, Warning.cause?]

/-- Warnings about a rule have its number. -/
theorem eq_of_skips {other : Nat} (member : w ∈ spec.warnings index) (skips : w.skips other = true) :
    index = other := by
  rw [Warning.skips, beq_iff_eq] at skips
  rcases mem_warnings_iff.1 member with ⟨-, rfl⟩ | ⟨-, rfl⟩ | ⟨field, -, rfl⟩ | ⟨kind, -, rfl⟩
  · exact Option.some.inj skips
  · exact Option.some.inj skips
  · exact Option.some.inj skips
  · cases skips

theorem emptyType_mem_warnings_iff {other : Nat} {field : TypeField} :
    .emptyType other field ∈ spec.warnings index ↔
      other = index ∧ spec.blankTypeField? = some field := by
  simp [mem_warnings_iff, and_comm, eq_comm (a := field)]

end RuleSpec

/-! ## All rules of the user -/

/-- A function that answers at one place of a list only is asked there. -/
theorem findSome?_zipIdx {α β : Type} {f : α × Nat → Option β} {xs : List α} {index : Nat}
    (only : ∀ x other, other ≠ index → f (x, other) = none) :
    xs.zipIdx.findSome? f = xs[index]?.bind fun x => f (x, index) := by
  cases first : xs.zipIdx.findSome? f with
  | none =>
    rw [List.findSome?_eq_none_iff] at first
    cases at_index : xs[index]? with
    | none => rfl
    | some x => exact (first _ (List.mem_zipIdx_iff_getElem?.2 at_index)).symm
  | some b =>
    obtain ⟨⟨x, other⟩, member, found⟩ := List.exists_of_findSome?_eq_some first
    by_cases same : other = index
    · subst same
      have at_index : xs[other]? = some x := List.mem_zipIdx_iff_getElem?.1 member
      rw [at_index, Option.bind_some, found]
    · rw [only x other same] at found
      cases found

namespace Settings

variable {s : Settings} {index : Nat} {spec : RuleSpec}

/-- Whether a warning says that the rule of a number is skipped. -/
def isSkipped (s : Settings) (index : Nat) : Bool :=
  s.warnings.any (Warning.skips index)

/-- The first warning that a rule is skipped is one about this rule. -/
theorem find?_skips_warnings :
    s.warnings.find? (Warning.skips index) =
      s.rules[index]?.bind fun spec => (spec.warnings index).find? (Warning.skips index) := by
  have charset : (if isCharsetName s.inspection.charset then []
      else [Warning.invalidCharset s.inspection.charset]).find? (Warning.skips index) = none := by
    split <;> simp [Warning.skips, Warning.skipped?]
  rw [warnings, List.find?_append, charset, Option.none_or, List.find?_flatMap]
  apply findSome?_zipIdx
  intro spec other different
  rw [List.find?_eq_none]
  intro w member skips
  exact different (RuleSpec.eq_of_skips member skips)

/-- The building of a rule stops with what the first warning about it says. -/
theorem error?_toRule_eq (at_index : s.rules[index]? = some spec) (charset : String) :
    error? (spec.toRule charset) = (s.warnings.find? (Warning.skips index)).bind
      (Warning.cause? (Text.trimmed spec.className)) := by
  rw [find?_skips_warnings, at_index]
  exact RuleSpec.cause?_first_warning.symm

/-- A rule cannot be built if and only if a warning says that it is skipped. -/
theorem isSome_error?_toRule (at_index : s.rules[index]? = some spec) (charset : String) :
    (error? (spec.toRule charset)).isSome = s.isSkipped index := by
  rw [error?_toRule_eq at_index, isSkipped]
  cases first : s.warnings.find? (Warning.skips index) with
  | none =>
    rw [List.find?_eq_none] at first
    rw [List.any_eq_false.2 first]
    rfl
  | some w =>
    have skips := List.find?_some first
    rw [List.any_eq_true.2 ⟨w, List.mem_of_find?_eq_some first, skips⟩]
    exact Warning.isSome_cause?_of_skips skips _

/-- Warnings that a rule is skipped are about rules that there are. -/
theorem exists_rule_of_isSkipped (skipped : s.isSkipped index = true) :
    ∃ spec, s.rules[index]? = some spec := by
  have first : (s.warnings.find? (Warning.skips index)).isSome = true :=
    List.find?_isSome.2 (List.any_eq_true.1 skipped)
  rw [find?_skips_warnings] at first
  cases at_index : s.rules[index]? with
  | none =>
    rw [at_index] at first
    cases first
  | some spec => exact ⟨spec, rfl⟩

/-- A warning about a blank type names the first setting of the rule that holds one. -/
theorem emptyType_mem_warnings_iff {field : TypeField} :
    .emptyType index field ∈ s.warnings ↔
      ∃ spec, s.rules[index]? = some spec ∧ TypeField.all.find? spec.holdsBlank = some field := by
  have charset : .emptyType index field ∉ (if isCharsetName s.inspection.charset then []
      else [Warning.invalidCharset s.inspection.charset]) := by
    split <;> simp
  simp only [warnings, List.mem_append, charset, false_or, List.mem_flatMap, Prod.exists,
    List.mem_zipIdx_iff_getElem?, RuleSpec.emptyType_mem_warnings_iff,
    RuleSpec.blankTypeField?_eq_find?]
  constructor
  · rintro ⟨spec, other, at_index, rfl, found⟩
    exact ⟨spec, at_index, found⟩
  · rintro ⟨spec, at_index, found⟩
    exact ⟨spec, index, at_index, rfl, found⟩

end Settings

/-! ## The catalog -/

/-- What a partial function gives on a list, next to the elements that it is defined on. -/
theorem forall₂_filterMap {α β : Type} {f : α → Option β} {p : α → Bool} {xs : List α}
    (defined : ∀ x ∈ xs, (f x).isSome = p x) :
    List.Forall₂ (fun x b => f x = some b) (xs.filter p) (xs.filterMap f) := by
  induction xs with
  | nil => exact .nil
  | cons x xs ih =>
    rw [List.forall_mem_cons] at defined
    obtain ⟨here, later⟩ := defined
    cases result : f x with
    | none =>
      rw [result] at here
      rw [List.filter_cons_of_neg (by simp [← here]), List.filterMap_cons_none result]
      exact ih later
    | some b =>
      rw [result] at here
      rw [List.filter_cons_of_pos (by simp [← here]), List.filterMap_cons_some result]
      exact .cons result (ih later)

namespace Catalog

variable {s : Settings}

/-- The rules that are built are those that no warning says to be skipped. -/
theorem forall₂_userRules :
    List.Forall₂ (fun entry rule => entry.1.toRule s.inspection.effectiveCharset = .ok rule)
      (s.rules.zipIdx.filter fun entry => !s.isSkipped entry.2)
      ((userRules s).filterMap Except.toOption) := by
  rw [userRules, List.filterMap_map]
  refine (forall₂_filterMap ?_).imp ?_
  · rintro ⟨spec, index⟩ member
    rw [← Settings.isSome_error?_toRule (List.mem_zipIdx_iff_getElem?.1 member)
      s.inspection.effectiveCharset]
    dsimp only [Function.comp_apply]
    cases spec.toRule s.inspection.effectiveCharset <;> rfl
  · rintro ⟨spec, index⟩ rule built
    dsimp only [Function.comp_apply] at built ⊢
    cases outcome : spec.toRule s.inspection.effectiveCharset with
    | error cause =>
      rw [outcome] at built
      cases built
    | ok own =>
      rw [outcome] at built
      rw [Option.some.inj built]

/-- The rules that cannot be built are those that a warning says to be skipped. -/
theorem forall₂_skipped :
    List.Forall₂ (fun entry skip => ∃ cause,
        entry.1.toRule s.inspection.effectiveCharset = .error cause ∧ skip = (entry.2, cause))
      (s.rules.zipIdx.filter fun entry => s.isSkipped entry.2) (skipped s) := by
  rw [skipped, userRules, List.filterMap_map]
  refine (forall₂_filterMap ?_).imp ?_
  · rintro ⟨spec, index⟩ member
    rw [← Settings.isSome_error?_toRule (List.mem_zipIdx_iff_getElem?.1 member)
      s.inspection.effectiveCharset]
    dsimp only [Function.comp_apply]
    cases spec.toRule s.inspection.effectiveCharset <;> rfl
  · rintro ⟨spec, index⟩ skip failed
    dsimp only [Function.comp_apply] at failed ⊢
    cases outcome : spec.toRule s.inspection.effectiveCharset with
    | error cause =>
      rw [outcome] at failed
      exact ⟨cause, rfl, (Option.some.inj failed).symm⟩
    | ok own =>
      rw [outcome] at failed
      cases failed

theorem forall₂_events :
    List.Forall₂ (fun entry event => ∃ cause,
        entry.1.toRule s.inspection.effectiveCharset = .error cause ∧
          event = .skippedRule entry.2 cause)
      (s.rules.zipIdx.filter fun entry => s.isSkipped entry.2) (events s) := by
  refine List.forall₂_map_right_iff.2 (forall₂_skipped.imp ?_)
  rintro entry skip ⟨cause, failed, rfl⟩
  exact ⟨cause, failed, rfl⟩

/-- **The warnings about settings and the catalog built from them agree on every rule of the user.**
A rule fails to be built if and only if a warning says that it is skipped, and for the cause that the first
such warning gives; a warning about a blank type names the first setting that holds one. The catalog is the
eight built-in rules and then the rules without such a warning, and those with one are logged as skipped. -/
theorem ofSettings_agrees_with_warnings (s : Settings) :
    (∀ index, (∃ w ∈ s.warnings, w.skips index = true) ↔ ∃ spec cause,
      s.rules[index]? = some spec ∧ spec.toRule s.inspection.effectiveCharset = .error cause) ∧
    (∀ index spec cause,
      (s.rules[index]? = some spec ∧ spec.toRule s.inspection.effectiveCharset = .error cause) ↔
      s.rules[index]? = some spec ∧ ∃ w, s.warnings.find? (Warning.skips index) = some w ∧
        w.cause? (Text.trimmed spec.className) = some cause) ∧
    (∀ index field, .emptyType index field ∈ s.warnings ↔ ∃ spec,
      s.rules[index]? = some spec ∧ TypeField.all.find? spec.holdsBlank = some field) ∧
    (∃ builtin own, (ofSettings s).rules = builtin ++ own ∧
      builtin = (withCharset s.inspection.effectiveCharset).rules ∧ builtin.length = 8 ∧
      List.Forall₂ (fun entry rule => entry.1.toRule s.inspection.effectiveCharset = .ok rule)
        (s.rules.zipIdx.filter fun entry => !s.isSkipped entry.2) own) ∧
    List.Forall₂ (fun entry event => ∃ cause,
        entry.1.toRule s.inspection.effectiveCharset = .error cause ∧
          event = .skippedRule entry.2 cause)
      (s.rules.zipIdx.filter fun entry => s.isSkipped entry.2) (events s) := by
  refine ⟨fun index => ?_, fun index spec cause => ?_, fun index field => ?_,
    ⟨_, _, rfl, rfl, rfl, forall₂_userRules⟩, forall₂_events⟩
  · rw [← List.any_eq_true]
    constructor
    · intro skipped
      obtain ⟨spec, at_index⟩ := Settings.exists_rule_of_isSkipped skipped
      rw [← Settings.isSkipped, ← Settings.isSome_error?_toRule at_index] at skipped
      obtain ⟨cause, failed⟩ := Option.isSome_iff_exists.1 skipped
      exact ⟨spec, cause, at_index, Outcome.error?_eq_some_iff.1 failed⟩
    · rintro ⟨spec, cause, at_index, failed⟩
      rw [← Settings.isSkipped, ← Settings.isSome_error?_toRule at_index,
        Outcome.error?_eq_some_iff.2 failed]
      rfl
  · refine and_congr_right fun at_index => ?_
    rw [← Outcome.error?_eq_some_iff, Settings.error?_toRule_eq at_index, Option.bind_eq_some_iff]
  · exact Settings.emptyType_mem_warnings_iff

end Catalog

end EncodingLint
