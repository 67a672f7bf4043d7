import Mathlib.Data.List.Nodup
import EncodingLint.Proofs.CharsetChange
import EncodingLint.Proofs.RuleConjunction

/-!
# How often a fix is offered

However many predicates ask for the parameter of a fix, the fix is offered once, and it is not offered again if it
is attached to the rule as well. The fixes that are attached are offered as they are, though: a fix that was attached
twice is offered twice, and no other is (`Rule.count_of_check`). Which fixes are attached shows in the steps by which
a rule is built (`BuildStep.fixes_foldl`), and in what a user wrote.
-/

set_option autoImplicit false

namespace EncodingLint

variable {call : Call} {fix : Fix} {fixes : List Fix} {r : Rule}

/-- A step by which a rule is built up. -/
inductive BuildStep where
  | withPredicate (p : Predicate)
  | named (name : String)
  | withArguments (types : List TypeName)
  | withArgument (type : TypeName)
  | withoutArgument (type : TypeName)
  | notThrowing (type : TypeName)
  | needing (fixes : List Fix)
  | fixedBy (fix : Fix)
deriving DecidableEq, Repr

namespace BuildStep

/-- The rule after one more step. -/
def apply (r : Rule) : BuildStep → Rule
  | withPredicate p => r.withPredicate p
  | named name => r.named name
  | withArguments types => r.withArguments types
  | withArgument type => r.withArgument type
  | withoutArgument type => r.withoutArgument type
  | notThrowing type => r.notThrowing type
  | needing fixes => r.needing fixes
  | fixedBy fix => r.fixedBy fix

/-- The fixes that a step attaches to the rule. -/
def attached : BuildStep → List Fix
  | fixedBy fix => [fix]
  | _ => []

theorem fixes_apply (r : Rule) (step : BuildStep) : (apply r step).fixes = r.fixes ++ step.attached := by
  cases step
  case fixedBy fix => rfl
  case needing fixes =>
    rw [apply, Rule.needing_eq]
    exact (List.append_nil _).symm
  all_goals exact (List.append_nil _).symm

/-- The steps attach their fixes one behind the other. -/
theorem fixes_foldl (r : Rule) (steps : List BuildStep) :
    (steps.foldl apply r).fixes = r.fixes ++ steps.flatMap attached := by
  induction steps generalizing r with
  | nil => exact (List.append_nil _).symm
  | cons step steps ih =>
    rw [List.foldl_cons, ih, fixes_apply, List.flatMap_cons, List.append_assoc]

end BuildStep

namespace Rule

/-- A fix is offered once, or as often as it is attached. -/
theorem count_of_check (checked : r.check call = some fixes) (member : fix ∈ fixes) :
    fixes.count fix = max 1 (r.fixes.count fix) := by
  obtain ⟨-, rfl⟩ := check_eq_some_iff.1 checked
  rw [List.count_append]
  by_cases own : fix ∈ r.fixes
  · have attached : 0 < r.fixes.count fix := List.count_pos_iff.2 own
    have not_added : (added r.fixes (r.predicates.filterMap (Predicate.offer? call))).count fix = 0 := by
      rw [List.count_eq_zero, mem_added_iff]
      intro new
      exact new.2 own
    omega
  · have not_attached : r.fixes.count fix = 0 := List.count_eq_zero.2 own
    have new := (List.mem_append.1 member).resolve_left own
    have added_once := List.count_eq_one_of_mem nodup_added new
    omega

/-- No fix is offered twice if and only if none is attached twice. -/
theorem nodup_iff_of_check (checked : r.check call = some fixes) : fixes.Nodup ↔ r.fixes.Nodup := by
  constructor
  · intro once
    obtain ⟨-, rfl⟩ := check_eq_some_iff.1 checked
    exact once.of_append_left
  · intro once
    rw [List.nodup_iff_count_le_one]
    intro fix
    by_cases member : fix ∈ fixes
    · have attached := List.nodup_iff_count_le_one.1 once fix
      rw [count_of_check checked member]
      omega
    · rw [List.count_eq_zero.2 member]
      omega

/-- **How often a fix is offered.** A rule that was built step by step offers each of its fixes once, or as often as
steps attached it, and one that a user wrote as often as the user listed it. So no fix is offered twice if and only
if none was attached or listed twice; predicates that ask for its parameter make no difference. -/
theorem check_repeats (call : Call) :
    (∀ (type : TypeName) (start : Rule) (steps : List BuildStep) (fixes : List Fix),
      start = membersOf type ∨ start = constructorsOf type →
      (steps.foldl BuildStep.apply start).check call = some fixes →
      (∀ fix ∈ fixes, fixes.count fix = max 1 ((steps.flatMap BuildStep.attached).count fix)) ∧
      (fixes.Nodup ↔ (steps.flatMap BuildStep.attached).Nodup)) ∧
    (∀ (spec : RuleSpec) (charset : String) (r : Rule) (fixes : List Fix),
      spec.toRule charset = .ok r → r.check call = some fixes →
      (∀ fix ∈ fixes, fixes.count fix = max 1 ((spec.fixes.map (FixKind.toFix charset)).count fix)) ∧
      (fixes.Nodup ↔ spec.fixes.Nodup)) := by
  constructor
  · intro type start steps fixes started checked
    have bare : start.fixes = [] := by
      rcases started with rfl | rfl
      · rfl
      · rfl
    have attached := BuildStep.fixes_foldl start steps
    rw [bare, List.nil_append] at attached
    rw [← attached]
    exact ⟨fun fix member => count_of_check checked member, nodup_iff_of_check checked⟩
  · intro spec charset r fixes built checked
    obtain rfl := RuleSpec.eq_of_toRule built
    have listed : (spec.fixes.map (FixKind.toFix charset)).Nodup ↔ spec.fixes.Nodup :=
      List.nodup_map_iff (FixKind.toFix_injective charset)
    rw [← listed]
    exact ⟨fun fix member => count_of_check checked member, nodup_iff_of_check checked⟩

/-- `new InputStreamReader(in)`, for which two fixes are offered: one of them is asked for twice and attached once,
the other is asked for. -/
theorem check_repeats_reader :
    let call := ClassPath.platform.call
      ⟨.constructor .inputStreamReader, [some .inputStream], none, none⟩
    let name := Fix.charsetName "UTF-8"
    let object := Fix.charsetObject "UTF-8"
    let steps := [BuildStep.needing [name, object], .fixedBy name, .needing [name]]
    let spec : RuleSpec := { className := "java.io.InputStreamReader", constructorsOnly := true,
                             need := [.string, .charset, .string], fixes := [.string] }
    ((steps.foldl BuildStep.apply (constructorsOf .inputStreamReader)).check call = some [name, object] ∧
      (∀ fix ∈ [name, object], [name, object].count fix = max 1 ([name].count fix)) ∧
      ([name, object].Nodup ↔ [name].Nodup)) ∧
    (spec.toRule "UTF-8" = .ok (spec.outline.toRule "UTF-8") ∧
      (spec.outline.toRule "UTF-8").check call = some [name, object] ∧
      (∀ fix ∈ [name, object], [name, object].count fix = max 1 ([name].count fix)) ∧
      ([name, object].Nodup ↔ [FixKind.string].Nodup)) := by
  intro call name object steps spec
  have evaluated :
      (steps.foldl BuildStep.apply (constructorsOf .inputStreamReader)).check call = some [name, object] ∧
      (spec.toRule "UTF-8").toOption = some (spec.outline.toRule "UTF-8") ∧
      (spec.outline.toRule "UTF-8").check call = some [name, object] := by
    decide +kernel
  obtain ⟨stepwise, built, checked⟩ := evaluated
  have built : spec.toRule "UTF-8" = .ok (spec.outline.toRule "UTF-8") :=
    Outcome.toOption_eq_some_iff.1 built
  obtain ⟨ofSteps, ofSpec⟩ := check_repeats call
  exact ⟨⟨stepwise, ofSteps _ _ steps _ (.inr rfl) stepwise⟩,
    ⟨built, checked, ofSpec spec _ _ _ built checked⟩⟩

/-- `text.getBytes()` under a rule that has one fix attached twice, step by step or as a user wrote it: the fix is
offered twice. -/
theorem attached_twice_offered_twice :
    let call := ClassPath.platform.call ⟨.method .string "getBytes", [], none, none⟩
    let name := Fix.charsetName "UTF-8"
    let stepwise := [BuildStep.fixedBy name, .fixedBy name].foldl BuildStep.apply (membersOf .string)
    let spec : RuleSpec := { className := "java.lang.String", fixes := [.string, .string] }
    (stepwise.check call = some [name, name] ∧ spec.toRule "UTF-8" = .ok stepwise) ∧
      ¬ [name, name].Nodup := by
  intro call name stepwise spec
  have evaluated : stepwise.check call = some [name, name] ∧
      (spec.toRule "UTF-8").toOption = some stepwise := by
    decide +kernel
  obtain ⟨checked, built⟩ := evaluated
  refine ⟨⟨checked, Outcome.toOption_eq_some_iff.1 built⟩, ?_⟩
  simp

end Rule

end EncodingLint
