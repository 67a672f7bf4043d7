import EncodingLint.ClassPath.Platform
import EncodingLint.Proofs.Reports

/-!
# Reports rule by rule

With every rule that matches, a report is a walk through the catalog: its problems come in the order of the
rules (`pairwise_check_all`), one for each rule that forbids the call and with the fixes of that rule
(`mem_check_all_iff`). With the first match only, the report is where the walk begins (`check_first`). So rules
that are appended to a catalog add their problems at the end (`check_all_append`), and a report of the first
match does not notice them.
-/

set_option autoImplicit false

namespace EncodingLint

/-- The problem as it is reported if so many rules are put before its own. -/
def Problem.shift (count : Nat) (p : Problem) : Problem :=
  { p with rule := p.rule + count }

namespace Inspection

variable {i : Inspection} {call : Call} {problem : Problem} {extra : List Rule}

/-- The same inspection with another match mode. -/
def inMode (i : Inspection) (mode : MatchMode) : Inspection :=
  { i with matchMode := mode }

/-- The same inspection with other rules. -/
def withRules (i : Inspection) (rules : List Rule) : Inspection :=
  { i with catalog := ⟨rules⟩ }

/-- The same inspection with rules appended to its catalog. -/
def appending (i : Inspection) (extra : List Rule) : Inspection :=
  i.withRules (i.catalog.rules ++ extra)

theorem check_all_of_inspected (inspected : (i.enabled && call.isResolved) = true) :
    (i.inMode .all).check call = i.catalog.rules.zipIdx.filterMap (i.report? call) :=
  check_of_all rfl inspected

theorem check_first_of_inspected (inspected : (i.enabled && call.isResolved) = true) :
    (i.inMode .first).check call = (i.catalog.rules.zipIdx.findSome? (i.report? call)).toList :=
  check_of_first rfl inspected

/-- The first match is where all matches begin. -/
theorem check_first : (i.inMode .first).check call = ((i.inMode .all).check call).take 1 := by
  cases inspected : i.enabled && call.isResolved with
  | false =>
    rw [check_eq_nil_of_skipped (i := i.inMode .first) inspected,
      check_eq_nil_of_skipped (i := i.inMode .all) inspected]
    rfl
  | true =>
    rw [check_first_of_inspected inspected, check_all_of_inspected inspected, List.take_one,
      List.head?_filterMap]

/-! ## All matches -/

theorem report?_eq_some_iff {rule : Rule} {index : Nat} :
    i.report? call (rule, index) = some problem ↔
      ∃ fixes, rule.check call = some fixes ∧ ⟨i.severity, index, fixes, call⟩ = problem :=
  Option.map_eq_some_iff

/-- A problem is that of the rule with its number. -/
theorem rule_of_report? {entry : Rule × Nat} (reported : i.report? call entry = some problem) :
    problem.rule = entry.2 := by
  obtain ⟨fixes, -, rfl⟩ := report?_eq_some_iff.1 reported
  rfl

/-- All rules that forbid a call report it, each under its number and with its own fixes. -/
theorem mem_check_all_iff :
    problem ∈ (i.inMode .all).check call ↔
      (i.enabled && call.isResolved) = true ∧ ∃ rule index fixes, i.catalog.rules[index]? = some rule ∧
        rule.check call = some fixes ∧ problem = ⟨i.severity, index, fixes, call⟩ := by
  cases inspected : i.enabled && call.isResolved with
  | false => simp [check_eq_nil_of_skipped (i := i.inMode .all) inspected]
  | true =>
    simp only [check_all_of_inspected inspected, List.mem_filterMap, Prod.exists,
      List.mem_zipIdx_iff_getElem?, report?_eq_some_iff, true_and]
    constructor
    · rintro ⟨rule, index, listed, fixes, checked, rfl⟩
      exact ⟨rule, index, fixes, listed, checked, rfl⟩
    · rintro ⟨rule, index, fixes, listed, checked, rfl⟩
      exact ⟨rule, index, listed, fixes, checked, rfl⟩

/-- Problems are reported in the order of the rules, at most one for each. -/
theorem pairwise_check_all :
    ((i.inMode .all).check call).Pairwise fun p q => p.rule < q.rule := by
  cases inspected : i.enabled && call.isResolved with
  | false => simp [check_eq_nil_of_skipped (i := i.inMode .all) inspected]
  | true =>
    rw [check_all_of_inspected inspected]
    have numbers : i.catalog.rules.zipIdx.Pairwise fun a b => a.2 < b.2 := by
      rw [← List.pairwise_map, List.zipIdx_map_snd]
      exact List.pairwise_lt_range'
    refine numbers.filterMap _ fun a b before p reported q reported' => ?_
    rw [rule_of_report? reported, rule_of_report? reported']
    exact before

/-! ## Appended rules -/

/-- A rule reports the same under a higher number. -/
theorem report?_add {rule : Rule} {index count : Nat} :
    i.report? call (rule, count + index) = (i.report? call (rule, index)).map (Problem.shift count) := by
  simp only [report?, Option.map_map, Nat.add_comm count]
  rfl

/-- Appended rules report behind the others, and as they do in a catalog of their own but for their
numbers. -/
theorem check_all_append :
    ((i.appending extra).inMode .all).check call = (i.inMode .all).check call ++
      (((i.withRules extra).inMode .all).check call).map (Problem.shift i.catalog.rules.length) := by
  cases inspected : i.enabled && call.isResolved with
  | false =>
    rw [check_eq_nil_of_skipped (i := (i.appending extra).inMode .all) inspected,
      check_eq_nil_of_skipped (i := i.inMode .all) inspected,
      check_eq_nil_of_skipped (i := (i.withRules extra).inMode .all) inspected]
    rfl
  | true =>
    rw [check_all_of_inspected (i := i.appending extra) inspected, check_all_of_inspected inspected,
      check_all_of_inspected (i := i.withRules extra) inspected]
    change ((i.catalog.rules ++ extra).zipIdx.filterMap (i.report? call)) =
      i.catalog.rules.zipIdx.filterMap (i.report? call) ++
        (extra.zipIdx.filterMap (i.report? call)).map (Problem.shift i.catalog.rules.length)
    rw [List.zipIdx_append, List.filterMap_append, Nat.zero_add,
      List.zipIdx_eq_map_add (l := extra), List.filterMap_map, List.map_filterMap]
    congr 2
    funext ⟨rule, index⟩
    exact report?_add

/-- If the first match is among the rules that were there before, appended rules do not change it. -/
theorem check_first_append (reported : (i.inMode .first).check call ≠ []) :
    ((i.appending extra).inMode .first).check call = (i.inMode .first).check call := by
  rw [check_first] at reported ⊢
  rw [check_first, check_all_append]
  apply List.take_append_of_le_length
  rw [ne_eq, List.take_eq_nil_iff, not_or] at reported
  exact List.length_pos_iff.2 reported.2

/-! ## Reports as a whole -/

/-- A rule that asks for the class of the receiver and then for more arguments accepts calls of which
nothing but the receiver is known. -/
theorem isMatch_of_receiver {type : TypeName} (on : call.receiver = some type)
    (unresolved : call.isResolved = false) (fixes : List Fix) :
    ((Rule.membersOf type).needing fixes).isMatch call = true := by
  rw [Rule.isMatch, Option.isSome_iff_ne_none]
  intro unmatched
  obtain ⟨p, member, rejected⟩ := Rule.check_eq_none_iff.1 unmatched
  rcases Rule.mem_needing_iff.1 member with own | ⟨fix, -, rfl⟩
  · rw [List.mem_singleton.1 own, Predicate.isMatch_ofClass_of_receiver on, beq_self_eq_true] at rejected
    cases rejected
  · have untargeted : call.target = none := by simpa [Call.isResolved] using unresolved
    rw [Predicate.isMatch_needParameter_of_unresolved untargeted] at rejected
    cases rejected

/-- **How calls are reported.** Calls are reported one after the other. A disabled inspection reports nothing, and
neither is a call without a known target reported, whatever rules accept it. In mode `all` the rules that
forbid a call report it in their order, each once and with its own fixes; mode `first` keeps the first of
these reports. Rules that are appended report behind the others, and where there is a first match without
them it stays. -/
theorem check_reports (i : Inspection) (call : Call) :
    (∀ calls, i.checkAll calls = (calls.map i.check).flatten) ∧
    (i.enabled = false ∨ call.isResolved = false → i.check call = []) ∧
    (∀ type fixes, call.receiver = some type → call.isResolved = false →
      let accepting := (Rule.membersOf type).needing fixes
      accepting.isMatch call = true ∧ (i.withRules [accepting]).check call = []) ∧
    ((i.inMode .all).check call).Pairwise (fun p q => p.rule < q.rule) ∧
    (i.enabled = true → call.isResolved = true → ∀ problem, problem ∈ (i.inMode .all).check call ↔
      ∃ rule index fixes, i.catalog.rules[index]? = some rule ∧ rule.check call = some fixes ∧
        problem = ⟨i.severity, index, fixes, call⟩) ∧
    (i.inMode .first).check call = ((i.inMode .all).check call).take 1 ∧
    (∀ extra, ((i.appending extra).inMode .all).check call = (i.inMode .all).check call ++
      (((i.withRules extra).inMode .all).check call).map (Problem.shift i.catalog.rules.length)) ∧
    (∀ extra, (i.inMode .first).check call ≠ [] →
      ((i.appending extra).inMode .first).check call = (i.inMode .first).check call) := by
  refine ⟨checkAll_eq_flatten i, fun skipped => ?_, fun type fixes on unresolved => ⟨?_, ?_⟩,
    pairwise_check_all, fun enabled resolved problem => ?_, check_first, fun extra => check_all_append,
    fun extra => check_first_append⟩
  · apply check_eq_nil_of_skipped
    rcases skipped with disabled | unresolved
    · rw [disabled, Bool.false_and]
    · rw [unresolved, Bool.and_false]
  · exact isMatch_of_receiver on unresolved fixes
  · apply check_eq_nil_of_skipped
    rw [unresolved, Bool.and_false]
  · rw [mem_check_all_iff, enabled, resolved]
    exact and_iff_right rfl

/-- `Charset.defaultCharset()`, which two rules forbid, and a call of some method of a string. -/
theorem check_reports_defaultCharset :
    let call := ClassPath.platform.call ⟨.static .charset "defaultCharset", [], none, none⟩
    let rules := [(Rule.membersOf .charset).named "defaultCharset", Rule.membersOf .string,
      Rule.membersOf .charset]
    let i : Inspection := { catalog := ⟨rules⟩ }
    let unresolved : Call := { receiver := some .string }
    let accepting := (Rule.membersOf .string).needing [.charsetName "UTF-8"]
    ((i.enabled = true ∧ call.isResolved = true) ∧
      (∀ problem, problem ∈ (i.inMode .all).check call ↔
        ∃ rule index fixes, rules[index]? = some rule ∧ rule.check call = some fixes ∧
          problem = ⟨i.severity, index, fixes, call⟩) ∧
      ((i.inMode .all).check call).map (·.rule) = [0, 2]) ∧
    ((i.inMode .first).check call ≠ [] ∧
      ((i.appending rules).inMode .first).check call = (i.inMode .first).check call) ∧
    (unresolved.isResolved = false ∧ i.check unresolved = [] ∧
      accepting.isMatch unresolved = true ∧ (i.withRules [accepting]).check unresolved = []) := by
  intro call rules i unresolved accepting
  have evaluated : call.isResolved = true ∧ ((i.inMode .all).check call).map (·.rule) = [0, 2] ∧
      (i.inMode .first).check call ≠ [] := by
    decide +kernel
  obtain ⟨resolved, numbers, matched⟩ := evaluated
  obtain ⟨-, -, -, -, members, -, -, kept⟩ := check_reports i call
  obtain ⟨-, silent, accepted, -⟩ := check_reports i unresolved
  exact ⟨⟨⟨rfl, resolved⟩, members rfl resolved, numbers⟩, ⟨matched, kept rules matched⟩,
    rfl, silent (.inr rfl), accepted .string _ rfl rfl⟩

end Inspection

end EncodingLint
