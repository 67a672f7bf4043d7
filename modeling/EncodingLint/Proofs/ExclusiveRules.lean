import Mathlib.Data.List.Perm.Basic
import EncodingLint.Proofs.ReportOrder
import EncodingLint.Proofs.RuleOutline

/-!
# Rules that exclude each other

Of two built-in rules at most one forbids a call: they are about different classes, or one is about calls without
arguments and the other about calls with an argument (`Catalog.outlines_exclude`). Only the kinds of two predicates
decide that, so it holds of every call, also of one whose receiver, arguments and target do not fit together. Where
at most one rule forbids a call, the first match is the only one (`Inspection.check_eq_all`), and the order of the
rules does not show in the fixes (`Inspection.map_fixes_perm`).
-/

set_option autoImplicit false

namespace EncodingLint

variable {call : Call} {p q : Predicate} {charset charset' : String}

namespace Predicate

/-- Whether no call is accepted by both predicates, as far as their kinds tell. -/
def excludes : Predicate → Predicate → Bool
  | ofClass a, ofClass b => a != b
  | argumentTypes types, hasArgument _ => types.isEmpty
  | _, _ => false

/-- A call is taken for a call of one class only, be it the one of its receiver or the declaring one. -/
theorem eq_of_isMatch_ofClass {a b : TypeName} (first : (ofClass a).isMatch call = true)
    (second : (ofClass b).isMatch call = true) : a = b := by
  cases on : call.receiver with
  | some receiver =>
    rw [isMatch_ofClass_of_receiver on, beq_iff_eq] at first second
    exact first.symm.trans second
  | none =>
    cases resolved : call.target with
    | some target =>
      rw [isMatch_ofClass_of_target on resolved, beq_iff_eq] at first second
      exact first.symm.trans second
    | none =>
      have rejected : (ofClass a).isMatch call = false := by
        refine (Verdict.isAccepted_ofBool _).trans ?_
        rw [on, Call.method?, resolved]
        rfl
      rw [rejected] at first
      cases first

/-- A call with an argument of some type has an argument. -/
theorem arguments_ne_nil_of_isMatch {type : TypeName} (accepted : (hasArgument type).isMatch call = true) :
    call.arguments ≠ [] := by
  intro empty
  have known : call.knownArguments.any (fun a => a.isAssignableTo type) = true :=
    (Verdict.isAccepted_ofBool _).symm.trans accepted
  rw [Call.knownArguments, empty] at known
  cases known

theorem isMatch_eq_false_of_excludes (excluded : p.excludes q = true) (first : p.isMatch call = true) :
    q.isMatch call = false := by
  rw [Bool.eq_false_iff]
  intro second
  unfold excludes at excluded
  split at excluded
  next a b => exact bne_iff_ne.1 excluded (eq_of_isMatch_ofClass first second)
  next types type =>
    obtain rfl : types = [] := List.isEmpty_iff.1 excluded
    have empty : call.arguments = [] := List.length_eq_zero_iff.1 (length_of_isMatch_argumentTypes first)
    exact arguments_ne_nil_of_isMatch second empty
  next => cases excluded

end Predicate

namespace RuleOutline

/-- Whether two rules ask for what excludes each other. -/
def excludes (o o' : RuleOutline) : Bool :=
  o.narrowing.any fun p => o'.narrowing.any p.excludes

/-- Rules that exclude each other do not forbid one call, whatever their charsets. -/
theorem isMatch_eq_false_of_excludes {o o' : RuleOutline} (excluded : o.excludes o' = true)
    (first : (o.toRule charset).isMatch call = true) : (o'.toRule charset').isMatch call = false := by
  obtain ⟨p, narrows, excluded⟩ := List.any_eq_true.1 excluded
  obtain ⟨q, narrows', excluded⟩ := List.any_eq_true.1 excluded
  have accepted : p.isMatch call = true :=
    Rule.isMatch_iff.1 first p (mem_predicates_iff.2 (.inl narrows))
  have rejected : q.isMatch call = false := Predicate.isMatch_eq_false_of_excludes excluded accepted
  rw [Rule.isMatch, Rule.check_eq_none (mem_predicates_iff.2 (.inl narrows')) rejected]
  rfl

end RuleOutline

namespace Catalog

/-- The built-in rules exclude each other: no two of them are about one class, but for the first two, and these
are told apart by the arguments. -/
theorem outlines_exclude : outlines.Pairwise fun o o' => o.excludes o' = true := by
  decide +kernel

/-- Of the built-in rules at most one forbids a call. -/
theorem countP_isMatch_le_one (charset : String) (call : Call) :
    (withCharset charset).rules.countP (·.isMatch call) ≤ 1 := by
  have exclusive : (withCharset charset).rules.Pairwise fun r r' =>
      r.isMatch call = true → r'.isMatch call = false := by
    rw [withCharset_eq, List.pairwise_map]
    exact outlines_exclude.imp fun excluded first =>
      RuleOutline.isMatch_eq_false_of_excludes excluded first
  have matching := exclusive.filter (·.isMatch call)
  rw [List.countP_eq_length_filter]
  cases found : (withCharset charset).rules.filter (·.isMatch call) with
  | nil => exact Nat.zero_le _
  | cons r others =>
    cases others with
    | nil => exact Nat.le_refl _
    | cons r' others =>
      have both : ∀ s ∈ r :: r' :: others, s.isMatch call = true := by
        intro s member
        rw [← found] at member
        exact (List.mem_filter.1 member).2
      rw [found] at matching
      have rejected : r'.isMatch call = false :=
        (List.pairwise_cons.1 matching).1 r' List.mem_cons_self (both r List.mem_cons_self)
      rw [both r' (List.mem_cons_of_mem r List.mem_cons_self)] at rejected
      cases rejected

end Catalog

namespace Inspection

variable {i : Inspection} {rules : List Rule}

/-- The fixes of all problems, rule by rule. -/
theorem map_fixes_check_all :
    ((i.inMode .all).check call).map (·.fixes) =
      if i.enabled && call.isResolved then i.catalog.rules.filterMap (·.check call) else [] := by
  cases inspected : i.enabled && call.isResolved with
  | false =>
    rw [check_eq_nil_of_skipped (i := i.inMode .all) inspected]
    rfl
  | true =>
    have fixes : ∀ entry : Rule × Nat, (i.report? call entry).map (·.fixes) = entry.1.check call := by
      intro entry
      rw [report?, Option.map_map]
      exact congrFun Option.map_id _
    rw [check_all_of_inspected inspected, List.map_filterMap, if_pos rfl]
    simp only [fixes]
    conv => rhs; rw [← List.zipIdx_map_fst 0 i.catalog.rules, List.filterMap_map]
    rfl

/-- A call has at most as many problems as rules forbid it. -/
theorem length_check_all_le :
    ((i.inMode .all).check call).length ≤ i.catalog.rules.countP (·.isMatch call) := by
  rw [← List.length_map (·.fixes), map_fixes_check_all]
  split
  · rw [List.length_filterMap_eq_countP]
    exact Nat.le_refl _
  · exact Nat.zero_le _

/-- Where at most one rule forbids a call, the modes do not differ. -/
theorem check_eq_all (unique : i.catalog.rules.countP (·.isMatch call) ≤ 1) :
    i.check call = (i.inMode .all).check call := by
  have single : ((i.inMode .all).check call).length ≤ 1 := Nat.le_trans length_check_all_le unique
  obtain ⟨catalog, enabled, severity, matchMode⟩ := i
  cases matchMode with
  | all => rfl
  | first =>
    refine (check_first (i := ⟨catalog, enabled, severity, .first⟩)).trans ?_
    exact List.take_of_length_le single

/-- Where at most one rule forbids a call, rules in another order report the same fixes. -/
theorem map_fixes_perm (perm : rules.Perm i.catalog.rules)
    (unique : i.catalog.rules.countP (·.isMatch call) ≤ 1) :
    ((i.withRules rules).check call).map (·.fixes) = (i.check call).map (·.fixes) := by
  have unique' : (i.withRules rules).catalog.rules.countP (·.isMatch call) ≤ 1 := by
    rw [← perm.countP_eq (·.isMatch call)] at unique
    exact unique
  have reordered : (((i.withRules rules).check call).map (·.fixes)).Perm
      ((i.check call).map (·.fixes)) := by
    rw [check_eq_all unique', check_eq_all unique, map_fixes_check_all, map_fixes_check_all]
    change List.Perm (if (i.enabled && call.isResolved) = true then rules.filterMap (·.check call) else []) _
    split
    · exact perm.filterMap _
    · exact .nil
  have single : ((i.check call).map (·.fixes)).length ≤ 1 := by
    rw [List.length_map, check_eq_all unique]
    exact Nat.le_trans length_check_all_le unique
  cases reported : (i.check call).map (·.fixes) with
  | nil =>
    rw [reported] at reordered
    exact reordered.eq_nil
  | cons fixes others =>
    rw [reported, List.length_cons] at single
    obtain rfl : others = [] := List.length_eq_zero_iff.1 (by omega)
    rw [reported] at reordered
    exact List.perm_singleton.1 reordered

/-- **The built-in rules exclude each other.** Whatever is known or claimed about a call, at most one of them forbids
it. So the first match is all there is to report, and the rules report the same fixes in any order. -/
theorem check_withCharset_exclusive (charset : String) (call : Call) :
    (Catalog.withCharset charset).rules.countP (·.isMatch call) ≤ 1 ∧
    (∀ i : Inspection, i.catalog = .withCharset charset →
      (i.inMode .first).check call = (i.inMode .all).check call) ∧
    (∀ (i : Inspection) (rules : List Rule), i.catalog = .withCharset charset →
      rules.Perm (Catalog.withCharset charset).rules →
      ((i.withRules rules).check call).map (·.fixes) = (i.check call).map (·.fixes)) := by
  have unique := Catalog.countP_isMatch_le_one charset call
  refine ⟨unique, fun i builtin => ?_, fun i rules builtin perm => ?_⟩
  · exact check_eq_all (i := i.inMode .first) (by rw [← builtin] at unique; exact unique)
  · rw [← builtin] at perm unique
    exact map_fixes_perm perm unique

/-- `new String(bytes)`, in whose class two rules are interested, with the rules in reverse order. -/
theorem check_withCharset_exclusive_bytes :
    let call := ClassPath.platform.call ⟨.constructor .string, [some .byteArray], none, none⟩
    let builtin := Catalog.withCharset "UTF-8"
    let i : Inspection := { catalog := builtin }
    builtin.rules.countP (·.isMatch call) = 1 ∧
    (i.inMode .first).check call = (i.inMode .all).check call ∧
    builtin.rules.reverse.Perm builtin.rules ∧
    ((i.withRules builtin.rules.reverse).check call).map (·.fixes) = (i.check call).map (·.fixes) ∧
    (i.check call).map (·.fixes) = [[.charsetObject "UTF-8", .charsetName "UTF-8"]] := by
  intro call builtin i
  have evaluated : builtin.rules.countP (·.isMatch call) = 1 ∧
      (i.check call).map (·.fixes) = [[.charsetObject "UTF-8", .charsetName "UTF-8"]] := by
    decide +kernel
  obtain ⟨-, modes, orders⟩ := check_withCharset_exclusive "UTF-8" call
  have perm : builtin.rules.reverse.Perm builtin.rules := List.reverse_perm _
  exact ⟨evaluated.1, modes i rfl, perm, orders i _ rfl perm, evaluated.2⟩

end Inspection

end EncodingLint
