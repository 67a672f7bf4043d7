import EncodingLint.Inspection

/-!
# What is reported, and why

A rule forbids a call unless one of its predicates rejects the call (`Rule.check_eq_none_iff`), and the fixes
it offers are its own, followed by those of each `needParameter` that found an overload for its fix
(`Rule.check_eq_some_iff`). A problem reported by an inspection comes from a rule of its
catalog (`Inspection.exists_rule_of_mem_check`), and if no rule forbids the call there is none
(`Inspection.check_eq_nil_iff`).
-/

set_option autoImplicit false

namespace EncodingLint

variable {call : Call} {target : Target} {p : Predicate} {fix : Fix} {fixes init : List Fix}

@[simp] theorem Verdict.isAccepted_ofBool (b : Bool) : (Verdict.ofBool b).isAccepted = b := by
  cases b <;> rfl

theorem Call.method?_of_target (resolved : call.target = some target) :
    call.method? = some target.method := by
  rw [Call.method?, resolved]
  rfl

namespace Predicate

/-- Whether a predicate answers yes or no and has no fix to offer. -/
def isPlain : Predicate → Bool
  | needParameter _ => false
  | _ => true

theorem evaluate_of_isPlain (plain : p.isPlain = true) : p.evaluate call = .ofBool (p.isMatch call) := by
  cases p
  case needParameter => cases plain
  all_goals exact congrArg Verdict.ofBool (Verdict.isAccepted_ofBool _).symm

-- `isAccepted_ofBool` opens the plain predicates one by one.

theorem isMatch_ofClass_of_receiver {receiver type : TypeName} (on : call.receiver = some receiver) :
    (ofClass type).isMatch call = (receiver == type) := by
  refine (Verdict.isAccepted_ofBool _).trans ?_
  rw [on]

theorem isMatch_ofClass_of_target {type : TypeName} (on : call.receiver = none)
    (resolved : call.target = some target) :
    (ofClass type).isMatch call = (target.method.declaringType == type) := by
  refine (Verdict.isAccepted_ofBool _).trans ?_
  rw [on, Call.method?_of_target resolved]
  rfl

theorem isMatch_named {name : String} (resolved : call.target = some target) :
    (named name).isMatch call = (target.method.name == name) := by
  refine (Verdict.isAccepted_ofBool _).trans ?_
  rw [Call.method?_of_target resolved]
  rfl

theorem isMatch_isConstructor (resolved : call.target = some target) :
    isConstructor.isMatch call = target.method.isConstructor := by
  refine (Verdict.isAccepted_ofBool _).trans ?_
  rw [Call.method?_of_target resolved]
  rfl

theorem isMatch_argumentTypes_nil : (argumentTypes []).isMatch call = call.arguments.isEmpty := by
  refine (Verdict.isAccepted_ofBool _).trans ?_
  cases call.arguments <;> simp

theorem length_of_isMatch_argumentTypes {types : List TypeName}
    (accepted : (argumentTypes types).isMatch call = true) : call.arguments.length = types.length := by
  have both := (Verdict.isAccepted_ofBool _).symm.trans accepted
  rw [Bool.and_eq_true, beq_iff_eq] at both
  exact both.1

/-- Only a call that ends in what a fix provides, behind other parameters, does not need the fix. -/
theorem isMatch_needParameter (resolved : call.target = some target) :
    (needParameter fix).isMatch call =
      !(2 ≤ target.method.arity && target.method.endsWith fix.providedType) := by
  simp only [isMatch, evaluate, needVerdict, resolved]
  split
  next already => simp [already, Verdict.isAccepted]
  next needed => split <;> simp [needed, Verdict.isAccepted]

/-- A call of which the target is unknown is never taken for fixed. -/
theorem isMatch_needParameter_of_unresolved (unresolved : call.target = none) :
    (needParameter fix).isMatch call = true := by
  simp only [isMatch, evaluate, needVerdict, unresolved]
  rfl

/-- Only `needParameter` offers a fix, and only if there is an overload that takes it. -/
theorem eq_needParameter_of_fix (offered : p.evaluate call = .acceptedWithFix fix) :
    p = .needParameter fix ∧ ∃ target, call.target = some target ∧ isFixable target fix = true := by
  cases plain : p.isPlain with
  | true =>
    rw [evaluate_of_isPlain plain, Verdict.ofBool] at offered
    split at offered <;> cases offered
  | false =>
    cases p
    case needParameter f =>
      simp only [evaluate, needVerdict] at offered
      cases resolved : call.target with
      | none => simp [resolved] at offered
      | some target =>
        simp only [resolved] at offered
        split at offered
        · cases offered
        · split at offered
          next fixable =>
            cases offered
            exact ⟨rfl, target, rfl, fixable⟩
          next => cases offered
    all_goals cases plain

/-- The fix that a predicate offers for a call. -/
def offer? (call : Call) (p : Predicate) : Option Fix :=
  match p.evaluate call with
  | .acceptedWithFix fix => some fix
  | _ => none

theorem offer?_eq_some_iff : p.offer? call = some fix ↔ p.evaluate call = .acceptedWithFix fix := by
  unfold offer?
  cases p.evaluate call <;> simp

theorem offer?_of_isPlain (plain : p.isPlain = true) : p.offer? call = none := by
  rw [Option.eq_none_iff_forall_ne_some]
  intro fix offered
  obtain ⟨rfl, -⟩ := eq_needParameter_of_fix (offer?_eq_some_iff.1 offered)
  cases plain

end Predicate

namespace Rule

variable {r : Rule}

theorem needing_eq : r.needing fixes = ⟨r.predicates ++ fixes.map .needParameter, r.fixes⟩ := by
  induction fixes generalizing r with
  | nil => simp [needing]
  | cons fix fixes ih =>
    have split : r.needing (fix :: fixes) = (r.withPredicate (.needParameter fix)).needing fixes := rfl
    rw [split, ih]
    simp [withPredicate]

theorem mem_needing_iff :
    p ∈ (r.needing fixes).predicates ↔
      p ∈ r.predicates ∨ ∃ fix ∈ fixes, p = .needParameter fix := by
  simp [needing_eq, eq_comm (a := p)]

/-- The fixes offered that are not listed yet, each where it is offered first. -/
def added (listed offered : List Fix) : List Fix :=
  (offered.filter fun fix => !listed.contains fix).eraseDups

theorem mem_added_iff {listed offered : List Fix} :
    fix ∈ added listed offered ↔ fix ∈ offered ∧ fix ∉ listed := by
  simp [added]

theorem added_cons_of_mem {listed offered : List Fix} (old : fix ∈ listed) :
    added listed (fix :: offered) = added listed offered := by
  simp [added, old]

theorem added_cons_of_not_mem {listed offered : List Fix} (new : fix ∉ listed) :
    added listed (fix :: offered) = fix :: added (listed ++ [fix]) offered := by
  have kept : (fix :: offered).filter (fun f => !listed.contains f) =
      fix :: offered.filter fun f => !listed.contains f := by
    simp [new]
  have fewer : (offered.filter fun f => !listed.contains f).filter (fun f => !f == fix) =
      offered.filter fun f => !(listed ++ [fix]).contains f := by
    rw [List.filter_filter]
    congr 1
    funext f
    by_cases same : f = fix <;> simp [same]
  rw [added, kept, List.eraseDups_cons, fewer]
  rfl

/-- The check goes through if all predicates accept the call, and then adds what they offer to the fixes. -/
theorem foldlM_eq {predicates : List Predicate} :
    predicates.foldlM (fun fixes p => addVerdict fixes (p.evaluate call)) init =
      if predicates.all (·.isMatch call) then
        some (init ++ added init (predicates.filterMap (Predicate.offer? call)))
      else none := by
  induction predicates generalizing init with
  | nil => simp [added]
  | cons p predicates ih =>
    rw [List.foldlM_cons, List.all_cons, List.filterMap_cons, Predicate.isMatch, Predicate.offer?]
    cases p.evaluate call with
    | rejected => rfl
    | accepted => exact ih
    | acceptedWithFix fix =>
      by_cases listed : fix ∈ init
      · have step : addVerdict init (.acceptedWithFix fix) = some init := by simp [addVerdict, listed]
        rw [step, added_cons_of_mem listed]
        exact ih
      · have step : addVerdict init (.acceptedWithFix fix) = some (init ++ [fix]) := by
          simp [addVerdict, listed]
        rw [step, added_cons_of_not_mem listed]
        refine Eq.trans ih ?_
        rw [List.append_assoc]
        rfl

/-- A rule forbids the calls that all its predicates accept, and offers its own fixes and then theirs. -/
theorem check_eq : r.check call =
    if r.predicates.all (·.isMatch call) then
      some (r.fixes ++ added r.fixes (r.predicates.filterMap (Predicate.offer? call)))
    else none :=
  foldlM_eq

theorem check_eq_some_iff : r.check call = some fixes ↔
    (∀ p ∈ r.predicates, p.isMatch call = true) ∧
      fixes = r.fixes ++ added r.fixes (r.predicates.filterMap (Predicate.offer? call)) := by
  rw [check_eq, Option.ite_none_right_eq_some, List.all_eq_true, Option.some.injEq, eq_comm (a := fixes)]

/-- A rule that forbids a call has it accepted by all predicates, and takes its fixes from them. -/
theorem exists_of_check (checked : r.check call = some fixes) :
    (∀ p ∈ r.predicates, p.isMatch call = true) ∧
      ∀ fix ∈ fixes, fix ∈ r.fixes ∨ ∃ p ∈ r.predicates, p.evaluate call = .acceptedWithFix fix := by
  obtain ⟨accepted, rfl⟩ := check_eq_some_iff.1 checked
  refine ⟨accepted, fun fix member => ?_⟩
  rcases List.mem_append.1 member with own | new
  · exact .inl own
  · obtain ⟨p, listed, offered⟩ := List.mem_filterMap.1 (mem_added_iff.1 new).1
    exact .inr ⟨p, listed, Predicate.offer?_eq_some_iff.1 offered⟩

/-- A rule that forbids a call offers every fix that one of its predicates offers. -/
theorem mem_of_check (checked : r.check call = some fixes) (member : p ∈ r.predicates)
    (offered : p.evaluate call = .acceptedWithFix fix) : fix ∈ fixes := by
  obtain ⟨-, rfl⟩ := check_eq_some_iff.1 checked
  by_cases own : fix ∈ r.fixes
  · exact List.mem_append_left _ own
  · apply List.mem_append_right
    rw [mem_added_iff, List.mem_filterMap]
    exact ⟨⟨p, member, Predicate.offer?_eq_some_iff.2 offered⟩, own⟩

/-- A rule does not forbid a call if and only if one of its predicates rejects it. -/
theorem check_eq_none_iff : r.check call = none ↔ ∃ p ∈ r.predicates, p.isMatch call = false := by
  rw [check_eq, ite_eq_right_iff]
  simp

/-- A rule with a predicate that rejects a call does not forbid it. -/
theorem check_eq_none (member : p ∈ r.predicates) (rejected : p.isMatch call = false) :
    r.check call = none :=
  check_eq_none_iff.2 ⟨p, member, rejected⟩

/-- A rule forbids the calls that all its predicates accept. -/
theorem isMatch_iff : r.isMatch call = true ↔ ∀ p ∈ r.predicates, p.isMatch call = true := by
  rw [isMatch, Option.isSome_iff_ne_none, ne_eq, check_eq_none_iff]
  simp

end Rule

namespace Inspection

variable {i : Inspection} {problem : Problem}

theorem check_of_report? {rule : Rule × Nat} (reported : i.report? call rule = some problem) :
    rule.1.check call = some problem.fixes := by
  obtain ⟨fixes, checked, rfl⟩ := Option.map_eq_some_iff.1 reported
  exact checked

/-- Rules report behind the problems found before, whatever these are. -/
theorem visitRules_append (i : Inspection) (call : Call) (rules : List (Rule × Nat))
    (found : List Problem) :
    i.visitRules call rules found = found ++ i.visitRules call rules [] := by
  induction rules generalizing found with
  | nil => rw [visitRules, visitRules, List.append_nil]
  | cons rule rest ih =>
    simp only [visitRules, List.nil_append]
    cases i.report? call rule with
    | none => exact ih found
    | some problem =>
      cases i.matchMode with
      | first => rfl
      | all =>
        calc i.visitRules call rest (found ++ [problem])
            = found ++ ([problem] ++ i.visitRules call rest []) := by rw [ih, List.append_assoc]
          _ = found ++ i.visitRules call rest [problem] := by rw [← ih]

theorem visitRules_of_first (mode : i.matchMode = .first) (rules : List (Rule × Nat)) :
    i.visitRules call rules [] = (rules.findSome? (i.report? call)).toList := by
  induction rules with
  | nil => rfl
  | cons rule rest ih =>
    rw [visitRules, List.findSome?_cons, mode]
    cases i.report? call rule with
    | none => exact ih
    | some problem => rfl

theorem visitRules_of_all (mode : i.matchMode = .all) (rules : List (Rule × Nat)) :
    i.visitRules call rules [] = rules.filterMap (i.report? call) := by
  induction rules with
  | nil => rfl
  | cons rule rest ih =>
    rw [visitRules, List.filterMap_cons, mode]
    cases i.report? call rule with
    | none => exact ih
    | some problem =>
      change i.visitRules call rest [problem] = _
      rw [visitRules_append, ih]
      rfl

/-- Nothing is reported unless the inspection is enabled and the target of the call is known. -/
theorem check_eq_nil_of_skipped (skipped : (i.enabled && call.isResolved) = false) :
    i.check call = [] := by
  rw [check, visit, skipped]
  rfl

theorem check_of_first (mode : i.matchMode = .first)
    (inspected : (i.enabled && call.isResolved) = true) :
    i.check call = (i.catalog.rules.zipIdx.findSome? (i.report? call)).toList := by
  rw [check, visit, if_pos inspected, visitRules_of_first mode]

theorem check_of_all (mode : i.matchMode = .all)
    (inspected : (i.enabled && call.isResolved) = true) :
    i.check call = i.catalog.rules.zipIdx.filterMap (i.report? call) := by
  rw [check, visit, if_pos inspected, visitRules_of_all mode]

/-- A visit leaves the problems found before in place, and the problems of the call do not depend on
them. -/
theorem visit_append (i : Inspection) (found : List Problem) (call : Call) :
    i.visit found call = found ++ i.check call := by
  cases inspected : i.enabled && call.isResolved with
  | false => rw [check_eq_nil_of_skipped inspected, visit, inspected, List.append_nil]; rfl
  | true => rw [check, visit, visit, if_pos inspected, if_pos inspected, visitRules_append]

/-- The problems of calls are those of each call, in the order of the calls. -/
theorem checkAll_eq_flatten (i : Inspection) (calls : List Call) :
    i.checkAll calls = (calls.map i.check).flatten := by
  -- The visits share one list of problems, so the induction is over any problems found before.
  suffices behind : ∀ found, calls.foldl i.visit found = found ++ (calls.map i.check).flatten from
    behind []
  induction calls with
  | nil => intro found; rw [List.foldl_nil, List.map_nil, List.flatten_nil, List.append_nil]
  | cons call rest ih =>
    intro found
    rw [List.foldl_cons, ih, visit_append, List.map_cons, List.flatten_cons, List.append_assoc]

/-- A problem comes from a rule that forbids the call, with the fixes of this rule. -/
theorem exists_rule_of_mem_check (reported : problem ∈ i.check call) :
    ∃ rule ∈ i.catalog.rules, rule.check call = some problem.fixes := by
  cases inspected : i.enabled && call.isResolved with
  | false =>
    rw [check_eq_nil_of_skipped inspected] at reported
    cases reported
  | true =>
    suffices ∃ rule ∈ i.catalog.rules.zipIdx, i.report? call rule = some problem by
      obtain ⟨rule, member, found⟩ := this
      exact ⟨rule.1, List.fst_mem_of_mem_zipIdx member, check_of_report? found⟩
    cases mode : i.matchMode with
    | first =>
      rw [check_of_first mode inspected, Option.mem_toList] at reported
      exact List.exists_of_findSome?_eq_some reported
    | all =>
      rw [check_of_all mode inspected] at reported
      exact List.mem_filterMap.1 reported

/-- A call that no rule forbids has no problem. -/
theorem check_eq_nil (silent : ∀ rule ∈ i.catalog.rules, rule.check call = none) :
    i.check call = [] := by
  rw [List.eq_nil_iff_forall_not_mem]
  intro problem reported
  obtain ⟨rule, member, checked⟩ := exists_rule_of_mem_check reported
  rw [silent rule member] at checked
  cases checked

/-- A resolved call has no problem if and only if no rule forbids it. -/
theorem check_eq_nil_iff (enabled : i.enabled = true) (resolved : call.isResolved = true) :
    i.check call = [] ↔ ∀ rule ∈ i.catalog.rules, rule.check call = none := by
  refine ⟨fun none_reported rule member => ?_, check_eq_nil⟩
  obtain ⟨index, at_index⟩ := List.mem_iff_getElem?.1 member
  have member : (rule, index) ∈ i.catalog.rules.zipIdx := List.mem_zipIdx_iff_getElem?.2 at_index
  suffices unreported : i.report? call (rule, index) = none from Option.map_eq_none_iff.1 unreported
  have inspected : (i.enabled && call.isResolved) = true := by rw [enabled, resolved]; rfl
  cases mode : i.matchMode with
  | first =>
    rw [check_of_first mode inspected, Option.toList_eq_nil_iff] at none_reported
    exact List.findSome?_eq_none_iff.1 none_reported _ member
  | all =>
    rw [check_of_all mode inspected] at none_reported
    exact List.filterMap_eq_nil_iff.1 none_reported _ member

end Inspection

end EncodingLint
