import EncodingLint.ClassPath.Platform
import EncodingLint.Proofs.OfferedFix
import EncodingLint.Proofs.RuleOutline

/-!
# Rules of the user after a fix

A rule of the user that asks for a parameter does not forbid the call in which it was appended, if there were
arguments before: the call then ends in what the fix provides (`Rule.isMatch_eq_false_of_endsWith`). A call with a
single argument is never taken for fixed, so a rule that forbids a call without arguments must look at the
arguments itself (`isMatch_withArgument_iff`). One that does not goes on forbidding it
(`toString_forbidden_again`).
-/

set_option autoImplicit false

namespace EncodingLint

variable {call : Call} {target : Target} {fix : Fix} {r : Rule} {o : RuleOutline} {charset : String}

/-- A rule does not forbid a call that ends, behind other arguments, in what the rule asks for. -/
theorem Rule.isMatch_eq_false_of_endsWith (needed : .needParameter fix ∈ r.predicates)
    (resolved : call.target = some target) (several : 2 ≤ target.method.arity)
    (ends : target.method.endsWith fix.providedType = true) : r.isMatch call = false := by
  have rejected : (Predicate.needParameter fix).isMatch call = false := by
    rw [Predicate.isMatch_needParameter resolved, ends, decide_eq_true several]
    rfl
  rw [isMatch, check_eq_none needed rejected]
  rfl

/-- A call with a single argument or none is forbidden by what the rule narrows down to alone. -/
theorem RuleOutline.isMatch_toRule_iff (resolved : call.target = some target)
    (short : target.method.arity < 2) :
    (o.toRule charset).isMatch call = true ↔ ∀ p ∈ o.narrowing, p.isMatch call = true := by
  rw [Rule.isMatch_iff]
  constructor
  · intro accepted p member
    exact accepted p (mem_predicates_iff.2 (.inl member))
  · intro accepted p member
    rcases mem_predicates_iff.1 member with member | ⟨kind, -, rfl⟩
    · exact accepted p member
    · rw [Predicate.isMatch_needParameter resolved, decide_eq_false (Nat.not_le.2 short)]
      rfl

namespace RuleSpec

variable {spec : RuleSpec}

theorem argumentTypes_mem_narrowing {types : List String} (given : spec.parameterTypes = some types) :
    .argumentTypes (types.map .ofString) ∈ spec.narrowing := by
  simp [narrowing, given]

/-- A rule that gives the types of all arguments does not accept one argument more. -/
theorem parameterTypes_eq_none {more : Call} (matched : ∀ p ∈ spec.narrowing, p.isMatch call = true)
    (matched' : ∀ p ∈ spec.narrowing, p.isMatch more = true)
    (longer : more.arguments.length = call.arguments.length + 1) : spec.parameterTypes = none := by
  cases given : spec.parameterTypes with
  | none => rfl
  | some types =>
    have member := argumentTypes_mem_narrowing given
    have before := Predicate.length_of_isMatch_argumentTypes (matched _ member)
    have after := Predicate.length_of_isMatch_argumentTypes (matched' _ member)
    omega

/-- **A rule of the user after one of its fixes.** Let it forbid a call and let the call with what the rule asks for
appended be resolved, to a member with the same parameters and one more that is assignable to it. Then the
rule does not forbid this call, unless there was no argument before and the rule does not give the types of the
arguments; in this case it does so if and only if its other settings accept the call. -/
theorem isMatch_withArgument_iff {cp : ClassPath} {site : CallSite} {fixed : Target} {last : TypeRef}
    (built : spec.toRule charset = .ok r) (needed : .needParameter fix ∈ r.predicates)
    (resolved : (cp.call site).target = some target) (matched : r.isMatch (cp.call site) = true)
    (resolved' : (cp.call (site.withArgument fix.providedType)).target = some fixed)
    (params : fixed.method.parameters = target.method.parameters ++ [last])
    (assignable : last.isAssignableTo fix.providedType = true) :
    r.isMatch (cp.call (site.withArgument fix.providedType)) = true ↔
      site.arguments = [] ∧ spec.parameterTypes = none ∧
        ∀ p ∈ spec.narrowing, p.isMatch (cp.call (site.withArgument fix.providedType)) = true := by
  obtain rfl := eq_of_toRule built
  have arity : target.method.arity = site.arguments.length := ClassPath.arity_of_resolve? resolved
  have arity' : fixed.method.arity = site.arguments.length + 1 := by
    rw [Signature.arity, params, List.length_append, ← arity]
    rfl
  have narrowed {c : Call} (forbidden : (spec.outline.toRule charset).isMatch c = true) (p : Predicate)
      (member : p ∈ spec.narrowing) : p.isMatch c = true :=
    Rule.isMatch_iff.1 forbidden p (RuleOutline.mem_predicates_iff.2 (.inl member))
  constructor
  · intro matched'
    refine ⟨?_, ?_, narrowed matched'⟩
    · by_contra some_argument
      have several : 2 ≤ fixed.method.arity := by
        have := List.length_pos_iff.2 some_argument
        omega
      have ends : fixed.method.endsWith fix.providedType = true := by
        rw [Signature.endsWith, params, List.getLast?_concat]
        exact assignable
      rw [Rule.isMatch_eq_false_of_endsWith needed resolved' several ends] at matched'
      cases matched'
    · apply parameterTypes_eq_none (narrowed matched) (narrowed matched')
      simp [ClassPath.call, CallSite.withArgument]
  · rintro ⟨no_argument, -, accepted⟩
    rw [no_argument] at arity'
    exact (RuleOutline.isMatch_toRule_iff resolved' (by rw [arity']; decide)).2 accepted

/-- `new InputStreamReader(in)` is forbidden if it needs a charset, and no more once one is appended. -/
theorem isMatch_withArgument_reader :
    let spec : RuleSpec :=
      { className := "java.io.InputStreamReader", constructorsOnly := true, need := [.charset, .string] }
    let site : CallSite := { callee := .constructor .inputStreamReader, arguments := [some .inputStream] }
    let r := spec.outline.toRule "UTF-8"
    let call := ClassPath.platform.call site
    let fixedCall := ClassPath.platform.call (site.withArgument .charset)
    (spec.toRule "UTF-8" = .ok r ∧ .needParameter (.charsetObject "UTF-8") ∈ r.predicates) ∧
    (∃ target fixed last, (call.target = some target ∧ r.isMatch call = true) ∧
      fixedCall.target = some fixed ∧ fixed.method.parameters = target.method.parameters ++ [last] ∧
        last.isAssignableTo .charset = true) ∧
    r.isMatch fixedCall = false := by
  intro spec site r call fixedCall
  have evaluated : (spec.toRule "UTF-8").toOption = some r ∧
      .needParameter (.charsetObject "UTF-8") ∈ r.predicates ∧ r.isMatch call = true ∧
      ∃ target ∈ call.target, ∃ fixed ∈ fixedCall.target, ∃ last ∈ fixed.method.parameters.getLast?,
        fixed.method.parameters = target.method.parameters ++ [last] ∧
        last.isAssignableTo .charset = true := by
    decide +kernel
  obtain ⟨built, needed, matched, target, resolved, fixed, resolved', last, -, params, assignable⟩ :=
    evaluated
  have built : spec.toRule "UTF-8" = .ok r := Outcome.toOption_eq_some_iff.1 built
  refine ⟨⟨built, needed⟩, ⟨target, fixed, last, ⟨resolved, matched⟩, resolved', params, assignable⟩, ?_⟩
  rw [Bool.eq_false_iff]
  intro matched'
  obtain ⟨no_argument, -⟩ :=
    (isMatch_withArgument_iff built needed resolved matched resolved' params assignable).1 matched'
  cases no_argument

/-- `out.toString()` is forbidden if it needs the name of a charset, which is offered, and it is forbidden
again with the name appended. -/
theorem toString_forbidden_again :
    let spec : RuleSpec :=
      { className := "java.io.ByteArrayOutputStream", name := some "toString", need := [.string] }
    let site : CallSite := { callee := .method .byteArrayOutputStream "toString" }
    let r := spec.outline.toRule "UTF-8"
    let fix := Fix.charsetName "UTF-8"
    let call := ClassPath.platform.call site
    let fixedCall := ClassPath.platform.call (site.withArgument fix.providedType)
    (spec.toRule "UTF-8" = .ok r ∧ .needParameter fix ∈ r.predicates) ∧
    (∃ target fixed last, (call.target = some target ∧ r.isMatch call = true ∧
        (Predicate.needParameter fix).evaluate call = .acceptedWithFix fix) ∧
      fixedCall.target = some fixed ∧ fixed.method.parameters = target.method.parameters ++ [last] ∧
        last.isAssignableTo fix.providedType = true) ∧
    r.isMatch fixedCall = true := by
  intro spec site r fix call fixedCall
  have evaluated : (spec.toRule "UTF-8").toOption = some r ∧ .needParameter fix ∈ r.predicates ∧
      r.isMatch call = true ∧ (Predicate.needParameter fix).evaluate call = .acceptedWithFix fix ∧
      r.isMatch fixedCall = true ∧
      ∃ target ∈ call.target, ∃ fixed ∈ fixedCall.target, ∃ last ∈ fixed.method.parameters.getLast?,
        fixed.method.parameters = target.method.parameters ++ [last] ∧
        last.isAssignableTo fix.providedType = true := by
    decide +kernel
  obtain ⟨built, needed, matched, offered, again, target, resolved, fixed, resolved', last, -, params,
    assignable⟩ := evaluated
  have built : spec.toRule "UTF-8" = .ok r := Outcome.toOption_eq_some_iff.1 built
  exact ⟨⟨built, needed⟩,
    ⟨target, fixed, last, ⟨resolved, matched, offered⟩, resolved', params, assignable⟩, again⟩

end RuleSpec

end EncodingLint
