import EncodingLint.ClassPath.Platform
import EncodingLint.Proofs.OfferedFix

/-!
# Calls after a fix

A fix is offered where an overload takes the parameters of the called member and one more
(`exists_longer_of_isFixable`). On the platform, the call with that argument appended is resolved to this
overload, and the rule that offered the fix takes it for fixed. No other built-in rule is about the same
constructors, so the call is reported no more (`check_withArgument_eq_nil`).
-/

set_option autoImplicit false

namespace EncodingLint

namespace ClassPath

variable {cp : ClassPath} {owner : ClassDecl} {m : Member} {siblings : List Member} {type t : TypeName}
  {fix : Fix} {isConstructor : Bool}

/-- If no class is directly below a type, only the type itself is assignable to it. -/
theorem isAssignableTo_typeRef (lowest : ∀ c ∈ cp.classes, type ∉ c.supertypes)
    (assignable : (cp.typeRef t).isAssignableTo type = true) : t = type := by
  rcases isAssignableTo_typeRef_iff.1 assignable with same | ⟨c, found, above⟩
  · exact same
  · exact absurd above (lowest c (find?_name found).1)

theorem endsWith_signature (params : m.parameters.getLast? = some type) :
    (cp.signature owner isConstructor m).endsWith type = true := by
  obtain ⟨init, params⟩ := List.getLast?_eq_some_iff.1 params
  exact endsWith_signature_iff.2 ⟨init, type, params, isAssignableTo_typeRef_iff.2 (.inl rfl)⟩

/-- A fix is offered only if a sibling takes the same parameters and then the type of the fix. -/
theorem exists_longer_of_isFixable (lowest : ∀ c ∈ cp.classes, fix.providedType ∉ c.supertypes)
    (fixable : Predicate.isFixable (cp.targetIn owner isConstructor m siblings) fix = true) :
    ∃ longer ∈ siblings, longer.parameters = m.parameters ++ [fix.providedType] := by
  obtain ⟨longer, member, last, params, assignable⟩ := isFixable_targetIn_iff.1 fixable
  rw [isAssignableTo_typeRef lowest assignable] at params
  exact ⟨longer, member, params⟩

end ClassPath

namespace Catalog

/-! ## The built-in rules -/

/-- A call that is resolved and that no rule forbids. -/
structure Allows (catalog : Catalog) (call : Call) : Prop where
  resolved : call.isResolved = true
  silent : ∀ rule ∈ catalog.rules, rule.check call = none

/-- The types that a charset is given in. -/
def charsetTypes : List TypeName :=
  [.string, .charset]

/-- The classes whose constructors have a rule. -/
def covered : List TypeName :=
  [.string, .inputStreamReader, .outputStreamWriter, .printStream, .printWriter]

/-- The classes with a rule that no fix helps. -/
def unfixable : List TypeName :=
  [.charset, .fileWriter]

/-- The fixes that the constructors of a class may need. Those that print take a charset by name only. -/
def constructorFixes (charset : String) (type : TypeName) : List Fix :=
  if type ∈ [TypeName.printStream, .printWriter] then [.charsetName charset]
  else [.charsetObject charset, .charsetName charset]

/-- What a built-in rule is about: `getBytes` without arguments, the constructors of one class, or
members that no fix helps. -/
inductive Shape (charset : String) (rule : Rule) : Prop where
  | getBytes (ofClass : .ofClass .string ∈ rule.predicates)
      (named : .named "getBytes" ∈ rule.predicates)
      (noArguments : .argumentTypes [] ∈ rule.predicates)
      (needs : ∀ fix, .needParameter fix ∈ rule.predicates → fix.providedType ∈ charsetTypes)
  | constructors (type : TypeName) (isCovered : type ∈ covered)
      (ofClass : .ofClass type ∈ rule.predicates) (isConstructor : .isConstructor ∈ rule.predicates)
      (bytes : type = .string → .hasArgument .byteArray ∈ rule.predicates)
      (needs : ∀ fix, .needParameter fix ∈ rule.predicates ↔ fix ∈ constructorFixes charset type)
  | members (type : TypeName) (notCovered : type ∉ covered) (ofClass : .ofClass type ∈ rule.predicates)
      (needs : ∀ fix, .needParameter fix ∉ rule.predicates)

variable {charset : String} {rule : Rule} {fix : Fix} {type : TypeName}

theorem providedType_mem_charsetTypes (needed : fix ∈ constructorFixes charset type) :
    fix.providedType ∈ charsetTypes := by
  have either : fix = .charsetObject charset ∨ fix = .charsetName charset := by
    unfold constructorFixes at needed
    split at needed <;> simp at needed <;> tauto
  rcases either with rfl | rfl <;> simp [charsetTypes, Fix.charsetObject, Fix.charsetName]

/-- A rule on the constructors of a class that needs the fixes of the class. -/
theorem Shape.of_constructors {base : Rule} (type : TypeName) (isCovered : type ∈ covered)
    (ofClass : .ofClass type ∈ base.predicates) (isConstructor : .isConstructor ∈ base.predicates)
    (bytes : type = .string → .hasArgument .byteArray ∈ base.predicates)
    (own : ∀ fix, .needParameter fix ∉ base.predicates) :
    Shape charset (base.needing (constructorFixes charset type)) := by
  refine .constructors type isCovered ?_ ?_ (fun isString => ?_) fun fix => ?_
  · exact Rule.mem_needing_iff.2 (.inl ofClass)
  · exact Rule.mem_needing_iff.2 (.inl isConstructor)
  · exact Rule.mem_needing_iff.2 (.inl (bytes isString))
  · rw [Rule.mem_needing_iff]
    simp [own fix]

/-- Each built-in rule has one of the shapes. -/
theorem shape_of_mem (member : rule ∈ (withCharset charset).rules) : Shape charset rule := by
  simp only [withCharset, List.mem_cons, List.not_mem_nil, or_false] at member
  rcases member with rfl | rfl | rfl | rfl | rfl | rfl | rfl | rfl
  · refine .getBytes ?_ ?_ ?_ fun fix needed => ?_
    · exact Rule.mem_needing_iff.2 (.inl (by decide))
    · exact Rule.mem_needing_iff.2 (.inl (by decide))
    · exact Rule.mem_needing_iff.2 (.inl (by decide))
    · rcases Rule.mem_needing_iff.1 needed with own | ⟨offered, member, same⟩
      · simp [Rule.withArguments, Rule.named, Rule.membersOf, Rule.withPredicate] at own
      · cases same
        have needed : fix ∈ constructorFixes charset .string := member
        exact providedType_mem_charsetTypes needed
  · exact .of_constructors .string (by decide) (by decide) (by decide) (by decide)
      (by simp [Rule.withArgument, Rule.constructorsOf, Rule.membersOf, Rule.withPredicate])
  · exact .members .charset (by decide) (by decide)
      (by simp [Rule.named, Rule.membersOf, Rule.withPredicate])
  · exact .members .fileWriter (by decide) (by decide) (by simp [Rule.membersOf])
  · exact .of_constructors .inputStreamReader (by decide) (by decide) (by decide) (by decide)
      (by simp [Rule.constructorsOf, Rule.membersOf, Rule.withPredicate])
  · exact .of_constructors .outputStreamWriter (by decide) (by decide) (by decide) (by decide)
      (by simp [Rule.constructorsOf, Rule.membersOf, Rule.withPredicate])
  · exact .of_constructors .printStream (by decide) (by decide) (by decide) (by decide)
      (by simp [Rule.notThrowing, Rule.constructorsOf, Rule.membersOf, Rule.withPredicate])
  · exact .of_constructors .printWriter (by decide) (by decide) (by decide) (by decide)
      (by simp [Rule.notThrowing, Rule.withoutArgument, Rule.constructorsOf, Rule.membersOf,
        Rule.withPredicate])

/-- The built-in rules are about these classes. -/
theorem type_mem_of_ofClass (member : rule ∈ (withCharset charset).rules)
    (ofClass : .ofClass type ∈ rule.predicates) : type ∈ covered ∨ type ∈ unfixable := by
  simp only [withCharset, List.mem_cons, List.not_mem_nil, or_false] at member
  rcases member with rfl | rfl | rfl | rfl | rfl | rfl | rfl | rfl
  all_goals
    simp [Rule.mem_needing_iff, Rule.notThrowing, Rule.withoutArgument, Rule.withArguments,
      Rule.withArgument, Rule.named, Rule.constructorsOf, Rule.membersOf, Rule.withPredicate] at ofClass
    subst ofClass
    decide

/-- The built-in rules offer only what their predicates offer. -/
theorem fixes_eq_nil (member : rule ∈ (withCharset charset).rules) : rule.fixes = [] := by
  simp only [withCharset, List.mem_cons, List.not_mem_nil, or_false] at member
  rcases member with rfl | rfl | rfl | rfl | rfl | rfl | rfl | rfl <;> rfl

end Catalog

namespace ClassPath

/-! ## The platform -/

variable {site : CallSite} {target : Target} {type : TypeName} {c : ClassDecl} {charset : String}
  {fix : Fix}

open Catalog (charsetTypes covered unfixable constructorFixes)

theorem platform_lowest :
    ∀ type ∈ charsetTypes, ∀ c ∈ platform.classes, type ∉ c.supertypes := by
  decide +kernel

/-- Constructors with a rule on them are apart, and what is cut back from one that ends in a charset is one of
them too. Only a string can be made from nothing. -/
theorem platform_covered (member : c ∈ platform.classes) (isCovered : c.name ∈ covered) :
    platform.Apart c.constructors ∧ (∀ type ∈ charsetTypes, CutsBack c.constructors type) ∧
      (c.name ≠ .string → ∀ m ∈ c.constructors, m.parameters ≠ []) := by
  have distinct : ∀ c ∈ platform.classes, c.name ∈ covered →
      (c.constructors.map Member.parameters).Nodup := by
    decide +kernel
  have unrelated : ∀ c ∈ platform.classes, c.name ∈ covered →
      ∀ a ∈ c.constructors.flatMap Member.parameters,
        ∀ b ∈ c.constructors.flatMap Member.parameters, platform.isSubtype a b = true → a = b := by
    decide +kernel
  have cutsBack : ∀ c ∈ platform.classes, c.name ∈ covered → ∀ type ∈ charsetTypes,
      CutsBack c.constructors type := by
    unfold CutsBack
    decide +kernel
  have nonempty : ∀ c ∈ platform.classes, c.name ∈ covered → c.name ≠ .string →
      ∀ m ∈ c.constructors, m.parameters ≠ [] := by
    decide +kernel
  exact ⟨⟨distinct c member isCovered, unrelated c member isCovered⟩, cutsBack c member isCovered,
    nonempty c member isCovered⟩

/-- The method can be called with a charset or its name. No constructor is named like it, and no static method
either. -/
theorem platform_getBytes :
    (∀ type ∈ charsetTypes,
      (platform.resolve? (.method .string "getBytes") [some type]).isSome = true) ∧
    ∀ c ∈ platform.classes, (∀ m ∈ c.constructors, m.name ≠ "getBytes") ∧
      ∀ m ∈ c.methods, m.name = "getBytes" → m.isStatic = false := by
  decide +kernel

/-! ## The call that a rule is about -/

/-- What is a constructor was called as one. -/
theorem exists_owner_of_isConstructor {cp : ClassPath} (resolved : (cp.call site).target = some target)
    (isConstructor : target.method.isConstructor = true) :
    ∃ owner, site.callee = .constructor owner := by
  obtain ⟨callee, arguments, span, argumentList⟩ := site
  cases callee with
  | constructor owner => exact ⟨owner, rfl⟩
  | method receiver name =>
    obtain ⟨c, -, m, -, -, -, -, rfl⟩ := method_of_findSome? resolved
    cases isConstructor
  | static owner name =>
    obtain ⟨c, -, m, -, -, -, -, rfl⟩ := method_of_findSome? resolved
    cases isConstructor

/-- What is named `getBytes` was called as a method of an object. -/
theorem callee_eq_getBytes (resolved : (platform.call site).target = some target)
    (ofClass : (Predicate.ofClass .string).isMatch (platform.call site) = true)
    (named : (Predicate.named "getBytes").isMatch (platform.call site) = true) :
    site.callee = .method .string "getBytes" := by
  rw [Predicate.isMatch_named resolved, beq_iff_eq] at named
  obtain ⟨callee, arguments, span, argumentList⟩ := site
  cases callee with
  | constructor owner =>
    obtain ⟨c, m, found, chosen, rfl⟩ := constructor_of_resolve? resolved
    have member := (mem_of_select? chosen).1.1
    exact absurd named ((platform_getBytes.2 c (find?_name found).1).1 m member)
  | method receiver name =>
    obtain ⟨c, -, m, -, sameName, -, -, rfl⟩ := method_of_findSome? resolved
    rw [Predicate.isMatch_ofClass_of_receiver rfl, beq_iff_eq] at ofClass
    rw [ofClass, ← sameName]
    exact congrArg _ named
  | static owner name =>
    obtain ⟨c, member, m, memberM, -, isStatic, -, rfl⟩ := method_of_findSome? resolved
    have declared := List.mem_of_find?_eq_some (find?_of_mem_chainAmong member)
    have notStatic := (platform_getBytes.2 c declared).2 m memberM named
    rw [isStatic rfl] at notStatic
    cases notStatic

/-! ## Calls that no rule forbids -/

/-- A method is allowed with any argument, unless it is one of a class that no fix helps. -/
theorem allows_method (resolved : (platform.call site).target = some target)
    (isMethod : target.method.isConstructor = false) (some_argument : site.arguments ≠ [])
    (otherClass : ∀ type ∈ unfixable, (Predicate.ofClass type).isMatch (platform.call site) = false) :
    Catalog.Allows (.withCharset charset) (platform.call site) := by
  refine ⟨by rw [Call.isResolved, resolved]; rfl, fun rule member => ?_⟩
  cases Catalog.shape_of_mem member with
  | getBytes ofClass named noArguments needs =>
    apply Rule.check_eq_none noArguments
    rw [Predicate.isMatch_argumentTypes_nil]
    simp [call, some_argument]
  | constructors type isCovered ofClass isConstructor bytes needs =>
    apply Rule.check_eq_none isConstructor
    rw [Predicate.isMatch_isConstructor resolved, isMethod]
  | members type notCovered ofClass needs =>
    apply Rule.check_eq_none ofClass
    exact otherClass type ((Catalog.type_mem_of_ofClass member ofClass).resolve_left notCovered)

/-- `getBytes` with a charset is allowed. -/
theorem allows_getBytes (isCharset : type ∈ charsetTypes)
    (callee : site.callee = .method .string "getBytes") (none : site.arguments = []) :
    Catalog.Allows (.withCharset charset) (platform.call (site.withArgument type)) := by
  obtain ⟨target, found⟩ := Option.isSome_iff_exists.1 (platform_getBytes.1 type isCharset)
  have resolved : (platform.call (site.withArgument type)).target = some target := by
    simp only [call, CallSite.withArgument, callee, none, List.nil_append, found]
  have receiver : (platform.call (site.withArgument type)).receiver = some .string := by
    simp only [call, CallSite.withArgument, callee]
  refine allows_method resolved ?_ (by simp [CallSite.withArgument]) fun other member => ?_
  · obtain ⟨c, -, m, -, -, -, -, rfl⟩ := method_of_findSome? found
    rfl
  · rw [Predicate.isMatch_ofClass_of_receiver receiver]
    revert other
    decide

/-- A constructor is allowed if it ends in what its rule needs, behind other parameters. -/
theorem allows_constructor {m : Member} (isCovered : c.name ∈ covered)
    (needed : fix ∈ constructorFixes charset c.name) (callee : site.callee = .constructor c.name)
    (some_argument : site.arguments ≠ [])
    (resolved : (platform.call site).target = some (platform.targetIn c true m c.constructors))
    (several : 2 ≤ m.parameters.length) (ends : m.parameters.getLast? = some fix.providedType) :
    Catalog.Allows (.withCharset charset) (platform.call site) := by
  have receiver : (platform.call site).receiver = none := by simp [call, callee]
  have otherClass {rule : Rule} {other : TypeName} (ofClass : .ofClass other ∈ rule.predicates)
      (different : c.name ≠ other) : rule.check (platform.call site) = none := by
    apply Rule.check_eq_none ofClass
    rw [Predicate.isMatch_ofClass_of_target receiver resolved, beq_eq_false_iff_ne]
    exact different
  refine ⟨by rw [Call.isResolved, resolved]; rfl, fun rule member => ?_⟩
  cases Catalog.shape_of_mem member with
  | getBytes ofClass named noArguments needs =>
    apply Rule.check_eq_none noArguments
    rw [Predicate.isMatch_argumentTypes_nil]
    simp [call, some_argument]
  | constructors other isCovered ofClass isConstructor bytes needs =>
    by_cases same : c.name = other
    · -- The rule of the class, or one with the same needs.
      subst same
      apply Rule.check_eq_none ((needs fix).2 needed)
      have arity : 2 ≤ (platform.signature c true m).arity := by
        simpa [Signature.arity, signature] using several
      rw [Predicate.isMatch_needParameter resolved]
      simp [targetIn, arity, endsWith_signature ends]
    · exact otherClass ofClass same
  | members other notCovered ofClass needs =>
    apply otherClass ofClass
    rintro rfl
    exact notCovered isCovered

/-- A fix that is offered for a constructor leads to a longer one, which is allowed. -/
theorem allows_of_isFixable (isCovered : type ∈ covered)
    (needed : fix ∈ constructorFixes charset type)
    (ofClass : (Predicate.ofClass type).isMatch (platform.call site) = true)
    (isConstructor : Predicate.isConstructor.isMatch (platform.call site) = true)
    (bytes : type = .string → (Predicate.hasArgument .byteArray).isMatch (platform.call site) = true)
    (resolved : (platform.call site).target = some target)
    (fixable : Predicate.isFixable target fix = true) :
    Catalog.Allows (.withCharset charset) (platform.call (site.withArgument fix.providedType)) := by
  have isCharset := Catalog.providedType_mem_charsetTypes needed
  rw [Predicate.isMatch_isConstructor resolved] at isConstructor
  obtain ⟨owner, callee⟩ := exists_owner_of_isConstructor resolved isConstructor
  have called : platform.resolve? (.constructor owner) site.arguments = some target := by
    rw [← callee]
    exact resolved
  obtain ⟨c, m, found, chosen, rfl⟩ := constructor_of_resolve? called
  obtain ⟨member, sameOwner⟩ := find?_name found
  have sameType : c.name = type := by
    have receiver : (platform.call site).receiver = none := by simp only [call, callee]
    rw [Predicate.isMatch_ofClass_of_target receiver resolved, beq_iff_eq] at ofClass
    exact ofClass
  subst sameType sameOwner
  obtain ⟨⟨memberM, applicable⟩, -⟩ := mem_of_select? chosen
  -- A string is fixed only if bytes are given, and all other classes need a parameter anyway.
  have some_argument : site.arguments ≠ [] := by
    intro none
    by_cases isString : c.name = .string
    · have given := bytes isString
      simp [Predicate.isMatch, Predicate.evaluate, Call.knownArguments, call, none] at given
    · apply (platform_covered member isCovered).2.2 isString m memberM
      rw [isApplicable_iff, none, List.forall₂_nil_right_iff] at applicable
      exact applicable
  obtain ⟨longer, memberLonger, params⟩ :=
    exists_longer_of_isFixable (platform_lowest _ isCharset) fixable
  have chosenLonger := select?_append (platform_covered member isCovered).1
    ((platform_covered member isCovered).2.1 _ isCharset) chosen some_argument memberLonger params
  have resolvedLonger : (platform.call (site.withArgument fix.providedType)).target =
      some (platform.targetIn c true longer c.constructors) := by
    simp [call, CallSite.withArgument, callee, resolve?, found, constructorIn?, chosenLonger]
  refine allows_constructor isCovered needed callee ?_ resolvedLonger ?_ ?_
  · simp [CallSite.withArgument]
  · have := List.length_pos_iff.2 some_argument
    rw [params, List.length_append, List.length_singleton, (isApplicable_iff.1 applicable).length_eq]
    omega
  · rw [params, List.getLast?_concat]

/-- With the argument of an offered fix appended, a call on the platform is allowed. -/
theorem allows_withArgument {rule : Rule} {fixes : List Fix}
    (member : rule ∈ (Catalog.withCharset charset).rules)
    (checked : rule.check (platform.call site) = some fixes) (offered : fix ∈ fixes) :
    Catalog.Allows (.withCharset charset) (platform.call (site.withArgument fix.providedType)) := by
  obtain ⟨accepted, sources⟩ := Rule.exists_of_check checked
  obtain ⟨p, needed, verdict⟩ : ∃ p ∈ rule.predicates, p.evaluate (platform.call site) =
      .acceptedWithFix fix := by
    rcases sources fix offered with own | fromPredicate
    · rw [Catalog.fixes_eq_nil member] at own
      cases own
    · exact fromPredicate
  obtain ⟨rfl, target, resolved, fixable⟩ := Predicate.eq_needParameter_of_fix verdict
  cases Catalog.shape_of_mem member with
  | getBytes ofClass named noArguments needs =>
    have none := accepted _ noArguments
    rw [Predicate.isMatch_argumentTypes_nil, List.isEmpty_iff] at none
    exact allows_getBytes (needs fix needed)
      (callee_eq_getBytes resolved (accepted _ ofClass) (accepted _ named))
      (List.map_eq_nil_iff.1 none)
  | constructors type isCovered ofClass isConstructor bytes needs =>
    exact allows_of_isFixable isCovered ((needs fix).1 needed) (accepted _ ofClass)
      (accepted _ isConstructor) (fun isString => accepted _ (bytes isString)) resolved fixable
  | members type notCovered ofClass needs => exact absurd needed (needs fix)

end ClassPath

namespace Inspection

open ClassPath (platform)

/-- **A fix settles its problem.** With the argument of an offered fix appended, a call on the platform is
resolved, and it is reported no more, whether the first rule or all rules count. -/
theorem check_withArgument_eq_nil {charset : String} {i : Inspection} {site : CallSite}
    {problem : Problem} {fix : Fix} (builtin : i.catalog = .withCharset charset)
    (reported : problem ∈ i.check (platform.call site)) (offered : fix ∈ problem.fixes) :
    (platform.call (site.withArgument fix.providedType)).isResolved = true ∧
      ∀ mode, { i with matchMode := mode }.check
        (platform.call (site.withArgument fix.providedType)) = [] := by
  obtain ⟨rule, member, checked⟩ := exists_rule_of_mem_check reported
  rw [builtin] at member
  have allows := ClassPath.allows_withArgument member checked offered
  refine ⟨allows.resolved, fun mode => check_eq_nil fun rule member => allows.silent rule ?_⟩
  rwa [← builtin]

/-- `new PrintStream(unknown, true)` gets a charset by name, and then passes. -/
theorem check_withArgument_printStream :
    (Fix.charsetName "UTF-8" ∈ ((({} : Inspection).check (platform.call
      ⟨.constructor .printStream, [none, some .boolean], none, none⟩)).flatMap Problem.fixes)) ∧
    (platform.call ⟨.constructor .printStream, [none, some .boolean, some .string], none, none⟩
      ).isResolved = true ∧
    ∀ mode, { matchMode := mode : Inspection }.check (platform.call
      ⟨.constructor .printStream, [none, some .boolean, some .string], none, none⟩) = [] := by
  have offered : Fix.charsetName "UTF-8" ∈ ((({} : Inspection).check (platform.call
      ⟨.constructor .printStream, [none, some .boolean], none, none⟩)).flatMap Problem.fixes) := by
    decide +kernel
  obtain ⟨problem, reported, member⟩ := List.mem_flatMap.1 offered
  have builtin : ({} : Inspection).catalog = .withCharset defaultCharset := rfl
  exact ⟨offered, check_withArgument_eq_nil builtin reported member⟩

end Inspection

end EncodingLint
