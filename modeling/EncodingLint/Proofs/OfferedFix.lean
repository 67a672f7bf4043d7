import EncodingLint.Proofs.Overloads
import EncodingLint.Proofs.Reports

/-!
# The overload behind an offered fix

A `needParameter` offers its fix if an overload of the called member takes the same parameters and one
more that is assignable to what the fix provides (`isFixable_targetIn_iff`). So the last parameter of that
overload is the provided type, or a class declared directly below it (`exists_overload_of_offered`). In the
second case the overload does not accept the fix: a class path with a charset of its own shows this
(`offered_without_acceptance`).
-/

set_option autoImplicit false

namespace EncodingLint

/-- The members of a class that are called like a signature: its constructors, or its methods of the
name. -/
def ClassDecl.overloads (c : ClassDecl) (s : Signature) : List Member :=
  if s.isConstructor then c.constructors else c.methods.filter fun m => m.name == s.name

namespace ClassPath

variable {cp : ClassPath} {owner : ClassDecl} {m longer : Member} {siblings : List Member}
  {type t : TypeName} {fix : Fix} {isConstructor : Bool} {callee : Callee}
  {arguments : List (Option TypeName)} {target : Target}

/-! ## What a call is resolved to -/

/-- The target of a call is an applicable member of the class declared under its name, together with the
overloads there. -/
theorem exists_targetIn_of_resolve? (resolved : cp.resolve? callee arguments = some target) :
    ∃ c m, cp.find? target.method.declaringType = some c ∧ m ∈ c.overloads target.method ∧
      cp.isApplicable arguments m = true ∧
      target = cp.targetIn c target.method.isConstructor m (c.overloads target.method) := by
  have ofMethod {owner : TypeName} {name : String} {staticOnly : Bool}
      (found : (cp.chain owner).findSome? (cp.methodIn? name staticOnly arguments) = some target) :
      ∃ c m, cp.find? target.method.declaringType = some c ∧ m ∈ c.overloads target.method ∧
        cp.isApplicable arguments m = true ∧
        target = cp.targetIn c target.method.isConstructor m (c.overloads target.method) := by
    obtain ⟨c, member, m, memberM, rfl, -, applicable, rfl⟩ := method_of_findSome? found
    refine ⟨c, m, find?_of_mem_chainAmong member, ?_, applicable, rfl⟩
    exact List.mem_filter.2 ⟨memberM, beq_self_eq_true _⟩
  cases callee with
  | constructor owner =>
    obtain ⟨c, m, found, chosen, rfl⟩ := constructor_of_resolve? resolved
    obtain ⟨memberM, applicable⟩ := (mem_of_select? chosen).1
    obtain ⟨-, rfl⟩ := find?_name found
    exact ⟨c, m, found, memberM, applicable, rfl⟩
  | method receiver name => exact ofMethod resolved
  | static owner name => exact ofMethod resolved

/-- The called member takes as many arguments as there are. -/
theorem arity_of_resolve? (resolved : cp.resolve? callee arguments = some target) :
    target.method.arity = arguments.length := by
  obtain ⟨c, m, -, -, applicable, same⟩ := exists_targetIn_of_resolve? resolved
  calc target.method.arity = m.parameters.length := by
        rw [same]
        exact List.length_map _
    _ = arguments.length := (isApplicable_iff.1 applicable).length_eq

/-! ## The overload that takes one parameter more -/

/-- A type is assignable to itself and to what its declaration has directly above it. -/
theorem isAssignableTo_typeRef_iff :
    (cp.typeRef t).isAssignableTo type = true ↔
      t = type ∨ ∃ d, cp.find? t = some d ∧ type ∈ d.supertypes := by
  cases found : cp.find? t with
  | none => simp [TypeRef.isAssignableTo, typeRef, found]
  | some d => simp [TypeRef.isAssignableTo, typeRef, found]

theorem zip_all_beq_iff {as bs : List TypeName} :
    as.length ≤ bs.length ∧ ((as.zip bs).all fun (a, b) => a == b) = true ↔ as <+: bs := by
  induction as generalizing bs with
  | nil => simp
  | cons a as ih =>
    cases bs with
    | nil => simp
    | cons b bs =>
      simp only [List.length_cons, Nat.add_le_add_iff_right, List.zip_cons_cons, List.all_cons,
        Bool.and_eq_true, beq_iff_eq, List.cons_prefix_cons, ← ih]
      tauto

/-- A longer member extends another one if its parameters begin with those of the other. -/
theorem isExtendedBy_signature_iff :
    (cp.signature owner isConstructor m).isExtendedBy (cp.signature owner isConstructor longer) =
      true ↔ m.parameters <+: longer.parameters := by
  rw [← zip_all_beq_iff]
  simp only [Signature.isExtendedBy, Signature.arity, signature, List.length_map, List.zip_map,
    List.all_map, Bool.and_eq_true, decide_eq_true_eq]
  rfl

theorem endsWith_signature_iff :
    (cp.signature owner isConstructor m).endsWith type = true ↔
      ∃ init last, m.parameters = init ++ [last] ∧ (cp.typeRef last).isAssignableTo type = true := by
  simp only [Signature.endsWith, signature, List.getLast?_map, Option.any_map, Option.any_eq_true,
    List.getLast?_eq_some_iff]
  constructor
  · rintro ⟨last, ⟨init, params⟩, assignable⟩
    exact ⟨init, last, params, assignable⟩
  · rintro ⟨init, last, params, assignable⟩
    exact ⟨last, ⟨init, params⟩, assignable⟩

/-- A fix is offered if a sibling takes the same parameters and one more, assignable to what the fix
provides. -/
theorem isFixable_targetIn_iff :
    Predicate.isFixable (cp.targetIn owner isConstructor m siblings) fix = true ↔
      ∃ longer ∈ siblings, ∃ last, longer.parameters = m.parameters ++ [last] ∧
        (cp.typeRef last).isAssignableTo fix.providedType = true := by
  simp only [Predicate.isFixable, targetIn, List.any_map, List.any_eq_true, Function.comp_apply,
    Bool.and_eq_true, beq_iff_eq, isExtendedBy_signature_iff, endsWith_signature_iff]
  constructor
  · rintro ⟨longer, member, ⟨arity, ⟨rest, whole⟩⟩, init, last, params, assignable⟩
    simp only [Signature.arity, signature, List.length_map] at arity
    have length : m.parameters.length = init.length := by
      rw [params, List.length_append, List.length_singleton] at arity
      omega
    have same : m.parameters = init := (List.append_inj (whole.trans params) length).1
    exact ⟨longer, member, last, by rw [params, same], assignable⟩
  · rintro ⟨longer, member, last, params, assignable⟩
    refine ⟨longer, member, ⟨?_, ?_⟩, m.parameters, last, params, assignable⟩
    · simp [Signature.arity, signature, params]
    · rw [params]
      exact List.prefix_append _ _

/-- **An offered fix has an overload.** A rule that forbids a call lists the fix that a `needParameter` of
it offers, and the class of the called member has an overload for it: this takes the same parameters and
one more, which is of the provided type and so accepts the fix, or else is a class declared directly below
that type. -/
theorem exists_overload_of_offered {r : Rule} {fixes : List Fix} {site : CallSite}
    (resolved : (cp.call site).target = some target)
    (checked : r.check (cp.call site) = some fixes) (member : .needParameter fix ∈ r.predicates)
    (offered : (Predicate.needParameter fix).evaluate (cp.call site) = .acceptedWithFix fix) :
    fix ∈ fixes ∧ ∃ c longer last,
      cp.find? target.method.declaringType = some c ∧ longer ∈ c.overloads target.method ∧
      longer.parameters = target.method.parameters.map TypeRef.name ++ [last] ∧
      ((last = fix.providedType ∧ cp.isSubtype fix.providedType last = true) ∨
        ∃ d, cp.find? last = some d ∧ fix.providedType ∈ d.supertypes) := by
  refine ⟨Rule.mem_of_check checked member offered, ?_⟩
  obtain ⟨c, m, found, -, -, same⟩ := exists_targetIn_of_resolve? resolved
  obtain ⟨-, target', resolved', fixable⟩ := Predicate.eq_needParameter_of_fix offered
  obtain rfl : target = target' := Option.some.inj (resolved.symm.trans resolved')
  rw [same] at fixable
  obtain ⟨longer, sibling, last, params, assignable⟩ := isFixable_targetIn_iff.1 fixable
  have names : target.method.parameters.map TypeRef.name = m.parameters := by
    rw [same]
    exact map_name_signature
  refine ⟨c, longer, last, found, sibling, by rw [names, params], ?_⟩
  rcases isAssignableTo_typeRef_iff.1 assignable with rfl | below
  · exact .inl ⟨rfl, isSubtype_refl cp _⟩
  · exact .inr below

/-- A class path with a charset of its own, and a class whose longer constructor takes only this one. -/
def ownCharset : ClassPath where
  classes :=
    [{ name := ⟨"example.Utf"⟩, superclass := some .charset },
      { name := ⟨"example.Feed"⟩,
        constructors :=
          [⟨"Feed", [.string], [], false⟩, ⟨"Feed", [.string, ⟨"example.Utf"⟩], [], false⟩] }]

/-- `new Feed(name)`. -/
def feedSite : CallSite :=
  { callee := .constructor ⟨"example.Feed"⟩, arguments := [some .string] }

/-- Constructors of the class need a charset. -/
def feedRule : Rule :=
  (Rule.constructorsOf ⟨"example.Feed"⟩).needing [.charsetObject "UTF-8"]

/-- The rule offers the charset to the call, whose other constructor does not accept it. -/
theorem feedRule_offers :
    (∃ target ∈ (ownCharset.call feedSite).target, target.method.parameters.length = 1 ∧
      ∀ c ∈ ownCharset.find? target.method.declaringType, ∀ longer ∈ c.overloads target.method,
        ∀ last ∈ longer.parameters.getLast?, longer.parameters.length = 2 →
          ownCharset.isSubtype .charset last = false) ∧
    feedRule.check (ownCharset.call feedSite) = some [.charsetObject "UTF-8"] ∧
    (Predicate.needParameter (.charsetObject "UTF-8")).evaluate (ownCharset.call feedSite) =
      .acceptedWithFix (.charsetObject "UTF-8") := by
  decide +kernel

theorem exists_overload_of_offered_feed :
    ∃ target fixes, (ownCharset.call feedSite).target = some target ∧
      feedRule.check (ownCharset.call feedSite) = some fixes ∧
      .charsetObject "UTF-8" ∈ fixes ∧ ∃ c longer last,
        ownCharset.find? target.method.declaringType = some c ∧ longer ∈ c.overloads target.method ∧
        longer.parameters = target.method.parameters.map TypeRef.name ++ [last] ∧
        ((last = .charset ∧ ownCharset.isSubtype .charset last = true) ∨
          ∃ d, ownCharset.find? last = some d ∧ .charset ∈ d.supertypes) := by
  obtain ⟨⟨target, resolved, -⟩, checked, offered⟩ := feedRule_offers
  exact ⟨target, _, resolved, checked,
    exists_overload_of_offered resolved checked (by decide) offered⟩

/-- The charset is offered to `new Feed(name)`, and no constructor takes it behind the name. -/
theorem offered_without_acceptance :
    ∃ target, (ownCharset.call feedSite).target = some target ∧
      feedRule.check (ownCharset.call feedSite) = some [.charsetObject "UTF-8"] ∧
      .needParameter (.charsetObject "UTF-8") ∈ feedRule.predicates ∧
      (Predicate.needParameter (.charsetObject "UTF-8")).evaluate (ownCharset.call feedSite) =
        .acceptedWithFix (.charsetObject "UTF-8") ∧
      ¬ ∃ c longer last,
        ownCharset.find? target.method.declaringType = some c ∧ longer ∈ c.overloads target.method ∧
        longer.parameters = target.method.parameters.map TypeRef.name ++ [last] ∧
        ownCharset.isSubtype (Fix.charsetObject "UTF-8").providedType last = true := by
  obtain ⟨⟨target, resolved, arity, unaccepted⟩, checked, offered⟩ := feedRule_offers
  refine ⟨target, resolved, checked, by decide, offered, ?_⟩
  rintro ⟨c, longer, last, found, member, params, below⟩
  have notBelow := unaccepted c found longer member last (by simp [params]) (by simp [params, arity])
  have below : ownCharset.isSubtype .charset last = true := below
  rw [notBelow] at below
  cases below

end ClassPath

end EncodingLint
