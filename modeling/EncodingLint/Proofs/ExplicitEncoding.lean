import EncodingLint.Proofs.FixedCall

/-!
# Calls with an explicit encoding

A member gives its encoding if its last parameter is a charset, a decoder or an encoder, or if it declares
that the encoding may be unknown. On the platform no built-in rule forbids such a member, as long as what it
takes is the charset or its name (`allows_of_givesEncoding`). The constructors that take a decoder or an
encoder are reported all the same (`exists_rule_of_takesCoder`), since no fix provides one.
-/

set_option autoImplicit false

namespace EncodingLint

namespace Signature

/-- Whether the last parameter is of one of some types. -/
def endsIn (s : Signature) (types : List TypeName) : Bool :=
  s.parameters.getLast?.any fun p => types.contains p.name

/-- Whether the last parameter decodes or encodes by itself. -/
def takesCoder (s : Signature) : Bool :=
  s.endsIn [.charsetDecoder, .charsetEncoder]

/-- Whether callers of a member say which encoding it uses: they pass it as the last argument, or have to
expect that it is unknown. -/
def givesEncoding (s : Signature) : Bool :=
  s.endsIn [.charset, .charsetDecoder, .charsetEncoder] || s.throws.contains .unsupportedEncoding

theorem givesEncoding_of_takesCoder {s : Signature} (coder : s.takesCoder = true) :
    s.givesEncoding = true := by
  obtain ⟨last, isLast, isCoder⟩ := (Option.any_eq_true _ _).1 coder
  have isEncoding : [TypeName.charset, .charsetDecoder, .charsetEncoder].contains last.name = true := by
    rw [List.contains_cons, isCoder, Bool.or_true]
  rw [givesEncoding, endsIn, isLast, Option.any_some, isEncoding, Bool.true_or]

end Signature

namespace ClassPath

open Catalog (charsetTypes covered unfixable constructorFixes)

variable {site : CallSite} {target : Target}

/-! ## The members of the platform -/

/-- Constructors that are given a charset or its name end in what the rule of their class needs. Decoders and
encoders are taken by two classes, and none of them is a charset or its name. -/
theorem platform_givesEncoding_constructors : ∀ c ∈ platform.classes, ∀ m ∈ c.constructors,
    (platform.signature c true m).givesEncoding = true →
      ((platform.signature c true m).takesCoder = false →
        c.name ∈ covered ∧ 2 ≤ m.parameters.length ∧
          ∃ fix ∈ constructorFixes defaultCharset c.name,
            m.parameters.getLast? = some fix.providedType) ∧
      ((platform.signature c true m).takesCoder = true →
        c.name ∈ [TypeName.inputStreamReader, .outputStreamWriter] ∧
          ∀ type ∈ charsetTypes, (platform.signature c true m).endsWith type = false) := by
  decide +kernel

/-- Methods that give an encoding are neither declared nor inherited by a class that no fix helps. -/
theorem platform_givesEncoding_methods : ∀ c ∈ platform.classes, ∀ m ∈ c.methods,
    (platform.signature c false m).givesEncoding = true →
      (platform.signature c false m).takesCoder = false ∧ m.parameters ≠ [] ∧ c.name ∉ unfixable ∧
        ∀ type ∈ unfixable, c ∉ platform.chain type := by
  decide +kernel

/-! ## Calls of these members -/

/-- What takes a parameter is called with an argument. -/
theorem arguments_ne_nil {cp : ClassPath} {arguments : List (Option TypeName)} {m : Member}
    (applicable : cp.isApplicable arguments m = true) (params : m.parameters ≠ []) : arguments ≠ [] := by
  rintro rfl
  exact params (List.forall₂_nil_right_iff.1 (isApplicable_iff.1 applicable))

/-- A call of a member that is given a charset or its name is allowed. -/
theorem allows_of_givesEncoding (resolved : (platform.call site).target = some target)
    (explicit : target.method.givesEncoding = true) (noCoder : target.method.takesCoder = false) :
    Catalog.Allows .builtin (platform.call site) := by
  obtain ⟨callee, arguments, span, argumentList⟩ := site
  cases callee with
  | constructor owner =>
    obtain ⟨c, m, found, chosen, rfl⟩ := constructor_of_resolve? resolved
    obtain ⟨member, rfl⟩ := find?_name found
    obtain ⟨⟨memberM, applicable⟩, -⟩ := mem_of_select? chosen
    obtain ⟨isCovered, several, fix, needed, ends⟩ :=
      (platform_givesEncoding_constructors c member m memberM explicit).1 noCoder
    have params : m.parameters ≠ [] := by
      rw [← List.length_pos_iff]
      omega
    exact allows_constructor isCovered needed rfl (arguments_ne_nil applicable params) resolved several
      ends
  | method receiver name =>
    obtain ⟨c, member, m, memberM, -, -, applicable, rfl⟩ := method_of_findSome? resolved
    have declared := List.mem_of_find?_eq_some (find?_of_mem_chainAmong member)
    obtain ⟨-, params, -, notAbove⟩ := platform_givesEncoding_methods c declared m memberM explicit
    refine allows_method resolved rfl (arguments_ne_nil applicable params) fun type noFix => ?_
    rw [Predicate.isMatch_ofClass_of_receiver rfl, beq_eq_false_iff_ne]
    rintro rfl
    exact notAbove receiver noFix member
  | static owner name =>
    obtain ⟨c, member, m, memberM, -, -, applicable, rfl⟩ := method_of_findSome? resolved
    have declared := List.mem_of_find?_eq_some (find?_of_mem_chainAmong member)
    obtain ⟨-, params, fixable, -⟩ := platform_givesEncoding_methods c declared m memberM explicit
    refine allows_method resolved rfl (arguments_ne_nil applicable params) fun type noFix => ?_
    rw [Predicate.isMatch_ofClass_of_target rfl resolved, beq_eq_false_iff_ne]
    rintro rfl
    exact fixable noFix

/-- What takes a decoder or an encoder on the platform is a constructor. -/
theorem exists_constructor_of_takesCoder (resolved : (platform.call site).target = some target)
    (coder : target.method.takesCoder = true) :
    ∃ c ∈ platform.classes, ∃ m ∈ c.constructors, site.callee = .constructor c.name ∧
      target = platform.targetIn c true m c.constructors := by
  have explicit := Signature.givesEncoding_of_takesCoder coder
  have ofMethod {owner : TypeName} {name : String} {staticOnly : Bool}
      {arguments : List (Option TypeName)} (found : (platform.chain owner).findSome?
        (platform.methodIn? name staticOnly arguments) = some target) : False := by
    obtain ⟨c, member, m, memberM, -, -, -, rfl⟩ := method_of_findSome? found
    have declared := List.mem_of_find?_eq_some (find?_of_mem_chainAmong member)
    obtain ⟨noCoder, -⟩ := platform_givesEncoding_methods c declared m memberM explicit
    exact Bool.false_ne_true (noCoder.symm.trans coder)
  obtain ⟨callee, arguments, span, argumentList⟩ := site
  cases callee with
  | constructor owner =>
    obtain ⟨c, m, found, chosen, rfl⟩ := constructor_of_resolve? resolved
    obtain ⟨member, rfl⟩ := find?_name found
    exact ⟨c, member, m, (mem_of_select? chosen).1.1, rfl, rfl⟩
  | method receiver name => exact (ofMethod resolved).elim
  | static owner name => exact (ofMethod resolved).elim

/-- A call of a constructor that takes a decoder or an encoder is forbidden by the rule of its class. -/
theorem exists_rule_of_takesCoder (resolved : (platform.call site).target = some target)
    (coder : target.method.takesCoder = true) :
    ∃ rule ∈ Catalog.builtin.rules, rule.check (platform.call site) ≠ none := by
  obtain ⟨c, member, m, memberM, callee, rfl⟩ := exists_constructor_of_takesCoder resolved coder
  obtain ⟨named, otherEnd⟩ := (platform_givesEncoding_constructors c member m memberM
    (Signature.givesEncoding_of_takesCoder coder)).2 coder
  have receiver : (platform.call site).receiver = none := by simp [call, callee]
  let needs := [Fix.charsetObject defaultCharset, Fix.charsetName defaultCharset]
  have isRule : (Rule.constructorsOf c.name).needing needs ∈ Catalog.builtin.rules := by
    simp only [List.mem_cons, List.not_mem_nil, or_false] at named
    rcases named with reader | writer
    · simp [reader, Catalog.builtin, Catalog.withCharset, needs]
    · simp [writer, Catalog.builtin, Catalog.withCharset, needs]
  refine ⟨_, isRule, fun unmatched => ?_⟩
  obtain ⟨p, memberP, rejected⟩ := Rule.check_eq_none_iff.1 unmatched
  suffices accepted : p.isMatch (platform.call site) = true from
    Bool.false_ne_true (rejected.symm.trans accepted)
  rcases Rule.mem_needing_iff.1 memberP with own | ⟨fix, needed, rfl⟩
  · simp only [Rule.constructorsOf, Rule.membersOf, Rule.withPredicate, List.mem_append,
      List.mem_singleton] at own
    rcases own with rfl | rfl
    · rw [Predicate.isMatch_ofClass_of_target receiver resolved]
      exact beq_self_eq_true c.name
    · rw [Predicate.isMatch_isConstructor resolved]
      rfl
  · have isCharset : fix.providedType ∈ charsetTypes := by
      simp only [needs, List.mem_cons, List.not_mem_nil, or_false] at needed
      rcases needed with rfl | rfl <;> decide
    rw [Predicate.isMatch_needParameter resolved]
    simp [targetIn, otherEnd _ isCharset]

end ClassPath

namespace Inspection

open ClassPath (platform)

/-- **Who gives an encoding has no problem, but for coders.** Of the calls on the platform that are resolved
to a member which gives its encoding, those with a decoder or an encoder have a problem, and no other ones
do. -/
theorem check_givesEncoding_eq_nil_iff {site : CallSite} {target : Target}
    (resolved : (platform.call site).target = some target)
    (explicit : target.method.givesEncoding = true) :
    ({} : Inspection).check (platform.call site) = [] ↔ target.method.takesCoder = false := by
  have isResolved : (platform.call site).isResolved = true := by
    rw [Call.isResolved, resolved]
    rfl
  rw [check_eq_nil_iff rfl isResolved]
  constructor
  · intro silent
    cases coder : target.method.takesCoder with
    | false => rfl
    | true =>
      obtain ⟨rule, member, forbidden⟩ := ClassPath.exists_rule_of_takesCoder resolved coder
      exact absurd (silent rule member) forbidden
  · intro noCoder
    exact (ClassPath.allows_of_givesEncoding resolved explicit noCoder).silent

/-- What readers are resolved to, of something unknown with a charset and of a stream with a decoder. -/
theorem reader_targets :
    (∃ target ∈ (platform.call ⟨.constructor .inputStreamReader, [none, some .charset], none, none⟩
      ).target, target.method.givesEncoding = true ∧ target.method.takesCoder = false) ∧
    ∃ target ∈ (platform.call ⟨.constructor .inputStreamReader,
        [some .inputStream, some .charsetDecoder], none, none⟩).target,
      target.method.takesCoder = true := by
  decide +kernel

/-- `new InputStreamReader(unknown, charset)` passes. -/
theorem check_givesEncoding_charset :
    ∃ target, (platform.call ⟨.constructor .inputStreamReader, [none, some .charset], none, none⟩
      ).target = some target ∧ target.method.givesEncoding = true ∧
    ({} : Inspection).check (platform.call
      ⟨.constructor .inputStreamReader, [none, some .charset], none, none⟩) = [] := by
  obtain ⟨⟨target, resolved, explicit, noCoder⟩, -⟩ := reader_targets
  exact ⟨target, resolved, explicit, (check_givesEncoding_eq_nil_iff resolved explicit).2 noCoder⟩

/-- `new InputStreamReader(in, decoder)` does not pass. -/
theorem check_decoder_ne_nil :
    (∃ target ∈ (platform.call ⟨.constructor .inputStreamReader,
        [some .inputStream, some .charsetDecoder], none, none⟩).target,
      target.method.givesEncoding = true) ∧
    ({} : Inspection).check (platform.call ⟨.constructor .inputStreamReader,
      [some .inputStream, some .charsetDecoder], none, none⟩) ≠ [] := by
  obtain ⟨-, target, resolved, coder⟩ := reader_targets
  obtain ⟨rule, member, forbidden⟩ := ClassPath.exists_rule_of_takesCoder resolved coder
  refine ⟨⟨target, resolved, Signature.givesEncoding_of_takesCoder coder⟩, fun silent => ?_⟩
  have isResolved := Option.isSome_iff_exists.2 ⟨target, resolved⟩
  exact forbidden ((check_eq_nil_iff rfl isResolved).1 silent rule member)

end Inspection

end EncodingLint
