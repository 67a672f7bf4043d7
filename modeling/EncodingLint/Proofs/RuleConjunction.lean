import Mathlib.Data.List.Perm.Basic
import EncodingLint.ClassPath.Platform
import EncodingLint.Proofs.Reports

/-!
# A rule as a conjunction

The check of a rule goes through its predicates one by one, stops at the first that rejects the call, and collects
fixes on the way. The order of the predicates does not matter for whether it goes through, and for the fixes it
matters only in what order they are offered (`Rule.check_perm`). Only the predicates that ask for a parameter offer
fixes, so it is their order that counts (`Rule.check_eq_of_filter_eq`).
-/

set_option autoImplicit false

namespace EncodingLint

variable {call : Call} {p : Predicate} {fix : Fix} {r : Rule} {predicates before after : List Predicate}
  {fixes listed offered offered' : List Fix}

namespace Predicate

/-- Fixes are offered by the predicates that ask for a parameter, and by no other. -/
theorem filterMap_offer?_eq :
    predicates.filterMap (offer? call) =
      (predicates.filter fun p => !p.isPlain).filterMap (offer? call) := by
  rw [List.filterMap_filter]
  congr 1
  funext p
  cases plain : p.isPlain with
  | true => simp [offer?_of_isPlain plain]
  | false => simp

end Predicate

namespace Rule

/-! ## Fixes in another order -/

/-- What is left after the repetitions were removed has none. -/
theorem nodup_eraseDups : ∀ fixes : List Fix, fixes.eraseDups.Nodup
  | [] => List.nodup_nil
  | fix :: fixes => by
    rw [List.eraseDups_cons, List.nodup_cons, List.mem_eraseDups]
    refine ⟨?_, nodup_eraseDups (fixes.filter fun f => !f == fix)⟩
    simp
termination_by fixes => fixes.length
decreasing_by exact Nat.lt_succ_of_le (List.length_filter_le _ _)

theorem nodup_added : (added listed offered).Nodup :=
  nodup_eraseDups _

theorem added_perm (perm : offered.Perm offered') : (added listed offered).Perm (added listed offered') := by
  rw [List.perm_ext_iff_of_nodup nodup_added nodup_added]
  intro fix
  rw [mem_added_iff, mem_added_iff, perm.mem_iff]

/-! ## Predicates in another order -/

/-- With its predicates in another order, a rule forbids the same calls and offers the same fixes in some order. -/
theorem check_perm (perm : predicates.Perm r.predicates) :
    Option.Rel List.Perm (check ⟨predicates, r.fixes⟩ call) (r.check call) := by
  rw [check_eq, check_eq, perm.all_eq]
  split
  · have offers := perm.filterMap (Predicate.offer? call)
    exact .some ((added_perm offers).append_left r.fixes)
  · exact .none

theorem check_eq_of_filter_eq (perm : predicates.Perm r.predicates)
    (need : predicates.filter (fun p => !p.isPlain) = r.predicates.filter fun p => !p.isPlain) :
    check ⟨predicates, r.fixes⟩ call = r.check call := by
  have offers : predicates.filterMap (Predicate.offer? call) =
      r.predicates.filterMap (Predicate.offer? call) := by
    rw [Predicate.filterMap_offer?_eq, need, ← Predicate.filterMap_offer?_eq]
  rw [check_eq, check_eq, perm.all_eq, offers]

/-- Without a predicate that offers no fix, a rule that forbids a call offers the same. -/
theorem check_without (plain : p.isPlain = true)
    (checked : check ⟨before ++ p :: after, listed⟩ call = some fixes) :
    check ⟨before ++ after, listed⟩ call = some fixes := by
  obtain ⟨accepted, rfl⟩ := check_eq_some_iff.1 checked
  refine check_eq_some_iff.2 ⟨fun q member => ?_, ?_⟩
  · rcases List.mem_append.1 member with earlier | later
    · exact accepted q (List.mem_append_left _ earlier)
    · exact accepted q (List.mem_append_right _ (List.mem_cons_of_mem p later))
  · rw [List.filterMap_append, List.filterMap_append, List.filterMap_cons,
      Predicate.offer?_of_isPlain plain]

/-- **A rule is a conjunction.** It forbids a call if and only if each of its predicates accepts the call, and it
offers its own fixes and then those that its predicates offer, in their order and each once, unless it is one of its
own. Fixes are offered by predicates that ask for a parameter, and by these only for what they ask for. In another
order of the predicates the rule forbids the same calls, and offers the same fixes in some order; in the same order
if the predicates that ask for a parameter keep theirs. A negation offers nothing, whatever it negates. -/
theorem check_conjunction (r : Rule) (call : Call) :
    ((r.check call).isSome = true ↔ ∀ p ∈ r.predicates, p.isMatch call = true) ∧
    (∀ fixes, r.check call = some fixes →
      fixes = r.fixes ++ added r.fixes (r.predicates.filterMap (Predicate.offer? call))) ∧
    (∀ p fix, Predicate.offer? call p = some fix ↔
      p = .needParameter fix ∧ p.evaluate call = .acceptedWithFix fix) ∧
    (∀ predicates, predicates.Perm r.predicates →
      isMatch ⟨predicates, r.fixes⟩ call = r.isMatch call ∧
      Option.Rel List.Perm (check ⟨predicates, r.fixes⟩ call) (r.check call) ∧
      (predicates.filter (fun p => !p.isPlain) = r.predicates.filter (fun p => !p.isPlain) →
        check ⟨predicates, r.fixes⟩ call = r.check call)) ∧
    (∀ before inner after fixes, r.predicates = before ++ .not inner :: after →
      r.check call = some fixes → check ⟨before ++ after, r.fixes⟩ call = some fixes) := by
  refine ⟨isMatch_iff, fun fixes checked => (check_eq_some_iff.1 checked).2, fun p fix => ?_,
    fun predicates perm => ⟨?_, check_perm perm, check_eq_of_filter_eq perm⟩,
    fun before inner after fixes split checked => ?_⟩
  · rw [Predicate.offer?_eq_some_iff]
    constructor
    · intro offered
      exact ⟨(Predicate.eq_needParameter_of_fix offered).1, offered⟩
    · rintro ⟨-, offered⟩
      exact offered
  · rw [Bool.eq_iff_iff, isMatch_iff, isMatch_iff]
    constructor
    · intro accepted p member
      exact accepted p (perm.mem_iff.2 member)
    · intro accepted p member
      exact accepted p (perm.mem_iff.1 member)
  · have whole : check ⟨before ++ .not inner :: after, r.fixes⟩ call = some fixes := by
      rw [← split]
      exact checked
    exact check_without rfl whole

/-- `new PrintStream(out, true)`, for which two charsets are offered, one of them by two predicates. -/
theorem check_conjunction_printStream :
    let call := ClassPath.platform.call
      ⟨.constructor .printStream, [some .outputStream, some .boolean], none, none⟩
    let utf := Predicate.needParameter (.charsetName "UTF-8")
    let latin := Predicate.needParameter (.charsetName "ISO-8859-1")
    let flushing := Predicate.not (.needParameter ⟨.boolean, "true"⟩)
    let r : Rule := ⟨[utf, flushing, latin, utf], []⟩
    r.check call = some [.charsetName "UTF-8", .charsetName "ISO-8859-1"] ∧
    ([latin, utf, utf, flushing].Perm r.predicates ∧
      check ⟨[latin, utf, utf, flushing], []⟩ call =
        some [.charsetName "ISO-8859-1", .charsetName "UTF-8"] ∧
      Option.Rel List.Perm (check ⟨[latin, utf, utf, flushing], []⟩ call) (r.check call)) ∧
    ([flushing, utf, latin, utf].Perm r.predicates ∧
      check ⟨[flushing, utf, latin, utf], []⟩ call = r.check call) ∧
    check ⟨[utf, latin, utf], []⟩ call = r.check call := by
  intro call utf latin flushing r
  have evaluated : r.check call = some [.charsetName "UTF-8", .charsetName "ISO-8859-1"] ∧
      check ⟨[latin, utf, utf, flushing], []⟩ call =
        some [.charsetName "ISO-8859-1", .charsetName "UTF-8"] := by
    decide +kernel
  obtain ⟨checked, backwards⟩ := evaluated
  obtain ⟨-, -, -, permuted, negated⟩ := check_conjunction r call
  have perm : [latin, utf, utf, flushing].Perm r.predicates := by decide
  have perm' : [flushing, utf, latin, utf].Perm r.predicates := .swap utf flushing [latin, utf]
  refine ⟨checked, ⟨perm, backwards, (permuted _ perm).2.1⟩, ⟨perm', (permuted _ perm').2.2 rfl⟩, ?_⟩
  rw [checked]
  exact negated [utf] (.needParameter ⟨.boolean, "true"⟩) [latin, utf] _ rfl checked

end Rule

end EncodingLint
