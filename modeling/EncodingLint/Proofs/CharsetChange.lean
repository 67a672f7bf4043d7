import EncodingLint.Proofs.Related
import EncodingLint.Proofs.RuleOutline
import EncodingLint.Proofs.SkippedRules

/-!
# Another charset

The charset of the settings is what fixes insert. It decides neither which rules forbid a call nor which kinds of
fixes they offer: `RuleOutline.kinds?` finds out both without a charset, and a rule offers these kinds for its own
one (`RuleOutline.check_toRule`). A fix is dropped if it is among the others already, and fixes of different
kinds differ for every charset, so no charset makes more of them disappear than another. Two reports of a call
under different charsets therefore agree in all but the text of their fixes (`check_withCharset`).
-/

set_option autoImplicit false

namespace EncodingLint

open Outcome (error?)

variable {call : Call} {charset : String} {kind : FixKind} {kinds : List FixKind}

namespace FixKind

/-- The charset says nothing about the type of a fix. -/
theorem providedType_toFix (a b : String) (kind : FixKind) :
    (kind.toFix a).providedType = (kind.toFix b).providedType := by
  cases kind <;> rfl

/-- For one charset, fixes of different kinds differ: they do not provide the same type. -/
theorem toFix_injective (charset : String) : Function.Injective (toFix charset) := by
  have types : TypeName.charset ≠ TypeName.string := by decide
  intro a b same
  have provided := congrArg Fix.providedType same
  cases a <;> cases b
  · rfl
  · exact absurd provided types
  · exact absurd provided types.symm
  · rfl

/-- What becomes of the kinds of fixes so far if a call has to have a parameter of one more kind. -/
def require (call : Call) (kinds : List FixKind) (kind : FixKind) : Option (List FixKind) :=
  match Predicate.needVerdict call (kind.toFix defaultCharset) with
  | .rejected => none
  | .accepted => some kinds
  | .acceptedWithFix _ => some (if kinds.contains kind then kinds else kinds ++ [kind])

end FixKind

/-- Whether a fix is needed, and whether an overload takes it, does not depend on the charset. -/
theorem Predicate.needVerdict_toFix (call : Call) (a b : String) (kind : FixKind) :
    needVerdict call (kind.toFix b) = match needVerdict call (kind.toFix a) with
      | .acceptedWithFix _ => .acceptedWithFix (kind.toFix b)
      | verdict => verdict := by
  unfold needVerdict
  cases call.target with
  | none => rfl
  | some target =>
    have fixable : isFixable target (kind.toFix a) = isFixable target (kind.toFix b) := by
      rw [isFixable, isFixable, FixKind.providedType_toFix a b]
    dsimp only
    rw [FixKind.providedType_toFix a b, fixable]
    split
    · rfl
    · split <;> rfl

/-! ## Rules -/

namespace Rule

variable {init : List Fix} {predicates : List Predicate}

/-- One verdict adds the fix of a kind for the charset if it adds the kind. -/
theorem addVerdict_toFix :
    addVerdict (kinds.map (FixKind.toFix charset)) (Predicate.needVerdict call (kind.toFix charset)) =
      (FixKind.require call kinds kind).map (List.map (FixKind.toFix charset)) := by
  unfold FixKind.require
  rw [Predicate.needVerdict_toFix call defaultCharset charset]
  cases Predicate.needVerdict call (kind.toFix defaultCharset) with
  | rejected => rfl
  | accepted => rfl
  | acceptedWithFix fix =>
    have listed : (kinds.map (FixKind.toFix charset)).contains (kind.toFix charset) =
        kinds.contains kind := by
      rw [Bool.eq_iff_iff, List.contains_iff_mem, List.contains_iff_mem,
        List.mem_map_of_injective (FixKind.toFix_injective charset)]
    simp only [addVerdict, listed, Option.map_some]
    split <;> simp

/-- All parameters that a rule asks for add their fixes for the charset if they add their kinds. -/
theorem foldlM_needParameter {need : List FixKind} :
    (need.map fun kind => Predicate.needParameter (kind.toFix charset)).foldlM
        (fun fixes p => addVerdict fixes (p.evaluate call)) (kinds.map (FixKind.toFix charset)) =
      (need.foldlM (FixKind.require call) kinds).map
        (List.map (FixKind.toFix charset)) := by
  induction need generalizing kinds with
  | nil => rfl
  | cons kind need ih =>
    rw [List.map_cons, List.foldlM_cons, List.foldlM_cons]
    change addVerdict _ (Predicate.needVerdict call (kind.toFix charset)) >>= _ = _
    rw [addVerdict_toFix]
    cases FixKind.require call kinds kind with
    | none => rfl
    | some kinds => exact ih

/-- Plain predicates let the fixes through as they are, or stop the check. -/
theorem foldlM_of_isPlain (plain : predicates.all Predicate.isPlain = true) :
    predicates.foldlM (fun fixes p => addVerdict fixes (p.evaluate call)) init =
      if predicates.all (·.isMatch call) then some init else none := by
  have silent : predicates.filterMap (Predicate.offer? call) = [] := by
    rw [List.filterMap_eq_nil_iff]
    intro p member
    exact Predicate.offer?_of_isPlain (List.all_eq_true.1 plain p member)
  simp [foldlM_eq, silent, added]

end Rule

namespace RuleOutline

variable {o : RuleOutline}

/-- The kinds of fixes to offer for a call, if the rule forbids it. -/
def kinds? (o : RuleOutline) (call : Call) : Option (List FixKind) :=
  if o.narrowing.all (·.isMatch call) then
    o.need.foldlM (FixKind.require call) o.fixes
  else
    none

/-- A rule offers the kinds of its outline, for its charset. -/
theorem check_toRule :
    (o.toRule charset).check call = (o.kinds? call).map (List.map (FixKind.toFix charset)) := by
  rw [Rule.check, toRule, List.foldlM_append, Rule.foldlM_of_isPlain o.plain, kinds?]
  split
  · exact Rule.foldlM_needParameter
  · rfl

end RuleOutline

/-! ## Catalogs -/

namespace RuleSpec

variable {spec : RuleSpec}

/-- Whether a rule can be built does not depend on the charset. -/
theorem error?_toRule_eq (spec : RuleSpec) (a b : String) :
    error? (spec.toRule a) = error? (spec.toRule b) :=
  error?_toRule.trans error?_toRule.symm

/-- The outline of a rule that can be built. -/
def outline? (spec : RuleSpec) : Option RuleOutline :=
  if (error? (spec.toRule defaultCharset)).isSome then none else some spec.outline

theorem toOption_toRule :
    (spec.toRule charset).toOption = spec.outline?.map fun o => o.toRule charset := by
  rw [outline?, error?_toRule_eq spec defaultCharset charset]
  cases built : spec.toRule charset with
  | error cause => rfl
  | ok r =>
    rw [eq_of_toRule built]
    rfl

end RuleSpec

namespace Settings

/-- The same settings with another charset. -/
def withCharset (s : Settings) (charset : String) : Settings :=
  { s with inspection := { s.inspection with charset := charset } }

/-- The rules of a catalog but for the charset: the built-in ones, and those of the user that can be
built. -/
def outlines (s : Settings) : List RuleOutline :=
  Catalog.outlines ++ s.rules.filterMap RuleSpec.outline?

theorem outlines_withCharset (s : Settings) (charset : String) :
    (s.withCharset charset).outlines = s.outlines :=
  rfl

end Settings

namespace Catalog

variable {s : Settings}

/-- A catalog is made of outlines, with the charset of the settings filled in. -/
theorem rules_ofSettings :
    (ofSettings s).rules = s.outlines.map fun o => o.toRule s.inspection.effectiveCharset := by
  have own : (userRules s).filterMap Except.toOption =
      s.rules.filterMap fun spec => (spec.toRule s.inspection.effectiveCharset).toOption := by
    conv_rhs => rw [← List.zipIdx_map_fst 0 s.rules]
    rw [userRules, List.filterMap_map, List.filterMap_map]
    congr 1
    funext entry
    dsimp only [Function.comp_apply]
    cases entry.1.toRule s.inspection.effectiveCharset <;> rfl
  rw [ofSettings, withCharset_eq, own, Settings.outlines, List.map_append, List.map_filterMap]
  simp only [RuleSpec.toOption_toRule]

/-- The rules that are skipped are those that cannot be built, each with the cause. -/
theorem skipped_eq :
    skipped s = s.rules.zipIdx.filterMap fun entry =>
      (error? (entry.1.toRule s.inspection.effectiveCharset)).map fun cause => (entry.2, cause) := by
  rw [skipped, userRules, List.filterMap_map]
  congr 1
  funext entry
  dsimp only [Function.comp_apply]
  cases entry.1.toRule s.inspection.effectiveCharset <;> rfl

end Catalog

/-! ## Reports -/

/-- Problems that differ in the charset that their fixes insert, and in nothing else. Code and message are
the same for all problems anyway. -/
structure Problem.Recharged (a b : String) (p q : Problem) : Prop where
  rule : p.rule = q.rule
  severity : p.severity = q.severity
  span : p.span = q.span
  call : p.call = q.call
  types : p.fixes.map Fix.providedType = q.fixes.map Fix.providedType
  kinds : ∃ kinds : List FixKind,
    p.fixes = kinds.map (FixKind.toFix a) ∧ q.fixes = kinds.map (FixKind.toFix b)

namespace Inspection

/-- The rules of one outline report a call alike. -/
theorem report?_recharged {i j : Inspection} (severity : i.severity = j.severity) (a b : String)
    (o : RuleOutline) (index : Nat) :
    Option.Rel (Problem.Recharged a b) (i.report? call (o.toRule a, index))
      (j.report? call (o.toRule b, index)) := by
  simp only [report?, RuleOutline.check_toRule]
  cases o.kinds? call with
  | none => exact .none
  | some kinds =>
    refine .some ⟨rfl, severity, rfl, rfl, ?_, kinds, rfl, rfl⟩
    simp only [List.map_map]
    exact List.map_congr_left fun kind _ => FixKind.providedType_toFix a b kind

/-- **The charset of the settings decides what fixes insert, and nothing else.** Under any two charsets the same
rules report a call, in the same order and with fixes of the same kinds, each for its charset; and the same
rules of the user are skipped. -/
theorem check_withCharset (s : Settings) (a b : String) (call : Call) :
    List.Forall₂
      (Problem.Recharged (s.withCharset a).inspection.effectiveCharset
        (s.withCharset b).inspection.effectiveCharset)
      ((ofSettings (s.withCharset a)).check call) ((ofSettings (s.withCharset b)).check call) ∧
    Catalog.skipped (s.withCharset a) = Catalog.skipped (s.withCharset b) := by
  constructor
  · refine check_rel rfl rfl rfl (r := fun x y => ∃ o index,
      x = (RuleOutline.toRule o (s.withCharset a).inspection.effectiveCharset, index) ∧
      y = (RuleOutline.toRule o (s.withCharset b).inspection.effectiveCharset, index)) ?_ ?_
    · change List.Forall₂ _ (Catalog.ofSettings _).rules.zipIdx (Catalog.ofSettings _).rules.zipIdx
      rw [Catalog.rules_ofSettings, Catalog.rules_ofSettings, Settings.outlines_withCharset,
        Settings.outlines_withCharset, List.zipIdx_map, List.zipIdx_map, List.forall₂_map_left_iff,
        List.forall₂_map_right_iff]
      exact List.forall₂_same.2 fun ⟨o, index⟩ _ => ⟨o, index, rfl, rfl⟩
    · rintro x y ⟨o, index, rfl, rfl⟩
      have severity (c : String) : (ofSettings (s.withCharset c)).severity = s.inspection.severity := rfl
      exact report?_recharged ((severity a).trans (severity b).symm) _ _ o index
  · rw [Catalog.skipped_eq, Catalog.skipped_eq]
    simp only [RuleSpec.error?_toRule_eq _ (s.withCharset a).inspection.effectiveCharset
      (s.withCharset b).inspection.effectiveCharset]
    rfl

end Inspection

end EncodingLint
