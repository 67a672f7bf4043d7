import Mathlib.Data.List.Forall2
import EncodingLint.Proofs.Reports

/-!
# Two inspections side by side

If two things are compared step by step, what comes out of them can be as well: along related lists the first
results are related (`findSome?_rel`), and so are all results (`filterMap_rel`). Two inspections of which rule by
rule the reports are related thus find related problems (`Inspection.check_rel`).
-/

set_option autoImplicit false

namespace EncodingLint

theorem optionRel_none_iff {α β : Type} {r : α → β → Prop} {o : Option β} :
    Option.Rel r none o ↔ o = none := by
  constructor
  · rintro ⟨⟩
    rfl
  · rintro rfl
    exact .none

theorem optionRel_some_iff {α β : Type} {r : α → β → Prop} {a : α} {o : Option β} :
    Option.Rel r (some a) o ↔ ∃ b, o = some b ∧ r a b := by
  constructor
  · rintro ⟨related⟩
    exact ⟨_, rfl, related⟩
  · rintro ⟨b, rfl, related⟩
    exact .some related

/-- Along related lists, the first results are related if the results are, one by one. -/
theorem findSome?_rel {α β γ δ : Type} {r : α → β → Prop} {r' : γ → δ → Prop} {f : α → Option γ}
    {g : β → Option δ} {as : List α} {bs : List β} (lists : List.Forall₂ r as bs)
    (results : ∀ a b, r a b → Option.Rel r' (f a) (g b)) :
    Option.Rel r' (as.findSome? f) (bs.findSome? g) := by
  induction lists with
  | nil => exact .none
  | @cons a b as bs related rest ih =>
    have head := results a b related
    cases first : f a with
    | none =>
      rw [first, optionRel_none_iff] at head
      simp only [List.findSome?_cons, first, head]
      exact ih
    | some c =>
      rw [first, optionRel_some_iff] at head
      obtain ⟨d, second, related⟩ := head
      simp only [List.findSome?_cons, first, second]
      exact .some related

/-- Along related lists, all results are related if the results are, one by one. -/
theorem filterMap_rel {α β γ δ : Type} {r : α → β → Prop} {r' : γ → δ → Prop} {f : α → Option γ}
    {g : β → Option δ} {as : List α} {bs : List β} (lists : List.Forall₂ r as bs)
    (results : ∀ a b, r a b → Option.Rel r' (f a) (g b)) :
    List.Forall₂ r' (as.filterMap f) (bs.filterMap g) := by
  induction lists with
  | nil => exact .nil
  | @cons a b as bs related rest ih =>
    have head := results a b related
    cases first : f a with
    | none =>
      rw [first, optionRel_none_iff] at head
      simpa only [List.filterMap_cons, first, head] using ih
    | some c =>
      rw [first, optionRel_some_iff] at head
      obtain ⟨d, second, related⟩ := head
      simpa only [List.filterMap_cons, first, second] using .cons related ih

theorem forall₂_toList {α β : Type} {r : α → β → Prop} {a : Option α} {b : Option β}
    (related : Option.Rel r a b) : List.Forall₂ r a.toList b.toList := by
  cases related with
  | none => exact .nil
  | some related => exact .cons related .nil

/-- Inspections that run in the same way, with catalogs related rule by rule, report related problems. -/
theorem Inspection.check_rel {i j : Inspection} {a b : Call} {r : Rule × Nat → Rule × Nat → Prop}
    {r' : Problem → Problem → Prop} (enabled : i.enabled = j.enabled)
    (matchMode : i.matchMode = j.matchMode) (resolved : a.isResolved = b.isResolved)
    (rules : List.Forall₂ r i.catalog.rules.zipIdx j.catalog.rules.zipIdx)
    (reports : ∀ x y, r x y → Option.Rel r' (i.report? a x) (j.report? b y)) :
    List.Forall₂ r' (i.check a) (j.check b) := by
  cases inspected : i.enabled && a.isResolved with
  | false =>
    rw [check_eq_nil_of_skipped inspected, check_eq_nil_of_skipped (by rw [← enabled, ← resolved, inspected])]
    exact .nil
  | true =>
    have inspected' : (j.enabled && b.isResolved) = true := by rw [← enabled, ← resolved, inspected]
    cases mode : i.matchMode with
    | first =>
      rw [check_of_first mode inspected, check_of_first (matchMode.symm.trans mode) inspected']
      exact forall₂_toList (findSome?_rel rules reports)
    | all =>
      rw [check_of_all mode inspected, check_of_all (matchMode.symm.trans mode) inspected']
      exact filterMap_rel rules reports

end EncodingLint
