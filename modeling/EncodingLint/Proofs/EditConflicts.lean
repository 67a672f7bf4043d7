import Mathlib.Data.List.Nodup
import EncodingLint.Proofs.EditList

/-!
# Which edits go together, and in what order

Edits are compared with their neighbours in the order of their ranges only. This is enough: of edits
that do not clash with the next one, no two clash (`not_clashes_trans`), and a clash of two edits in
order is all that keeps them from being made together (`compatible_iff`). So a list of edits is accepted
if its edits are `Compatible` two by two, whatever their order (`together_iff`). The checks look at ranges
alone (`verify_map_bare`), and no range occurs twice in an accepted list (`sort_eq_of_perm`), so the order
does not matter to the result either.
-/

set_option autoImplicit false

namespace EncodingLint.Edit
open Outcome

variable {text : Text} {a b c : Edit} {edits others sorted : List Edit}

/-- Two edits that can be made together: one ends where the other starts or before it, and they do not
both put text in at one offset. -/
structure Compatible (a b : Edit) : Prop where
  apart : a.range.stop ≤ b.range.start ∨ b.range.stop ≤ a.range.start
  ordered : ¬ (a.isInsert = true ∧ b.isInsert = true ∧ a.range.start = b.range.start)

/-- Edits that can be made together: each ends within the text with both ends on boundaries, and any two
of them are compatible. -/
structure Together (text : Text) (edits : List Edit) : Prop where
  bounded : ∀ e ∈ edits, e.range.stop ≤ Text.byteSize text
  within : ∀ e ∈ edits, Within text e
  compatible : edits.Pairwise Compatible

/-! ## The order of ranges -/

theorem isInsert_iff : a.isInsert = true ↔ a.range.start = a.range.stop := by
  simp [isInsert, TextRange.isEmpty]

theorem le_iff :
    le a b = true ↔
      a.range.start < b.range.start ∨
        (a.range.start = b.range.start ∧ a.range.stop ≤ b.range.stop) := by
  simp [le]

theorem sort_perm (edits : List Edit) : (sort edits).Perm edits :=
  List.mergeSort_perm edits le

theorem sort_perm_sort (same : edits.Perm others) : (sort edits).Perm (sort others) :=
  (sort_perm edits).trans (same.trans (sort_perm others).symm)

/-- Sorted edits stand in the order of their ranges. -/
theorem pairwise_sort (edits : List Edit) : (sort edits).Pairwise fun a b => le a b = true := by
  apply List.pairwise_mergeSort
  · intro a b c first second
    rw [le_iff] at first second ⊢
    omega
  · intro a b
    rw [Bool.or_eq_true, le_iff, le_iff]
    omega

theorem range_eq_of_le (first : le a b = true) (second : le b a = true) : a.range = b.range := by
  rw [le_iff] at first second
  obtain ⟨⟨start, stop, _⟩, _⟩ := a
  obtain ⟨⟨start', stop', _⟩, _⟩ := b
  simp only [TextRange.mk.injEq] at first second ⊢
  omega

/-! ## Neighbours and pairs -/

/-- An insert between two others at its offset would clash with the first of them. -/
theorem not_clashes_trans (first : clashes a b = false) (second : clashes b c = false) :
    clashes a c = false := by
  have start_le_stop := b.range.start_le_stop
  rw [clashes_eq_false_iff, isInsert_iff, isInsert_iff] at first second ⊢
  omega

/-- If no edit clashes with the next one, no two clash. -/
theorem isChain_iff_pairwise :
    (edits.IsChain fun a b => clashes a b = false) ↔
      edits.Pairwise fun a b => clashes a b = false := by
  have : Trans (fun a b => clashes a b = false) (fun a b => clashes a b = false)
      fun a b => clashes a b = false := ⟨not_clashes_trans⟩
  exact List.isChain_iff_pairwise

theorem Compatible.symm (h : Compatible a b) : Compatible b a := by
  refine ⟨h.apart.symm, ?_⟩
  rintro ⟨first, second, same⟩
  exact h.ordered ⟨second, first, same.symm⟩

/-- Two edits in the order of their ranges are compatible unless they clash. -/
theorem compatible_iff (ordered : le a b = true) : Compatible a b ↔ clashes a b = false := by
  have start_le_stop := b.range.start_le_stop
  rw [le_iff] at ordered
  rw [clashes_eq_false_iff]
  constructor
  · rintro ⟨apart, different⟩
    -- The second edit can end before the first only if both are empty and at one offset.
    exact ⟨by omega, different⟩
  · rintro ⟨apart, different⟩
    exact ⟨.inl apart, different⟩

theorem pairwise_compatible_sort_iff :
    (sort edits).Pairwise Compatible ↔ (sort edits).Pairwise fun a b => clashes a b = false := by
  have ordered := pairwise_sort edits
  constructor
  · intro compatible
    exact (ordered.and compatible).imp fun ⟨le, compatible⟩ => (compatible_iff le).1 compatible
  · intro apart
    exact (ordered.and apart).imp fun ⟨le, apart⟩ => (compatible_iff le).2 apart

theorem pairwise_compatible_iff :
    edits.Pairwise Compatible ↔ (sort edits).IsChain fun a b => clashes a b = false := by
  rw [isChain_iff_pairwise, ← pairwise_compatible_sort_iff]
  exact ((sort_perm edits).pairwise_iff Compatible.symm).symm

theorem together_iff :
    Together text edits ↔ normalize text edits = .ok (sort edits) := by
  rw [normalize_eq_ok_iff, ← pairwise_compatible_iff]
  simp only [(sort_perm edits).mem_iff, true_and]
  constructor
  · intro together
    exact ⟨together.within, together.compatible⟩
  · rintro ⟨within, compatible⟩
    refine ⟨fun e member => ?_, within, compatible⟩
    exact Text.le_byteSize_of_isBoundary (within e member).stop

theorem exists_normalize_iff :
    (∃ sorted, normalize text edits = .ok sorted) ↔ normalize text edits = .ok (sort edits) := by
  constructor
  · rintro ⟨sorted, accepted⟩
    obtain ⟨rfl, -⟩ := normalize_eq_ok_iff.1 accepted
    exact accepted
  · intro accepted
    exact ⟨_, accepted⟩

theorem exists_applyAll_iff :
    (∃ result, applyAll text edits = .ok result) ↔ ∃ sorted, normalize text edits = .ok sorted := by
  simp only [applyAll, bind_eq_ok_iff, pure_eq_ok_iff]
  constructor
  · rintro ⟨_, sorted, accepted, -⟩
    exact ⟨sorted, accepted⟩
  · rintro ⟨sorted, accepted⟩
    exact ⟨_, sorted, accepted, rfl⟩

/-- **Edits are accepted if they go together two by two.** They can be sorted and checked, and so applied, if
and only if each lies within the text and any two are compatible. -/
theorem applyAll_succeeds_iff (text : Text) (edits : List Edit) :
    ((∃ sorted, normalize text edits = .ok sorted) ↔ Together text edits) ∧
      ((∃ result, applyAll text edits = .ok result) ↔ Together text edits) := by
  rw [exists_applyAll_iff, exists_normalize_iff, together_iff]
  exact ⟨Iff.rfl, Iff.rfl⟩

/-! ## Other orders -/

theorem clashes_of_range_eq (same : a.range = b.range) : clashes a b = true := by
  have start_le_stop := a.range.start_le_stop
  by_contra apart
  rw [Bool.not_eq_true, clashes_eq_false_iff, isInsert_iff, isInsert_iff, ← same] at apart
  omega

/-- Edits that go together have different ranges, so that only one order of them is sorted. -/
theorem sort_eq_of_perm (apart : (sort edits).Pairwise fun a b => clashes a b = false)
    (same : edits.Perm others) : sort edits = sort others := by
  have perm := sort_perm_sort same
  have distinct : ((sort edits).map Edit.range).Nodup := by
    rw [List.Nodup, List.pairwise_map]
    refine apart.imp fun {a b} apart range_eq => ?_
    rw [clashes_of_range_eq range_eq] at apart
    cases apart
  refine perm.eq_of_pairwise ?_ (pairwise_sort edits) (pairwise_sort others)
  intro a b memberA memberB first second
  have memberB := perm.mem_iff.2 memberB
  exact List.inj_on_of_nodup_map distinct memberA memberB (range_eq_of_le first second)

/-- An edit without its replacement. -/
def bare (e : Edit) : Edit :=
  { e with replacement := [] }

/-- All checks of edits in order. -/
def verify (text : Text) (sorted : List Edit) : Except EditError Unit := do
  sorted.forM (checkBounds text)
  checkOverlaps sorted

theorem normalize_eq_verify :
    normalize text edits = (verify text (sort edits)).map fun _ => sort edits := by
  simp only [normalize, verify]
  generalize sort edits = sorted
  cases sorted.forM (checkBounds text) with
  | error cause => rfl
  | ok _ =>
    cases checkOverlaps sorted with
    | error cause => rfl
    | ok _ => rfl

theorem forM_map_bare :
    (sorted.map bare).forM (checkBounds text) = sorted.forM (checkBounds text) := by
  induction sorted with
  | nil => rfl
  | cons e rest ih =>
    change (checkBounds text e >>= fun _ => (rest.map bare).forM _) =
      checkBounds text e >>= fun _ => rest.forM _
    rw [ih]

theorem checkOverlaps_map_bare : checkOverlaps (sorted.map bare) = checkOverlaps sorted := by
  fun_induction checkOverlaps sorted with
  | case1 first second rest clash =>
    have clash : clashes first.bare second.bare = true := clash
    rw [List.map_cons, List.map_cons, checkOverlaps, if_pos clash]
    rfl
  | case2 first second rest apart ih =>
    have apart : ¬ clashes first.bare second.bare = true := apart
    rw [List.map_cons, List.map_cons, checkOverlaps, if_neg apart]
    exact ih
  | case3 sorted short =>
    match sorted, short with
    | [], _ => rfl
    | [e], _ => rfl
    | a :: b :: rest, short => exact (short a b rest rfl).elim

/-- The checks and what they fail with depend on the ranges alone. -/
theorem verify_map_bare : verify text (sorted.map bare) = verify text sorted := by
  rw [verify, verify, forM_map_bare, checkOverlaps_map_bare]

/-- In any order the same ranges are checked, one after the other. -/
theorem map_bare_sort_eq (same : edits.Perm others) :
    (sort edits).map bare = (sort others).map bare := by
  have ordered (edits : List Edit) : ((sort edits).map bare).Pairwise fun a b => le a b = true :=
    List.pairwise_map.2 (pairwise_sort edits)
  refine ((sort_perm_sort same).map bare).eq_of_pairwise ?_ (ordered edits) (ordered others)
  intro _ _ memberA memberB first second
  obtain ⟨a, -, rfl⟩ := List.mem_map.1 memberA
  obtain ⟨b, -, rfl⟩ := List.mem_map.1 memberB
  have same : a.range = b.range := range_eq_of_le first second
  rw [bare, bare, same]

theorem normalize_perm (same : edits.Perm others) : normalize text edits = normalize text others := by
  have checked : verify text (sort edits) = verify text (sort others) := by
    rw [← verify_map_bare, map_bare_sort_eq same, verify_map_bare]
  rw [normalize_eq_verify, normalize_eq_verify, ← checked]
  cases accepted : verify text (sort edits) with
  | error cause => rfl
  | ok _ =>
    have chain : (sort edits).IsChain fun a b => clashes a b = false := by
      obtain ⟨-, -, overlaps⟩ := bind_eq_ok_iff.1 accepted
      exact checkOverlaps_eq_ok_iff.1 overlaps
    rw [sort_eq_of_perm (isChain_iff_pairwise.1 chain) same]

/-- **The order of edits does not matter.** Given in another order they make the same text, or fail with
the same error. -/
theorem applyAll_perm (text : Text) (same : edits.Perm others) :
    applyAll text edits = applyAll text others := by
  rw [applyAll, applyAll, normalize_perm same]

/-- Two replacements of one character: which of them comes first in the order of ranges depends on the
order they are given in, and the error does not. -/
theorem applyAll_perm_same_range :
    let one : Edit := ⟨⟨1, 3, by decide⟩, ['x']⟩
    let other : Edit := ⟨⟨1, 3, by decide⟩, ['y', 'z']⟩
    [one, other].Perm [other, one] ∧
      applyAll ['a', 'é', 'b'] [one, other] = applyAll ['a', 'é', 'b'] [other, one] ∧
      applyAll ['a', 'é', 'b'] [one, other] = .error (.overlap one.range other.range) := by
  intro one other
  have same : [one, other].Perm [other, one] := .swap other one []
  have sorted : sort [one, other] = [one, other] := by simp [sort, List.mergeSort, le, one, other]
  refine ⟨same, applyAll_perm _ same, ?_⟩
  rw [applyAll, normalize, sorted]
  rfl

end EncodingLint.Edit
