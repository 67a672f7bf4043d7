import Mathlib.Data.List.Chain
import EncodingLint.Edit
import EncodingLint.Proofs.Offsets
import EncodingLint.Proofs.Outcome

/-!
# Lists of edits as simultaneous replacement

Edits are applied to one text from the last to the first. What they make of it is `stitch?`: the
stretches of the unchanged text between the ranges, with the replacements between them. The invariant is
that the text before the next range is still the unchanged one, however much was replaced behind it
(`foldr_apply`); it also keeps every range on boundaries of the text it is applied to.
-/

set_option autoImplicit false

namespace EncodingLint.Edit
open Outcome

variable {text before after : Text} {e first second : Edit} {edits sorted : List Edit} {here : Nat}

/-- The text with all edits made at once, from offset `here` on: each range is skipped, and what
stands between two ranges is copied. -/
def stitch? (text : Text) (here : Nat) : List Edit → Option Text
  | [] => Text.slice? text here (Text.byteSize text)
  | e :: rest => do
    let untouched ← Text.slice? text here e.range.start
    let behind ← stitch? text e.range.stop rest
    return untouched ++ e.replacement ++ behind

/-- Both ends of an edit are boundaries of a text. -/
structure Within (text : Text) (e : Edit) : Prop where
  start : Text.isBoundary text e.range.start = true
  stop : Text.isBoundary text e.range.stop = true

/-- Edits of a text from offset `here` on, each beginning where the one before it ends or later. -/
def Fits (text : Text) (here : Nat) : List Edit → Prop
  | [] => True
  | e :: rest => here ≤ e.range.start ∧ Within text e ∧ Fits text e.range.stop rest

/-! ## What the checks accept -/

theorem checkBounds_eq_ok_iff : checkBounds text e = .ok () ↔ Within text e := by
  unfold checkBounds
  constructor
  · intro h
    split at h
    · exact absurd h throw_ne_ok
    · split at h
      · exact absurd h throw_ne_ok
      · split at h
        · exact absurd h throw_ne_ok
        · exact ⟨by simp_all, by simp_all⟩
  · rintro ⟨start, stop⟩
    have bounded := Text.le_byteSize_of_isBoundary stop
    rw [if_neg (by omega), if_neg (by simp [start]), if_neg (by simp [stop])]
    rfl

theorem checkOverlaps_eq_ok_iff :
    checkOverlaps edits = .ok () ↔ edits.IsChain fun a b => clashes a b = false := by
  fun_induction checkOverlaps edits with
  | case1 first second rest clash => simp [clash, throw_ne_ok]
  | case2 first second rest clash ih => simpa [clash] using ih
  | case3 edits short =>
    match edits, short with
    | [], _ => simp [pure_eq_ok_iff]
    | [e], _ => simp [pure_eq_ok_iff]
    | a :: b :: rest, short => exact (short a b rest rfl).elim

/-- Edits are accepted if each lies within the text and none clashes with the next in order. -/
theorem normalize_eq_ok_iff :
    normalize text edits = .ok sorted ↔
      sorted = sort edits ∧ (∀ e ∈ sorted, Within text e) ∧
        sorted.IsChain fun a b => clashes a b = false := by
  simp only [normalize, bind_eq_ok_iff, pure_eq_ok_iff]
  constructor
  · rintro ⟨_, bounds, _, overlaps, rfl⟩
    refine ⟨rfl, fun e member => ?_, checkOverlaps_eq_ok_iff.1 overlaps⟩
    exact checkBounds_eq_ok_iff.1 (forM_eq_ok_iff.1 bounds e member)
  · rintro ⟨rfl, within, chain⟩
    have bounds := forM_eq_ok_iff.2 fun e member => checkBounds_eq_ok_iff.2 (within e member)
    exact ⟨(), bounds, (), checkOverlaps_eq_ok_iff.2 chain, rfl⟩

theorem clashes_eq_false_iff :
    clashes first second = false ↔
      first.range.stop ≤ second.range.start ∧
        ¬ (first.isInsert = true ∧ second.isInsert = true ∧ first.range.start = second.range.start) := by
  simp [clashes]

/-- Accepted edits fit into the text one behind the other. -/
theorem fits_of_isChain (within : ∀ e ∈ edits, Within text e)
    (chain : edits.IsChain fun a b => clashes a b = false)
    (begun : ∀ e ∈ edits.head?, here ≤ e.range.start) : Fits text here edits := by
  induction edits generalizing here with
  | nil => trivial
  | cons e rest ih =>
    refine ⟨begun e rfl, within e List.mem_cons_self, ?_⟩
    refine ih (fun x member => within x (List.mem_cons_of_mem e member)) chain.tail ?_
    intro next head
    cases rest with
    | nil => simp at head
    | cons f rest =>
      obtain rfl : f = next := by simpa using head
      exact (clashes_eq_false_iff.1 (List.isChain_cons_cons.1 chain).1).1

/-! ## What the loop over them does -/

/-- An edit behind `before` cuts the text behind it into what it leaves alone, what it removes and
the rest. -/
theorem Within.exists_parts (before : Text) (within : Within (before ++ after) e)
    (begun : Text.byteSize before ≤ e.range.start) :
    ∃ untouched removed rest, before ++ after = before ++ untouched ++ removed ++ rest ∧
      e.range.start = Text.byteSize (before ++ untouched) ∧
      e.range.stop = Text.byteSize (before ++ untouched ++ removed) := by
  obtain ⟨upToStart, fromStart, whole, at_start⟩ := Text.isBoundary_iff.1 within.start
  obtain ⟨upToStop, rest, whole', at_stop⟩ := Text.isBoundary_iff.1 within.stop
  have ordered := e.range.start_le_stop
  obtain ⟨untouched, rfl, -⟩ := Text.exists_append_of_byteSize_le whole (at_start ▸ begun)
  obtain ⟨removed, rfl, -⟩ := Text.exists_append_of_byteSize_le (whole.symm.trans whole')
    (at_start ▸ at_stop ▸ ordered)
  exact ⟨untouched, removed, rest, whole', at_start, at_stop⟩

theorem apply_append {untouched removed rest : Text}
    (at_start : e.range.start = Text.byteSize (before ++ untouched))
    (at_stop : e.range.stop = Text.byteSize (before ++ untouched ++ removed)) :
    e.apply (before ++ untouched ++ removed ++ rest) =
      before ++ untouched ++ e.replacement ++ rest := by
  rw [apply, at_stop, Text.byteSize_append _ removed, at_start, Text.splice_append]

theorem stitch?_cons_append {untouched removed rest behind : Text}
    (at_start : e.range.start = Text.byteSize (before ++ untouched))
    (stitched : stitch? (before ++ untouched ++ removed ++ rest) e.range.stop edits = some behind) :
    stitch? (before ++ untouched ++ removed ++ rest) (Text.byteSize before) (e :: edits) =
      some (untouched ++ e.replacement ++ behind) := by
  have copied : Text.slice? (before ++ untouched ++ removed ++ rest) (Text.byteSize before)
      e.range.start = some untouched := by
    rw [at_start, Text.byteSize_append, List.append_assoc (before ++ untouched)]
    exact Text.slice?_append before untouched (removed ++ rest)
  rw [stitch?, copied, stitched]
  rfl

/-- Replacing behind an offset keeps what comes before it, and makes the rest into the stitched text. -/
theorem foldr_apply (before : Text) (fits : Fits (before ++ after) (Text.byteSize before) edits) :
    ∃ behind, stitch? (before ++ after) (Text.byteSize before) edits = some behind ∧
      edits.foldr (fun e text => e.apply text) (before ++ after) = before ++ behind := by
  induction edits generalizing before after with
  | nil =>
    have copied := Text.slice?_append before after []
    rw [List.append_nil, ← Text.byteSize_append] at copied
    exact ⟨after, copied, rfl⟩
  | cons e edits ih =>
    obtain ⟨begun, within, fits⟩ := fits
    obtain ⟨untouched, removed, rest, whole, at_start, at_stop⟩ := within.exists_parts before begun
    rw [whole] at fits ⊢
    -- The later edits stand behind the removed part, so they leave all of the first three parts.
    rw [at_stop] at fits
    obtain ⟨behind, stitched, replaced⟩ := ih _ fits
    rw [← at_stop] at stitched
    refine ⟨_, stitch?_cons_append at_start stitched, ?_⟩
    rw [List.foldr_cons, replaced, apply_append at_start at_stop]
    simp only [List.append_assoc]

theorem Fits.later {earlier later : List Edit} (fits : Fits text here (earlier ++ e :: later)) :
    Within text e ∧ Fits text e.range.stop later := by
  induction earlier generalizing here with
  | nil => exact ⟨fits.2.1, fits.2.2⟩
  | cons f earlier ih => exact ih fits.2.2

/-- The edits behind a range leave its ends on boundaries. -/
theorem Within.foldr_apply (within : Within text e) (fits : Fits text e.range.stop edits) :
    Within (edits.foldr (fun e text => e.apply text) text) e := by
  obtain ⟨untouched, removed, rest, rfl, at_start, at_stop⟩ :=
    Within.exists_parts [] within (Nat.zero_le _)
  rw [at_stop] at fits
  obtain ⟨behind, -, replaced⟩ := Edit.foldr_apply _ fits
  rw [replaced]
  constructor
  · rw [at_start, List.append_assoc]
    exact Text.isBoundary_append _ _
  · rw [at_stop]
    exact Text.isBoundary_append _ _

/-- A single edit within the text is applied. -/
theorem applyAll_singleton (within : Within text e) : applyAll text [e] = .ok (e.apply text) := by
  have accepted : normalize text [e] = .ok [e] := by
    refine normalize_eq_ok_iff.2 ⟨(List.mergeSort_singleton e).symm, ?_, .singleton e⟩
    intro x member
    rw [List.mem_singleton.1 member]
    exact within
  rw [applyAll, accepted]
  rfl

/-- **Edits are replaced at once.** Accepted edits turn the text into the stretches between their ranges
with the replacements between them, and each is applied to a text that has its range, ends on
boundaries. -/
theorem applyAll_eq_stitch (accepted : normalize text edits = .ok sorted) :
    (∃ result, stitch? text 0 sorted = some result ∧ applyAll text edits = .ok result) ∧
      ∀ earlier e later current, sorted = earlier ++ e :: later →
        current = later.foldr (fun e text => e.apply text) text →
        e.range.start ≤ e.range.stop ∧ e.range.stop ≤ Text.byteSize current ∧
          Text.isBoundary current e.range.start = true ∧
          Text.isBoundary current e.range.stop = true := by
  obtain ⟨-, within, chain⟩ := normalize_eq_ok_iff.1 accepted
  have fits : Fits text 0 sorted := fits_of_isChain within chain fun _ _ => Nat.zero_le _
  constructor
  · obtain ⟨result, stitched, replaced⟩ := foldr_apply [] fits
    refine ⟨result, stitched, ?_⟩
    rw [applyAll, accepted]
    exact congrArg Except.ok replaced
  · rintro earlier e later _ rfl rfl
    obtain ⟨within, fits⟩ := fits.later
    obtain ⟨start, stop⟩ := within.foldr_apply fits
    exact ⟨e.range.start_le_stop, Text.le_byteSize_of_isBoundary stop, start, stop⟩

/-- An insert at the edge of a replacement of a two-byte character, given in the wrong order. -/
theorem applyAll_touching :
    normalize ['a', 'é', 'b'] [insert 3 ['?'], ⟨⟨1, 3, by decide⟩, ['x', 'y', 'z']⟩] =
        .ok [⟨⟨1, 3, by decide⟩, ['x', 'y', 'z']⟩, insert 3 ['?']] ∧
      applyAll ['a', 'é', 'b'] [insert 3 ['?'], ⟨⟨1, 3, by decide⟩, ['x', 'y', 'z']⟩] =
        .ok ['a', 'x', 'y', 'z', '?', 'b'] ∧
      Text.isBoundary (apply ['a', 'é', 'b'] (insert 3 ['?'])) 3 = true := by
  have accepted : normalize ['a', 'é', 'b'] [insert 3 ['?'], ⟨⟨1, 3, by decide⟩, ['x', 'y', 'z']⟩] =
      .ok [⟨⟨1, 3, by decide⟩, ['x', 'y', 'z']⟩, insert 3 ['?']] := by
    refine normalize_eq_ok_iff.2 ⟨by simp [sort, List.mergeSort, le, insert, TextRange.point], ?_, by decide⟩
    simp only [List.forall_mem_cons]
    exact ⟨⟨by decide, by decide⟩, ⟨by decide, by decide⟩, by simp⟩
  obtain ⟨⟨result, stitched, applied⟩, inBounds⟩ := applyAll_eq_stitch accepted
  have computed : stitch? ['a', 'é', 'b'] 0 [⟨⟨1, 3, by decide⟩, ['x', 'y', 'z']⟩, insert 3 ['?']] =
      some ['a', 'x', 'y', 'z', '?', 'b'] := by decide
  rw [stitched] at computed
  obtain ⟨-, -, -, stop⟩ := inBounds [] _ [insert 3 ['?']] _ rfl rfl
  exact ⟨accepted, by rw [applied, Option.some.inj computed], stop⟩

end EncodingLint.Edit
