import Mathlib.Data.List.Basic
import Mathlib.Logic.Relation
import EncodingLint.ClassPath.Basic

/-!
# Subtypes by way of the hierarchy

`isSubtype` searches the hierarchy from a class upwards. The search keeps a list of classes that it has looked
into and a list of those that it still has to; `Searched` is what holds of the two all the time. It follows
that the search finds its target if and only if a way up from a pending class leads there (`reaches_iff`), on
class paths with circles and with classes that nobody declares as well.
-/

set_option autoImplicit false

namespace EncodingLint.ClassPath

open Relation (TransGen)

variable {cp : ClassPath} {target name s : TypeName} {seen pending rest : List TypeName} {c : ClassDecl}

/-- One step up the hierarchy: from a declared class to a type directly above it. -/
def StepUp (cp : ClassPath) (sub sup : TypeName) : Prop :=
  ∃ c, cp.find? sub = some c ∧ sup ∈ c.supertypes

/-- From a declared class a step leads to each type directly above it, and to no other. -/
theorem stepUp_iff (found : cp.find? name = some c) {t : TypeName} :
    cp.StepUp name t ↔ t ∈ c.supertypes := by
  constructor
  · rintro ⟨d, found', above⟩
    obtain rfl : c = d := Option.some.inj (found.symm.trans found')
    exact above
  · intro above
    exact ⟨c, found, above⟩

/-- There is no way up from a type that is not declared. -/
theorem not_transGen_of_find?_eq_none (missing : cp.find? name = none) :
    ¬ TransGen cp.StepUp name target := by
  intro path
  obtain ⟨t, ⟨c, found, -⟩, -⟩ := TransGen.head'_iff.1 path
  rw [missing] at found
  cases found

/-! ## The invariant of the search -/

/-- What a search for a target knows: none of the classes seen has the target directly above it, and what is
directly above them was seen itself, or is pending, or leads nowhere. -/
structure Searched (cp : ClassPath) (target : TypeName) (seen pending : List TypeName) : Prop where
  missed : ∀ s ∈ seen, ¬ cp.StepUp s target
  closed : ∀ s ∈ seen, ∀ t, cp.StepUp s t → t ∈ seen ∨ t ∈ pending ∨ cp.find? t = none

theorem searched_nil : cp.Searched target [] pending where
  missed := by simp
  closed := by simp

/-- A pending class that was seen before is dropped. -/
theorem Searched.skip (searched : cp.Searched target seen (name :: rest)) (old : name ∈ seen) :
    cp.Searched target seen rest where
  missed := searched.missed
  closed s member t step := by
    rcases searched.closed s member t step with again | waiting | missing
    · exact .inl again
    · rcases List.mem_cons.1 waiting with rfl | waiting
      · exact .inl old
      · exact .inr (.inl waiting)
    · exact .inr (.inr missing)

/-- A pending class that is not declared is dropped. -/
theorem Searched.drop (searched : cp.Searched target seen (name :: rest))
    (missing : cp.find? name = none) : cp.Searched target seen rest where
  missed := searched.missed
  closed s member t step := by
    rcases searched.closed s member t step with again | waiting | nowhere
    · exact .inl again
    · rcases List.mem_cons.1 waiting with rfl | waiting
      · exact .inr (.inr missing)
      · exact .inr (.inl waiting)
    · exact .inr (.inr nowhere)

/-- A pending class is looked into: unless the target is directly above it, all that is above it becomes
pending. -/
theorem Searched.visit (searched : cp.Searched target seen (name :: rest))
    (found : cp.find? name = some c) (missed : target ∉ c.supertypes) :
    cp.Searched target (name :: seen) (c.supertypes ++ rest) where
  missed s member step := by
    rcases List.mem_cons.1 member with rfl | member
    · exact missed ((stepUp_iff found).1 step)
    · exact searched.missed s member step
  closed s member t step := by
    rcases List.mem_cons.1 member with rfl | member
    · exact .inr (.inl (List.mem_append_left rest ((stepUp_iff found).1 step)))
    · rcases searched.closed s member t step with again | waiting | missing
      · exact .inl (List.mem_cons_of_mem name again)
      · rcases List.mem_cons.1 waiting with rfl | waiting
        · exact .inl List.mem_cons_self
        · exact .inr (.inl (List.mem_append_right c.supertypes waiting))
      · exact .inr (.inr missing)

/-- A way to the target that starts in a class seen passes a pending one. -/
theorem Searched.exists_pending (searched : cp.Searched target seen pending)
    (path : TransGen cp.StepUp s target) (member : s ∈ seen) :
    ∃ start ∈ pending, TransGen cp.StepUp start target := by
  induction path using TransGen.head_induction_on with
  | single step => exact absurd step (searched.missed _ member)
  | head step path ih =>
    rcases searched.closed _ member _ step with again | waiting | missing
    · exact ih again
    · exact ⟨_, waiting, path⟩
    · exact absurd path (not_transGen_of_find?_eq_none missing)

/-! ## What the search finds -/

/-- From a declared class the target is directly above it, or reached from something that is. -/
theorem transGen_iff (found : cp.find? name = some c) :
    TransGen cp.StepUp name target ↔
      target ∈ c.supertypes ∨ ∃ t ∈ c.supertypes, TransGen cp.StepUp t target := by
  constructor
  · intro path
    obtain ⟨t, step, path⟩ := TransGen.head'_iff.1 path
    have above : t ∈ c.supertypes := (stepUp_iff found).1 step
    rcases Relation.reflTransGen_iff_eq_or_transGen.1 path with rfl | path
    · exact .inl above
    · exact .inr ⟨t, above, path⟩
  · rintro (above | ⟨t, above, path⟩)
    · exact .single ((stepUp_iff found).2 above)
    · exact .head ((stepUp_iff found).2 above) path

/-- The search finds the target if and only if a way up leads there from a pending class. -/
theorem reaches_iff (searched : cp.Searched target seen pending) :
    cp.reaches target seen pending = true ↔ ∃ start ∈ pending, TransGen cp.StepUp start target := by
  fun_induction cp.reaches target seen pending with
  | case1 seen => simp
  | case2 seen name rest old ih =>
    have old : name ∈ seen := List.contains_iff_mem.1 old
    rw [ih (searched.skip old), List.exists_mem_cons_iff]
    refine ⟨.inr, ?_⟩
    rintro (path | later)
    · exact (searched.skip old).exists_pending path old
    · exact later
  | case3 seen name rest fresh missing ih =>
    rw [ih (searched.drop missing), List.exists_mem_cons_iff]
    exact (or_iff_right (not_transGen_of_find?_eq_none missing)).symm
  | case4 seen name rest fresh c found ih =>
    rw [List.exists_mem_cons_iff, transGen_iff found, Bool.or_eq_true, List.contains_iff_mem, or_assoc]
    by_cases above : target ∈ c.supertypes
    · simp only [above, true_or]
    · rw [ih (searched.visit found above)]
      simp only [List.mem_append, or_and_right, exists_or]

/-- **What it means to be at or below a type.** On any class path a type is so if it is the same, or the other one is
`java.lang.Object` and it is no primitive type, or else one or more steps lead up to the other one. -/
theorem isSubtype_iff_stepsUp (cp : ClassPath) (sub sup : TypeName) :
    cp.isSubtype sub sup = true ↔
      sub = sup ∨ (sup = .object ∧ sub ∉ TypeName.primitives) ∨
        (sup ≠ .object ∧ TransGen cp.StepUp sub sup) := by
  unfold isSubtype
  by_cases same : sub = sup
  · simp only [same, if_true, true_or]
  · simp only [same, if_false, false_or]
    by_cases top : sup = .object
    · simp [top, TypeName.isReference, TypeName.isPrimitive]
    · simp [top, reaches_iff searched_nil]

end EncodingLint.ClassPath
