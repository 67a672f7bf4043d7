import EncodingLint.Proofs.Subtypes

/-!
# The order of types

A class path is `Rooted` if nothing is above `java.lang.Object` and no class has the name of a primitive type. Then
what is below a type is also below all that is above it (`Rooted.isSubtype_trans`), even if classes are above each
other in a circle. If there is no circle, because a rank falls with each step up, two types are below each other
only if they are the same (`Rooted.isSubtype_antisymm`).
-/

set_option autoImplicit false

namespace EncodingLint.ClassPath

open Relation (ReflTransGen)

variable {cp : ClassPath} {a b c sub sup t : TypeName}

/-- A hierarchy with its root in place: no class has the name of a primitive type, and nothing is above
`java.lang.Object` if that is declared. -/
structure Rooted (cp : ClassPath) : Prop where
  primitive : ∀ t ∈ TypeName.primitives, cp.find? t = none
  object : ∀ c ∈ cp.find? .object, c.supertypes = []

/-! ## The two kinds of supertypes -/

theorem isSubtype_object_iff :
    cp.isSubtype sub .object = true ↔ sub = .object ∨ sub ∉ TypeName.primitives := by
  unfold isSubtype
  by_cases same : sub = .object
  · simp only [same, if_true, true_or]
  · simp [same, TypeName.isReference, TypeName.isPrimitive]

/-- Above a type are, besides `java.lang.Object`, the types that steps lead up to. -/
theorem isSubtype_iff_of_ne_object (below : sup ≠ .object) :
    cp.isSubtype sub sup = true ↔ ReflTransGen cp.StepUp sub sup := by
  unfold isSubtype
  rw [Relation.reflTransGen_iff_eq_or_transGen]
  by_cases same : sub = sup
  · simp [same]
  · simp [same, below, reaches_iff searched_nil, Ne.symm same]

theorem Rooted.not_stepUp_object (rooted : cp.Rooted) : ¬ cp.StepUp .object t := by
  rintro ⟨c, found, above⟩
  rw [rooted.object c found] at above
  cases above

theorem Rooted.eq_object (rooted : cp.Rooted) (path : ReflTransGen cp.StepUp .object t) : t = .object := by
  rcases path.cases_head with same | ⟨next, step, -⟩
  · exact same.symm
  · exact absurd step rooted.not_stepUp_object

theorem Rooted.not_mem_primitives (rooted : cp.Rooted) (step : cp.StepUp sub t) :
    sub ∉ TypeName.primitives := by
  intro primitive
  obtain ⟨c, found, -⟩ := step
  rw [rooted.primitive sub primitive] at found
  cases found

/-! ## A preorder -/

/-- What is below a reference type is a reference type. -/
theorem Rooted.isSubtype_object_trans (rooted : cp.Rooted) (lower : cp.isSubtype a b = true)
    (upper : cp.isSubtype b .object = true) : cp.isSubtype a .object = true := by
  by_cases top : b = .object
  · rwa [top] at lower
  · rw [isSubtype_iff_of_ne_object top] at lower
    rcases lower.cases_head with same | ⟨next, step, -⟩
    · rwa [same]
    · exact isSubtype_object_iff.2 (.inr (rooted.not_mem_primitives step))

theorem Rooted.isSubtype_trans (rooted : cp.Rooted) (lower : cp.isSubtype a b = true)
    (upper : cp.isSubtype b c = true) : cp.isSubtype a c = true := by
  by_cases top : c = .object
  · subst top
    exact rooted.isSubtype_object_trans lower upper
  · rw [isSubtype_iff_of_ne_object top] at upper ⊢
    -- The type between is not the root, since a way leads up from it to another type.
    have between : b ≠ .object := by
      rintro rfl
      exact top (rooted.eq_object upper)
    rw [isSubtype_iff_of_ne_object between] at lower
    exact lower.trans upper

/-! ## No circles -/

section Ranked

variable {rank : TypeName → Nat}

theorem rank_lt (falls : ∀ c ∈ cp.classes, ∀ t ∈ c.supertypes, rank t < rank c.name)
    (step : cp.StepUp sub sup) : rank sup < rank sub := by
  obtain ⟨c, found, above⟩ := step
  obtain ⟨declared, rfl⟩ := find?_name found
  exact falls c declared sup above

theorem rank_le (falls : ∀ c ∈ cp.classes, ∀ t ∈ c.supertypes, rank t < rank c.name)
    (path : ReflTransGen cp.StepUp sub sup) : rank sup ≤ rank sub := by
  induction path with
  | refl => exact Nat.le_refl _
  | tail path step ih =>
    have lower := rank_lt falls step
    omega

/-- If a rank falls from each class to the types above it, no two types are below each other. -/
theorem Rooted.isSubtype_antisymm (rooted : cp.Rooted)
    (falls : ∀ c ∈ cp.classes, ∀ t ∈ c.supertypes, rank t < rank c.name)
    (lower : cp.isSubtype a b = true) (upper : cp.isSubtype b a = true) : a = b := by
  by_cases topA : a = .object
  · subst topA
    by_cases topB : b = .object
    · exact topB.symm
    · exact (rooted.eq_object ((isSubtype_iff_of_ne_object topB).1 lower)).symm
  · have back := (isSubtype_iff_of_ne_object topA).1 upper
    by_cases topB : b = .object
    · subst topB
      exact rooted.eq_object back
    · rcases ((isSubtype_iff_of_ne_object topB).1 lower).cases_head with same | ⟨next, step, path⟩
      · exact same
      · have first := rank_lt falls step
        have rest := rank_le falls path
        have again := rank_le falls back
        omega

end Ranked

end EncodingLint.ClassPath
