import EncodingLint.ClassPath.Platform
import EncodingLint.Proofs.Overloads
import EncodingLint.Proofs.SubtypeOrder

/-!
# Subtypes are a preorder

On a rooted class path `isSubtype` is the preorder that its declarations generate: the least one that has each class
below the types directly above it, and each reference type below `java.lang.Object` (`Rooted.isSubtype_iff_leads`). The
classes of the platform are rooted, and stay so whatever classes are added, unless one has the name of a primitive type
or is another `java.lang.Object` (`Rooted.foldl_add`).
-/

set_option autoImplicit false

namespace EncodingLint.ClassPath

open Relation (ReflTransGen)

variable {cp : ClassPath} {a b : TypeName} {c : ClassDecl} {declarations : List ClassDecl}

/-! ## What generates the order -/

/-- A type directly below another one: it is declared so, or the other one is `java.lang.Object` and it is no primitive
type. -/
def DirectlyBelow (cp : ClassPath) (sub sup : TypeName) : Prop :=
  cp.StepUp sub sup ∨ sup = .object ∧ sub ∉ TypeName.primitives

theorem Rooted.isSubtype_of_directlyBelow (rooted : cp.Rooted) (below : cp.DirectlyBelow a b) :
    cp.isSubtype a b = true := by
  rcases below with step | ⟨rfl, reference⟩
  · by_cases top : b = .object
    · subst top
      exact isSubtype_object_iff.2 (.inr (rooted.not_mem_primitives step))
    · exact (isSubtype_iff_of_ne_object top).2 (.single step)
  · exact isSubtype_object_iff.2 (.inr reference)

/-- A type is at or below another one if a way leads there, each step of it to a type directly above. -/
theorem Rooted.isSubtype_iff_leads (rooted : cp.Rooted) :
    cp.isSubtype a b = true ↔ ReflTransGen cp.DirectlyBelow a b := by
  constructor
  · intro below
    by_cases top : b = .object
    · subst top
      rcases isSubtype_object_iff.1 below with rfl | reference
      · exact .refl
      · exact .single (.inr ⟨rfl, reference⟩)
    · have declared : cp.StepUp ≤ cp.DirectlyBelow := fun _ _ step => .inl step
      exact ReflTransGen.mono declared a b ((isSubtype_iff_of_ne_object top).1 below)
  · intro path
    induction path with
    | refl => exact cp.isSubtype_refl a
    | tail path step ih => exact rooted.isSubtype_trans ih (rooted.isSubtype_of_directlyBelow step)

/-! ## Rooted class paths -/

theorem find?_add (cp : ClassPath) (c : ClassDecl) (name : TypeName) :
    (cp.add c).find? name = if c.name = name then some c else cp.find? name := by
  by_cases same : c.name = name
  · rw [if_pos same]
    exact List.find?_cons_of_pos (decide_eq_true same)
  · have later : (cp.add c).find? name = (others cp.classes c.name).find? fun d => d.name = name :=
      List.find?_cons_of_neg (by simpa using same)
    rw [later, find?_others, if_neg (Ne.symm same), if_neg same]
    rfl

theorem rooted_platform : platform.Rooted := by
  have evaluated : (∀ t ∈ TypeName.primitives, platform.find? t = none) ∧
      ∀ c ∈ platform.find? .object, c.supertypes = [] := by
    decide +kernel
  exact ⟨evaluated.1, evaluated.2⟩

/-- A class path stays rooted if a class is added that has no name of a primitive type and, if it is
`java.lang.Object`, nothing above it. -/
theorem Rooted.add (rooted : cp.Rooted) (reference : c.name ∉ TypeName.primitives)
    (ground : c.name = .object → c.supertypes = []) : (cp.add c).Rooted where
  primitive t primitive := by
    have other : c.name ≠ t := by
      rintro rfl
      exact reference primitive
    rw [find?_add, if_neg other]
    exact rooted.primitive t primitive
  object d found := by
    rw [find?_add] at found
    split at found
    next same =>
      obtain rfl := Option.some.inj found
      exact ground same
    next => exact rooted.object d found

theorem Rooted.foldl_add (rooted : cp.Rooted)
    (named : ∀ c ∈ declarations, c.name ∉ TypeName.primitives ∧ c.name ≠ .object) :
    (declarations.foldl ClassPath.add cp).Rooted := by
  induction declarations generalizing cp with
  | nil => exact rooted
  | cons c declarations ih =>
    obtain ⟨⟨reference, other⟩, named⟩ := List.forall_mem_cons.1 named
    exact ih (rooted.add reference fun same => absurd same other) named

/-- **Subtypes are a preorder.** On every rooted class path, with circles or without, each type, declared or not, is at
or below itself, what is below a type is below all that is above it, and there is nothing more to it than what the
declarations say. The classes of the platform make a rooted class path, together with any classes that neither have the
names of primitive types nor that of `java.lang.Object`. -/
theorem isSubtype_preorder :
    (∀ cp : ClassPath, cp.Rooted →
      (∀ t, cp.isSubtype t t = true) ∧
      (∀ a b c, cp.isSubtype a b = true → cp.isSubtype b c = true → cp.isSubtype a c = true) ∧
      ∀ a b, cp.isSubtype a b = true ↔ ReflTransGen cp.DirectlyBelow a b) ∧
    ∀ declarations : List ClassDecl,
      (∀ c ∈ declarations, c.name ∉ TypeName.primitives ∧ c.name ≠ .object) →
      (declarations.foldl ClassPath.add platform).Rooted := by
  constructor
  · intro cp rooted
    exact ⟨cp.isSubtype_refl, fun _ _ _ lower upper => rooted.isSubtype_trans lower upper,
      fun _ _ => rooted.isSubtype_iff_leads⟩
  · intro declarations named
    exact rooted_platform.foldl_add named

/-- Two classes above each other in a circle, and above one of them an interface that nobody declares. -/
def circle : List ClassDecl :=
  [{ name := ⟨"example.Pipe"⟩, superclass := some ⟨"example.Drain"⟩ },
    { name := ⟨"example.Drain"⟩, superclass := some ⟨"example.Pipe"⟩, interfaces := [⟨"example.Missing"⟩] }]

/-- What is above the one class of the circle is above the other: the interface, and by way of it `java.lang.Object`. -/
theorem isSubtype_preorder_circle :
    let cp := circle.foldl ClassPath.add platform
    let pipe : TypeName := ⟨"example.Pipe"⟩
    let drain : TypeName := ⟨"example.Drain"⟩
    let missing : TypeName := ⟨"example.Missing"⟩
    cp.Rooted ∧ (cp.isSubtype pipe drain = true ∧ cp.isSubtype drain pipe = true) ∧
    (cp.isSubtype drain missing = true ∧ cp.isSubtype pipe missing = true) ∧
    (cp.isSubtype missing .object = true ∧ cp.isSubtype pipe .object = true) ∧
    (cp.find? missing = none ∧ cp.isSubtype missing missing = true ∧ cp.isSubtype missing pipe = false) := by
  intro cp pipe drain missing
  have evaluated : (∀ c ∈ circle, c.name ∉ TypeName.primitives ∧ c.name ≠ .object) ∧
      cp.isSubtype pipe drain = true ∧ cp.isSubtype drain pipe = true ∧ cp.isSubtype drain missing = true ∧
      cp.isSubtype missing .object = true ∧ cp.find? missing = none ∧ cp.isSubtype missing pipe = false := by
    decide +kernel
  obtain ⟨named, up, down, above, top, unknown, apart⟩ := evaluated
  have rooted : cp.Rooted := isSubtype_preorder.2 circle named
  obtain ⟨refl, trans, -⟩ := isSubtype_preorder.1 cp rooted
  have further : cp.isSubtype pipe missing = true := trans pipe drain missing up above
  have furthest : cp.isSubtype pipe .object = true := trans pipe missing .object further top
  exact ⟨rooted, ⟨up, down⟩, ⟨above, further⟩, ⟨top, furthest⟩, unknown, refl missing, apart⟩

end EncodingLint.ClassPath
