import EncodingLint.ClassPath.Platform
import EncodingLint.Proofs.NearestClass
import EncodingLint.Proofs.OverloadChoice
import EncodingLint.Proofs.SubtypeOrder

/-!
# What is known about arguments

To learn the type of an argument that was unknown does not change which constructor a call calls, as long as the
argument fits it (`resolve?_learned`): a candidate that is best only now would be below the old choice, and so
below all that the old choice is below. If the types of all arguments are known and are those of the parameters of a
member, then this member is called (`resolve?_exact`): it is below every member that the arguments fit.
-/

set_option autoImplicit false

namespace EncodingLint.ClassPath

variable {cp : ClassPath} {candidates : List Member} {arguments later : List (Option TypeName)}
  {m other third : Member} {owner : TypeName} {c : ClassDecl} {target : Target}

/-! ## Learning the type of an argument -/

/-- Some arguments of unknown type become known, each as a type at or below its parameter. -/
inductive Learned (cp : ClassPath) :
    List TypeName → List (Option TypeName) → List (Option TypeName) → Prop where
  | nil : Learned cp [] [] []
  | same {p : TypeName} {a : Option TypeName} {ps : List TypeName} {as bs : List (Option TypeName)}
      (rest : Learned cp ps as bs) : Learned cp (p :: ps) (a :: as) (a :: bs)
  | found {p type : TypeName} {ps : List TypeName} {as bs : List (Option TypeName)}
      (below : cp.isSubtype type p = true) (rest : Learned cp ps as bs) :
      Learned cp (p :: ps) (none :: as) (some type :: bs)

/-- Arguments that fit a member still do after something was learned about them. -/
theorem Learned.fits (learned : cp.Learned m.parameters arguments later)
    (fits : cp.Fits arguments m) : cp.Fits later m := by
  unfold Fits at fits ⊢
  generalize m.parameters = ps at learned fits
  induction learned with
  | nil => exact .nil
  | same rest ih =>
    cases fits with
    | cons first fits => exact .cons first (ih fits)
  | found below rest ih =>
    cases fits with
    | cons first fits =>
      refine .cons ?_ (ih fits)
      intro type known
      cases known
      exact below

/-- Arguments that fit a member once more is known about them fit it before. -/
theorem Learned.fits_before {parameters : List TypeName}
    (learned : cp.Learned parameters arguments later) (fits : cp.Fits later other) :
    cp.Fits arguments other := by
  unfold Fits at fits ⊢
  generalize other.parameters = qs at fits
  induction learned generalizing qs with
  | nil => exact fits
  | same rest ih =>
    cases fits with
    | cons first fits => exact .cons first (ih _ fits)
  | found below rest ih =>
    cases fits with
    | cons first fits =>
      refine .cons ?_ (ih _ fits)
      intro type known
      cases known

theorem Rooted.below_trans (rooted : cp.Rooted) (lower : cp.Below m other)
    (upper : cp.Below other third) : cp.Below m third := by
  unfold Below at lower upper ⊢
  generalize m.parameters = ps, other.parameters = qs, third.parameters = rs at lower upper
  induction lower generalizing rs with
  | nil => exact upper
  | cons first rest ih =>
    cases upper with
    | cons first' rest' => exact .cons (rooted.isSubtype_trans first first') (ih _ rest')

/-- The choice stays the same when more is learned about its arguments. -/
theorem IsChoice.learned (rooted : cp.Rooted) (choice : cp.IsChoice candidates arguments m)
    (learned : cp.Learned m.parameters arguments later) : cp.IsChoice candidates later m := by
  have member := choice.mem
  obtain ⟨before, after, split, best, others⟩ := choice
  have fits : cp.Fits later m := learned.fits best.fits
  refine ⟨before, after, split, ⟨fits, fun other member fits' => ?_⟩, fun other place best' => ?_⟩
  · exact best.below other member (learned.fits_before fits')
  · -- What is best now is below the old choice, so it was best before.
    have lower : cp.Below other m := best'.below m member fits
    apply others other place
    refine ⟨learned.fits_before best'.fits, fun third member fits'' => ?_⟩
    exact rooted.below_trans lower (best.below third member fits'')

/-- **To learn the type of an argument changes nothing.** Let a constructor call be resolved, some of its arguments
being of unknown type. If some of them turn out to be of types that fit the parameters of the constructor found, then
the call is still resolved to it, with the same siblings. -/
theorem resolve?_learned (rooted : cp.Rooted)
    (resolved : cp.resolve? (.constructor owner) arguments = some target)
    (learned : cp.Learned (target.method.parameters.map TypeRef.name) arguments later) :
    cp.resolve? (.constructor owner) later = some target := by
  obtain ⟨c, m, found, chosen, rfl⟩ := constructor_of_resolve? resolved
  rw [show (cp.targetIn c true m c.constructors).method = cp.signature c true m from rfl,
    map_name_signature] at learned
  have choice := select?_eq_some_iff_isChoice.1 chosen
  exact resolve?_of_isChoice found (choice.learned rooted learned)

/-- `new InputStreamReader(x, charset)`, once `x` is known to be a `FileInputStream`. -/
theorem resolve?_learned_reader :
    let arguments : List (Option TypeName) := [none, some .charset]
    let later : List (Option TypeName) := [some .fileInputStream, some .charset]
    platform.Rooted ∧ ∃ target,
      platform.resolve? (.constructor .inputStreamReader) arguments = some target ∧
      platform.Learned (target.method.parameters.map TypeRef.name) arguments later ∧
      platform.resolve? (.constructor .inputStreamReader) later = some target := by
  intro arguments later
  have evaluated : (∀ t ∈ TypeName.primitives, platform.find? t = none) ∧
      (∀ c ∈ platform.find? .object, c.supertypes = []) ∧
      platform.isSubtype .fileInputStream .inputStream = true ∧
      ∃ target ∈ platform.resolve? (.constructor .inputStreamReader) arguments,
        target.method.parameters.map TypeRef.name = [.inputStream, .charset] := by
    decide +kernel
  obtain ⟨primitive, object, below, target, resolved, parameters⟩ := evaluated
  have rooted : platform.Rooted := ⟨primitive, object⟩
  have learned : platform.Learned (target.method.parameters.map TypeRef.name) arguments later := by
    rw [parameters]
    exact .found below (.same .nil)
  exact ⟨rooted, target, resolved, learned, resolve?_learned rooted resolved learned⟩

/-! ## Arguments of just the types of the parameters -/

theorem below_refl (cp : ClassPath) (m : Member) : cp.Below m m :=
  List.forall₂_same.2 fun type _ => cp.isSubtype_refl type

/-- Arguments of the types of a member fit the members that it is below. -/
theorem fits_exact_iff : cp.Fits (m.parameters.map some) other ↔ cp.Below m other := by
  unfold Fits Below
  rw [List.forall₂_map_right_iff]
  simp only [Option.mem_some_iff, forall_eq']
  exact ⟨List.Forall₂.flip, List.Forall₂.flip⟩

/-- Members that are below each other have the same parameters, if types below each other are the same. -/
theorem parameters_eq_of_below
    (antisymm : ∀ a b, cp.isSubtype a b = true → cp.isSubtype b a = true → a = b)
    (lower : cp.Below m other) (upper : cp.Below other m) : m.parameters = other.parameters := by
  unfold Below at lower upper
  generalize m.parameters = ps, other.parameters = qs at lower upper
  induction lower with
  | nil => rfl
  | cons first rest ih =>
    cases upper with
    | cons first' rest' => rw [antisymm _ _ first first', ih rest']

/-- Arguments of the types of a member choose it among candidates of which no two have the same parameters. -/
theorem isChoice_exact
    (antisymm : ∀ a b, cp.isSubtype a b = true → cp.isSubtype b a = true → a = b)
    (distinct : (candidates.map Member.parameters).Nodup) (member : m ∈ candidates) :
    cp.IsChoice candidates (m.parameters.map some) m := by
  have fits : cp.Fits (m.parameters.map some) m := fits_exact_iff.2 (cp.below_refl m)
  have best : cp.Best candidates (m.parameters.map some) m :=
    ⟨fits, fun other _ fits' => fits_exact_iff.1 fits'⟩
  obtain ⟨before, after, split⟩ := List.append_of_mem member
  refine ⟨before, after, split, best, fun other place best' => ?_⟩
  have same : other.parameters = m.parameters :=
    parameters_eq_of_below antisymm (best'.below m member fits) (fits_exact_iff.1 best'.fits)
  rw [split, List.map_append, List.map_cons, List.nodup_middle, List.nodup_cons, ← List.map_append,
    ← same] at distinct
  exact distinct.1 (List.mem_map_of_mem place)

/-- **An exact signature wins.** Let no two types be below each other. If no two constructors of a class have the same
parameters, a call with arguments of just the types of one of them is resolved to it; so is a call by name with
arguments of the types of one of the methods of the name, of a static one if it has to be static. -/
theorem resolve?_exact
    (antisymm : ∀ a b, cp.isSubtype a b = true → cp.isSubtype b a = true → a = b)
    (found : cp.find? owner = some c) :
    ((c.constructors.map Member.parameters).Nodup → ∀ m ∈ c.constructors,
      cp.resolve? (.constructor owner) (m.parameters.map some) =
        some (cp.targetIn c true m c.constructors)) ∧
    (∀ name, ((c.methods.filter fun m => m.name == name).map Member.parameters).Nodup →
      ∀ staticOnly, ∀ m ∈ candidatesIn c name staticOnly,
        cp.resolve? (.ofMethod staticOnly owner name) (m.parameters.map some) =
          some (cp.targetIn c false m (c.methods.filter fun m => m.name == name))) := by
  constructor
  · intro distinct m member
    exact resolve?_of_isChoice found (isChoice_exact antisymm distinct member)
  · intro name distinct staticOnly m member
    have fewer : (candidatesIn c name staticOnly).Sublist (c.methods.filter fun m => m.name == name) :=
      List.filter_sublist
    have choice := isChoice_exact antisymm (distinct.sublist (fewer.map Member.parameters)) member
    cases staticOnly with
    | false => exact resolve?_of_isChoice found choice
    | true => exact resolve?_of_isChoice found choice

/-- A class with overloads for types one below the other. -/
def letter : ClassDecl where
  name := ⟨"example.Letter"⟩
  superclass := some ⟨"example.Note"⟩
  constructors := [⟨"Letter", [.object], [], false⟩, ⟨"Letter", [.charSequence], [], false⟩,
    ⟨"Letter", [.string], [], false⟩]
  methods := [⟨"put", [.string], [], false⟩, ⟨"put", [.charSequence], [], false⟩,
    ⟨"put", [.object], [], false⟩]

/-- The class of letters, with a class above it that takes the same arguments. -/
def letters : ClassPath where
  classes :=
    [letter, { name := ⟨"example.Note"⟩, methods := [⟨"put", [.charSequence], [], false⟩] },
      { name := .string, interfaces := [.charSequence] }]

/-- For a `CharSequence` both the constructors and the methods for it and for `Object` are applicable. -/
theorem resolve?_exact_letter :
    (∀ a b, letters.isSubtype a b = true → letters.isSubtype b a = true → a = b) ∧
    letters.find? letter.name = some letter ∧
    ((letter.constructors.map Member.parameters).Nodup ∧
      (letter.constructors.filter (letters.isApplicable [some .charSequence])).length = 2 ∧
      letters.resolve? (.constructor letter.name) [some .charSequence] =
        some (letters.targetIn letter true ⟨"Letter", [.charSequence], [], false⟩ letter.constructors)) ∧
    ((letter.methods.map Member.parameters).Nodup ∧
      (letter.methods.filter (letters.isApplicable [some .charSequence])).length = 2 ∧
      letters.resolve? (.method letter.name "put") [some .charSequence] =
        some (letters.targetIn letter false ⟨"put", [.charSequence], [], false⟩ letter.methods)) := by
  let rank (t : TypeName) : Nat := if t = letter.name ∨ t = .string then 1 else 0
  have evaluated : (∀ t ∈ TypeName.primitives, letters.find? t = none) ∧
      (∀ c ∈ letters.find? .object, c.supertypes = []) ∧
      (∀ c ∈ letters.classes, ∀ t ∈ c.supertypes, rank t < rank c.name) ∧
      (letter.constructors.filter (letters.isApplicable [some .charSequence])).length = 2 ∧
      (letter.methods.filter (letters.isApplicable [some .charSequence])).length = 2 := by
    decide +kernel
  obtain ⟨primitive, object, falls, constructors, methods⟩ := evaluated
  have antisymm (a b : TypeName) : letters.isSubtype a b = true → letters.isSubtype b a = true → a = b :=
    Rooted.isSubtype_antisymm ⟨primitive, object⟩ falls
  have found : letters.find? letter.name = some letter := by decide
  have distinct : (letter.constructors.map Member.parameters).Nodup := by decide
  have distinct' : (letter.methods.map Member.parameters).Nodup := by decide
  obtain ⟨ofConstructors, ofMethods⟩ := resolve?_exact antisymm found
  refine ⟨antisymm, found, ⟨distinct, constructors, ?_⟩, ⟨distinct', methods, ?_⟩⟩
  · exact ofConstructors distinct ⟨"Letter", [.charSequence], [], false⟩ (by decide)
  · exact ofMethods "put" distinct' false ⟨"put", [.charSequence], [], false⟩ (by decide)

end EncodingLint.ClassPath
