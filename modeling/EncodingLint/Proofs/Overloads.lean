import Mathlib.Data.List.Forall2
import Mathlib.Data.List.Nodup
import EncodingLint.ClassPath.Resolution

/-!
# Which overload arguments choose

A member is applicable if its parameters accept the arguments one by one (`isApplicable_iff`), and it is
chosen if it is the only applicable one that is as specific as all others. Overloads are `Apart` if none
of their parameter types is above another one. Among such, to append an argument moves the choice from a
member to the one with this parameter more (`select?_append`). What a call resolves to is a chosen
constructor of its class (`constructor_of_resolve?`), or a method of a class (`method_of_findSome?`).
-/

set_option autoImplicit false

namespace EncodingLint.ClassPath

variable {cp : ClassPath} {candidates : List Member} {arguments : List (Option TypeName)}
  {m other longer : Member} {type : TypeName}

theorem zip_all_iff {α β : Type} {p : α → β → Bool} {as : List α} {bs : List β}
    (length : as.length = bs.length) :
    ((as.zip bs).all fun (a, b) => p a b) = true ↔ List.Forall₂ (fun a b => p a b = true) as bs := by
  rw [List.forall₂_iff_zip]
  simp [length]

/-- A member is applicable if each of its parameters accepts its argument. -/
theorem isApplicable_iff :
    cp.isApplicable arguments m = true ↔
      List.Forall₂ (fun p a => cp.accepts p a = true) m.parameters arguments := by
  simp only [isApplicable, Bool.and_eq_true, beq_iff_eq]
  constructor
  · rintro ⟨length, all⟩
    exact (zip_all_iff length).1 all
  · intro all
    exact ⟨all.length_eq, (zip_all_iff all.length_eq).2 all⟩

/-- Of two members with as many parameters, one is as specific if its types are at or below those of the
other. -/
theorem isAsSpecific_iff (length : m.parameters.length = other.parameters.length) :
    cp.isAsSpecific m other = true ↔
      List.Forall₂ (fun a b => cp.isSubtype a b = true) m.parameters other.parameters :=
  zip_all_iff length

theorem isSubtype_refl (cp : ClassPath) (type : TypeName) : cp.isSubtype type type = true := by
  simp [isSubtype]

theorem isAsSpecific_refl (cp : ClassPath) (m : Member) : cp.isAsSpecific m m = true := by
  rw [isAsSpecific_iff rfl]
  exact List.forall₂_same.2 fun type _ => cp.isSubtype_refl type

/-- A member accepts one argument more if its parameters but the last accept the arguments so far. -/
theorem isApplicable_concat_iff {argument : Option TypeName} :
    cp.isApplicable (arguments ++ [argument]) m = true ↔
      ∃ init last, m.parameters = init ++ [last] ∧
        List.Forall₂ (fun p a => cp.accepts p a = true) init arguments ∧
        cp.accepts last argument = true := by
  rw [isApplicable_iff, ← List.forall₂_reverse_iff, List.reverse_append, List.reverse_singleton,
    List.singleton_append, List.forall₂_cons_right_iff]
  constructor
  · rintro ⟨last, init, accepted, all, reversed⟩
    refine ⟨init.reverse, last, ?_, ?_, accepted⟩
    · rw [← List.reverse_cons, ← reversed, List.reverse_reverse]
    · rw [← List.forall₂_reverse_iff, List.reverse_reverse]
      exact all
  · rintro ⟨init, last, params, all, accepted⟩
    refine ⟨last, init.reverse, accepted, List.forall₂_reverse_iff.2 all, ?_⟩
    rw [params, List.reverse_append]
    rfl

/-! ## The choice -/

theorem mem_mostSpecific_iff :
    m ∈ cp.mostSpecific candidates arguments ↔
      (m ∈ candidates ∧ cp.isApplicable arguments m = true) ∧
        ∀ other ∈ candidates, cp.isApplicable arguments other = true →
          cp.isAsSpecific m other = true := by
  simp only [mostSpecific, List.mem_filter, List.all_eq_true, and_imp]

theorem select?_eq_some_iff :
    cp.select? candidates arguments = some m ↔ cp.mostSpecific candidates arguments = [m] := by
  unfold select?
  split
  next only => rw [only, Option.some.injEq, List.singleton_inj]
  next several =>
    constructor
    · intro h
      cases h
    · intro only
      exact (several m only).elim

/-- The chosen member is applicable, and as specific as every applicable one. -/
theorem mem_of_select? (chosen : cp.select? candidates arguments = some m) :
    (m ∈ candidates ∧ cp.isApplicable arguments m = true) ∧
      ∀ other ∈ candidates, cp.isApplicable arguments other = true →
        cp.isAsSpecific m other = true := by
  apply mem_mostSpecific_iff.1
  rw [select?_eq_some_iff.1 chosen]
  exact List.mem_singleton_self m

/-- The only applicable member is chosen. -/
theorem select?_of_only (nodup : candidates.Nodup) (member : m ∈ candidates)
    (applicable : cp.isApplicable arguments m = true)
    (only : ∀ other ∈ candidates, cp.isApplicable arguments other = true → other = m) :
    cp.select? candidates arguments = some m := by
  rw [select?_eq_some_iff, ← List.perm_singleton]
  have unique : (cp.mostSpecific candidates arguments).Nodup := (nodup.filter _).filter _
  refine (List.perm_ext_iff_of_nodup unique (List.nodup_singleton m)).2 fun other => ?_
  rw [mem_mostSpecific_iff, List.mem_singleton]
  constructor
  · rintro ⟨⟨member, applicable⟩, -⟩
    exact only other member applicable
  · rintro rfl
    refine ⟨⟨member, applicable⟩, fun third member applicable => ?_⟩
    rw [only third member applicable]
    exact isAsSpecific_refl cp _

/-! ## One argument more -/

/-- Overloads of which no two have the same parameters, and no parameter type is above another one. -/
structure Apart (cp : ClassPath) (candidates : List Member) : Prop where
  distinct : (candidates.map Member.parameters).Nodup
  unrelated : ∀ a ∈ candidates.flatMap Member.parameters,
    ∀ b ∈ candidates.flatMap Member.parameters, cp.isSubtype a b = true → a = b

/-- What takes the type behind other parameters is there with these parameters alone as well. -/
def CutsBack (candidates : List Member) (type : TypeName) : Prop :=
  ∀ m ∈ candidates, 2 ≤ m.parameters.length → m.parameters.getLast? = some type →
    ∃ shorter ∈ candidates, shorter.parameters = m.parameters.dropLast

theorem mem_flatMap_parameters {t : TypeName} (member : m ∈ candidates) (used : t ∈ m.parameters) :
    t ∈ candidates.flatMap Member.parameters :=
  List.mem_flatMap.2 ⟨m, member, used⟩

/-- Among overloads apart from each other, the more specific one has the same parameters. -/
theorem Apart.parameters_eq (apart : cp.Apart candidates) (member : m ∈ candidates)
    (member' : other ∈ candidates) (length : m.parameters.length = other.parameters.length)
    (specific : cp.isAsSpecific m other = true) : m.parameters = other.parameters := by
  obtain ⟨-, pairs⟩ := List.forall₂_iff_zip.1 ((isAsSpecific_iff length).1 specific)
  have equal : List.Forall₂ Eq m.parameters other.parameters := by
    refine List.forall₂_iff_zip.2 ⟨length, fun pair => ?_⟩
    obtain ⟨left, right⟩ := List.of_mem_zip pair
    exact apart.unrelated _ (mem_flatMap_parameters member left) _
      (mem_flatMap_parameters member' right) (pairs pair)
  rwa [List.forall₂_eq_eq_eq] at equal

/-- To append an argument to others moves the choice to the overload with this parameter more. -/
theorem select?_append (apart : cp.Apart candidates) (cutsBack : CutsBack candidates type)
    (chosen : cp.select? candidates arguments = some m) (some_argument : arguments ≠ [])
    (member : longer ∈ candidates) (params : longer.parameters = m.parameters ++ [type]) :
    cp.select? candidates (arguments ++ [some type]) = some longer := by
  obtain ⟨⟨memberM, applicable⟩, specific⟩ := mem_of_select? chosen
  refine select?_of_only apart.distinct.of_map member ?_ ?_
  · refine isApplicable_concat_iff.2 ⟨m.parameters, type, params, isApplicable_iff.1 applicable, ?_⟩
    exact isSubtype_refl cp type
  · intro other memberOther applicableOther
    obtain ⟨init, last, paramsOther, all, accepted⟩ := isApplicable_concat_iff.1 applicableOther
    -- The last parameter is the type itself, since no other parameter type is above it.
    have same : type = last := by
      apply apart.unrelated type ?_ last ?_ accepted
      · exact mem_flatMap_parameters member (by simp [params])
      · exact mem_flatMap_parameters memberOther (by simp [paramsOther])
    subst same
    -- Without it the other overload is one that the choice was as specific as.
    have several : 2 ≤ other.parameters.length := by
      have := List.length_pos_iff.2 some_argument
      rw [paramsOther, List.length_append, all.length_eq, List.length_singleton]
      omega
    obtain ⟨shorter, memberShorter, paramsShorter⟩ :=
      cutsBack other memberOther several (by simp [paramsOther])
    rw [paramsOther, List.dropLast_concat] at paramsShorter
    have applicableShorter : cp.isApplicable arguments shorter = true := by
      rw [isApplicable_iff, paramsShorter]
      exact all
    have equal : m.parameters = shorter.parameters := by
      have length : m.parameters.length = shorter.parameters.length := by
        rw [(isApplicable_iff.1 applicable).length_eq, (isApplicable_iff.1 applicableShorter).length_eq]
      exact apart.parameters_eq memberM memberShorter length
        (specific shorter memberShorter applicableShorter)
    apply List.inj_on_of_nodup_map apart.distinct memberOther member
    rw [paramsOther, params, equal, paramsShorter]

/-! ## What a call calls -/

variable {owner start : TypeName} {name : String} {target : Target} {classes : List ClassDecl}
  {c : ClassDecl}

theorem find?_others {other : TypeName} :
    (others classes owner).find? (fun c => c.name = other) =
      if other = owner then none else classes.find? fun c => c.name = other := by
  rw [others, List.find?_filter]
  split
  next same =>
    subst same
    simp
  next different =>
    congr 1
    funext c
    by_cases same : c.name = other
    · subst same
      simp [different]
    · simp [same]

theorem chainAmong_of_find?_eq_none (missing : classes.find? (fun c => c.name = start) = none) :
    chainAmong classes start = [] := by
  rw [chainAmong]
  split
  next => rfl
  next first found =>
    rw [missing] at found
    cases found

theorem chainAmong_of_find?_eq_some (found : classes.find? (fun c => c.name = start) = some c) :
    chainAmong classes start = c :: match c.superclass with
      | none => []
      | some parent => chainAmong (others classes start) parent := by
  rw [chainAmong]
  split
  next missing =>
    rw [found] at missing
    cases missing
  next first found' =>
    obtain rfl : c = first := Option.some.inj (found.symm.trans found')
    cases c.superclass <;> rfl

/-- A chain is made of the classes given, each the one that its name stands for. -/
theorem find?_of_mem_chainAmong (member : c ∈ chainAmong classes start) :
    classes.find? (fun d => d.name = c.name) = some c := by
  fun_induction chainAmong classes start with
  | case1 => cases member
  | case2 classes start first found ih =>
    rcases List.mem_cons.1 member with rfl | member
    · have same : c.name = start := by simpa using List.find?_some found
      rw [same, found]
    · split at member
      · cases member
      · have above := ih _ member
        rw [find?_others] at above
        exact (Option.ite_none_left_eq_some.1 above).2

theorem map_name_signature {isConstructor : Bool} :
    (cp.signature c isConstructor m).parameters.map TypeRef.name = m.parameters := by
  rw [signature, List.map_map]
  exact List.map_id m.parameters

/-- A call of a constructor calls one that the class declares. -/
theorem constructor_of_resolve?
    (resolved : cp.resolve? (.constructor owner) arguments = some target) :
    ∃ c m, cp.find? owner = some c ∧ cp.select? c.constructors arguments = some m ∧
      target = cp.targetIn c true m c.constructors := by
  obtain ⟨c, found, resolved⟩ := Option.bind_eq_some_iff.1 resolved
  obtain ⟨m, chosen, rfl⟩ := Option.map_eq_some_iff.1 resolved
  exact ⟨c, m, found, chosen, rfl⟩

/-- The methods of a class that a call by name has in question. -/
def candidatesIn (c : ClassDecl) (name : String) (staticOnly : Bool) : List Member :=
  (c.methods.filter fun m => m.name == name).filter fun m => !staticOnly || m.isStatic

theorem mem_candidatesIn_iff {staticOnly : Bool} :
    m ∈ candidatesIn c name staticOnly ↔
      m ∈ c.methods ∧ m.name = name ∧ (staticOnly = true → m.isStatic = true) := by
  cases staticOnly with
  | false => simp [candidatesIn]
  | true => simp [candidatesIn, and_comm, and_assoc]

theorem methodIn?_eq {staticOnly : Bool} :
    cp.methodIn? name staticOnly arguments c =
      (cp.select? (candidatesIn c name staticOnly) arguments).map fun m =>
        cp.targetIn c false m (c.methods.filter fun m => m.name == name) :=
  rfl

/-- A call of a method calls one of its name that a class in the chain declares, and a static one if it
has to be. -/
theorem method_of_findSome? {staticOnly : Bool}
    (resolved : (cp.chain owner).findSome? (cp.methodIn? name staticOnly arguments) = some target) :
    ∃ c ∈ cp.chain owner, ∃ m ∈ c.methods, m.name = name ∧ (staticOnly = true → m.isStatic = true) ∧
      cp.isApplicable arguments m = true ∧
      target = cp.targetIn c false m (c.methods.filter fun m => m.name == name) := by
  obtain ⟨c, member, found⟩ := List.exists_of_findSome?_eq_some resolved
  rw [methodIn?_eq] at found
  obtain ⟨m, chosen, rfl⟩ := Option.map_eq_some_iff.1 found
  obtain ⟨⟨candidate, applicable⟩, -⟩ := mem_of_select? chosen
  obtain ⟨memberM, named, isStatic⟩ := mem_candidatesIn_iff.1 candidate
  exact ⟨c, member, m, memberM, named, isStatic, applicable, rfl⟩

end EncodingLint.ClassPath
