import EncodingLint.Proofs.Overloads

/-!
# The choice among overloads

Arguments fit a member if each known one is at or below its parameter (`Fits`), and the member is `Best` if its
parameters are at or below those of every candidate that the arguments fit. What is chosen is the one best
candidate, counted by where the candidates stand (`select?_eq_some_iff_isChoice`). A call is resolved in the first
of the classes searched in which its candidates have a choice (`resolve?_eq`), and so in the class that it names if
they have one there (`resolve?_of_isChoice`).
-/

set_option autoImplicit false

namespace EncodingLint

namespace Callee

/-- The class that a call names. -/
def owner : Callee → TypeName
  | constructor owner => owner
  | method receiver _ => receiver
  | static owner _ => owner

/-- Whether a call creates an object. -/
def isConstructor : Callee → Bool
  | constructor _ => true
  | _ => false

/-- Whether only static methods are in question. -/
def isStatic : Callee → Bool
  | static _ _ => true
  | _ => false

/-- The name of the member that is called. -/
def memberName : Callee → String
  | constructor owner => owner.simpleName
  | method _ name => name
  | static _ name => name

/-- The members of a class that are called so: its constructors, or its methods of the name. -/
def named (callee : Callee) (c : ClassDecl) : List Member :=
  match callee with
  | constructor _ => c.constructors
  | method _ name => c.methods.filter fun m => m.name == name
  | static _ name => c.methods.filter fun m => m.name == name

/-- The members of a class that are in question. -/
def candidates (callee : Callee) (c : ClassDecl) : List Member :=
  match callee with
  | constructor _ => c.constructors
  | method _ name => ClassPath.candidatesIn c name false
  | static _ name => ClassPath.candidatesIn c name true

theorem mem_candidates_iff {callee : Callee} {c : ClassDecl} {m : Member} :
    m ∈ callee.candidates c ↔ m ∈ callee.named c ∧ (callee.isStatic = true → m.isStatic = true) := by
  cases callee with
  | constructor owner => simp [candidates, named, isStatic]
  | method receiver name => simp [candidates, named, isStatic, ClassPath.mem_candidatesIn_iff]
  | static owner name => simp [candidates, named, isStatic, ClassPath.mem_candidatesIn_iff, and_assoc]

end Callee

namespace ClassPath

variable {cp : ClassPath} {candidates : List Member} {arguments : List (Option TypeName)}
  {m other : Member} {c : ClassDecl} {callee : Callee}

/-! ## The best candidate -/

/-- Arguments fit a member that has as many parameters, if each argument of known type is at or below its
parameter. -/
def Fits (cp : ClassPath) (arguments : List (Option TypeName)) (m : Member) : Prop :=
  List.Forall₂ (fun p a => ∀ type ∈ a, cp.isSubtype type p = true) m.parameters arguments

/-- The parameters of a member are at or below those of the other one. -/
def Below (cp : ClassPath) (m other : Member) : Prop :=
  List.Forall₂ (fun p q => cp.isSubtype p q = true) m.parameters other.parameters

/-- The arguments fit a member, and it is below every candidate that they fit. -/
structure Best (cp : ClassPath) (candidates : List Member) (arguments : List (Option TypeName))
    (m : Member) : Prop where
  fits : cp.Fits arguments m
  below : ∀ other ∈ candidates, cp.Fits arguments other → cp.Below m other

/-- A candidate that is best, while no candidate at another place is. -/
def IsChoice (cp : ClassPath) (candidates : List Member) (arguments : List (Option TypeName))
    (m : Member) : Prop :=
  ∃ before after, candidates = before ++ m :: after ∧ cp.Best candidates arguments m ∧
    ∀ other ∈ before ++ after, ¬ cp.Best candidates arguments other

theorem accepts_iff {p : TypeName} {a : Option TypeName} :
    cp.accepts p a = true ↔ ∀ type ∈ a, cp.isSubtype type p = true := by
  cases a <;> simp [accepts]

theorem isApplicable_iff_fits : cp.isApplicable arguments m = true ↔ cp.Fits arguments m := by
  simp only [isApplicable_iff, accepts_iff, Fits]

theorem Fits.length_eq (fits : cp.Fits arguments m) : m.parameters.length = arguments.length :=
  List.Forall₂.length_eq fits

theorem isAsSpecific_iff_below (fits : cp.Fits arguments m) (fits' : cp.Fits arguments other) :
    cp.isAsSpecific m other = true ↔ cp.Below m other :=
  isAsSpecific_iff (fits.length_eq.trans fits'.length_eq.symm)

theorem mostSpecific_eq_filter :
    cp.mostSpecific candidates arguments = candidates.filter fun m =>
      (candidates.filter (cp.isApplicable arguments)).all (cp.isAsSpecific m) &&
        cp.isApplicable arguments m :=
  List.filter_filter

theorem best_iff :
    ((candidates.filter (cp.isApplicable arguments)).all (cp.isAsSpecific m) &&
      cp.isApplicable arguments m) = true ↔ cp.Best candidates arguments m := by
  simp only [Bool.and_eq_true, List.all_eq_true, List.mem_filter, isApplicable_iff_fits, and_imp]
  constructor
  · rintro ⟨specific, fits⟩
    refine ⟨fits, fun other member fits' => ?_⟩
    exact (isAsSpecific_iff_below fits fits').1 (specific other member fits')
  · rintro ⟨fits, below⟩
    refine ⟨fun other member fits' => ?_, fits⟩
    exact (isAsSpecific_iff_below fits fits').2 (below other member fits')

/-- What is chosen is the one best candidate. -/
theorem select?_eq_some_iff_isChoice :
    cp.select? candidates arguments = some m ↔ cp.IsChoice candidates arguments m := by
  rw [select?_eq_some_iff, mostSpecific_eq_filter, List.filter_eq_cons_iff]
  simp only [List.filter_eq_nil_iff, best_iff, IsChoice, List.forall_mem_append]
  constructor
  · rintro ⟨before, after, split, earlier, best, later⟩
    exact ⟨before, after, split, best, earlier, later⟩
  · rintro ⟨before, after, split, best, earlier, later⟩
    exact ⟨before, after, split, earlier, best, later⟩

theorem IsChoice.mem (choice : cp.IsChoice candidates arguments m) : m ∈ candidates := by
  obtain ⟨before, after, rfl, -⟩ := choice
  simp

theorem IsChoice.best (choice : cp.IsChoice candidates arguments m) :
    cp.Best candidates arguments m := by
  obtain ⟨before, after, -, best, -⟩ := choice
  exact best

/-! ## The class of the choice -/

/-- The classes in which a call is looked for, nearest first. -/
def searchedBy (cp : ClassPath) : Callee → List ClassDecl
  | .constructor owner => (cp.find? owner).toList
  | .method receiver _ => cp.chain receiver
  | .static owner _ => cp.chain owner

theorem searchedBy_eq_cons (found : cp.find? callee.owner = some c) :
    ∃ above, cp.searchedBy callee = c :: above := by
  cases callee with
  | constructor owner =>
    refine ⟨[], ?_⟩
    rw [searchedBy, show cp.find? owner = some c from found]
    rfl
  | method receiver name => exact ⟨_, chainAmong_of_find?_eq_some found⟩
  | static owner name => exact ⟨_, chainAmong_of_find?_eq_some found⟩

/-- A call is resolved in the first class in which there is a choice. -/
theorem resolve?_eq :
    cp.resolve? callee arguments = (cp.searchedBy callee).findSome? fun c =>
      (cp.select? (callee.candidates c) arguments).map fun m =>
        cp.targetIn c callee.isConstructor m (callee.named c) := by
  cases callee with
  | constructor owner =>
    rw [resolve?, searchedBy]
    cases cp.find? owner with
    | none => rfl
    | some c =>
      rw [Option.bind_some, Option.toList_some, List.findSome?_singleton]
      rfl
  | method receiver name => rfl
  | static owner name => rfl

theorem exists_isChoice_of_resolve? {target : Target}
    (resolved : cp.resolve? callee arguments = some target) :
    ∃ c ∈ cp.searchedBy callee, ∃ m, cp.IsChoice (callee.candidates c) arguments m ∧
      target = cp.targetIn c callee.isConstructor m (callee.named c) := by
  rw [resolve?_eq] at resolved
  obtain ⟨c, searched, found⟩ := List.exists_of_findSome?_eq_some resolved
  obtain ⟨m, chosen, rfl⟩ := Option.map_eq_some_iff.1 found
  exact ⟨c, searched, m, select?_eq_some_iff_isChoice.1 chosen, rfl⟩

/-- If there is a choice in the class that a call names, the call is resolved to it. -/
theorem resolve?_of_isChoice (found : cp.find? callee.owner = some c)
    (choice : cp.IsChoice (callee.candidates c) arguments m) :
    cp.resolve? callee arguments = some (cp.targetIn c callee.isConstructor m (callee.named c)) := by
  obtain ⟨above, first⟩ := searchedBy_eq_cons found
  have chosen := select?_eq_some_iff_isChoice.2 choice
  rw [resolve?_eq, first, List.findSome?_cons, chosen]
  rfl

end ClassPath

end EncodingLint
