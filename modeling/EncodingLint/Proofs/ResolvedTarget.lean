import Mathlib.Logic.Relation
import EncodingLint.ClassPath.Platform
import EncodingLint.Proofs.OverloadChoice

/-!
# What a resolved call tells

Class paths are `Built` class by class, and classes member by member, so that constructors are called like their
class. On such a class path a call is resolved to a member of the class that it names, or of one above it by
superclass; `IsTarget` is what is then known about the member and its siblings. The other way round, a call is
resolved whenever there is a choice in the class that it names (`call_isTarget`).
-/

set_option autoImplicit false

namespace EncodingLint

open Relation (ReflTransGen)

/-! ## Declarations made step by step -/

/-- A declaration that was made member by member. -/
inductive ClassDecl.Built : ClassDecl → Prop where
  | ofName (name : TypeName) : Built { name := name }
  | extending {c : ClassDecl} (parent : TypeName) (built : Built c) :
      Built { c with superclass := some parent }
  | implementing {c : ClassDecl} (interfaces : List TypeName) (built : Built c) :
      Built { c with interfaces := c.interfaces ++ interfaces }
  | withConstructor {c : ClassDecl} (parameters throws : List TypeName) (built : Built c) :
      Built (c.withConstructor parameters throws)
  | withMethod {c : ClassDecl} (name : String) (parameters throws : List TypeName) (isStatic : Bool)
      (built : Built c) : Built (c.withMethod name parameters throws isStatic)

/-- The constructors of a class are called like it. -/
def ClassDecl.NamesConstructors (c : ClassDecl) : Prop :=
  ∀ m ∈ c.constructors, m.name = c.name.simpleName

theorem ClassDecl.Built.namesConstructors {c : ClassDecl} (built : c.Built) : c.NamesConstructors := by
  induction built with
  | ofName name =>
    intro m member
    cases member
  | extending parent built ih => exact ih
  | implementing interfaces built ih => exact ih
  | withConstructor parameters throws built ih =>
    intro m member
    rcases List.mem_append.1 member with earlier | last
    · exact ih m earlier
    · rw [List.mem_singleton.1 last]
      rfl
  | withMethod name parameters throws isStatic built ih => exact ih

namespace ClassPath

variable {cp : ClassPath} {c : ClassDecl} {m : Member} {callee : Callee} {target : Target}
  {arguments : List (Option TypeName)} {start : TypeName} {known : List ClassDecl}

/-- A class path that was made class by class, from nothing or from the classes of the platform. -/
inductive Built : ClassPath → Prop where
  | empty : Built {}
  | platform : Built platform
  | add {cp : ClassPath} {c : ClassDecl} (built : Built cp) (made : c.Built) : Built (cp.add c)

theorem namesConstructors_declare (name : TypeName) (superclass : Option TypeName)
    (interfaces : List TypeName) (constructors : List (List TypeName × List TypeName))
    (methods : List Member) :
    (declare name superclass interfaces constructors methods).NamesConstructors := by
  intro m member
  obtain ⟨entry, -, rfl⟩ := List.mem_map.1 member
  rfl

theorem Built.namesConstructors (built : cp.Built) : ∀ c ∈ cp.classes, c.NamesConstructors := by
  induction built with
  | empty =>
    intro c declared
    cases declared
  | platform =>
    simp only [ClassPath.platform, platformClasses, List.forall_mem_cons, namesConstructors_declare,
      List.not_mem_nil, false_implies, implies_true, and_self]
  | add built made ih =>
    intro c declared
    rcases List.mem_cons.1 declared with rfl | other
    · exact made.namesConstructors
    · exact ih c (List.mem_of_mem_filter other)

/-! ## The classes above -/

/-- One step up by superclass. -/
def Extends (cp : ClassPath) (sub sup : TypeName) : Prop :=
  ∃ c, cp.find? sub = some c ∧ c.superclass = some sup

/-- Every class of a chain is reached from its start by superclass. -/
theorem reached_of_mem_chainAmong
    (fewer : ∀ name d, known.find? (fun c => c.name = name) = some d → cp.find? name = some d)
    (member : c ∈ chainAmong known start) : ReflTransGen cp.Extends start c.name := by
  fun_induction chainAmong known start with
  | case1 => cases member
  | case2 known start first found ih =>
    rcases List.mem_cons.1 member with rfl | member
    · have same : c.name = start := by simpa using List.find?_some found
      rw [same]
    · split at member
      · cases member
      next parent above =>
        have step : cp.Extends start parent := ⟨first, fewer start first found, above⟩
        refine .head step (ih parent ?_ member)
        -- A class met before is taken out, so what is still found was there before.
        intro name d found
        rw [find?_others] at found
        exact fewer name d (Option.ite_none_left_eq_some.1 found).2

/-- The classes that are searched are declared, and are reached from the class that the call names. -/
theorem reached_of_mem_searchedBy (searched : c ∈ cp.searchedBy callee) :
    cp.find? c.name = some c ∧ ReflTransGen cp.Extends callee.owner c.name ∧
      (callee.isConstructor = true → c.name = callee.owner) := by
  have ofChain {owner : TypeName} (member : c ∈ cp.chain owner) :
      cp.find? c.name = some c ∧ ReflTransGen cp.Extends owner c.name :=
    ⟨find?_of_mem_chainAmong member, reached_of_mem_chainAmong (fun _ _ found => found) member⟩
  cases callee with
  | constructor owner =>
    have found : cp.find? owner = some c := Option.mem_toList.1 searched
    obtain ⟨-, rfl⟩ := find?_name found
    exact ⟨found, .refl, fun _ => rfl⟩
  | method receiver name =>
    obtain ⟨declared, above⟩ := ofChain searched
    exact ⟨declared, above, nofun⟩
  | static owner name =>
    obtain ⟨declared, above⟩ := ofChain searched
    exact ⟨declared, above, nofun⟩

/-! ## The target -/

/-- What holds of the target of a call, if the target is a certain member of a class. -/
structure IsTarget (cp : ClassPath) (callee : Callee) (arguments : List (Option TypeName))
    (c : ClassDecl) (m : Member) (target : Target) : Prop where
  /-- The declaring type is a declared class. -/
  declared : cp.find? target.method.declaringType = some c
  /-- It is the class that the call names, or one above by superclass; the first if an object is created. -/
  reached : ReflTransGen cp.Extends callee.owner target.method.declaringType
  constructed : callee.isConstructor = true → target.method.declaringType = callee.owner
  /-- The method is a member of this class that is called as the call says. -/
  member : m ∈ callee.named c
  method : target.method = cp.signature c callee.isConstructor m
  name : target.method.name = callee.memberName
  /-- It takes as many arguments, and the known ones are at or below their parameters. -/
  arity : target.method.arity = arguments.length
  accepted : List.Forall₂ (fun p a => ∀ type ∈ a, cp.isSubtype type p.name = true)
    target.method.parameters arguments
  /-- No other candidate of the class is as good. -/
  choice : cp.IsChoice (callee.candidates c) arguments m
  isStatic : callee.isStatic = true → m.isStatic = true
  /-- All members of the class that are called so are siblings, in their order. -/
  siblings : target.siblings = (callee.named c).map (cp.signature c callee.isConstructor)
  among : target.method ∈ target.siblings

theorem Built.memberName_eq (built : cp.Built) (declared : cp.find? c.name = some c)
    (constructed : callee.isConstructor = true → c.name = callee.owner) (member : m ∈ callee.named c) :
    m.name = callee.memberName := by
  cases callee with
  | constructor owner =>
    rw [built.namesConstructors c (find?_name declared).1 m member, constructed rfl]
    rfl
  | method receiver name => exact beq_iff_eq.1 (List.mem_filter.1 member).2
  | static owner name => exact beq_iff_eq.1 (List.mem_filter.1 member).2

/-- The choice in a class that is searched makes a target. -/
theorem Built.isTarget_targetIn (built : cp.Built) (searched : c ∈ cp.searchedBy callee)
    (choice : cp.IsChoice (callee.candidates c) arguments m) :
    cp.IsTarget callee arguments c m (cp.targetIn c callee.isConstructor m (callee.named c)) := by
  obtain ⟨declared, reached, constructed⟩ := reached_of_mem_searchedBy searched
  obtain ⟨member, isStatic⟩ := Callee.mem_candidates_iff.1 choice.mem
  have fits : cp.Fits arguments m := choice.best.fits
  exact {
    declared, reached, constructed, member, choice, isStatic
    method := rfl
    name := built.memberName_eq declared constructed member
    arity := by
      have same : (m.parameters.map cp.typeRef).length = m.parameters.length := List.length_map _
      exact same.trans fits.length_eq
    accepted := List.forall₂_map_left_iff.2 fits
    siblings := rfl
    among := List.mem_map_of_mem member }

/-- **Resolved calls.** The target of a resolved call is well formed. A call is resolved to the choice in the class
that it names, if there is one. In any case the view of the call lists its arguments as they were given. -/
theorem call_isTarget (built : cp.Built) (site : CallSite) :
    (∀ target, (cp.call site).target = some target →
      ∃ c m, cp.IsTarget site.callee site.arguments c m target) ∧
    (∀ c m, cp.find? site.callee.owner = some c →
      cp.IsChoice (site.callee.candidates c) site.arguments m →
      ∃ target, (cp.call site).target = some target ∧
        cp.IsTarget site.callee site.arguments c m target) ∧
    (cp.call site).arguments = site.arguments.map (Option.map cp.typeRef) := by
  refine ⟨fun target resolved => ?_, fun c m found choice => ?_, rfl⟩
  · obtain ⟨c, searched, m, choice, rfl⟩ := exists_isChoice_of_resolve? resolved
    exact ⟨c, m, built.isTarget_targetIn searched choice⟩
  · obtain ⟨above, first⟩ := searchedBy_eq_cons found
    have searched : c ∈ cp.searchedBy site.callee := by simp [first]
    exact ⟨_, resolve?_of_isChoice found choice, built.isTarget_targetIn searched choice⟩

/-- A class with two methods of one name, only the one for all objects being static. -/
def codec : ClassDecl :=
  (({ name := ⟨"example.Codec"⟩ } : ClassDecl).withMethod "decode" [.object] [] true).withMethod
    "decode" [.string] [] false

/-- A class below it that declares nothing. -/
def utfCodec : ClassDecl :=
  { name := ⟨"example.Utf"⟩, superclass := some codec.name }

def codecs : ClassPath :=
  (({} : ClassPath).add codec).add utfCodec

/-- `Utf.decode(text)` and `Codec.decode(text)` call the static method, although the other one is more specific, and
have both as siblings. -/
theorem call_isTarget_codec :
    let decode : Member := ⟨"decode", [.object], [], true⟩
    let inherited : CallSite := { callee := .static utfCodec.name "decode", arguments := [some .string] }
    let own : CallSite := { callee := .static codec.name "decode", arguments := [some .string] }
    codecs.Built ∧
    (∃ target, (codecs.call inherited).target = some target ∧ target.method.declaringType = codec.name ∧
      ∃ c m, codecs.IsTarget inherited.callee inherited.arguments c m target) ∧
    (codecs.find? own.callee.owner = some codec ∧
      codecs.IsChoice (own.callee.candidates codec) own.arguments decode ∧
      ∃ target, (codecs.call own).target = some target ∧ target.siblings.length = 2 ∧
        codecs.IsTarget own.callee own.arguments codec decode target) := by
  intro decode inherited own
  have built : codecs.Built := by
    have first : codec.Built := .withMethod _ _ _ _ (.withMethod _ _ _ _ (.ofName _))
    have second : utfCodec.Built := .extending codec.name (.ofName _)
    exact .add (.add .empty first) second
  have evaluated : (∃ target ∈ (codecs.call inherited).target, target.method.declaringType = codec.name) ∧
      codecs.find? own.callee.owner = some codec ∧
      codecs.select? (own.callee.candidates codec) own.arguments = some decode := by
    decide +kernel
  obtain ⟨⟨target, resolved, declaring⟩, found, chosen⟩ := evaluated
  have choice := select?_eq_some_iff_isChoice.1 chosen
  obtain ⟨sound, -, -⟩ := call_isTarget built inherited
  obtain ⟨-, complete, -⟩ := call_isTarget built own
  obtain ⟨target', resolved', isTarget⟩ := complete codec decode found choice
  have both : target'.siblings.length = 2 := by
    rw [isTarget.siblings]
    rfl
  exact ⟨built, ⟨target, resolved, declaring, sound target resolved⟩, found, choice, target', resolved',
    both, isTarget⟩

end ClassPath

end EncodingLint
