import EncodingLint.Proofs.Overloads

/-!
# From which class a method is taken

A call of a method by name goes up from its class, superclass by superclass. `Ascent` lists the classes it
meets, where they come to an end; they are the chain that is searched (`Ascent.chain_eq`), since no class
is met twice. The method is taken from the first of them with a single most specific applicable method. A
class on the way that has applicable methods but no such one is passed over like one that has none
(`select?_eq_none_iff_ambiguous`), so that an ambiguous call may end at a class above.
-/

set_option autoImplicit false

namespace EncodingLint

/-- A method called by name, on an object or as a static one. -/
def Callee.ofMethod (staticOnly : Bool) (owner : TypeName) (name : String) : Callee :=
  if staticOnly then .static owner name else .method owner name

namespace ClassPath

variable {cp : ClassPath} {owner parent : TypeName} {c d : ClassDecl} {m : Member}
  {classes known : List ClassDecl} {name : String} {staticOnly : Bool}
  {arguments : List (Option TypeName)} {target : Target}

/-! ## The way up -/

/-- The classes met by going up from a name by superclass, nearest first. There are such only if the way
comes to an end: at a class without superclass, or at a name that is not declared. -/
inductive Ascent (cp : ClassPath) : TypeName → List ClassDecl → Prop where
  | undeclared {owner : TypeName} (missing : cp.find? owner = none) : Ascent cp owner []
  | top {owner : TypeName} {c : ClassDecl} (found : cp.find? owner = some c)
      (ended : c.superclass = none) : Ascent cp owner [c]
  | up {owner parent : TypeName} {c : ClassDecl} {classes : List ClassDecl}
      (found : cp.find? owner = some c) (above : c.superclass = some parent)
      (rest : Ascent cp parent classes) : Ascent cp owner (c :: classes)

theorem Ascent.unique {others : List ClassDecl} (ascent : cp.Ascent owner classes)
    (ascent' : cp.Ascent owner others) : classes = others := by
  induction ascent generalizing others with
  | undeclared missing =>
    cases ascent' with
    | undeclared _ => rfl
    | top found _ => simp [missing] at found
    | up found _ _ => simp [missing] at found
  | top found ended =>
    cases ascent' with
    | undeclared missing => simp [missing] at found
    | top found' _ => rw [Option.some.inj (found.symm.trans found')]
    | up found' above _ =>
      rw [← Option.some.inj (found.symm.trans found'), ended] at above
      cases above
  | up found above rest ih =>
    cases ascent' with
    | undeclared missing => simp [missing] at found
    | top found' ended =>
      rw [← Option.some.inj (found.symm.trans found'), above] at ended
      cases ended
    | up found' above' rest' =>
      obtain rfl := Option.some.inj (found.symm.trans found')
      obtain rfl := Option.some.inj (above.symm.trans above')
      rw [ih rest']

/-- From each class on the way up the way goes on to its end. -/
theorem Ascent.of_mem (ascent : cp.Ascent owner classes) (member : d ∈ classes) :
    ∃ later, cp.Ascent d.name (d :: later) ∧ later.length < classes.length := by
  induction ascent with
  | undeclared missing => cases member
  | top found ended =>
    obtain rfl := List.mem_singleton.1 member
    obtain ⟨-, rfl⟩ := find?_name found
    exact ⟨[], .top found ended, Nat.zero_lt_one⟩
  | up found above rest ih =>
    rcases List.mem_cons.1 member with rfl | member
    · obtain ⟨-, rfl⟩ := find?_name found
      exact ⟨_, .up found above rest, Nat.lt_succ_self _⟩
    · obtain ⟨later, ascent, shorter⟩ := ih member
      exact ⟨later, ascent, Nat.lt_succ_of_lt shorter⟩

theorem Ascent.find?_eq (ascent : cp.Ascent owner (c :: classes)) : cp.find? owner = some c := by
  cases ascent with
  | top found ended => exact found
  | up found above rest => exact found

/-- No class is met twice, or the way would have no end. -/
theorem Ascent.name_ne (ascent : cp.Ascent owner (c :: classes)) (rest : cp.Ascent parent classes)
    (member : d ∈ classes) : d.name ≠ owner := by
  rintro rfl
  obtain ⟨later, again, shorter⟩ := rest.of_mem member
  have same := congrArg List.length (ascent.unique again)
  simp only [List.length_cons] at same
  omega

/-- The classes on the way up are a chain among all classes, and still are after classes that are not on
the way were taken out. -/
theorem Ascent.chainAmong_eq (ascent : cp.Ascent owner classes)
    (fewer : ∀ name d, known.find? (fun c => c.name = name) = some d → cp.find? name = some d)
    (kept : ∀ d ∈ classes, known.find? (fun c => c.name = d.name) = some d) :
    chainAmong known owner = classes := by
  induction ascent generalizing known with
  | @undeclared owner missing =>
    apply chainAmong_of_find?_eq_none
    by_contra declared
    obtain ⟨d, found⟩ := Option.ne_none_iff_exists'.1 declared
    rw [fewer owner d found] at missing
    cases missing
  | top found ended =>
    have found' := kept _ List.mem_cons_self
    rw [(find?_name found).2] at found'
    rw [chainAmong_of_find?_eq_some found', ended]
  | @up owner parent c classes found above rest ih =>
    have found' := kept _ List.mem_cons_self
    rw [(find?_name found).2] at found'
    rw [chainAmong_of_find?_eq_some found', above]
    congr 1
    apply ih
    · intro name d found
      rw [find?_others] at found
      exact fewer name d (Option.ite_none_left_eq_some.1 found).2
    · intro d member
      rw [find?_others, if_neg ((Ascent.up found above rest).name_ne rest member)]
      exact kept d (List.mem_cons_of_mem c member)

theorem Ascent.chain_eq (ascent : cp.Ascent owner classes) : cp.chain owner = classes := by
  apply ascent.chainAmong_eq (fun _ _ found => found)
  intro d member
  obtain ⟨later, onwards, -⟩ := ascent.of_mem member
  exact onwards.find?_eq

/-! ## The choice on the way -/

/-- Some method of the name is applicable, and none is the single most specific one. -/
def IsAmbiguous (cp : ClassPath) (candidates : List Member) (arguments : List (Option TypeName)) :
    Prop :=
  (∃ m ∈ candidates, cp.isApplicable arguments m = true) ∧
    ∀ m, cp.mostSpecific candidates arguments ≠ [m]

theorem select?_eq_none_iff {candidates : List Member} :
    cp.select? candidates arguments = none ↔ ∀ m, cp.mostSpecific candidates arguments ≠ [m] := by
  simp only [Option.eq_none_iff_forall_ne_some, ne_eq, select?_eq_some_iff]

theorem select?_eq_none_iff_ambiguous {candidates : List Member} :
    cp.select? candidates arguments = none ↔
      (∀ m ∈ candidates, cp.isApplicable arguments m = false) ∨ cp.IsAmbiguous candidates arguments := by
  rw [select?_eq_none_iff]
  constructor
  · intro unsettled
    by_cases applicable : ∃ m ∈ candidates, cp.isApplicable arguments m = true
    · exact .inr ⟨applicable, unsettled⟩
    · exact .inl (by simpa using applicable)
  · rintro (inapplicable | ambiguous) m single
    · have member : m ∈ cp.mostSpecific candidates arguments := by simp [single]
      obtain ⟨⟨member, applicable⟩, -⟩ := mem_mostSpecific_iff.1 member
      rw [inapplicable m member] at applicable
      cases applicable
    · exact ambiguous.2 m single

theorem resolve?_ofMethod (ascent : cp.Ascent owner classes) :
    cp.resolve? (.ofMethod staticOnly owner name) arguments =
      classes.findSome? (cp.methodIn? name staticOnly arguments) := by
  rw [← ascent.chain_eq]
  cases staticOnly with
  | false => rfl
  | true => rfl

/-- **A method is taken from the nearest class with a single most specific applicable one.** The classes
below have no applicable method, or are ambiguous. If no class on the way up settles the choice, the call
stays unresolved. -/
theorem resolve?_nearest (ascent : cp.Ascent owner classes) :
    (cp.resolve? (.ofMethod staticOnly owner name) arguments = some target ↔
      ∃ below c above m, classes = below ++ c :: above ∧
        cp.mostSpecific (candidatesIn c name staticOnly) arguments = [m] ∧
        target = cp.targetIn c false m (c.methods.filter fun m => m.name == name) ∧
        ∀ d ∈ below, (∀ m ∈ candidatesIn d name staticOnly, cp.isApplicable arguments m = false) ∨
          cp.IsAmbiguous (candidatesIn d name staticOnly) arguments) ∧
    (cp.resolve? (.ofMethod staticOnly owner name) arguments = none ↔
      ∀ c ∈ classes, ∀ m, cp.mostSpecific (candidatesIn c name staticOnly) arguments ≠ [m]) := by
  rw [resolve?_ofMethod ascent]
  constructor
  · rw [List.findSome?_eq_some_iff]
    simp only [methodIn?_eq, Option.map_eq_some_iff, Option.map_eq_none_iff, select?_eq_some_iff,
      select?_eq_none_iff_ambiguous]
    constructor
    · rintro ⟨below, c, above, split, ⟨m, single, rfl⟩, passed⟩
      exact ⟨below, c, above, m, split, single, rfl, passed⟩
    · rintro ⟨below, c, above, m, split, single, rfl, passed⟩
      exact ⟨below, c, above, split, ⟨m, single, rfl⟩, passed⟩
  · simp only [List.findSome?_eq_none_iff, methodIn?_eq, Option.map_eq_none_iff, select?_eq_none_iff]

/-! ## An ambiguous class on the way -/

/-- A class with two methods `put` for unrelated types. -/
def page : ClassDecl where
  name := ⟨"example.Page"⟩
  superclass := some ⟨"example.Sink"⟩
  methods := [⟨"put", [.string], [], false⟩, ⟨"put", [.byteArray], [], false⟩]

/-- The class above, with a method `put` for every object. -/
def sink : ClassDecl where
  name := ⟨"example.Sink"⟩
  methods := [⟨"put", [.object], [], false⟩]

def pages : ClassPath where
  classes := [page, sink]

/-- What `sink` and `page` make of a call of `put` with an argument of unknown type. -/
theorem pages_put :
    (∀ m ∈ candidatesIn page "put" false, pages.isApplicable [none] m = true) ∧
      pages.mostSpecific (candidatesIn page "put" false) [none] = [] ∧
      pages.mostSpecific (candidatesIn sink "put" false) [none] = sink.methods ∧
      (pages.resolve? (.method page.name "put") [none]).map (·.method.declaringType) =
        some sink.name := by
  decide +kernel

theorem ascent_page : pages.Ascent page.name [page, sink] := by
  have top : pages.Ascent sink.name [sink] := .top (by decide) rfl
  exact .up (by decide) rfl top

/-- Both methods of the page accept what is unknown, and neither is more specific. -/
theorem isAmbiguous_page : pages.IsAmbiguous (candidatesIn page "put" false) [none] := by
  obtain ⟨applicable, best, -⟩ := pages_put
  refine ⟨⟨⟨"put", [.string], [], false⟩, by decide, applicable _ (by decide)⟩, ?_⟩
  intro m single
  rw [best] at single
  cases single

/-- `page.put(x)` with an `x` of unknown type is taken from the class above. -/
theorem resolve?_nearest_sink :
    pages.Ascent page.name [page, sink] ∧
      pages.resolve? (.ofMethod false page.name "put") [none] =
        some (pages.targetIn sink false ⟨"put", [.object], [], false⟩ sink.methods) := by
  obtain ⟨-, -, single, -⟩ := pages_put
  refine ⟨ascent_page, (resolve?_nearest ascent_page).1.2 ?_⟩
  refine ⟨[page], sink, [], ⟨"put", [.object], [], false⟩, rfl, single, rfl, ?_⟩
  intro d member
  obtain rfl := List.mem_singleton.1 member
  exact .inr isAmbiguous_page

/-- The nearest class with applicable methods has no single most specific one, and still the call is
resolved: to a method of the class above. -/
theorem ambiguous_call_resolved :
    pages.Ascent page.name [page, sink] ∧
      (∃ m ∈ page.methods, m.name = "put" ∧ pages.isApplicable [none] m = true) ∧
      (∀ m, pages.mostSpecific (candidatesIn page "put" false) [none] ≠ [m]) ∧
      ∃ target, pages.resolve? (.method page.name "put") [none] = some target ∧
        target.method.declaringType = sink.name := by
  obtain ⟨-, -, -, resolved⟩ := pages_put
  obtain ⟨⟨m, member, applicable⟩, unsettled⟩ := isAmbiguous_page
  obtain ⟨memberM, named, -⟩ := mem_candidatesIn_iff.1 member
  refine ⟨ascent_page, ⟨m, memberM, named, applicable⟩, unsettled, ?_⟩
  exact Option.map_eq_some_iff.1 resolved

end ClassPath

end EncodingLint
