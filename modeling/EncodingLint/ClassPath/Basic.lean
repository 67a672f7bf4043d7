import EncodingLint.Call

/-!
# Class paths

A class path holds declarations of classes by name. `isSubtype` follows the types directly above a
class from one declared class to the next; it ends on every class path, also if classes are above each
other in a circle, because no class is looked into twice.
-/

set_option autoImplicit false

namespace EncodingLint

/-- A method or constructor of a class. -/
structure Member where
  name : String
  parameters : List TypeName
  throws : List TypeName := []
  isStatic : Bool := false
deriving DecidableEq, Repr

/-- The declaration of a class or interface. -/
structure ClassDecl where
  name : TypeName
  superclass : Option TypeName := none
  interfaces : List TypeName := []
  constructors : List Member := []
  methods : List Member := []
deriving DecidableEq, Repr

/-- The declarations of classes, at most one of a name. -/
structure ClassPath where
  classes : List ClassDecl := []
  distinct : (classes.map ClassDecl.name).Nodup := by decide
deriving DecidableEq, Repr

namespace ClassDecl

/-- The types directly above a class: its superclass, then its interfaces. -/
def supertypes (c : ClassDecl) : List TypeName :=
  c.superclass.toList ++ c.interfaces

/-- The class with one more constructor. -/
def withConstructor (c : ClassDecl) (parameters throws : List TypeName) : ClassDecl :=
  { c with constructors := c.constructors ++ [⟨c.name.simpleName, parameters, throws, false⟩] }

/-- The class with one more method. -/
def withMethod (c : ClassDecl) (name : String) (parameters throws : List TypeName)
    (isStatic : Bool) : ClassDecl :=
  { c with methods := c.methods ++ [⟨name, parameters, throws, isStatic⟩] }

end ClassDecl

namespace ClassPath

/-- The declaration of a class. -/
def find? (cp : ClassPath) (name : TypeName) : Option ClassDecl :=
  cp.classes.find? fun c => c.name = name

/-- The classes of other names. -/
def others (classes : List ClassDecl) (name : TypeName) : List ClassDecl :=
  classes.filter fun c => c.name ≠ name

theorem nodup_cons_others {classes : List ClassDecl}
    (distinct : (classes.map ClassDecl.name).Nodup) (c : ClassDecl) :
    ((c :: others classes c.name).map ClassDecl.name).Nodup := by
  rw [List.map_cons, List.nodup_cons]
  constructor
  · simp [others]
  · exact (List.filter_sublist.map ClassDecl.name).nodup distinct

/-- Declares a class, in place of an earlier one of the same name. -/
def add (cp : ClassPath) (c : ClassDecl) : ClassPath where
  classes := c :: others cp.classes c.name
  distinct := nodup_cons_others cp.distinct c

/-- A type as a call site sees it. A type that is not declared has nothing above it. -/
def typeRef (cp : ClassPath) (name : TypeName) : TypeRef where
  name := name
  supertypes := ((cp.find? name).map ClassDecl.supertypes).getD []

/-- The classes that were not seen yet. -/
def unseen (cp : ClassPath) (seen : List TypeName) : List ClassDecl :=
  cp.classes.filter fun c => !seen.contains c.name

/-- A bound on what is left to look at, besides what is pending: each unseen class, and the types
directly above it. -/
def work (cp : ClassPath) (seen : List TypeName) : Nat :=
  ((cp.unseen seen).flatMap fun c => c.name :: c.supertypes).length

theorem find?_name {cp : ClassPath} {name : TypeName} {c : ClassDecl}
    (h : cp.find? name = some c) : c ∈ cp.classes ∧ c.name = name :=
  ⟨List.mem_of_find?_eq_some h, by simpa using List.find?_some h⟩

/-- To look into a class takes the classes of its name off those that were not seen. -/
theorem unseen_cons (cp : ClassPath) (seen : List TypeName) (name : TypeName) :
    cp.unseen (name :: seen) = (cp.unseen seen).filter fun d => d.name ≠ name := by
  rw [unseen, unseen, List.filter_filter]
  apply List.filter_congr
  intro d _
  by_cases same : d.name = name <;> simp [same]

/-- To look into a class for the first time takes more off the work than it adds to what is pending. -/
theorem work_cons_lt {cp : ClassPath} {seen : List TypeName} {name : TypeName} {c : ClassDecl}
    (fresh : seen.contains name = false) (h : cp.find? name = some c) :
    cp.work (name :: seen) + c.supertypes.length < cp.work seen := by
  obtain ⟨declared, rfl⟩ := find?_name h
  have notSeen : c ∈ cp.unseen seen := List.mem_filter.2 ⟨declared, by rw [fresh]; rfl⟩
  have member : c ∈ (cp.unseen seen).filter fun d => !decide (d.name ≠ c.name) :=
    List.mem_filter.2 ⟨notSeen, by simp⟩
  obtain ⟨before, after, cut⟩ := List.append_of_mem member
  -- What was not seen is what is still unseen then, and the classes of this name.
  have parted := List.filter_append_perm (fun d => d.name ≠ c.name) (cp.unseen seen)
  rw [← unseen_cons, cut] at parted
  have sizes := (parted.flatMap_right fun d => d.name :: d.supertypes).length_eq
  simp only [List.flatMap_append, List.flatMap_cons, List.length_append, List.length_cons] at sizes
  unfold work
  omega

/-- Whether the target is directly above one of the pending classes, or above a class reached from
them. Classes already seen are not looked into again. -/
def reaches (cp : ClassPath) (target : TypeName) (seen pending : List TypeName) : Bool :=
  match pending with
  | [] => false
  | name :: rest =>
    if _fresh : seen.contains name then
      cp.reaches target seen rest
    else
      match _h : cp.find? name with
      | none => cp.reaches target seen rest
      | some c =>
        c.supertypes.contains target ||
          cp.reaches target (name :: seen) (c.supertypes ++ rest)
termination_by cp.work seen + pending.length
decreasing_by
  · simp
  · simp
  · have := work_cons_lt (by simpa using _fresh) _h
    simp only [List.length_append, List.length_cons]
    omega

/-- Whether a type is at or below another one. Every reference type is below `java.lang.Object`. -/
def isSubtype (cp : ClassPath) (sub sup : TypeName) : Bool :=
  if sub = sup then true
  else if sup = .object then sub.isReference
  else cp.reaches sup [] [sub]

theorem length_others_lt {classes : List ClassDecl} {name : TypeName} {c : ClassDecl}
    (h : classes.find? (fun c => c.name = name) = some c) :
    (others classes name).length < classes.length := by
  have same : c.name = name := by simpa using List.find?_some h
  exact List.length_filter_lt_length_iff_exists.2 ⟨c, List.mem_of_find?_eq_some h, by simp [same]⟩

/-- The class of a name and the classes above it by superclass, as far as they are among the classes
given; each is met once. -/
def chainAmong (classes : List ClassDecl) (name : TypeName) : List ClassDecl :=
  match _h : classes.find? fun c => c.name = name with
  | none => []
  | some c =>
    c :: match c.superclass with
      | none => []
      | some parent => chainAmong (others classes name) parent
termination_by classes.length
decreasing_by exact length_others_lt _h

/-- A class and the classes above it by superclass, nearest first. -/
def chain (cp : ClassPath) (name : TypeName) : List ClassDecl :=
  chainAmong cp.classes name

end ClassPath

end EncodingLint
