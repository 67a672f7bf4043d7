import EncodingLint.ClassPath.Platform
import EncodingLint.Proofs.Overloads
import EncodingLint.Proofs.Related

/-!
# The order of declarations

Two class paths are `Reordered` if they declare the same classes, each with the same constructors and
methods in any order. They have the same subtypes (`Reordered.isSubtype_eq`), the choice among overloads is
the same (`Reordered.select?_eq`), and a call has the same target but for the order of its siblings
(`Reordered.resolve?_rel`). No predicate looks at that order, so all inspections report the same
(`check_reordered`).
-/

set_option autoImplicit false

namespace EncodingLint

/-- Declarations of a class that differ in the order of constructors and methods only. -/
structure ClassDecl.Reordered (c d : ClassDecl) : Prop where
  name : c.name = d.name
  superclass : c.superclass = d.superclass
  interfaces : c.interfaces = d.interfaces
  constructors : c.constructors.Perm d.constructors
  methods : c.methods.Perm d.methods

/-- Targets that differ in the order of siblings only. -/
structure Target.Reordered (t u : Target) : Prop where
  method : t.method = u.method
  siblings : t.siblings.Perm u.siblings

/-- Calls that differ in the order of siblings only. -/
structure Call.Reordered (a b : Call) : Prop where
  arguments : a.arguments = b.arguments
  receiver : a.receiver = b.receiver
  target : Option.Rel Target.Reordered a.target b.target

/-- Class paths that declare the same classes, with members in any order. -/
def ClassPath.Reordered (cp cq : ClassPath) : Prop :=
  ∀ name, Option.Rel ClassDecl.Reordered (cp.find? name) (cq.find? name)

theorem ClassDecl.Reordered.supertypes_eq {c d : ClassDecl} (same : c.Reordered d) :
    c.supertypes = d.supertypes := by
  rw [supertypes, supertypes, same.superclass, same.interfaces]

namespace ClassPath

variable {cp cq : ClassPath} {c d : ClassDecl} {candidates candidates' : List Member}
  {arguments : List (Option TypeName)} {name : TypeName}

/-- Class by class, reordered declarations make reordered class paths. -/
theorem Reordered.of_forall₂ (classes : List.Forall₂ ClassDecl.Reordered cp.classes cq.classes) :
    cp.Reordered cq := by
  intro name
  unfold find?
  generalize cp.classes = cs, cq.classes = ds at classes ⊢
  induction classes with
  | nil => exact .none
  | @cons c d cs ds same rest ih =>
    simp only [List.find?_cons, same.name]
    split
    · exact .some same
    · exact ih

/-! ## Types -/

theorem Reordered.typeRef_eq (same : cp.Reordered cq) : cp.typeRef = cq.typeRef := by
  funext name
  have related := same name
  unfold typeRef
  cases found : cp.find? name with
  | none =>
    rw [found, optionRel_none_iff] at related
    rw [related]
  | some c =>
    rw [found, optionRel_some_iff] at related
    obtain ⟨d, found', related⟩ := related
    rw [found']
    simp [related.supertypes_eq]

theorem reaches_cons {target : TypeName} {seen rest : List TypeName} :
    cp.reaches target seen (name :: rest) =
      if seen.contains name then cp.reaches target seen rest
      else match cp.find? name with
        | none => cp.reaches target seen rest
        | some c =>
          c.supertypes.contains target || cp.reaches target (name :: seen) (c.supertypes ++ rest) := by
  rw [reaches]
  split
  · rfl
  · split <;> simp [*]

theorem Reordered.reaches_eq (same : cp.Reordered cq) (target : TypeName)
    (seen pending : List TypeName) :
    cp.reaches target seen pending = cq.reaches target seen pending := by
  fun_induction cp.reaches target seen pending with
  | case1 seen => simp [reaches]
  | case2 seen name rest old ih => rw [reaches_cons, if_pos old, ih]
  | case3 seen name rest fresh found ih =>
    have related := same name
    rw [found, optionRel_none_iff] at related
    rw [reaches_cons, if_neg fresh, related, ih]
  | case4 seen name rest fresh c found ih =>
    have related := same name
    rw [found, optionRel_some_iff] at related
    obtain ⟨d, found', related⟩ := related
    rw [reaches_cons, if_neg fresh, found', ih, related.supertypes_eq]

theorem Reordered.isSubtype_eq (same : cp.Reordered cq) : cp.isSubtype = cq.isSubtype := by
  funext sub sup
  rw [isSubtype, isSubtype, same.reaches_eq]

/-! ## Classes above a class -/

/-- If names stand for reordered classes, the chains from a name are reordered class by class. -/
theorem chainAmong_rel {cs ds : List ClassDecl}
    (same : ∀ name, Option.Rel ClassDecl.Reordered (cs.find? fun c => c.name = name)
      (ds.find? fun c => c.name = name)) (start : TypeName) :
    List.Forall₂ ClassDecl.Reordered (chainAmong cs start) (chainAmong ds start) := by
  fun_induction chainAmong cs start generalizing ds with
  | case1 cs start missing =>
    have related := same start
    rw [missing, optionRel_none_iff] at related
    rw [chainAmong_of_find?_eq_none related]
    exact .nil
  | case2 cs start first found ih =>
    have related := same start
    rw [found, optionRel_some_iff] at related
    obtain ⟨d, found', related⟩ := related
    rw [chainAmong_of_find?_eq_some found', ← related.superclass]
    refine .cons related ?_
    cases first.superclass with
    | none => exact .nil
    | some parent =>
      apply ih
      intro name
      rw [find?_others, find?_others]
      split
      · exact .none
      · exact same name

/-! ## The choice among overloads -/

theorem Reordered.isApplicable_eq (same : cp.Reordered cq) : cp.isApplicable = cq.isApplicable := by
  have accepts : cp.accepts = cq.accepts := by
    funext parameter argument
    cases argument with
    | none => rfl
    | some argument => rw [ClassPath.accepts, ClassPath.accepts, same.isSubtype_eq]
  funext arguments m
  rw [isApplicable, isApplicable, accepts]

theorem Reordered.isAsSpecific_eq (same : cp.Reordered cq) : cp.isAsSpecific = cq.isAsSpecific := by
  funext m other
  rw [isAsSpecific, isAsSpecific, same.isSubtype_eq]

/-- The most specific members are the same in any order of the candidates. -/
theorem Reordered.mostSpecific_perm (same : cp.Reordered cq) (perm : candidates.Perm candidates') :
    (cp.mostSpecific candidates arguments).Perm (cq.mostSpecific candidates' arguments) := by
  unfold mostSpecific
  rw [same.isApplicable_eq, same.isAsSpecific_eq]
  have applicable := perm.filter (cq.isApplicable arguments)
  simp only [applicable.all_eq]
  exact applicable.filter _

/-- No candidate is chosen for where it stands: two that are alike are no choice at all. -/
theorem Reordered.select?_eq (same : cp.Reordered cq) (perm : candidates.Perm candidates') :
    cp.select? candidates arguments = cq.select? candidates' arguments := by
  apply Option.ext
  intro m
  rw [select?_eq_some_iff, select?_eq_some_iff]
  have perm : (cp.mostSpecific candidates arguments).Perm (cq.mostSpecific candidates' arguments) :=
    same.mostSpecific_perm perm
  constructor
  · intro only
    rw [only] at perm
    exact List.perm_singleton.1 perm.symm
  · intro only
    rw [only] at perm
    exact List.perm_singleton.1 perm

/-! ## Targets -/

theorem Reordered.signature_eq (same : cp.Reordered cq) (related : c.Reordered d) :
    cp.signature c = cq.signature d := by
  funext isConstructor m
  rw [signature, signature, related.name, same.typeRef_eq]

theorem Reordered.map_targetIn_rel (same : cp.Reordered cq) (related : c.Reordered d)
    (perm : candidates.Perm candidates') (isConstructor : Bool) (chosen : Option Member) :
    Option.Rel Target.Reordered (chosen.map fun m => cp.targetIn c isConstructor m candidates)
      (chosen.map fun m => cq.targetIn d isConstructor m candidates') := by
  cases chosen with
  | none => exact .none
  | some m =>
    refine .some ⟨?_, ?_⟩
    · change cp.signature c isConstructor m = _
      rw [same.signature_eq related]
      rfl
    · change (candidates.map (cp.signature c isConstructor)).Perm _
      rw [same.signature_eq related]
      exact perm.map _

theorem Reordered.constructorIn?_rel (same : cp.Reordered cq) (related : c.Reordered d) :
    Option.Rel Target.Reordered (cp.constructorIn? c arguments) (cq.constructorIn? d arguments) := by
  unfold constructorIn?
  rw [same.select?_eq related.constructors]
  exact same.map_targetIn_rel related related.constructors true _

theorem Reordered.methodIn?_rel (same : cp.Reordered cq) (related : c.Reordered d) (name : String)
    (staticOnly : Bool) :
    Option.Rel Target.Reordered (cp.methodIn? name staticOnly arguments c)
      (cq.methodIn? name staticOnly arguments d) := by
  simp only [methodIn?]
  have named := related.methods.filter fun m => m.name == name
  rw [same.select?_eq (named.filter _)]
  exact same.map_targetIn_rel related named false _

/-- A call has the same target but for the order of siblings, or none on both class paths. -/
theorem Reordered.resolve?_rel (same : cp.Reordered cq) (callee : Callee)
    (arguments : List (Option TypeName)) :
    Option.Rel Target.Reordered (cp.resolve? callee arguments) (cq.resolve? callee arguments) := by
  have ofMethod (owner : TypeName) (name : String) (staticOnly : Bool) :
      Option.Rel Target.Reordered ((cp.chain owner).findSome? (cp.methodIn? name staticOnly arguments))
        ((cq.chain owner).findSome? (cq.methodIn? name staticOnly arguments)) :=
    findSome?_rel (chainAmong_rel same owner) fun c d related =>
      same.methodIn?_rel related name staticOnly
  cases callee with
  | constructor owner =>
    have declared := same owner
    simp only [resolve?]
    cases found : cp.find? owner with
    | none =>
      rw [found, optionRel_none_iff] at declared
      rw [declared]
      exact .none
    | some c =>
      rw [found, optionRel_some_iff] at declared
      obtain ⟨d, found', related⟩ := declared
      rw [found']
      exact same.constructorIn?_rel related
  | method receiver name => exact ofMethod receiver name false
  | static owner name => exact ofMethod owner name true

theorem Reordered.call_reordered (same : cp.Reordered cq) (site : CallSite) :
    (cp.call site).Reordered (cq.call site) := by
  refine ⟨?_, rfl, same.resolve?_rel _ _⟩
  rw [call, call, same.typeRef_eq]

end ClassPath

/-! ## Reports -/

variable {a b : Call}

theorem Call.Reordered.isResolved_eq (same : a.Reordered b) : a.isResolved = b.isResolved := by
  unfold Call.isResolved
  generalize a.target = t, b.target = u, same.target = related
  cases related with
  | none => rfl
  | some related => rfl

theorem Call.Reordered.method?_eq (same : a.Reordered b) : a.method? = b.method? := by
  unfold Call.method?
  generalize a.target = t, b.target = u, same.target = related
  cases related with
  | none => rfl
  | some related => exact congrArg some related.method

namespace Predicate

theorem isFixable_eq_of_reordered {t u : Target} (same : t.Reordered u) (fix : Fix) :
    isFixable t fix = isFixable u fix := by
  unfold isFixable
  rw [same.method]
  exact same.siblings.any_eq

theorem needVerdict_eq_of_reordered (same : a.Reordered b) (fix : Fix) :
    needVerdict a fix = needVerdict b fix := by
  unfold needVerdict
  generalize a.target = t, b.target = u, same.target = related
  cases related with
  | none => rfl
  | some related => simp only [related.method, isFixable_eq_of_reordered related]

/-- No predicate looks at the order of siblings. -/
theorem evaluate_eq_of_reordered (same : a.Reordered b) (p : Predicate) :
    p.evaluate a = p.evaluate b := by
  induction p with
  | ofClass type => simp only [evaluate, same.receiver, same.method?_eq]
  | named name => simp only [evaluate, same.method?_eq]
  | isConstructor => simp only [evaluate, same.method?_eq]
  | argumentTypes types => simp only [evaluate, same.arguments]
  | hasArgument type => simp only [evaluate, Call.knownArguments, same.arguments]
  | not inner ih => simp only [evaluate, ih]
  | doesNotThrow type => simp only [evaluate, same.method?_eq]
  | needParameter fix => exact needVerdict_eq_of_reordered same fix

end Predicate

theorem Rule.check_eq_of_reordered (same : a.Reordered b) (r : Rule) : r.check a = r.check b := by
  unfold Rule.check
  simp only [Predicate.evaluate_eq_of_reordered same]

namespace Inspection

/-- Two calls that differ in the order of siblings have the same problems: the same rules find them, and
offer the same fixes. -/
theorem map_check_eq_of_reordered (same : a.Reordered b) (i : Inspection) :
    (i.check a).map (fun p => (p.rule, p.fixes)) = (i.check b).map fun p => (p.rule, p.fixes) := by
  have related : List.Forall₂ (fun p q => (p.rule, p.fixes) = (q.rule, q.fixes)) (i.check a) (i.check b) := by
    refine check_rel rfl rfl same.isResolved_eq (List.forall₂_same.2 fun _ _ => rfl) ?_
    rintro rule _ rfl
    rw [report?, report?, Rule.check_eq_of_reordered same]
    cases rule.1.check b with
    | none => exact .none
    | some fixes => exact .some rfl
  rw [← List.forall₂_map_right_iff, ← List.forall₂_map_left_iff, List.forall₂_eq_eq_eq] at related
  exact related

/-- **The order in which classes declare their members does not matter.** A call is unresolved in either
order, or it is resolved to the same member, with the same siblings in some order; and the same rules find it,
with the same fixes. -/
theorem check_reordered {cp cq : ClassPath} (same : cp.Reordered cq) (site : CallSite)
    (i : Inspection) :
    Option.Rel Target.Reordered (cp.call site).target (cq.call site).target ∧
      (i.check (cp.call site)).map (fun p => (p.rule, p.fixes)) =
        (i.check (cq.call site)).map fun p => (p.rule, p.fixes) :=
  ⟨(same.call_reordered site).target, map_check_eq_of_reordered (same.call_reordered site) i⟩

/-- `new String(bytes)`, with the platform declared from last to first. -/
theorem check_reordered_reversed :
    let reversed (c : ClassDecl) : ClassDecl :=
      { c with constructors := c.constructors.reverse, methods := c.methods.reverse }
    let backwards : ClassPath :=
      { classes := ClassPath.platform.classes.map reversed
        distinct := by rw [List.map_map]; exact ClassPath.platform.distinct }
    let site : CallSite := ⟨.constructor .string, [some .byteArray], none, none⟩
    ClassPath.platform.Reordered backwards ∧
      Option.Rel Target.Reordered (ClassPath.platform.call site).target (backwards.call site).target ∧
      (({} : Inspection).check (ClassPath.platform.call site)).map (fun p => (p.rule, p.fixes)) =
        (({} : Inspection).check (backwards.call site)).map fun p => (p.rule, p.fixes) := by
  intro reversed backwards site
  have same : ClassPath.platform.Reordered backwards := by
    apply ClassPath.Reordered.of_forall₂
    rw [List.forall₂_map_right_iff, List.forall₂_same]
    intro c _
    exact ⟨rfl, rfl, rfl, (List.reverse_perm _).symm, (List.reverse_perm _).symm⟩
  exact ⟨same, check_reordered same site {}⟩

end Inspection

end EncodingLint
