import EncodingLint.Proofs.Outcome
import EncodingLint.Proofs.Reports

/-!
# What a rule is made of

A rule narrows down which calls it is about, and then asks for parameters that are missing. Only the second
part and the fixes depend on a charset; a `RuleOutline` is a rule without it. The rule that a user wrote is its
outline with the charset filled in, whenever it can be built (`RuleSpec.eq_of_toRule`), and so are the built-in
rules (`Catalog.withCharset_eq`).
-/

set_option autoImplicit false

namespace EncodingLint

/-- A rule but for the charset of its fixes. -/
structure RuleOutline where
  /-- Which calls the rule is about. -/
  narrowing : List Predicate
  /-- The parameters that such calls may lack. -/
  need : List FixKind := []
  /-- The fixes to offer in any case. -/
  fixes : List FixKind := []
  plain : narrowing.all Predicate.isPlain = true := by rfl

namespace RuleOutline

/-- The rule for a charset. -/
def toRule (o : RuleOutline) (charset : String) : Rule where
  predicates := o.narrowing ++ o.need.map fun kind => .needParameter (kind.toFix charset)
  fixes := o.fixes.map (FixKind.toFix charset)

theorem mem_predicates_iff {o : RuleOutline} {charset : String} {p : Predicate} :
    p ∈ (o.toRule charset).predicates ↔
      p ∈ o.narrowing ∨ ∃ kind ∈ o.need, p = .needParameter (kind.toFix charset) := by
  simp [toRule, eq_comm (a := p)]

end RuleOutline

namespace Rule

variable {r : Rule}

theorem foldl_fixedBy {fixes : List Fix} : fixes.foldl fixedBy r = ⟨r.predicates, r.fixes ++ fixes⟩ := by
  induction fixes generalizing r with
  | nil => simp
  | cons fix fixes ih =>
    rw [List.foldl_cons, ih]
    simp [fixedBy]

end Rule

namespace RuleSpec

variable {α : Type} {spec : RuleSpec} {className charset : String} {r next : Rule}

/-- The predicates of what a user wrote, setting by setting. -/
def narrowing (spec : RuleSpec) : List Predicate :=
  .ofClass (.ofString spec.className) :: (if spec.constructorsOnly then [.isConstructor] else []) ++
    (spec.name.map fun name => .named (Text.trimmed name)).toList ++
    (spec.parameterTypes.map fun types => .argumentTypes (types.map .ofString)).toList ++
    (spec.withParameterType.map fun type => .hasArgument (.ofString type)).toList ++
    (spec.exceptParameterType.map fun type => .not (.hasArgument (.ofString type))).toList ++
    (spec.dontThrow.map fun type => .doesNotThrow (.ofString type)).toList

theorem narrowing_plain : spec.narrowing.all Predicate.isPlain = true := by
  have base : (.ofClass (.ofString spec.className) ::
      (if spec.constructorsOnly then [.isConstructor] else [])).all Predicate.isPlain = true := by
    split <;> rfl
  have setting {β : Type} (value : Option β) (f : β → Predicate) (plain : ∀ b, (f b).isPlain = true) :
      (value.map f).toList.all Predicate.isPlain = true := by
    cases value <;> simp [plain]
  simp only [narrowing, List.all_append, base, Bool.true_and, Bool.and_eq_true]
  exact ⟨⟨⟨⟨setting _ _ fun _ => rfl, setting _ _ fun _ => rfl⟩, setting _ _ fun _ => rfl⟩,
    setting _ _ fun _ => rfl⟩, setting _ _ fun _ => rfl⟩

/-- What a user wrote, but for the charset. -/
def outline (spec : RuleSpec) : RuleOutline where
  narrowing := spec.narrowing
  need := spec.need
  fixes := spec.fixes
  plain := narrowing_plain

/-! ## Reading the settings of a rule -/

theorem eq_of_readType {type : String} {t : TypeName} (read : readType className type = .ok t) :
    t = .ofString type := by
  unfold readType at read
  split at read
  · exact absurd read Outcome.throw_ne_ok
  · exact (Outcome.pure_eq_ok_iff.1 read).symm

theorem eq_of_mapM_readType {types : List String} {ts : List TypeName}
    (read : types.mapM (readType className) = .ok ts) : ts = types.map .ofString := by
  induction types generalizing ts with
  | nil => exact (Outcome.pure_eq_ok_iff.1 read).symm
  | cons type types ih =>
    rw [List.mapM_cons] at read
    obtain ⟨t, first, read⟩ := Outcome.bind_eq_ok_iff.1 read
    obtain ⟨rest, others, read⟩ := Outcome.bind_eq_ok_iff.1 read
    rw [← Outcome.pure_eq_ok_iff.1 read, eq_of_readType first, ih others]
    rfl

/-- A setting adds its predicate behind those that are there. -/
theorem eq_of_extend {setting : Option α} {add : α → Except SpecError Rule} {f : α → Predicate}
    (extended : extend r setting add = .ok next)
    (adds : ∀ value, add value = .ok next → next = r.withPredicate (f value)) :
    next = ⟨r.predicates ++ (setting.map f).toList, r.fixes⟩ := by
  cases setting with
  | none =>
    rw [← Outcome.pure_eq_ok_iff.1 extended]
    simp
  | some value => exact adds value extended

/-- A setting with one type adds a predicate on this type. -/
theorem eq_of_extend_readType {setting : Option String} {f : TypeName → Predicate}
    (extended : (extend r setting fun type => do return r.withPredicate (f (← readType className type))) =
      .ok next) :
    next = ⟨r.predicates ++ (setting.map fun type => f (.ofString type)).toList, r.fixes⟩ := by
  apply eq_of_extend extended
  intro type added
  obtain ⟨t, read, added⟩ := Outcome.bind_eq_ok_iff.1 added
  rw [← Outcome.pure_eq_ok_iff.1 added, eq_of_readType read]

theorem base_eq {type : TypeName} {constructorsOnly : Bool} :
    (if constructorsOnly then Rule.constructorsOf type else Rule.membersOf type) =
      ⟨.ofClass type :: (if constructorsOnly then [.isConstructor] else []), []⟩ := by
  split <;> rfl

/-- A rule that could be built is what the user wrote, with the charset filled in. -/
theorem eq_of_toRule (built : spec.toRule charset = .ok r) : r = spec.outline.toRule charset := by
  unfold toRule at built
  dsimp only at built
  split at built
  · exact absurd built Outcome.throw_ne_ok
  · obtain ⟨r₁, name, built⟩ := Outcome.bind_eq_ok_iff.1 built
    obtain ⟨r₂, parameterTypes, built⟩ := Outcome.bind_eq_ok_iff.1 built
    obtain ⟨r₃, withParameterType, built⟩ := Outcome.bind_eq_ok_iff.1 built
    obtain ⟨r₄, exceptParameterType, built⟩ := Outcome.bind_eq_ok_iff.1 built
    obtain ⟨r₅, dontThrow, built⟩ := Outcome.bind_eq_ok_iff.1 built
    have named := eq_of_extend (f := fun name => .named (Text.trimmed name)) name fun value added => by
      split at added
      · exact absurd added Outcome.throw_ne_ok
      · exact (Outcome.pure_eq_ok_iff.1 added).symm
    have withTypes := eq_of_extend (f := fun types => .argumentTypes (types.map .ofString))
      parameterTypes fun types added => by
        obtain ⟨ts, read, added⟩ := Outcome.bind_eq_ok_iff.1 added
        rw [← Outcome.pure_eq_ok_iff.1 added, eq_of_mapM_readType read]
        rfl
    have withType := eq_of_extend_readType (f := .hasArgument) withParameterType
    have withoutType := eq_of_extend_readType (f := fun t => .not (.hasArgument t)) exceptParameterType
    have notThrowing := eq_of_extend_readType (f := .doesNotThrow) dontThrow
    rw [← Outcome.pure_eq_ok_iff.1 built, Rule.foldl_fixedBy, Rule.needing_eq, notThrowing, withoutType,
      withType, withTypes, named, base_eq]
    simp [RuleOutline.toRule, outline, narrowing, Function.comp_def]

end RuleSpec

namespace Catalog

/-- The built-in rules but for the charset. -/
def outlines : List RuleOutline :=
  [{ narrowing := [.ofClass .string, .named "getBytes", .argumentTypes []], need := [.charset, .string] },
   { narrowing := [.ofClass .string, .isConstructor, .hasArgument .byteArray],
     need := [.charset, .string] },
   { narrowing := [.ofClass .charset, .named "defaultCharset"] },
   { narrowing := [.ofClass .fileWriter] },
   { narrowing := [.ofClass .inputStreamReader, .isConstructor], need := [.charset, .string] },
   { narrowing := [.ofClass .outputStreamWriter, .isConstructor], need := [.charset, .string] },
   { narrowing := [.ofClass .printStream, .isConstructor, .doesNotThrow .unsupportedEncoding],
     need := [.string] },
   { narrowing := [.ofClass .printWriter, .isConstructor, .not (.hasArgument .writer),
       .doesNotThrow .unsupportedEncoding],
     need := [.string] }]

/-- The built-in rules are their outlines with the charset filled in. -/
theorem withCharset_eq (charset : String) :
    (withCharset charset).rules = outlines.map fun o => o.toRule charset :=
  rfl

end Catalog

end EncodingLint
