import EncodingLint.Proofs.CharsetChange
import EncodingLint.Proofs.SecondFix

/-!
# What a charset can put into the source

The charset of the settings is any text at all, and a fix copies it into the source. `effectiveCharset` stands between
the two: it gives a legal name for every text (`isCharsetName_effectiveCharset`), and a legal name is made of
characters that mean nothing inside a literal (`Fix.ofList_literal`). Every rule of a catalog, built-in or from the
user, takes its fixes from this name (`Catalog.mem_fixes_ofSettings`), so all that is ever inserted are the two shapes
of `Catalog.inserted_ofSettings`.
-/

set_option autoImplicit false

namespace EncodingLint

variable {c : Char} {name charset : String} {kind : FixKind} {fix : Fix}

/-! ## Legal names -/

/-- A name of the form `[A-Za-z0-9][A-Za-z0-9._:+-]*`. -/
def IsSpelledLegally (name : String) : Prop :=
  ∃ first rest, name.toList = first :: rest ∧ first.isAlphanum = true ∧
    ∀ c ∈ rest, c.isAlphanum = true ∨ c ∈ ['.', '_', ':', '+', '-']

theorem isCharsetStart_eq (c : Char) : isCharsetStart c = c.isAlphanum := by
  have lower : (decide ('a' ≤ c) && decide (c ≤ 'z')) = c.isLower := rfl
  have upper : (decide ('A' ≤ c) && decide (c ≤ 'Z')) = c.isUpper := by
    rw [← Bool.decide_and]
    rfl
  have digit : (decide ('0' ≤ c) && decide (c ≤ '9')) = c.isDigit := rfl
  have alphanumeric : c.isAlphanum = (c.isUpper || c.isLower || c.isDigit) := rfl
  rw [isCharsetStart, lower, upper, digit, alphanumeric, Bool.or_comm c.isLower]

theorem isCharsetPart_iff : isCharsetPart c = true ↔ c.isAlphanum = true ∨ c ∈ ['.', '_', ':', '+', '-'] := by
  simp only [isCharsetPart, isCharsetStart_eq, Bool.or_eq_true, beq_iff_eq, List.mem_cons, List.not_mem_nil, or_false]
  tauto

theorem isCharsetName_iff : isCharsetName name = true ↔ IsSpelledLegally name := by
  unfold isCharsetName IsSpelledLegally
  cases spelled : name.toList with
  | nil => simp
  | cons first rest => simp [isCharsetStart_eq, isCharsetPart_iff]

namespace InspectionSettings

variable {s : InspectionSettings}

/-- Whatever is set, a legal name is used. -/
theorem isCharsetName_effectiveCharset (s : InspectionSettings) : isCharsetName s.effectiveCharset = true := by
  unfold effectiveCharset
  split
  next legal => exact legal
  next => decide

theorem effectiveCharset_eq_iff : s.effectiveCharset = s.charset ↔ isCharsetName s.charset = true := by
  constructor
  · intro same
    rw [← same]
    exact isCharsetName_effectiveCharset s
  · intro legal
    rw [effectiveCharset, if_pos legal]

end InspectionSettings

namespace Settings

variable {s : Settings}

theorem invalidCharset_mem_warnings_iff {value : String} :
    .invalidCharset value ∈ s.warnings ↔
      isCharsetName s.inspection.charset = false ∧ value = s.inspection.charset := by
  rw [warnings, List.mem_append, or_iff_left]
  · cases isCharsetName s.inspection.charset <;> simp
  · -- No warning about a rule is one about the charset.
    intro member
    obtain ⟨⟨spec, index⟩, -, about⟩ := List.mem_flatMap.1 member
    simp [RuleSpec.mem_warnings_iff] at about

/-- There is a warning about the charset if and only if another one is used. -/
theorem exists_invalidCharset_iff :
    (∃ value, .invalidCharset value ∈ s.warnings) ↔ s.inspection.effectiveCharset ≠ s.inspection.charset := by
  simp only [invalidCharset_mem_warnings_iff, exists_and_left, exists_eq, and_true, ne_eq,
    InspectionSettings.effectiveCharset_eq_iff, Bool.not_eq_true]

end Settings

/-! ## Fixes -/

/-- The fixes that a predicate holds, whether it can offer them or not. -/
def Predicate.fixes : Predicate → List Fix
  | needParameter fix => [fix]
  | not inner => inner.fixes
  | _ => []

/-- All fixes that a rule holds: those to offer in any case, and those of its predicates. -/
def Rule.allFixes (r : Rule) : List Fix :=
  r.fixes ++ r.predicates.flatMap Predicate.fixes

/-- What narrows down the calls of a rule that a user wrote holds no fixes. -/
theorem RuleSpec.fixes_of_mem_narrowing {spec : RuleSpec} {p : Predicate} (member : p ∈ spec.narrowing) :
    p.fixes = [] := by
  simp only [narrowing, List.mem_append, List.mem_cons, Option.mem_toList, Option.map_eq_some_iff] at member
  rcases member with (((((rfl | only) | ⟨_, -, rfl⟩) | ⟨_, -, rfl⟩) | ⟨_, -, rfl⟩) | ⟨_, -, rfl⟩) | ⟨_, -, rfl⟩
  case inl.inl.inl.inl.inl.inr =>
    split at only
    · obtain rfl := List.mem_singleton.1 only
      rfl
    · cases only
  all_goals rfl

theorem Catalog.fixes_of_mem_narrowing {o : RuleOutline} {p : Predicate} (builtin : o ∈ outlines)
    (member : p ∈ o.narrowing) : p.fixes = [] := by
  have all : ∀ o ∈ outlines, ∀ p ∈ o.narrowing, p.fixes = [] := by
    simp [outlines, Predicate.fixes]
  exact all o builtin p member

namespace Settings

variable {s : Settings}

theorem fixes_of_mem_narrowing {o : RuleOutline} {p : Predicate} (outlined : o ∈ s.outlines)
    (member : p ∈ o.narrowing) : p.fixes = [] := by
  rcases List.mem_append.1 outlined with builtin | own
  · exact Catalog.fixes_of_mem_narrowing builtin member
  · obtain ⟨spec, -, outlined⟩ := List.mem_filterMap.1 own
    obtain rfl : spec.outline = o := by
      unfold RuleSpec.outline? at outlined
      split at outlined
      · cases outlined
      · exact Option.some.inj outlined
    exact RuleSpec.fixes_of_mem_narrowing member

end Settings

/-- The fixes of an outlined rule are those of its kinds, if nothing else holds fixes. -/
theorem RuleOutline.allFixes_toRule {o : RuleOutline} (bare : ∀ p ∈ o.narrowing, p.fixes = []) :
    (o.toRule charset).allFixes = (o.fixes ++ o.need).map (FixKind.toFix charset) := by
  have narrowing : o.narrowing.flatMap Predicate.fixes = [] := List.flatMap_eq_nil_iff.2 bare
  have needed : (o.need.map fun kind => Predicate.needParameter (kind.toFix charset)).flatMap Predicate.fixes =
      o.need.map (FixKind.toFix charset) := by
    rw [List.flatMap_map, List.map_eq_flatMap]
    rfl
  simp only [Rule.allFixes, toRule, List.flatMap_append, narrowing, needed, List.nil_append, List.map_append]

/-- A catalog holds the fixes of both kinds for the charset in use, and no others. -/
theorem Catalog.mem_fixes_ofSettings {s : Settings} :
    (∃ r ∈ (ofSettings s).rules, fix ∈ r.allFixes) ↔
      ∃ kind : FixKind, fix = kind.toFix s.inspection.effectiveCharset := by
  rw [rules_ofSettings]
  constructor
  · rintro ⟨_, member, held⟩
    obtain ⟨o, outlined, rfl⟩ := List.mem_map.1 member
    rw [RuleOutline.allFixes_toRule fun _ => Settings.fixes_of_mem_narrowing outlined] at held
    obtain ⟨kind, -, same⟩ := List.mem_map.1 held
    exact ⟨kind, same.symm⟩
  · rintro ⟨kind, rfl⟩
    obtain ⟨o, builtin, needed⟩ : ∃ o ∈ outlines, ∀ kind : FixKind, kind ∈ o.need :=
      ⟨_, List.mem_cons_self, by intro kind; cases kind <;> decide⟩
    have outlined : o ∈ s.outlines := List.mem_append_left _ builtin
    refine ⟨_, List.mem_map_of_mem outlined, ?_⟩
    rw [RuleOutline.allFixes_toRule fun _ => Settings.fixes_of_mem_narrowing outlined]
    exact List.mem_map_of_mem (List.mem_append_right _ (needed kind))

namespace Fix

/-- A legal name stands between the quotes of its literal as it is. -/
theorem ofList_literal (legal : isCharsetName name = true) :
    String.ofList (literal name.toList) = "\"" ++ name ++ "\"" := by
  rw [literal_of_isCharsetName legal, ← String.toList_inj]
  simp

theorem eq_charsetName_iff (legal : isCharsetName name = true) :
    fix = charsetName name ↔ fix.insertion = "\"" ++ name ++ "\"" ∧ fix.providedType = ⟨"java.lang.String"⟩ := by
  obtain ⟨type, text⟩ := fix
  rw [charsetName, ofList_literal legal, mk.injEq]
  exact and_comm

theorem eq_charsetObject_iff (legal : isCharsetName name = true) :
    fix = charsetObject name ↔
      fix.insertion = "Charset.forName(\"" ++ name ++ "\")" ∧
        fix.providedType = ⟨"java.nio.charset.Charset"⟩ := by
  have joined : "Charset.forName(" ++ ("\"" ++ name ++ "\"") ++ ")" = "Charset.forName(\"" ++ name ++ "\")" := by
    rw [← String.toList_inj]
    simp
  obtain ⟨type, text⟩ := fix
  rw [charsetObject, ofList_literal legal, joined, mk.injEq]
  exact and_comm

end Fix

/-- **No charset gets code into the source.** Whatever the settings say, the charset in use is spelled with letters,
digits and five marks. All fixes that the catalog holds, in rules of its own and of the user, insert it between quotes
as it stands, alone or as the argument of `Charset.forName`. There is a warning if and only if it is not the charset
that was set. -/
theorem Catalog.inserted_ofSettings (s : Settings) :
    (∀ fix, (∃ r ∈ (ofSettings s).rules, fix ∈ r.allFixes) ↔
      (fix.insertion = "\"" ++ s.inspection.effectiveCharset ++ "\"" ∧
        fix.providedType = ⟨"java.lang.String"⟩) ∨
      (fix.insertion = "Charset.forName(\"" ++ s.inspection.effectiveCharset ++ "\")" ∧
        fix.providedType = ⟨"java.nio.charset.Charset"⟩)) ∧
    IsSpelledLegally s.inspection.effectiveCharset ∧
    ((∃ value, .invalidCharset value ∈ s.warnings) ↔ s.inspection.effectiveCharset ≠ s.inspection.charset) := by
  have legal := s.inspection.isCharsetName_effectiveCharset
  refine ⟨fun fix => ?_, isCharsetName_iff.1 legal, Settings.exists_invalidCharset_iff⟩
  rw [mem_fixes_ofSettings, ← Fix.eq_charsetName_iff legal, ← Fix.eq_charsetObject_iff legal]
  constructor
  · rintro ⟨kind, rfl⟩
    cases kind with
    | charset => exact .inr rfl
    | string => exact .inl rfl
  · rintro (rfl | rfl)
    · exact ⟨.string, rfl⟩
    · exact ⟨.charset, rfl⟩

end EncodingLint
