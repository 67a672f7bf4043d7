import EncodingLint.Proofs.DeclarationOrder
import EncodingLint.Proofs.FixOutcome
import EncodingLint.Proofs.FixedCall
import EncodingLint.Session

/-!
# What happens in a session

A round follows another (`Session.Follows`) if a fix of the other one was applied, and a session goes on from
round to round until it ends or a fix is refused (`Session.Unfolds`), with one step for a choice at most
(`length_run_le`). What one round keeps is therefore kept by the session (`Unfolds.forall_shown`). Three things
come of this. With every round the call gets one argument,
and nothing else of it changes (`site_of_run`). A source that `Encloses` its arguments keeps what stands outside
their parentheses, and the session fails only if the source grows too large to count (`run_encloses`). And on the
platform the built-in rules are content with the first fix, so that there is never a second one to choose
(`run_platform`).
-/

set_option autoImplicit false

namespace EncodingLint

namespace Text

theorem byteSize_reverse (text : Text) : byteSize text.reverse = byteSize text := by
  induction text with
  | nil => rfl
  | cons c cs ih => rw [List.reverse_cons, byteSize_append, ih, byteSize_cons, byteSize_cons, byteSize_nil]; omega

theorem takeWhile_ne {c : Char} {front : Text} (absent : c ∉ front) (rest : Text) :
    (front ++ c :: rest).takeWhile (· ≠ c) = front := by
  have passed : ∀ d ∈ front, decide (d ≠ c) = true := fun d member =>
    decide_eq_true fun same => absent (same ▸ member)
  rw [List.takeWhile_append_of_pos passed, List.takeWhile_cons_of_neg (by simp), List.append_nil]

end Text

namespace Session

open Text (byteSize)

/-- A round that comes after another by one of its fixes. -/
inductive Follows (cp : ClassPath) (i : Inspection) (r : Round) : Round → Prop where
  | fixed {fix : Fix} {source : Text} (offered : fix ∈ r.choices)
      (applied : fix.apply r.source r.call = .ok source) :
      Follows cp i r (round cp i (r.site.withArgument fix.appended.name) source)

/-- The steps that a session can take from a round on. -/
inductive Unfolds (cp : ClassPath) (i : Inspection) : Round → List SessionStep → Prop where
  | ends (r : Round) : Unfolds cp i r [.shown r]
  | fails {r : Round} {fix : Fix} {cause : FixError} (offered : fix ∈ r.choices)
      (refused : fix.apply r.source r.call = .error cause) :
      Unfolds cp i r [.shown r, .failed cause]
  | goesOn {r next : Round} {steps : List SessionStep} (follows : Follows cp i r next)
      (behind : Unfolds cp i next steps) : Unfolds cp i r (.shown r :: steps)

/-- A source with the text between its first opening and its last closing parenthesis. -/
structure Encloses (source before inside after : Text) : Prop where
  whole : source = before ++ '(' :: (inside ++ [')']) ++ after
  first : '(' ∉ before
  last : ')' ∉ after

variable {cp : ClassPath} {i : Inspection} {r s next : Round} {steps : List SessionStep} {number : Nat}
  {start : CallSite} {source before inside after : Text} {choices : List Nat} {cause : FixError}

/-! ## Steps and runs -/

theorem unfolds_run (cp : ClassPath) (i : Inspection) (start : CallSite) (source : Text)
    (choices : List Nat) : Unfolds cp i (round cp i start source) (run cp i start source choices) := by
  induction choices generalizing start source with
  | nil => exact .ends _
  | cons choice later ih =>
    simp only [run]
    split
    · exact .ends _
    · next fix chosen =>
      have offered := List.mem_of_getElem? chosen
      split
      · next fixed applied => exact .goesOn (.fixed offered applied) (ih _ fixed)
      · next cause refused => exact .fails offered refused

/-- A session begins with its first round. -/
theorem Unfolds.shown_zero (unfolds : Unfolds cp i r steps) (shown : steps[0]? = some (.shown s)) : s = r := by
  cases unfolds with
  | ends | fails | goesOn => exact (SessionStep.shown.inj (Option.some.inj shown)).symm

/-- Any other round is shown in the session that goes on from the second one. -/
theorem Unfolds.shown_succ (unfolds : Unfolds cp i r steps) (shown : steps[number + 1]? = some (.shown s)) :
    ∃ next later, Follows cp i r next ∧ Unfolds cp i next later ∧ later[number]? = some (.shown s) := by
  cases unfolds with
  | ends => cases shown
  | fails offered refused => cases number <;> cases shown
  | goesOn follows behind => exact ⟨_, _, follows, behind, shown⟩

/-- What holds of the first round and is kept from round to round holds of all. -/
theorem Unfolds.forall_shown {P : Round → Prop} (unfolds : Unfolds cp i r steps)
    (keeps : ∀ r next, Follows cp i r next → P r → P next) (first : P r) (shown : .shown s ∈ steps) : P s := by
  obtain ⟨number, at_number⟩ := List.mem_iff_getElem?.1 shown
  clear shown
  induction number generalizing r steps with
  | zero => rwa [unfolds.shown_zero at_number]
  | succ number ih =>
    obtain ⟨next, later, follows, behind, at_number⟩ := unfolds.shown_succ at_number
    exact ih behind (keeps r next follows first) at_number

/-- A session fails by a fix of a round that it has shown. -/
theorem Unfolds.exists_refused (unfolds : Unfolds cp i r steps) (failed : .failed cause ∈ steps) :
    ∃ s fix, .shown s ∈ steps ∧ fix ∈ s.choices ∧ fix.apply s.source s.call = .error cause := by
  induction unfolds with
  | ends r => simp at failed
  | @fails r fix cause' offered refused =>
    obtain rfl : cause = cause' := by simpa using failed
    exact ⟨r, fix, List.mem_cons_self, offered, refused⟩
  | @goesOn r next steps follows behind ih =>
    obtain ⟨s, fix, shown, refused⟩ := ih (by simpa using failed)
    exact ⟨s, fix, List.mem_cons_of_mem _ shown, refused⟩

/-- There is at most one step for each choice, besides the first round. -/
theorem length_run_le : (run cp i start source choices).length ≤ choices.length + 1 := by
  induction choices generalizing start source with
  | nil => exact Nat.le_refl _
  | cons choice later ih =>
    rw [run, List.length_cons, List.length_cons, Nat.succ_le_succ_iff]
    split
    · exact Nat.zero_le _
    · split
      · exact ih
      · exact Nat.succ_le_succ (Nat.zero_le _)

/-! ## The call -/

theorem Follows.site_eq (follows : Follows cp i r next) :
    next.site.callee = r.site.callee ∧ ∃ type, next.site.arguments = r.site.arguments ++ [some type] := by
  cases follows
  exact ⟨rfl, _, rfl⟩

theorem Unfolds.site_eq (unfolds : Unfolds cp i r steps) (shown : steps[number]? = some (.shown s)) :
    s.site.callee = r.site.callee ∧
      ∃ types : List TypeName, types.length = number ∧ s.site.arguments = r.site.arguments ++ types.map some := by
  induction number generalizing r steps with
  | zero =>
    obtain rfl := unfolds.shown_zero shown
    exact ⟨rfl, [], rfl, (List.append_nil _).symm⟩
  | succ number ih =>
    obtain ⟨next, later, follows, behind, shown⟩ := unfolds.shown_succ shown
    obtain ⟨sameCallee, type, appended⟩ := follows.site_eq
    obtain ⟨callee, types, length, arguments⟩ := ih behind shown
    refine ⟨callee.trans sameCallee, type :: types, congrArg (· + 1) length, ?_⟩
    rw [arguments, appended, List.map_cons, ← List.append_cons]

/-- **Every round appends an argument.** After so many fixes, the call that is shown is one of the same member, with
as many arguments of known type behind the first ones. -/
theorem site_of_run (shown : (run cp i start source choices)[number]? = some (.shown r)) :
    r.site.callee = start.callee ∧
      ∃ types : List TypeName, types.length = number ∧ r.site.arguments = start.arguments ++ types.map some :=
  (unfolds_run cp i start source choices).site_eq shown

/-! ## The source -/

/-- The place of an argument list with so much before and inside it. -/
def listSpan (before inside : Text) : Span :=
  ⟨byteSize before, byteSize before + byteSize ('(' :: (inside ++ [')']))⟩

theorem Encloses.delimits (encloses : Encloses source before inside after) :
    Fix.Delimits source (listSpan before inside) inside :=
  ⟨before, after, encloses.whole, rfl, rfl⟩

/-- The arguments are found between the parentheses that enclose them. -/
theorem Encloses.argumentList?_eq (encloses : Encloses source before inside after) :
    argumentList? source = some (listSpan before inside) := by
  obtain ⟨rfl, first, last⟩ := encloses
  have front : (before ++ '(' :: (inside ++ [')']) ++ after).takeWhile (· ≠ '(') = before := by
    rw [List.append_assoc]
    exact Text.takeWhile_ne first _
  have back : (before ++ '(' :: (inside ++ [')']) ++ after).reverse.takeWhile (· ≠ ')') = after.reverse := by
    have turned : (before ++ '(' :: (inside ++ [')']) ++ after).reverse =
        after.reverse ++ ')' :: (before ++ '(' :: inside).reverse := by simp
    rw [turned]
    exact Text.takeWhile_ne (by simpa using last) _
  have size : byteSize (before ++ '(' :: (inside ++ [')']) ++ after) - byteSize after.reverse =
      byteSize before + byteSize ('(' :: (inside ++ [')'])) := by
    rw [Text.byteSize_reverse, Text.byteSize_append, Text.byteSize_append before, Nat.add_sub_cancel]
  have parentheses : ((before ++ '(' :: (inside ++ [')']) ++ after).contains '(' &&
      (before ++ '(' :: (inside ++ [')']) ++ after).contains ')') = true := by simp
  rw [argumentList?, if_pos parentheses, front, back]
  exact congrArg (some ∘ Span.mk (byteSize before)) size

/-- A fix goes in between the parentheses, or their places cannot be counted. -/
theorem Encloses.apply_cases {call : Call} (encloses : Encloses source before inside after)
    (recorded : call.argumentList = some (listSpan before inside)) (fix : Fix) :
    (∃ fixed inside', fix.apply source call = .ok fixed ∧ Encloses fixed before inside' after ∧
      inside.Sublist inside') ∨
    fix.apply source call = .error (.noArgumentList (listSpan before inside)) ∧ maxOffset < byteSize source := by
  have delimits := encloses.delimits
  have start_le := delimits.start_le_stop
  have stop_le := delimits.stop_le
  by_cases countable : (listSpan before inside).stop ≤ maxOffset
  · left
    obtain ⟨trivia, whole, -⟩ := Fix.codeText_append inside
    have edited := Fix.edit?_of_delimits (f := fix) recorded (Nat.le_trans start_le countable) countable delimits
    rw [encloses.whole, Fix.cut_behind_code whole] at edited ⊢
    have applied := Fix.apply_of_front edited (Fix.byteSize_upTo_code before inside).symm
    refine ⟨_, Fix.codeText inside ++ fix.insertedText call ++ trivia, applied,
      ⟨by simp [Edit.insert], encloses.first, encloses.last⟩, ?_⟩
    conv => lhs; rw [whole]
    exact (List.sublist_append_left _ _).append (List.Sublist.refl _)
  · right
    have uncountable := Nat.lt_of_not_le countable
    exact ⟨Fix.apply_of_misplaced recorded (.inr (.inr (.inl uncountable))), Nat.lt_of_lt_of_le uncountable stop_le⟩

/-- A round with the texts around the arguments that it had in the beginning, and with what stood between the
parentheses still there. -/
structure Keeps (before inside after : Text) (r : Round) : Prop where
  encloses : ∃ inside', Encloses r.source before inside' after ∧ inside.Sublist inside'
  recorded : ∀ span, argumentList? r.source = some span → r.call.argumentList = some span

theorem keeps_round {current : Text} (encloses : Encloses source before current after)
    (earlier : inside.Sublist current) : Keeps before inside after (round cp i start source) := by
  refine ⟨⟨current, encloses, earlier⟩, fun span found => ?_⟩
  change (argumentList? source).or start.argumentList = some span
  rw [show argumentList? source = some span from found, Option.some_or]

theorem Keeps.apply_cases (keeps : Keeps before inside after r) (fix : Fix) :
    (∃ fixed inside', fix.apply r.source r.call = .ok fixed ∧ Encloses fixed before inside' after ∧
      inside.Sublist inside') ∨
    (∃ cause, fix.apply r.source r.call = .error cause) ∧ maxOffset < byteSize r.source := by
  obtain ⟨⟨current, encloses, earlier⟩, recorded⟩ := keeps
  rcases encloses.apply_cases (recorded _ encloses.argumentList?_eq) fix with
    ⟨fixed, inside', applied, encloses', later⟩ | ⟨refused, uncountable⟩
  · exact .inl ⟨fixed, inside', applied, encloses', earlier.trans later⟩
  · exact .inr ⟨⟨_, refused⟩, uncountable⟩

theorem Follows.keeps (follows : Follows cp i r next) (keeps : Keeps before inside after r) :
    Keeps before inside after next := by
  cases follows with
  | @fixed fix fixed offered applied =>
    rcases keeps.apply_cases fix with ⟨_, inside', applied', encloses, earlier⟩ | ⟨⟨cause, refused⟩, -⟩
    · obtain rfl := Except.ok.inj (applied'.symm.trans applied)
      exact keeps_round encloses earlier
    · rw [refused] at applied
      cases applied

/-- **Nothing outside the parentheses changes.** In a session about a source that encloses its arguments, every round
shows the same text before and behind the parentheses, and what stood between them is still there. A fix is refused only
if the source has become too large to count. -/
theorem run_encloses (encloses : Encloses source before inside after) :
    (∀ r, .shown r ∈ run cp i start source choices →
      ∃ inside', Encloses r.source before inside' after ∧ inside.Sublist inside') ∧
    ∀ cause, .failed cause ∈ run cp i start source choices →
      ∃ r, .shown r ∈ run cp i start source choices ∧ maxOffset < byteSize r.source := by
  have unfolds := unfolds_run cp i start source choices
  have first : Keeps before inside after (round cp i start source) := keeps_round encloses (List.Sublist.refl _)
  have keeps {r : Round} (shown : .shown r ∈ run cp i start source choices) : Keeps before inside after r :=
    unfolds.forall_shown (fun _ _ follows keeps => follows.keeps keeps) first shown
  refine ⟨fun r shown => (keeps shown).encloses, fun cause failed => ?_⟩
  obtain ⟨r, fix, shown, -, refused⟩ := unfolds.exists_refused failed
  rcases (keeps shown).apply_cases fix with ⟨_, _, applied, -⟩ | ⟨-, uncountable⟩
  · rw [refused] at applied
    cases applied
  · exact ⟨r, shown, uncountable⟩

/-! ## The platform -/

theorem check_locate (rule : Rule) (site : CallSite) (source : Text) :
    rule.check (cp.call (locate site source)) = rule.check (cp.call site) := by
  apply Rule.check_eq_of_reordered
  refine ⟨rfl, rfl, ?_⟩
  change Option.Rel Target.Reordered (cp.call site).target (cp.call site).target
  cases (cp.call site).target with
  | none => exact .none
  | some target => exact .some ⟨rfl, .refl _⟩

open ClassPath (platform)

/-- A round that follows another on the platform has no problem. -/
theorem Follows.problems_eq_nil {charset : String} {site : CallSite} (builtin : i.catalog = .withCharset charset)
    (follows : Follows platform i (round platform i site source) next) :
    next.call.isResolved = true ∧ next.problems = [] := by
  cases follows with
  | @fixed fix fixed offered applied =>
    obtain ⟨problem, reported, member⟩ := List.mem_flatMap.1 offered
    obtain ⟨rule, ruleMember, checked⟩ := Inspection.exists_rule_of_mem_check reported
    rw [builtin] at ruleMember
    have allows := ClassPath.allows_withArgument ruleMember checked member
    refine ⟨allows.resolved, Inspection.check_eq_nil fun rule member => ?_⟩
    rw [builtin] at member
    rw [check_locate]
    exact allows.silent rule member

/-- **One fix is enough.** On the platform, a session with the built-in rules takes two steps at most, and if the second
one is a round, its call is resolved and has no problem. -/
theorem run_platform {charset : String} (builtin : i.catalog = .withCharset charset) :
    (run platform i start source choices).length ≤ 2 ∧
      ∀ r, (run platform i start source choices)[1]? = some (.shown r) →
        r.call.isResolved = true ∧ r.problems = [] := by
  have unfolds := unfolds_run platform i start source choices
  constructor
  · generalize run platform i start source choices = steps at unfolds
    cases unfolds with
    | ends => exact Nat.le_succ 1
    | fails offered refused => exact Nat.le_refl 2
    | @goesOn _ next later follows behind =>
      -- Nothing is offered in the second round, so that only its end is left.
      have none_left (fix : Fix) : fix ∉ next.choices := by
        rw [Round.choices, (follows.problems_eq_nil builtin).2]
        exact List.not_mem_nil
      cases behind with
      | ends => exact Nat.le_refl 2
      | fails offered refused => exact absurd offered (none_left _)
      | goesOn follows behind =>
        cases follows with
        | fixed offered applied => exact absurd offered (none_left _)
  · intro r shown
    obtain ⟨next, later, follows, behind, shown⟩ := unfolds.shown_succ shown
    obtain rfl := behind.shown_zero shown
    exact follows.problems_eq_nil builtin

/-- Two choices for `s.getBytes()`, of which only the first one finds a fix. -/
example : (run platform {} ⟨.method .string "getBytes", [], none, none⟩ "s.getBytes()".toList [0, 0]).length = 2 := by
  decide +kernel

end Session

end EncodingLint
