import EncodingLint.CodeAction
import EncodingLint.Proofs.ArgumentList
import EncodingLint.Proofs.Positions

/-!
# Code actions do what fixes do

An editor makes an action's edit by its position, a fix is applied by its offset. The two agree, since
the offset of a fix is a caret of the source and so comes back from its position (`Offers`). The actions
of a problem are those of its fixes with something to edit, one for each and in their order.
-/

set_option autoImplicit false

namespace EncodingLint.CodeAction

open Outcome

variable {source : Text} {problem : Problem} {fix : Fix} {edit : Edit} {fixes : List Fix}
  {actions : List CodeAction} {isFirst : Bool}

/-- The edit of a fix, if it has something to edit. -/
def editOf? (source : Text) (call : Call) (fix : Fix) : Option (Fix × Edit) :=
  match fix.edit? source call with
  | .ok (some edit) => some (fix, edit)
  | _ => none

/-- An action does what a fix does: the editor finds the offset of the edit at the action's position,
and the text put in there makes the source that the fix makes. -/
structure Offers (source : Text) (call : Call) (offer : Fix × Edit) (action : CodeAction) : Prop where
  title : action.title = offer.1.title
  isInsert : offer.2.isInsert = true
  newText : action.newText = offer.2.replacement
  offset : (LineIndex.ofText source).offset? source action.position = some offer.2.range.start
  applied : offer.1.apply source call =
    .ok (Text.splice source offer.2.range.start offer.2.range.start action.newText)

/-- The action of a fix does what the fix does. -/
theorem offers_of_edit? {action : CodeAction} (edited : fix.edit? source problem.call = .ok (some edit))
    (title : action.title = fix.title)
    (position : action.position = (LineIndex.ofText source).position source edit.range.start)
    (newText : action.newText = edit.replacement) :
    Offers source problem.call (fix, edit) action := by
  refine ⟨title, Fix.isInsert_of_edit? edited, newText, ?_, ?_⟩
  · rw [position]
    exact LineIndex.offset?_position (Fix.isCaret_of_edit? edited)
  · rw [newText]
    exact Fix.apply_of_edit? edited

/-- The actions of some fixes do what those with something to edit do, and the first one is preferred if
none came before. -/
theorem offers_of_ofFixes (offered : ofFixes source problem isFirst fixes = .ok actions) :
    List.Forall₂ (Offers source problem.call) (fixes.filterMap (editOf? source problem.call)) actions ∧
      ∀ number action, actions[number]? = some action →
        (action.isPreferred = true ↔ isFirst = true ∧ number = 0) := by
  induction fixes generalizing isFirst actions with
  | nil =>
    obtain rfl := pure_eq_ok_iff.1 offered
    exact ⟨.nil, by simp⟩
  | cons fix fixes ih =>
    rw [ofFixes] at offered
    obtain ⟨edit?, edited, offered⟩ := bind_eq_ok_iff.1 offered
    cases edit? with
    | none =>
      have skipped : editOf? source problem.call fix = none := by rw [editOf?, edited]
      rw [List.filterMap_cons_none skipped]
      exact ih offered
    | some edit =>
      have kept : editOf? source problem.call fix = some (fix, edit) := by rw [editOf?, edited]
      rw [List.filterMap_cons_some kept]
      obtain ⟨later, offered, made⟩ := bind_eq_ok_iff.1 offered
      obtain ⟨offers, preferred⟩ := ih offered
      obtain rfl := pure_eq_ok_iff.1 made
      refine ⟨.cons (offers_of_edit? edited rfl rfl rfl) offers, ?_⟩
      intro number action found
      cases number with
      | zero =>
        obtain rfl := Option.some.inj found
        simp
      | succ number =>
        have later := preferred number action found
        simpa using later

/-- **An action and its fix agree.** The actions of a problem are, one for one and in order, those of its
fixes that have something to edit; the first of them alone is preferred; and each puts its text in at
the offset of its fix, which makes the source that the fix makes. -/
theorem ofProblem_agrees (offered : ofProblem source problem = .ok actions) :
    List.Forall₂ (Offers source problem.call)
        (problem.fixes.filterMap (editOf? source problem.call)) actions ∧
      ∀ number action, actions[number]? = some action →
        (action.isPreferred = true ↔ number = 0) := by
  obtain ⟨offers, preferred⟩ := offers_of_ofFixes offered
  refine ⟨offers, ?_⟩
  intro number action found
  rw [preferred number action found]
  exact ⟨fun both => both.2, fun first => ⟨rfl, first⟩⟩

/-- An argument in front of CR LF, made of a surrogate pair. -/
theorem ofProblem_agrees_pair :
    ∃ (problem : Problem) (fix : Fix) (action : CodeAction), problem.fixes = [fix] ∧
      ofProblem ['f', '(', '😀', '\r', '\n', ')'] problem = .ok [action] ∧
      action.position = ⟨0, 4⟩ ∧ action.isPreferred = true ∧
      fix.apply ['f', '(', '😀', '\r', '\n', ')'] problem.call =
        .ok ['f', '(', '😀', ',', ' ', 'x', '\r', '\n', ')'] := by
  have offered : ofProblem ['f', '(', '😀', '\r', '\n', ')']
      ⟨.warning, 0, [⟨.string, "x"⟩], { argumentList := some ⟨1, 9⟩, arguments := [none] }⟩ =
      .ok [⟨"Add parameter x", ⟨⟨⟨0, 0⟩, ⟨0, 0⟩⟩, .warning⟩, ⟨0, 4⟩, [',', ' ', 'x'], true⟩] := by
    decide +kernel
  have editable : editOf? ['f', '(', '😀', '\r', '\n', ')']
      { argumentList := some ⟨1, 9⟩, arguments := [none] } ⟨.string, "x"⟩ =
      some (⟨.string, "x"⟩, .insert 6 [',', ' ', 'x']) := by decide +kernel
  obtain ⟨offers, preferred⟩ := ofProblem_agrees offered
  rw [List.filterMap_cons_some editable] at offers
  obtain ⟨offers, -⟩ := List.forall₂_cons.1 offers
  refine ⟨_, _, _, rfl, offered, rfl, (preferred 0 _ rfl).2 rfl, ?_⟩
  exact offers.applied

end EncodingLint.CodeAction
