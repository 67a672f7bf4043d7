/-!
# Checks in sequence

A computation that may fail succeeds if each of its steps does, and fails as the first of them that fails
(`error?_bind`); these lemmas take it apart into its steps, so that no proof has to look into `do`.
-/

set_option autoImplicit false

namespace EncodingLint.Outcome

variable {ε α β : Type}

theorem bind_eq_ok_iff {x : Except ε α} {f : α → Except ε β} {b : β} :
    x >>= f = .ok b ↔ ∃ a, x = .ok a ∧ f a = .ok b := by
  cases x with
  | error cause => simp [bind, Except.bind]
  | ok a => simp [bind, Except.bind]

theorem pure_eq_ok_iff {a b : α} : (pure a : Except ε α) = .ok b ↔ a = b := by
  simp [pure, Except.pure]

theorem throw_ne_ok {cause : ε} {a : α} : (throw cause : Except ε α) ≠ .ok a := by
  simp [throw, throwThe, MonadExceptOf.throw]

theorem toOption_eq_some_iff {x : Except ε α} {a : α} : x.toOption = some a ↔ x = .ok a := by
  cases x with
  | error cause => simp [Except.toOption]
  | ok b => simp [Except.toOption]

/-- Checking each element of a list succeeds if it does for every one of them. -/
theorem forM_eq_ok_iff {f : α → Except ε Unit} {xs : List α} :
    xs.forM f = .ok () ↔ ∀ x ∈ xs, f x = .ok () := by
  induction xs with
  | nil => simp [List.forM, pure_eq_ok_iff]
  | cons x xs ih =>
    change (f x >>= fun _ => xs.forM f) = .ok () ↔ _
    rw [bind_eq_ok_iff, List.forall_mem_cons, ih]
    exact ⟨fun ⟨_, head, tail⟩ => ⟨head, tail⟩, fun ⟨head, tail⟩ => ⟨(), head, tail⟩⟩

theorem mapM_cons_eq_ok_iff {f : α → Except ε β} {x : α} {xs : List α} {bs : List β} :
    (x :: xs).mapM f = .ok bs ↔ ∃ b rest, f x = .ok b ∧ xs.mapM f = .ok rest ∧ b :: rest = bs := by
  simp only [List.mapM_cons, bind_eq_ok_iff, pure_eq_ok_iff, exists_and_left]

/-- What succeeds for every element of a list does so for fewer of them, and then has fewer results. -/
theorem mapM_sublist {f : α → Except ε β} {xs ys : List α} {bs : List β} (fewer : xs.Sublist ys)
    (done : ys.mapM f = .ok bs) : ∃ as, xs.mapM f = .ok as ∧ as.Sublist bs := by
  induction fewer generalizing bs with
  | slnil => exact ⟨bs, done, .refl bs⟩
  | cons y fewer ih =>
    obtain ⟨b, rest, -, later, rfl⟩ := mapM_cons_eq_ok_iff.1 done
    obtain ⟨as, done, sublist⟩ := ih later
    exact ⟨as, done, sublist.cons b⟩
  | cons_cons y fewer ih =>
    obtain ⟨b, rest, first, later, rfl⟩ := mapM_cons_eq_ok_iff.1 done
    obtain ⟨as, done, sublist⟩ := ih later
    exact ⟨b :: as, mapM_cons_eq_ok_iff.2 ⟨b, as, first, done, rfl⟩, sublist.cons_cons b⟩

/-! ## Failures -/

/-- What a computation fails with. -/
def error? : Except ε α → Option ε
  | .error cause => some cause
  | .ok _ => none

@[simp] theorem error?_pure (a : α) : error? (pure a : Except ε α) = none := rfl

theorem error?_eq_some_iff {x : Except ε α} {cause : ε} : error? x = some cause ↔ x = .error cause := by
  cases x with
  | error other => simp [error?]
  | ok a => simp [error?]

/-- Of two steps the first to fail counts, if the failure of the second does not depend on the first. -/
theorem error?_bind {x : Except ε α} {f : α → Except ε β} {first later : Option ε}
    (head : error? x = first) (tail : ∀ a, error? (f a) = later) : error? (x >>= f) = first.or later := by
  subst head
  cases x with
  | error cause => rfl
  | ok a => exact tail a

end EncodingLint.Outcome
