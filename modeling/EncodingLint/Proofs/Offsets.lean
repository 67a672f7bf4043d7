import EncodingLint.Text.Basic

/-!
# Offsets as cuts of a text

An offset is a boundary of a text if it is the size of a first part of it (`isBoundary_iff`). So every
statement about offsets becomes one about the parts of a text: `takeBytes`, `dropBytes`, `slice?` and
`splice` at the sizes of parts give these parts back, and a cut is known by its offset
(`append_inj_of_byteSize`).
-/

set_option autoImplicit false

namespace EncodingLint.Text

variable {text before after a b c d middle replacement : Text} {offset start stop : Nat}

@[simp] theorem takeBytes_zero (text : Text) : takeBytes 0 text = [] := by
  cases text with
  | nil => rfl
  | cons c cs =>
    have positive := c.utf8Size_pos
    rw [takeBytes, if_neg (by omega)]

@[simp] theorem takeBytes_append (before after : Text) :
    takeBytes (byteSize before) (before ++ after) = before := by
  induction before with
  | nil => simp
  | cons c cs ih => simp [takeBytes, ih]

@[simp] theorem dropBytes_append (before after : Text) :
    dropBytes (byteSize before) (before ++ after) = after := by
  induction before with
  | nil => simp [dropBytes]
  | cons c cs ih =>
    obtain ⟨n, size⟩ := Nat.exists_eq_add_one_of_ne_zero (Nat.ne_of_gt c.utf8Size_pos)
    have whole : byteSize (c :: cs) = (n + byteSize cs) + 1 := by
      rw [byteSize_cons, size]
      omega
    rw [whole, List.cons_append, dropBytes, size]
    rw [show n + byteSize cs + 1 - (n + 1) = byteSize cs by omega]
    exact ih

/-- The boundaries of a text are the sizes of its first parts. -/
theorem isBoundary_iff :
    isBoundary text offset = true ↔
      ∃ before after, text = before ++ after ∧ offset = byteSize before := by
  induction text generalizing offset with
  | nil => cases offset <;> simp [isBoundary]
  | cons c cs ih =>
    have positive := c.utf8Size_pos
    cases offset with
    | zero => exact ⟨fun _ => ⟨[], c :: cs, rfl, rfl⟩, fun _ => rfl⟩
    | succ n =>
      simp only [isBoundary, Bool.and_eq_true, decide_eq_true_eq, ih]
      constructor
      · rintro ⟨fits, before, after, rfl, size⟩
        exact ⟨c :: before, after, rfl, by rw [byteSize_cons, ← size]; omega⟩
      · rintro ⟨before, after, whole, size⟩
        cases before with
        | nil => simp at size
        | cons d ds =>
          obtain ⟨rfl, rfl⟩ := List.cons.inj whole
          rw [byteSize_cons] at size
          exact ⟨by omega, ds, after, rfl, by omega⟩

theorem isBoundary_append (before after : Text) :
    isBoundary (before ++ after) (byteSize before) = true :=
  isBoundary_iff.2 ⟨before, after, rfl, rfl⟩

theorem le_byteSize_of_isBoundary (h : isBoundary text offset = true) : offset ≤ byteSize text := by
  obtain ⟨before, after, rfl, rfl⟩ := isBoundary_iff.1 h
  simp

/-- Two cuts of a text at one offset are the same. -/
theorem append_inj_of_byteSize (whole : a ++ b = c ++ d) (size : byteSize a = byteSize c) :
    a = c ∧ b = d := by
  constructor
  · rw [← takeBytes_append a b, whole, size, takeBytes_append]
  · rw [← dropBytes_append a b, whole, size, dropBytes_append]

/-- Of two cuts of a text the first part of the earlier one begins the first part of the other. -/
theorem exists_append_of_byteSize_le (whole : a ++ b = c ++ d) (size : byteSize a ≤ byteSize c) :
    ∃ m, c = a ++ m ∧ b = m ++ d := by
  rcases List.append_eq_append_iff.1 whole with ⟨m, rfl, rfl⟩ | ⟨m, rfl, rfl⟩
  · exact ⟨m, rfl, rfl⟩
  · have none_left : byteSize m = byteSize [] := by
      rw [byteSize_append] at size
      rw [byteSize_nil]
      omega
    obtain ⟨rfl, -⟩ := append_inj_of_byteSize (a := m) (b := []) (d := m) (by simp) none_left
    exact ⟨[], by simp, by simp⟩

/-- A stretch is a middle part of the text, and its ends are the sizes of what comes before. -/
theorem slice?_eq_some_iff :
    slice? text start stop = some middle ↔
      ∃ before after, text = before ++ middle ++ after ∧ start = byteSize before ∧
        stop = byteSize before + byteSize middle := by
  constructor
  · intro h
    simp only [slice?, Option.ite_none_right_eq_some, Option.some.injEq] at h
    obtain ⟨⟨ordered, first, second⟩, cut⟩ := h
    obtain ⟨before, rest, rfl, rfl⟩ := isBoundary_iff.1 first
    obtain ⟨upTo, after, whole, rfl⟩ := isBoundary_iff.1 second
    obtain ⟨m, rfl, rfl⟩ := exists_append_of_byteSize_le whole ordered
    rw [dropBytes_append, byteSize_append, Nat.add_sub_cancel_left, takeBytes_append] at cut
    subst cut
    exact ⟨before, after, by simp, rfl, byteSize_append _ _⟩
  · rintro ⟨before, after, rfl, rfl, rfl⟩
    have first : isBoundary (before ++ middle ++ after) (byteSize before) = true := by
      rw [List.append_assoc]
      exact isBoundary_append _ _
    have second := isBoundary_append (before ++ middle) after
    rw [byteSize_append] at second
    rw [slice?, if_pos ⟨Nat.le_add_right _ _, first, second⟩, Nat.add_sub_cancel_left,
      List.append_assoc, dropBytes_append, takeBytes_append]

theorem slice?_append (before middle after : Text) :
    slice? (before ++ middle ++ after) (byteSize before) (byteSize before + byteSize middle) =
      some middle :=
  slice?_eq_some_iff.2 ⟨before, after, rfl, rfl, rfl⟩

/-- To splice a text is to exchange a middle part of it. -/
theorem splice_append (before middle after replacement : Text) :
    splice (before ++ middle ++ after) (byteSize before) (byteSize before + byteSize middle)
      replacement = before ++ replacement ++ after := by
  rw [splice, ← byteSize_append, dropBytes_append, List.append_assoc before middle, takeBytes_append]

end EncodingLint.Text
