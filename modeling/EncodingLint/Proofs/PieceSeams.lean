import EncodingLint.Proofs.ArgumentList

/-!
# Seams between pieces

`Stands p rest` says when a text is cut into the piece `p` and what comes behind it. Besides the piece this depends on
the next character alone (`Stands.swap`): on whether there is one, whether it ends the line, and whether it makes a
slash into the beginning of a comment. So what stands behind a seam can be exchanged, and the
pieces before the seam stay as they are (`StandBefore.swap`). A text is `Apart` if no piece of it reaches beyond its
end, whatever comes next.
-/

set_option autoImplicit false

namespace EncodingLint.Fix

open Piece (next splitBlock splitLiteral isBlank)

/-- A text is cut into a piece and the rest: a blank; a comment up to the end of its line; a comment or a literal up
to its end, or to the end of the text; or another character that does not begin one of these. -/
inductive Stands : Piece → Text → Prop where
  | blank {c : Char} {rest : Text} (isBlank : isBlank c = true) : Stands (.blank c) rest
  | line {body rest : Text} (inLine : '\n' ∉ body) (ends : ∀ d ∈ rest.head?, d = '\n') :
    Stands (.lineComment ('/' :: '/' :: body)) rest
  | block {body rest : Text} (split : splitBlock (body ++ rest) = (body, rest)) :
    Stands (.blockComment ('/' :: '*' :: body)) rest
  | literal {mark : Char} {body rest : Text} (isMark : mark = '"' ∨ mark = '\'')
    (split : splitLiteral mark (body ++ rest) = (body, rest)) : Stands (.literal (mark :: body)) rest
  | code {c : Char} {rest : Text} (notMark : ¬ (c = '"' ∨ c = '\'')) (notBlank : isBlank c = false)
    (noComment : c = '/' → ∀ d ∈ rest.head?, d ≠ '/' ∧ d ≠ '*') : Stands (.code c) rest

/-- Pieces that stand one behind the other, and then before a text. -/
def StandBefore : List Piece → Text → Prop
  | [], _ => True
  | p :: ps, rest => Stands p (ps.flatMap Piece.text ++ rest) ∧ StandBefore ps rest

/-- A text whose pieces are the same whatever comes next. -/
def Apart (text : Text) : Prop :=
  ∀ rest, pieces (text ++ rest) = pieces text ++ pieces rest

variable {text rest rest' : Text} {p : Piece} {ps qs : List Piece} {c mark : Char} {body cs : Text}

/-! ## Literals and comments in front of a text -/

theorem splitLiteral_escape : splitLiteral mark ('\\' :: c :: cs) =
    ('\\' :: c :: (splitLiteral mark cs).1, (splitLiteral mark cs).2) := by
  rw [splitLiteral]

theorem splitLiteral_mark (plain : mark ≠ '\\') : splitLiteral mark (mark :: cs) = ([mark], cs) := by
  rw [splitLiteral, if_pos rfl]
  · exact fun escape _ => plain escape
  · exact fun _ _ escape _ => plain escape

theorem splitLiteral_cons (plain : c ≠ '\\') (other : c ≠ mark) : splitLiteral mark (c :: cs) =
    (c :: (splitLiteral mark cs).1, (splitLiteral mark cs).2) := by
  rw [splitLiteral, if_neg other]
  · exact fun escape _ => plain escape
  · exact fun _ _ escape _ => plain escape

theorem splitLiteral_ne_nil : (splitLiteral mark (c :: cs)).1 ≠ [] := by
  unfold splitLiteral
  split
  · simp_all
  · simp
  · simp
  · split <;> simp

-- What the last pattern of `splitLiteral` says about its first character.
theorem ne_backslash (ended : c = '\\' → cs = [] → False)
    (followed : ∀ d ds, c = '\\' → cs = d :: ds → False) : c ≠ '\\' := by
  intro escape
  cases cs with
  | nil => exact ended escape rfl
  | cons d ds => exact followed d ds escape rfl

/-- A literal that ends before the end of the text ends there whatever comes next. -/
theorem splitLiteral_of_closed (split : splitLiteral mark (body ++ rest) = (body, rest)) (more : rest ≠ []) :
    splitLiteral mark (body ++ rest') = (body, rest') := by
  obtain ⟨d, ds, rfl⟩ := List.exists_cons_of_ne_nil more
  fun_induction splitLiteral mark body with
  | case1 => exact absurd (congrArg Prod.fst split) splitLiteral_ne_nil
  | case2 => cases congrArg Prod.fst (splitLiteral_escape.symm.trans split)
  | case3 c cs inside tail _ ih =>
    rw [List.cons_append, List.cons_append, splitLiteral_escape, Prod.mk.injEq] at split ⊢
    rw [ih (Prod.ext (List.cons.inj (List.cons.inj split.1).2).2 split.2)]
    exact ⟨rfl, rfl⟩
  | case4 cs ended followed =>
    rw [List.cons_append, splitLiteral_mark (ne_backslash ended followed), Prod.mk.injEq] at split ⊢
    obtain rfl : [] = cs := (List.cons.inj split.1).2
    exact ⟨rfl, rfl⟩
  | case5 c cs ended followed other inside tail _ ih =>
    rw [List.cons_append, splitLiteral_cons (ne_backslash ended followed) other, Prod.mk.injEq] at split ⊢
    rw [ih (Prod.ext (List.cons.inj split.1).2 split.2)]
    exact ⟨rfl, rfl⟩

/-- A literal that takes up all of a text leaves an end of what is put behind that text. -/
theorem splitLiteral_suffix (whole : (splitLiteral mark body).2 = []) :
    (splitLiteral mark (body ++ rest)).2 <:+ rest := by
  fun_induction splitLiteral mark body with
  | case1 => exact ⟨_, Piece.splitLiteral_append mark rest⟩
  | case2 =>
    cases rest with
    | nil => exact List.suffix_rfl
    | cons d ds =>
      rw [List.singleton_append, splitLiteral_escape]
      exact .trans ⟨_, Piece.splitLiteral_append mark ds⟩ (List.suffix_cons d ds)
  | case3 c cs inside tail split ih =>
    rw [List.cons_append, List.cons_append, splitLiteral_escape]
    exact ih (by rw [split]; exact whole)
  | case4 cs ended followed =>
    obtain rfl : cs = [] := whole
    exact ⟨[], congrArg Prod.snd (splitLiteral_mark (ne_backslash ended followed))⟩
  | case5 c cs ended followed other inside tail split ih =>
    rw [List.cons_append, splitLiteral_cons (ne_backslash ended followed) other]
    exact ih (by rw [split]; exact whole)

theorem splitBlock_end : splitBlock ('*' :: '/' :: cs) = (['*', '/'], cs) := by
  rw [splitBlock]

theorem splitBlock_cons (inner : ¬ (c = '*' ∧ cs.head? = some '/')) :
    splitBlock (c :: cs) = (c :: (splitBlock cs).1, (splitBlock cs).2) := by
  rw [splitBlock]
  rintro ds rfl rfl
  exact inner ⟨rfl, rfl⟩

theorem splitBlock_ne_nil : (splitBlock (c :: cs)).1 ≠ [] := by
  unfold splitBlock
  split
  · simp_all
  · simp
  · simp

/-- A comment that ends before the end of the text ends there whatever comes next. -/
theorem splitBlock_of_closed (split : splitBlock (body ++ rest) = (body, rest)) (more : rest ≠ []) :
    splitBlock (body ++ rest') = (body, rest') := by
  obtain ⟨d, ds, rfl⟩ := List.exists_cons_of_ne_nil more
  fun_induction splitBlock body with
  | case1 => exact absurd (congrArg Prod.fst split) splitBlock_ne_nil
  | case2 cs =>
    rw [List.cons_append, List.cons_append, splitBlock_end, Prod.mk.injEq] at split ⊢
    obtain rfl : [] = cs := (List.cons.inj (List.cons.inj split.1).2).2
    exact ⟨rfl, rfl⟩
  | case3 c cs inner inside tail _ ih =>
    cases cs with
    | nil =>
      by_cases ends : c = '*' ∧ d = '/'
      · obtain ⟨rfl, rfl⟩ := ends
        cases congrArg Prod.fst (splitBlock_end.symm.trans split)
      · have inner : ¬ (c = '*' ∧ (d :: ds).head? = some '/') := by simpa using ends
        have nothing := congrArg Prod.fst ((splitBlock_cons inner).symm.trans split)
        exact absurd (List.cons.inj nothing).2 splitBlock_ne_nil
    | cons e es =>
      have inner (x : Text) : ¬ (c = '*' ∧ (e :: es ++ x).head? = some '/') := by
        rintro ⟨star, slash⟩
        obtain rfl : e = '/' := by simpa using slash
        exact inner es star rfl
      rw [List.cons_append, splitBlock_cons (inner _), Prod.mk.injEq] at split ⊢
      rw [ih (Prod.ext (List.cons.inj split.1).2 split.2)]
      exact ⟨rfl, rfl⟩

/-! ## Pieces in front of a text -/

theorem next_line : next '/' ('/' :: cs) =
    (.lineComment ('/' :: '/' :: cs.takeWhile (· ≠ '\n')), cs.dropWhile (· ≠ '\n')) :=
  rfl

theorem next_block : next '/' ('*' :: cs) =
    (.blockComment ('/' :: '*' :: (splitBlock cs).1), (splitBlock cs).2) :=
  rfl

theorem next_mark (isMark : c = '"' ∨ c = '\'') :
    next c cs = (.literal (c :: (splitLiteral c cs).1), (splitLiteral c cs).2) := by
  rcases isMark with rfl | rfl
  · rfl
  · rfl

theorem next_single (notMark : ¬ (c = '"' ∨ c = '\''))
    (noComment : c = '/' → ∀ d ∈ cs.head?, d ≠ '/' ∧ d ≠ '*') :
    next c cs = (if isBlank c then .blank c else .code c, cs) := by
  unfold next
  split
  · exact absurd rfl (noComment rfl '/' rfl).1
  · exact absurd rfl (noComment rfl '*' rfl).2
  · rw [if_neg notMark]
    split <;> rfl

/-- The first piece of a text stands before the rest. -/
theorem stands_next (c : Char) (cs : Text) : Stands (next c cs).1 (next c cs).2 := by
  fun_cases next c cs with
  | case1 cs =>
    refine .line (fun break_ => ?_) fun d head => ?_
    · simpa using List.mem_takeWhile_imp break_
    · have stops := List.head?_dropWhile_not (fun x : Char => decide (x ≠ '\n')) cs
      rw [head] at stops
      simpa using stops
  | case2 cs inside tail split =>
    have whole := Piece.splitBlock_append cs
    rw [split] at whole
    exact .block (by rw [whole, split])
  | case3 c cs _ _ isMark inside tail split =>
    have whole := Piece.splitLiteral_append c cs
    rw [split] at whole
    exact .literal isMark (by rw [whole, split])
  | case4 c cs _ _ _ blank => exact .blank blank
  | case5 c cs line block notMark notBlank =>
    refine .code notMark (Bool.eq_false_iff.2 notBlank) ?_
    intro slash d head
    obtain ⟨ds, rfl⟩ := List.head?_eq_some_iff.1 head
    exact ⟨fun again => line ds slash (again ▸ rfl), fun star => block ds slash (star ▸ rfl)⟩

/-- A piece that stands before a text is the first piece of both. -/
theorem Stands.next_eq (stands : Stands p rest) :
    ∃ c cs, p.text = c :: cs ∧ next c (cs ++ rest) = (p, rest) := by
  cases stands with
  | @blank c _ blank =>
    have notMark : ¬ (c = '"' ∨ c = '\'') := by
      rintro (rfl | rfl)
      · cases blank
      · cases blank
    have notSlash : c ≠ '/' := by
      rintro rfl
      cases blank
    refine ⟨c, [], rfl, ?_⟩
    rw [next_single notMark (fun slash => absurd slash notSlash), if_pos blank]
    rfl
  | @line body _ inLine ends =>
    refine ⟨'/', '/' :: body, rfl, ?_⟩
    have inLine : ∀ d ∈ body, decide (d ≠ '\n') = true := by
      intro d member
      simpa using ne_of_mem_of_not_mem member inLine
    have stops : rest.takeWhile (fun d => decide (d ≠ '\n')) = [] := by
      cases rest with
      | nil => rfl
      | cons d ds => simp [ends d rfl]
    have stays : rest.dropWhile (fun d => decide (d ≠ '\n')) = rest := by
      cases rest with
      | nil => rfl
      | cons d ds => simp [ends d rfl]
    rw [List.cons_append, next_line, List.takeWhile_append_of_pos inLine, List.dropWhile_append_of_pos inLine, stops,
      stays, List.append_nil]
  | @block body _ split =>
    refine ⟨'/', '*' :: body, rfl, ?_⟩
    rw [List.cons_append, next_block, split]
  | @literal mark body _ isMark split =>
    refine ⟨mark, body, rfl, ?_⟩
    rw [next_mark isMark, split]
  | @code c _ notMark notBlank noComment =>
    refine ⟨c, [], rfl, ?_⟩
    rw [List.nil_append, next_single notMark noComment, if_neg (Bool.eq_false_iff.1 notBlank)]

/-- What a text is cut into: its first piece is the one that stands before the rest. -/
theorem pieces_eq_cons_iff :
    pieces text = p :: ps ↔ ∃ rest, text = p.text ++ rest ∧ Stands p rest ∧ pieces rest = ps := by
  constructor
  · intro cut
    cases text with
    | nil =>
      rw [pieces] at cut
      cases cut
    | cons c cs =>
      rw [pieces] at cut
      obtain ⟨rfl, rfl⟩ := List.cons.inj cut
      exact ⟨(next c cs).2, (Piece.next_append c cs).symm, stands_next c cs, rfl⟩
  · rintro ⟨rest, rfl, stands, rfl⟩
    obtain ⟨c, cs, first, cut⟩ := stands.next_eq
    rw [first, List.cons_append, pieces, cut]

theorem Stands.pieces_append (stands : Stands p rest) : pieces (p.text ++ rest) = p :: pieces rest :=
  pieces_eq_cons_iff.2 ⟨rest, rfl, stands, rfl⟩

/-- Where a piece ends depends on no more than the next character. -/
theorem Stands.swap (stands : Stands p rest) (same : rest.head? = rest'.head?) : Stands p rest' := by
  cases stands with
  | blank blank => exact .blank blank
  | line inLine ends => exact .line inLine (same ▸ ends)
  | block split =>
    cases rest with
    | nil =>
      obtain rfl : rest' = [] := List.head?_eq_none_iff.1 same.symm
      exact .block split
    | cons d ds => exact .block (splitBlock_of_closed split (List.cons_ne_nil d ds))
  | literal isMark split =>
    cases rest with
    | nil =>
      obtain rfl : rest' = [] := List.head?_eq_none_iff.1 same.symm
      exact .literal isMark split
    | cons d ds => exact .literal isMark (splitLiteral_of_closed split (List.cons_ne_nil d ds))
  | code notMark notBlank noComment => exact .code notMark notBlank (same ▸ noComment)

/-- Code with something behind it ends there whatever comes next, unless that makes it a comment. -/
theorem Stands.of_isCode (stands : Stands p rest) (isCode : p.isCode = true) (more : rest ≠ [])
    (noComment : ∀ d ∈ rest'.head?, d ≠ '/' ∧ d ≠ '*') : Stands p rest' := by
  cases stands with
  | blank => cases isCode
  | line => cases isCode
  | block => cases isCode
  | literal isMark split => exact .literal isMark (splitLiteral_of_closed split more)
  | code notMark notBlank _ => exact .code notMark notBlank fun _ => noComment

/-- Code at the end of a text goes on or ends there if more is put behind it, and in either case what it leaves is
an end of that. -/
theorem Stands.exists_of_isCode (stands : Stands p []) (isCode : p.isCode = true)
    (noComment : ∀ d ∈ rest.head?, d ≠ '/' ∧ d ≠ '*') :
    ∃ p' rest', p'.isCode = true ∧ rest' <:+ rest ∧ pieces (p.text ++ rest) = p' :: pieces rest' := by
  cases stands with
  | blank => cases isCode
  | line => cases isCode
  | block => cases isCode
  | @literal mark body _ isMark split =>
    rw [List.append_nil] at split
    let cut := splitLiteral mark (body ++ rest)
    refine ⟨.literal (mark :: cut.1), cut.2, rfl, splitLiteral_suffix (by rw [split]), ?_⟩
    change pieces (mark :: (body ++ rest)) = _
    rw [pieces, next_mark isMark]
  | @code c _ notMark notBlank _ =>
    have stands : Stands (.code c) rest := .code notMark notBlank fun _ => noComment
    exact ⟨.code c, rest, rfl, List.suffix_rfl, stands.pieces_append⟩

/-! ## Pieces before a seam -/

/-- A text falls into pieces that stand before the rest of it, and into the pieces of the rest. -/
theorem pieces_eq_append_iff :
    pieces text = ps ++ qs ↔
      text = ps.flatMap Piece.text ++ qs.flatMap Piece.text ∧ StandBefore ps (qs.flatMap Piece.text) ∧
        pieces (qs.flatMap Piece.text) = qs := by
  induction ps generalizing text with
  | nil =>
    constructor
    · rintro rfl
      rw [flatMap_pieces]
      exact ⟨rfl, trivial, rfl⟩
    · rintro ⟨rfl, -, cut⟩
      exact cut
  | cons p ps ih =>
    rw [List.cons_append, pieces_eq_cons_iff]
    constructor
    · rintro ⟨rest, rfl, stands, cut⟩
      obtain ⟨rfl, standBefore, cut⟩ := ih.1 cut
      exact ⟨by simp, ⟨stands, standBefore⟩, cut⟩
    · rintro ⟨rfl, ⟨stands, standBefore⟩, cut⟩
      exact ⟨_, by simp, stands, ih.2 ⟨rfl, standBefore, cut⟩⟩

theorem StandBefore.pieces_append (standBefore : StandBefore ps rest) :
    pieces (ps.flatMap Piece.text ++ rest) = ps ++ pieces rest := by
  rw [pieces_eq_append_iff, flatMap_pieces]
  exact ⟨rfl, standBefore, rfl⟩

/-- What stands behind a seam can be exchanged, up to the next character. -/
theorem StandBefore.swap (standBefore : StandBefore ps rest) (same : rest.head? = rest'.head?) :
    StandBefore ps rest' := by
  induction ps with
  | nil => trivial
  | cons p ps ih =>
    refine ⟨standBefore.1.swap ?_, ih standBefore.2⟩
    rw [List.head?_append, List.head?_append, same]

/-- Beyond the next piece the pieces before a seam do not reach. -/
theorem StandBefore.swap_behind (standBefore : StandBefore ps (p.text ++ rest)) (stands : Stands p rest) :
    StandBefore ps (p.text ++ rest') := by
  obtain ⟨c, cs, first, -⟩ := stands.next_eq
  apply standBefore.swap
  rw [first, List.cons_append, List.cons_append, List.head?_cons, List.head?_cons]

theorem standBefore_concat_iff :
    StandBefore (ps ++ [p]) rest ↔ StandBefore ps (p.text ++ rest) ∧ Stands p rest := by
  induction ps with
  | nil =>
    change Stands p rest ∧ True ↔ True ∧ Stands p rest
    exact and_comm
  | cons q ps ih =>
    rw [List.cons_append, StandBefore, StandBefore, ih, List.flatMap_append, List.flatMap_singleton,
      List.append_assoc, and_assoc]

/-! ## Texts that stand apart -/

theorem Apart.append {a b : Text} (first : Apart a) (second : Apart b) : Apart (a ++ b) := by
  intro rest
  rw [List.append_assoc, first, second, first, List.append_assoc]

/-- A character that begins neither a literal nor a comment is a piece of its own. -/
theorem pieces_single (plain : c ≠ '/' ∧ c ≠ '"' ∧ c ≠ '\'') :
    pieces (c :: cs) = (if isBlank c then .blank c else .code c) :: pieces cs := by
  have notMark : ¬ (c = '"' ∨ c = '\'') := not_or.2 plain.2
  rw [pieces, next_single notMark fun slash => absurd slash plain.1]

theorem apart_of_plain (plain : ∀ c ∈ text, c ≠ '/' ∧ c ≠ '"' ∧ c ≠ '\'') : Apart text := by
  intro rest
  induction text with
  | nil =>
    rw [pieces]
    rfl
  | cons c cs ih =>
    rw [List.forall_mem_cons] at plain
    rw [List.cons_append, pieces_single plain.1, pieces_single plain.1, ih plain.2, List.cons_append]

/-! ## Code and what stands behind it -/

theorem EndInCode.append (first : EndInCode ps) (second : EndInCode qs) : EndInCode (ps ++ qs) := by
  intro p last
  rw [List.getLast?_append] at last
  cases ends : qs.getLast? with
  | none =>
    rw [ends] at last
    exact first p last
  | some q =>
    rw [ends] at last
    exact second p (ends.trans last)

theorem endInCode_concat_iff : EndInCode (ps ++ [p]) ↔ p.isCode = true := by
  simp [EndInCode]

/-- The code of a text ends with the last piece that is code. -/
theorem codePieces_eq (cut : pieces text = ps ++ qs) (code : EndInCode ps)
    (trivia : ∀ q ∈ qs, q.isCode = false) : codePieces text = ps := by
  have skipped : ∀ q ∈ qs.reverse, (!q.isCode) = true := by
    intro q member
    rw [trivia q (List.mem_reverse.1 member)]
    rfl
  rw [codePieces, cut, List.reverse_append, List.dropWhile_append_of_pos skipped]
  rcases List.eq_nil_or_concat ps with rfl | ⟨init, p, rfl⟩
  · rfl
  · rw [List.concat_eq_append] at code ⊢
    have last : p.isCode = true := endInCode_concat_iff.1 code
    rw [List.reverse_concat, List.dropWhile_cons_of_neg (by simp [last]),
      List.reverse_cons, List.reverse_reverse]

/-- A text without slashes that does not end in a blank ends in code. -/
theorem endInCode_pieces (noSlash : '/' ∉ text) (filled : ∀ c ∈ text.getLast?, isBlank c = false) :
    EndInCode (pieces text) := by
  intro p last
  obtain ⟨init, cut⟩ := List.getLast?_eq_some_iff.1 last
  obtain ⟨whole, -, only⟩ := pieces_eq_append_iff.1 cut
  obtain ⟨rest, -, stands, -⟩ := pieces_eq_cons_iff.1 only
  rw [List.flatMap_singleton] at whole
  have slash : '/' ∉ p.text := by
    intro member
    exact noSlash (whole ▸ List.mem_append_right _ member)
  cases stands with
  | @blank c _ blank =>
    have notBlank : isBlank c = false := filled c (by rw [whole]; simp [Piece.text])
    rw [notBlank] at blank
    cases blank
  | line => exact absurd List.mem_cons_self slash
  | block => exact absurd List.mem_cons_self slash
  | literal => rfl
  | code => rfl

end EncodingLint.Fix
