import EncodingLint.LineIndex
import EncodingLint.Proofs.Offsets

/-!
# How the lines of a text lie in it

A text is a first line, a line break and the lines of the rest (`Line.Layout`). An index holds starts and
stops; a scan finds those of a layout (`Line.exists_layout_scan`), so there are as many of the one as of the
other and together they make up the lines of the text (`LineIndex.layout_lines`). What is known about
lines comes from this by induction over the layout: where a line stands in the text (`Layout.stands`),
which line an offset belongs to (`Layout.locate`), and how many lines start up to an offset of a line
(`Layout.length_takeWhile`).
-/

set_option autoImplicit false

namespace EncodingLint

namespace Text

/-- An offset between a CR and the LF behind it. -/
def SplitsBreak (text : Text) (offset : Nat) : Prop :=
  ∃ before after, text = before ++ '\r' :: '\n' :: after ∧ offset = byteSize before + 1

/-- An offset at which a cursor can stand: between characters, and not within a line break. -/
structure IsCaret (text : Text) (offset : Nat) : Prop where
  boundary : isBoundary text offset = true
  whole : ¬ SplitsBreak text offset

theorem byteSize_cr : byteSize ['\r'] = 1 := rfl

theorem splitsBreak_append_iff {before after : Text} :
    SplitsBreak (before ++ after) (byteSize before) ↔
      before.getLast? = some '\r' ∧ after.head? = some '\n' := by
  constructor
  · rintro ⟨x, y, whole, size⟩
    have cut : before ++ after = (x ++ ['\r']) ++ ('\n' :: y) := by simp [whole]
    obtain ⟨rfl, rfl⟩ := append_inj_of_byteSize cut (by rw [size, byteSize_append, byteSize_cr])
    simp
  · rintro ⟨last, head⟩
    obtain ⟨x, rfl⟩ := List.getLast?_eq_some_iff.1 last
    obtain ⟨y, rfl⟩ := List.head?_eq_some_iff.1 head
    exact ⟨x, y, by simp, by rw [byteSize_append, byteSize_cr]⟩

theorem isCaret_append {before after : Text}
    (whole : before.getLast? = some '\r' → after.head? ≠ some '\n') :
    IsCaret (before ++ after) (byteSize before) :=
  ⟨isBoundary_append _ _, fun split => by
    obtain ⟨last, head⟩ := splitsBreak_append_iff.1 split
    exact whole last head⟩

end Text

/-- The offsets between which the characters of a line stand, its line break left out. -/
structure Line where
  start : Nat
  stop : Nat
deriving DecidableEq, Repr

/-- The lines of an index, each from its start to its stop. -/
def LineIndex.lines (index : LineIndex) : List Line :=
  List.zipWith Line.mk index.starts index.stops

namespace Line

/-- A text without line breaks. -/
def IsPlain (text : Text) : Prop :=
  ∀ c ∈ text, c ≠ '\r' ∧ c ≠ '\n'

/-- A line break in front of a text: LF, CR LF, or a CR that no LF follows. -/
inductive IsBreak : Text → Text → Prop where
  | lf (rest : Text) : IsBreak ['\n'] rest
  | crlf (rest : Text) : IsBreak ['\r', '\n'] rest
  | cr {rest : Text} (alone : rest.head? ≠ some '\n') : IsBreak ['\r'] rest

/-- The lines of a text that stands behind `before`. -/
inductive Layout : Text → Text → List Line → Prop where
  | last {before content : Text} (plain : IsPlain content) :
      Layout before content
        [⟨Text.byteSize before, Text.byteSize (before ++ content)⟩]
  | cons {before content mark rest : Text} {lines : List Line} (plain : IsPlain content)
      (isBreak : IsBreak mark rest) (behind : Layout (before ++ content ++ mark) rest lines) :
      Layout before (content ++ mark ++ rest)
        (⟨Text.byteSize before, Text.byteSize (before ++ content)⟩ :: lines)

/-- The place of a line in a text. -/
structure Stands (text : Text) (line : Line) (before content after : Text) : Prop where
  whole : text = before ++ content ++ after
  plain : IsPlain content
  start : line.start = Text.byteSize before
  stop : line.stop = Text.byteSize (before ++ content)
  caret : Text.IsCaret text line.start

variable {before content mark rest text : Text} {line : Line} {lines : List Line}
  {number offset start here : Nat}

theorem IsPlain.concat {c : Char} (plain : IsPlain content) (cr : c ≠ '\r') (lf : c ≠ '\n') :
    IsPlain (content ++ [c]) := by
  intro d member
  rcases List.mem_append.1 member with member | member
  · exact plain d member
  · rw [List.mem_singleton.1 member]
    exact ⟨cr, lf⟩

theorem IsBreak.byteSize_pos (isBreak : IsBreak mark rest) : 0 < Text.byteSize mark := by
  cases isBreak <;> decide

/-- Behind a line break no break is split. -/
theorem IsBreak.isCaret (isBreak : IsBreak mark rest) (before : Text) :
    Text.IsCaret (before ++ mark ++ rest) (Text.byteSize (before ++ mark)) := by
  apply Text.isCaret_append
  cases isBreak with
  | lf => simp
  | crlf => simp
  | cr alone => exact fun _ => alone

/-- An offset in front of the end of a line break is in front of the break or splits it. -/
theorem IsBreak.le_or_splitsBreak (isBreak : IsBreak mark rest) (before : Text)
    (early : offset < Text.byteSize (before ++ mark)) :
    offset ≤ Text.byteSize before ∨
      Text.SplitsBreak (before ++ mark ++ rest) offset ∧ offset = Text.byteSize before + 1 := by
  rw [Text.byteSize_append] at early
  cases isBreak with
  | lf => exact .inl (Nat.le_of_lt_succ early)
  | cr alone => exact .inl (Nat.le_of_lt_succ early)
  | crlf =>
    rcases Nat.lt_or_eq_of_le (Nat.le_of_lt_succ early) with inside | rfl
    · exact .inl (Nat.le_of_lt_succ inside)
    · exact .inr ⟨⟨before, rest, by simp, rfl⟩, rfl⟩

theorem isPlain_nil : IsPlain [] := by
  intro c member
  cases member

/-- Lines with the starts and the stops that a scan finds, the first of them begun at offset `start`. -/
def Found (start : Nat) (found : List Nat × List Nat) (lines : List Line) : Prop :=
  lines.map Line.start = start :: found.1 ∧ lines.map Line.stop = found.2

/-- A line that stops at `here` with a break, in front of lines that are found from behind it on. -/
theorem exists_layout_addBreak {found : List Nat × List Nat} (plain : IsPlain content)
    (at_start : start = Text.byteSize before) (at_here : here = Text.byteSize (before ++ content))
    (isBreak : IsBreak mark rest)
    (behind : ∀ {before content : Text} {start : Nat}, IsPlain content → start = Text.byteSize before →
      here + Text.byteSize mark = Text.byteSize (before ++ content) →
      ∃ lines, Layout before (content ++ rest) lines ∧ Found start found lines) :
    ∃ lines, Layout before (content ++ (mark ++ rest)) lines ∧
      Found start (LineIndex.addBreak here (here + Text.byteSize mark) found) lines := by
  have next : here + Text.byteSize mark = Text.byteSize (before ++ content ++ mark) := by
    rw [Text.byteSize_append _ mark, at_here]
  obtain ⟨lines, layout, starts, stops⟩ :=
    behind isPlain_nil next (by rw [List.append_nil]; exact next)
  refine ⟨⟨start, here⟩ :: lines, ?_, ?_, ?_⟩
  · rw [at_start, at_here, ← List.append_assoc]
    exact .cons plain isBreak layout
  · rw [List.map_cons, starts]
    rfl
  · rw [List.map_cons, stops]
    rfl

/-- A scan finds the starts and the stops of the lines of a text; `content` is what it has passed of the
line under way. -/
theorem exists_layout_scan (plain : IsPlain content) (at_start : start = Text.byteSize before)
    (at_here : here = Text.byteSize (before ++ content)) :
    ∃ lines, Layout before (content ++ text) lines ∧
      Found start (LineIndex.scan here text) lines := by
  fun_induction LineIndex.scan here text generalizing before content start with
  | case1 here =>
    refine ⟨[⟨start, here⟩], ?_, rfl, rfl⟩
    rw [List.append_nil, at_start, at_here]
    exact .last plain
  | case2 here cs ih => exact exists_layout_addBreak plain at_start at_here (.crlf cs) ih
  | case3 here cs alone ih =>
    refine exists_layout_addBreak plain at_start at_here (.cr ?_) ih
    intro head
    obtain ⟨rest, rfl⟩ := List.head?_eq_some_iff.1 head
    exact alone rest rfl
  | case4 here cs ih => exact exists_layout_addBreak plain at_start at_here (.lf cs) ih
  | case5 here c cs _ cr lf ih =>
    have longer : IsPlain (content ++ [c]) := plain.concat cr lf
    have next : here + c.utf8Size = Text.byteSize (before ++ (content ++ [c])) := by
      rw [← List.append_assoc, Text.byteSize_append _ [c], at_here]
      rfl
    rw [List.append_cons]
    exact ih longer at_start next

theorem zipWith_mk (lines : List Line) :
    List.zipWith Line.mk (lines.map Line.start) (lines.map Line.stop) = lines := by
  induction lines with
  | nil => rfl
  | cons line lines ih => rw [List.map_cons, List.map_cons, List.zipWith_cons_cons, ih]

namespace Layout

theorem start_le (layout : Layout before text lines) (member : line ∈ lines) :
    Text.byteSize before ≤ line.start := by
  induction layout with
  | last plain =>
    obtain rfl := List.mem_singleton.1 member
    exact Nat.le_refl _
  | cons plain isBreak behind ih =>
    rcases List.mem_cons.1 member with rfl | member
    · exact Nat.le_refl _
    · have later := ih member
      simp only [Text.byteSize_append] at later
      omega

/-- Every line ends before all later ones begin. -/
theorem pairwise (layout : Layout before text lines) : lines.Pairwise fun a b => a.stop < b.start := by
  induction layout with
  | last plain => exact List.pairwise_singleton _ _
  | @cons before content mark rest lines plain isBreak behind ih =>
    refine List.pairwise_cons.2 ⟨fun line later => ?_, ih⟩
    have begun := behind.start_le later
    have positive := isBreak.byteSize_pos
    rw [Text.byteSize_append _ mark] at begun
    exact Nat.lt_of_lt_of_le (Nat.lt_add_of_pos_right positive) begun

/-- Each line stands somewhere in the text, with its content between its ends. -/
theorem stands (layout : Layout before text lines)
    (caret : Text.IsCaret (before ++ text) (Text.byteSize before))
    (found : lines[number]? = some line) :
    ∃ b c a, Stands (before ++ text) line b c a := by
  induction layout generalizing number with
  | @last before content plain =>
    simp only [List.getElem?_singleton, Option.ite_none_right_eq_some, Option.some.injEq] at found
    obtain ⟨rfl, rfl⟩ := found
    exact ⟨before, content, [], by simp, plain, rfl, rfl, caret⟩
  | @cons before content mark rest lines plain isBreak behind ih =>
    cases number with
    | zero =>
      obtain rfl := Option.some.inj found
      exact ⟨before, content, mark ++ rest, by simp, plain, rfl, rfl, caret⟩
    | succ number =>
      have whole : before ++ (content ++ mark ++ rest) = before ++ content ++ mark ++ rest := by simp
      rw [whole]
      exact ih (isBreak.isCaret _) (by simpa using found)

theorem takeWhile_eq_nil (layout : Layout before text lines) (early : offset < Text.byteSize before) :
    lines.takeWhile (fun line => line.start ≤ offset) = [] := by
  cases layout with
  | last plain => simp [early]
  | cons plain isBreak behind => simp [early]

/-- At an offset of a line, the lines begun are those up to this one. -/
theorem length_takeWhile (layout : Layout before text lines) (found : lines[number]? = some line)
    (begun : line.start ≤ offset) (ended : offset ≤ line.stop) :
    (lines.takeWhile fun line => line.start ≤ offset).length = number + 1 := by
  induction layout generalizing number with
  | @last before content plain =>
    simp only [List.getElem?_singleton, Option.ite_none_right_eq_some, Option.some.injEq] at found
    obtain ⟨rfl, rfl⟩ := found
    simp [show Text.byteSize before ≤ offset from begun]
  | @cons before content mark rest lines plain isBreak behind ih =>
    cases number with
    | zero =>
      obtain rfl := Option.some.inj found
      have later : offset < Text.byteSize (before ++ content ++ mark) := by
        have positive := isBreak.byteSize_pos
        rw [Text.byteSize_append _ mark]
        exact Nat.lt_of_le_of_lt ended (Nat.lt_add_of_pos_right positive)
      rw [List.takeWhile_cons_of_pos (by simpa using begun), behind.takeWhile_eq_nil later]
      rfl
    | succ number =>
      have found : lines[number]? = some line := by simpa using found
      have first : Text.byteSize before ≤ offset := by
        have := behind.start_le (List.mem_of_getElem? found)
        simp only [Text.byteSize_append] at this
        omega
      rw [List.takeWhile_cons_of_pos (by simpa using first), List.length_cons, ih found]

/-- Every offset of the text belongs to the last line begun there: it is an offset of that line, or
lies within the line break behind it. -/
theorem locate (layout : Layout before text lines) (begun : Text.byteSize before ≤ offset)
    (ended : offset ≤ Text.byteSize (before ++ text)) :
    ∃ number line, lines[number]? = some line ∧
      (lines.takeWhile fun line => line.start ≤ offset).length = number + 1 ∧
      line.start ≤ offset ∧
      (offset ≤ line.stop ∨ Text.SplitsBreak (before ++ text) offset ∧ offset = line.stop + 1) := by
  induction layout with
  | @last before content plain =>
    exact ⟨0, _, rfl, by simp [begun], begun, .inl ended⟩
  | @cons before content mark rest lines plain isBreak behind ih =>
    have whole : before ++ (content ++ mark ++ rest) = before ++ content ++ mark ++ rest := by simp
    rw [whole] at ended ⊢
    by_cases next : Text.byteSize (before ++ content ++ mark) ≤ offset
    · obtain ⟨number, line, found, count, first, place⟩ := ih next ended
      refine ⟨number + 1, line, by simpa using found, ?_, first, place⟩
      rw [List.takeWhile_cons_of_pos (by simpa using begun), List.length_cons, count]
    · refine ⟨0, _, rfl, ?_, begun, ?_⟩
      · rw [List.takeWhile_cons_of_pos (by simpa using begun),
          behind.takeWhile_eq_nil (Nat.lt_of_not_le next)]
        rfl
      · exact isBreak.le_or_splitsBreak _ (Nat.lt_of_not_le next)

end Layout

end Line

namespace LineIndex

variable {text rest : Text} {lines : List Line} {number start stop : Nat}

theorem scan_cr (here : Nat) (alone : rest.head? ≠ some '\n') :
    scan here ('\r' :: rest) = addBreak here (here + 1) (scan (here + 1) rest) := by
  rw [scan]
  rintro cs rfl
  exact alone rfl

theorem scan_cons {c : Char} (here : Nat) (cr : c ≠ '\r') (lf : c ≠ '\n') :
    scan here (c :: rest) = scan (here + c.utf8Size) rest := by
  rw [scan]
  · exact fun _ isCr _ => cr isCr
  · exact cr
  · exact lf

/-- Lines with the starts and the stops of an index are its lines. -/
theorem lines_eq_of_found (found : Line.Found 0 (scan 0 text) lines) : (ofText text).lines = lines := by
  obtain ⟨starts, stops⟩ := found
  change List.zipWith Line.mk (0 :: (scan 0 text).1) (scan 0 text).2 = lines
  rw [← starts, ← stops, Line.zipWith_mk]

theorem layout_and_found (text : Text) :
    Line.Layout [] text (ofText text).lines ∧ Line.Found 0 (scan 0 text) (ofText text).lines := by
  obtain ⟨lines, layout, found⟩ :
      ∃ lines, Line.Layout [] ([] ++ text) lines ∧ Line.Found 0 (scan 0 text) lines :=
    Line.exists_layout_scan Line.isPlain_nil rfl rfl
  rw [lines_eq_of_found found]
  exact ⟨layout, found⟩

/-- The lines of an index are those of its text. -/
theorem layout_lines (text : Text) : Line.Layout [] text (ofText text).lines :=
  (layout_and_found text).1

/-- Every start of an index is the start of one of its lines. -/
theorem map_start_lines (text : Text) : (ofText text).lines.map Line.start = (ofText text).starts :=
  (layout_and_found text).2.1

/-- Every stop of an index is the stop of one of its lines. -/
theorem map_stop_lines (text : Text) : (ofText text).lines.map Line.stop = (ofText text).stops :=
  (layout_and_found text).2.2

theorem length_starts (text : Text) : (ofText text).starts.length = (ofText text).lines.length := by
  rw [← map_start_lines, List.length_map]

/-- A start and a stop of the same number are those of a line. -/
theorem getElem?_lines_eq_some_iff :
    (ofText text).lines[number]? = some ⟨start, stop⟩ ↔
      (ofText text).starts[number]? = some start ∧ (ofText text).stops[number]? = some stop := by
  rw [← map_start_lines, ← map_stop_lines, List.getElem?_map, List.getElem?_map]
  cases (ofText text).lines[number]? with
  | none => simp
  | some line =>
    cases line
    simp

end LineIndex

end EncodingLint
