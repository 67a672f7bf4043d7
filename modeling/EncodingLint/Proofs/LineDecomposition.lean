import Mathlib.Algebra.Group.Nat.Defs
import Mathlib.Data.List.Infix
import EncodingLint.Proofs.LineLayout

/-!
# A text is its lines and the breaks between them

Lines divide a text (`Line.Divide`) if they start one behind the other, hold no line break, and leave just one line
break between each of them and the next. This is said offset by offset, and not along the text as `Line.Layout` is; the
two say the same (`Line.divide_iff_layout`). Since a line goes on up to the first break, a text is divided in one way
only, and the lines of its index are the ones that divide it (`LineIndex.divide_iff`). Nothing of the text is lost with
them: what they hold and the breaks between them make it up again (`Line.Divide.parts`). Their number is another matter:
it is counted in 32 bits, and the lines of one text are too many for that (`LineIndex.lineCount_of_size`).
-/

set_option autoImplicit false

namespace EncodingLint

namespace Text

variable {text before middle : Text} {start stop : Nat}

/-- Whether a line break ends with the first character of a text: with an LF, or with a CR that no LF follows. -/
def endsBreak : Text → Bool
  | [] => false
  | c :: rest => c = '\n' ∨ c = '\r' ∧ rest.head? ≠ some '\n'

/-- The number of places of a text at which a line break ends. -/
def breakCount (text : Text) : Nat :=
  text.tails.countP endsBreak

theorem breakCount_cons (c : Char) (cs : Text) :
    breakCount (c :: cs) = breakCount cs + if endsBreak (c :: cs) then 1 else 0 := by
  rw [breakCount, List.tails_cons, List.countP_cons]
  rfl

theorem breakCount_le_byteSize (text : Text) : breakCount text ≤ byteSize text := by
  induction text with
  | nil => exact Nat.le_refl _
  | cons c cs ih =>
    have positive := c.utf8Size_pos
    rw [breakCount_cons, byteSize_cons]
    split <;> omega

theorem breakCount_replicate (n : Nat) : breakCount (List.replicate n '\n') = n := by
  induction n with
  | zero => rfl
  | succ n ih =>
    rw [List.replicate_succ, breakCount_cons, ih]
    rfl

theorem stop_of_slice? (cut : slice? text start stop = some middle) : stop = start + byteSize middle := by
  obtain ⟨before, after, -, rfl, rfl⟩ := slice?_eq_some_iff.1 cut
  rfl

/-- Behind the start of a stretch come the stretch and what is behind it. -/
theorem dropBytes_of_slice? (cut : slice? text start stop = some middle) :
    dropBytes start text = middle ++ dropBytes stop text := by
  obtain ⟨before, after, rfl, rfl, rfl⟩ := slice?_eq_some_iff.1 cut
  rw [← byteSize_append, dropBytes_append, List.append_assoc, dropBytes_append]

/-- A stretch behind a first part of a text comes next. -/
theorem exists_append_of_slice? (cut : slice? (before ++ text) (byteSize before) stop = some middle) :
    ∃ rest, text = middle ++ rest ∧ stop = byteSize (before ++ middle) := by
  obtain ⟨first, rest, whole, size, rfl⟩ := slice?_eq_some_iff.1 cut
  rw [List.append_assoc] at whole
  obtain ⟨rfl, rfl⟩ := append_inj_of_byteSize whole size
  exact ⟨rest, rfl, (byteSize_append _ _).symm⟩

theorem slice?_middle (before middle after : Text) :
    slice? (before ++ middle ++ after) (byteSize before) (byteSize (before ++ middle)) = some middle := by
  rw [byteSize_append]
  exact slice?_append before middle after

end Text

namespace Line

variable {before content mark rest text : Text} {line next : Line} {lines : List Line} {start here : Nat}

/-- Lines that divide a text from an offset on. -/
structure Divide (text : Text) (start : Nat) (lines : List Line) : Prop where
  /-- The first line starts there, and every other one behind the start of the one before. -/
  first : (lines.map Line.start).head? = some start
  increasing : (lines.map Line.start).Pairwise (· < ·)
  /-- A line ends where it begins or later, and holds no part of a line break. -/
  ordered : ∀ line ∈ lines, line.start ≤ line.stop
  plain : ∀ line ∈ lines, ∃ content, Text.slice? text line.start line.stop = some content ∧ IsPlain content
  /-- The last line ends with the text. -/
  last : (lines.map Line.stop).getLast? = some (Text.byteSize text)
  /-- Between a line and the next one is one line break and nothing else. -/
  broken : ∀ number line next, lines[number]? = some line → lines[number + 1]? = some next →
    ∃ mark, Text.slice? text line.stop next.start = some mark ∧ IsBreak mark (Text.dropBytes next.start text)

/-- What the lines of a text hold. -/
def contents (text : Text) (lines : List Line) : List Text :=
  lines.filterMap fun line => Text.slice? text line.start line.stop

/-- What stands between the lines of a text. -/
def breaks (text : Text) (lines : List Line) : List Text :=
  (lines.zip lines.tail).filterMap fun gap => Text.slice? text gap.1.stop gap.2.start

/-! ## Lines one by one -/

theorem Divide.exists_cons (divide : Divide text start lines) :
    ∃ line later, lines = line :: later ∧ line.start = start := by
  cases lines with
  | nil => cases divide.first
  | cons line later => exact ⟨line, later, rfl, Option.some.inj divide.first⟩

/-- A single line divides a text if it holds all of it. -/
theorem divide_singleton_iff :
    Divide text start [line] ↔
      line.start = start ∧ line.stop = Text.byteSize text ∧
        ∃ content, Text.slice? text line.start line.stop = some content ∧ IsPlain content := by
  constructor
  · intro divide
    exact ⟨Option.some.inj divide.first, Option.some.inj divide.last, divide.plain line List.mem_cons_self⟩
  · rintro ⟨rfl, stop, content, cut, plain⟩
    have ordered : line.start ≤ line.stop := by
      rw [Text.stop_of_slice? cut]
      exact Nat.le_add_right _ _
    exact {
      first := rfl
      increasing := List.pairwise_singleton _ _
      ordered := List.forall_mem_singleton.2 ordered
      plain := List.forall_mem_singleton.2 ⟨content, cut, plain⟩
      last := congrArg some stop
      broken := fun number line next _ missing => by simp at missing }

/-- A line in front of others divides a text if a line break is behind it and the others divide the text from there. -/
theorem divide_cons_iff :
    Divide text start (line :: next :: lines) ↔
      line.start = start ∧
      (∃ content, Text.slice? text line.start line.stop = some content ∧ IsPlain content) ∧
      (∃ mark, Text.slice? text line.stop next.start = some mark ∧ IsBreak mark (Text.dropBytes next.start text)) ∧
      Divide text next.start (next :: lines) := by
  constructor
  · intro divide
    refine ⟨Option.some.inj divide.first, divide.plain line List.mem_cons_self, divide.broken 0 line next rfl rfl, ?_⟩
    exact {
      first := rfl
      increasing := (List.pairwise_cons.1 divide.increasing).2
      ordered := (List.forall_mem_cons.1 divide.ordered).2
      plain := (List.forall_mem_cons.1 divide.plain).2
      last := by
        have last := divide.last
        rwa [List.map_cons, List.map_cons, List.getLast?_cons_cons] at last
      broken := fun number a b found found' => divide.broken (number + 1) a b found found' }
  · rintro ⟨rfl, ⟨content, cut, plain⟩, ⟨mark, cut', isBreak⟩, later⟩
    have stop := Text.stop_of_slice? cut
    have begun := Text.stop_of_slice? cut'
    have positive := isBreak.byteSize_pos
    have behind := (List.pairwise_cons.1 later.increasing).1
    exact {
      first := rfl
      increasing := by
        refine List.pairwise_cons.2 ⟨List.forall_mem_cons.2 ⟨by omega, fun s member => ?_⟩, later.increasing⟩
        have further := behind s member
        omega
      ordered := List.forall_mem_cons.2 ⟨by omega, later.ordered⟩
      plain := List.forall_mem_cons.2 ⟨⟨content, cut, plain⟩, later.plain⟩
      last := by
        rw [List.map_cons, List.map_cons, List.getLast?_cons_cons]
        exact later.last
      broken := fun number a b found found' => by
        cases number with
        | zero =>
          obtain rfl := Option.some.inj found
          obtain rfl := Option.some.inj found'
          exact ⟨mark, cut', isBreak⟩
        | succ number => exact later.broken number a b found found' }

/-! ## The two ways to say it -/

theorem Layout.divide (layout : Layout before text lines) : Divide (before ++ text) (Text.byteSize before) lines := by
  induction layout with
  | @last before content plain =>
    have cut := Text.slice?_middle before content []
    rw [List.append_nil] at cut
    exact divide_singleton_iff.2 ⟨rfl, rfl, content, cut, plain⟩
  | @cons before content mark rest lines plain isBreak behind ih =>
    have whole : before ++ (content ++ mark ++ rest) = before ++ content ++ mark ++ rest := by simp
    rw [whole]
    obtain ⟨next, later, rfl, begun⟩ := ih.exists_cons
    refine divide_cons_iff.2 ⟨rfl, ⟨content, ?_, plain⟩, ⟨mark, ?_, ?_⟩, ?_⟩
    · rw [List.append_assoc _ mark rest]
      exact Text.slice?_middle before content (mark ++ rest)
    · rw [begun]
      exact Text.slice?_middle (before ++ content) mark rest
    · rw [begun, Text.dropBytes_append]
      exact isBreak
    · rw [begun]
      exact ih

theorem Divide.layout (divide : Divide (before ++ text) (Text.byteSize before) lines) : Layout before text lines := by
  induction lines generalizing before text with
  | nil => cases divide.first
  | cons line lines ih =>
    cases lines with
    | nil =>
      obtain ⟨start, stop, content, cut, plain⟩ := divide_singleton_iff.1 divide
      rw [start] at cut
      obtain ⟨rest, rfl, ends⟩ := Text.exists_append_of_slice? cut
      -- Nothing is behind the only line, since it ends with the text.
      have size : Text.byteSize (before ++ content ++ rest) = Text.byteSize (before ++ content) := by
        rw [List.append_assoc, ← stop, ends]
      obtain ⟨-, rfl⟩ := Text.append_inj_of_byteSize (List.append_nil _) size
      have line_eq : line = ⟨Text.byteSize before, Text.byteSize (before ++ content)⟩ := by
        rw [← start, ← ends]
      rw [line_eq, List.append_nil]
      exact .last plain
    | cons next later =>
      obtain ⟨start, ⟨content, cut, plain⟩, ⟨mark, cut', isBreak⟩, behind⟩ := divide_cons_iff.1 divide
      rw [start] at cut
      obtain ⟨tail, rfl, stop⟩ := Text.exists_append_of_slice? cut
      rw [← List.append_assoc] at cut' isBreak behind
      rw [stop] at cut'
      obtain ⟨rest, rfl, begun⟩ := Text.exists_append_of_slice? cut'
      rw [← List.append_assoc, begun] at isBreak behind
      rw [Text.dropBytes_append] at isBreak
      have line_eq : line = ⟨Text.byteSize before, Text.byteSize (before ++ content)⟩ := by
        rw [← start, ← stop]
      rw [line_eq, ← List.append_assoc]
      exact .cons plain isBreak (ih behind)

/-- Lines divide a text from the end of a first part on if they are laid out along the rest. -/
theorem divide_iff_layout : Divide (before ++ text) (Text.byteSize before) lines ↔ Layout before text lines :=
  ⟨Divide.layout, Layout.divide⟩

/-! ## One division only -/

theorem scan_append (plain : IsPlain content) :
    LineIndex.scan here (content ++ text) = LineIndex.scan (here + Text.byteSize content) text := by
  induction content generalizing here with
  | nil => rfl
  | cons c cs ih =>
    obtain ⟨⟨cr, lf⟩, plain⟩ := List.forall_mem_cons.1 plain
    rw [List.cons_append, LineIndex.scan_cons here cr lf, ih plain, Text.byteSize_cons, Nat.add_assoc]

theorem IsBreak.scan_append (isBreak : IsBreak mark rest) :
    LineIndex.scan here (mark ++ rest) =
      LineIndex.addBreak here (here + Text.byteSize mark) (LineIndex.scan (here + Text.byteSize mark) rest) := by
  cases isBreak with
  | lf => rfl
  | crlf => rfl
  | cr alone => exact LineIndex.scan_cr here alone

/-- A scan finds the starts and the stops of every layout of a text. -/
theorem Layout.found (layout : Layout before text lines) :
    Found (Text.byteSize before) (LineIndex.scan (Text.byteSize before) text) lines := by
  induction layout with
  | @last before content plain =>
    rw [← List.append_nil content, scan_append plain, List.append_nil, Text.byteSize_append]
    exact ⟨rfl, rfl⟩
  | @cons before content mark rest lines plain isBreak behind ih =>
    obtain ⟨starts, stops⟩ := ih
    rw [List.append_assoc content mark rest, scan_append plain, isBreak.scan_append,
      ← Text.byteSize_append before content, ← Text.byteSize_append _ mark]
    constructor
    · rw [List.map_cons, starts]
      rfl
    · rw [List.map_cons, stops]
      rfl

/-! ## The number of lines -/

theorem breakCount_append (plain : IsPlain content) : Text.breakCount (content ++ text) = Text.breakCount text := by
  induction content with
  | nil => rfl
  | cons c cs ih =>
    obtain ⟨⟨cr, lf⟩, plain⟩ := List.forall_mem_cons.1 plain
    rw [List.cons_append, Text.breakCount_cons, ih plain]
    simp [Text.endsBreak, cr, lf]

theorem IsBreak.breakCount_append (isBreak : IsBreak mark rest) :
    Text.breakCount (mark ++ rest) = Text.breakCount rest + 1 := by
  cases isBreak with
  | lf => simp [Text.breakCount_cons, Text.endsBreak]
  | crlf => simp [Text.breakCount_cons, Text.endsBreak]
  | cr alone => simp [Text.breakCount_cons, Text.endsBreak, alone]

/-- There is a line more than there are breaks. -/
theorem Layout.length_eq (layout : Layout before text lines) : lines.length = Text.breakCount text + 1 := by
  induction layout with
  | @last before content plain =>
    rw [← List.append_nil content, breakCount_append plain]
    rfl
  | cons plain isBreak behind ih =>
    rw [List.append_assoc, breakCount_append plain, isBreak.breakCount_append, List.length_cons, ih]

/-! ## The parts of a text -/

theorem contents_cons (cut : Text.slice? text line.start line.stop = some content) :
    contents text (line :: lines) = content :: contents text lines :=
  List.filterMap_cons_some cut

theorem breaks_cons (cut : Text.slice? text line.stop next.start = some mark) :
    breaks text (line :: next :: lines) = mark :: breaks text (next :: lines) :=
  List.filterMap_cons_some cut

/-- Every line holds a part of the text and there is a break between each two. These parts, one after the other, are
the text from the start of the first line on. -/
theorem Divide.parts (divide : Divide text start lines) :
    (contents text lines).length = lines.length ∧
      (breaks text lines).length + 1 = lines.length ∧
      (List.zipWith (· ++ ·) (contents text lines) (breaks text lines ++ [[]])).flatten =
        Text.dropBytes start text := by
  induction lines generalizing start with
  | nil => cases divide.first
  | cons line lines ih =>
    cases lines with
    | nil =>
      obtain ⟨rfl, stop, content, cut, -⟩ := divide_singleton_iff.1 divide
      have nothing : Text.dropBytes (Text.byteSize text) (text ++ []) = [] := Text.dropBytes_append text []
      rw [List.append_nil] at nothing
      rw [Text.dropBytes_of_slice? cut, stop, nothing, contents_cons cut]
      exact ⟨rfl, rfl, by simp [contents, breaks]⟩
    | cons next later =>
      obtain ⟨rfl, ⟨content, cut, -⟩, ⟨mark, cut', -⟩, behind⟩ := divide_cons_iff.1 divide
      obtain ⟨lengthContents, lengthBreaks, joined⟩ := ih behind
      rw [Text.dropBytes_of_slice? cut, Text.dropBytes_of_slice? cut', contents_cons cut, breaks_cons cut']
      refine ⟨congrArg (· + 1) lengthContents, congrArg (· + 1) lengthBreaks, ?_⟩
      rw [List.cons_append, List.zipWith_cons_cons, List.flatten_cons, joined, List.append_assoc]

end Line

namespace LineIndex

open Line (Divide contents breaks)

variable {text : Text} {lines : List Line}

theorem divide_iff : Divide text 0 lines ↔ lines = (ofText text).lines := by
  have along : Divide ([] ++ text) (Text.byteSize []) lines ↔ Line.Layout [] text lines := Line.divide_iff_layout
  refine along.trans ⟨fun layout => (lines_eq_of_found layout.found).symm, ?_⟩
  rintro rfl
  exact layout_lines text

theorem length_lines (text : Text) : (ofText text).lines.length = Text.breakCount text + 1 :=
  (layout_lines text).length_eq

/-- Lines are counted in 32 bits. -/
theorem lineCount_ofText (text : Text) :
    (ofText text).lineCount = (Text.breakCount text + 1) % (maxOffset + 1) := by
  rw [lineCount, length_starts, length_lines]

/-- A text whose offsets can be counted has too many lines to be counted if and only if it is nothing but line breaks of
one byte, as many as there are offsets behind the first. -/
theorem lineCount_of_size (size : Text.byteSize text < 2 ^ 32) :
    (ofText text).lineCount = if Text.breakCount text = maxOffset then 0 else Text.breakCount text + 1 := by
  have bounded := Text.breakCount_le_byteSize text
  rw [lineCount_ofText]
  split
  case isTrue full => rw [full, Nat.mod_self]
  case isFalse other =>
    apply Nat.mod_eq_of_lt
    unfold maxOffset at other ⊢
    omega

/-- **The line index is the division of a text into lines.** It has as many starts as stops. Its lines divide the text,
and no others do. What they hold and the breaks between them make up the text, and there is one line more than there are
line breaks in the text. The lines are counted right, with the one exception of as many line breaks as there can be. -/
theorem ofText_divides (text : Text) :
    (ofText text).starts.length = (ofText text).stops.length ∧
    (∀ lines, Divide text 0 lines ↔ lines = (ofText text).lines) ∧
    (contents text (ofText text).lines).length = (ofText text).lines.length ∧
    (breaks text (ofText text).lines).length + 1 = (ofText text).lines.length ∧
    (ofText text).lines.length = Text.breakCount text + 1 ∧
    (List.zipWith (· ++ ·) (contents text (ofText text).lines) (breaks text (ofText text).lines ++ [[]])).flatten =
      text ∧
    (Text.byteSize text < 2 ^ 32 → (ofText text).lineCount =
      if Text.breakCount text = maxOffset then 0 else Text.breakCount text + 1) := by
  have divide : Divide text 0 (ofText text).lines := divide_iff.2 rfl
  obtain ⟨lengthContents, lengthBreaks, joined⟩ := divide.parts
  have whole : Text.dropBytes 0 text = text := Text.dropBytes_append [] text
  have paired : (ofText text).starts.length = (ofText text).stops.length := by
    rw [length_starts, ← map_stop_lines, List.length_map]
  rw [whole] at joined
  exact ⟨paired, fun lines => divide_iff, lengthContents, lengthBreaks, length_lines text, joined, lineCount_of_size⟩

/-- Line breaks of all kinds, one behind the other. -/
theorem ofText_divides_breaks :
    let text := ['é', '\r', '\r', '\n', '\n', '\r']
    Divide text 0 [⟨0, 2⟩, ⟨3, 3⟩, ⟨5, 5⟩, ⟨6, 6⟩, ⟨7, 7⟩] ∧
      Text.byteSize text < 2 ^ 32 ∧ (ofText text).lineCount = 5 := by
  intro text
  obtain ⟨-, divides, -, -, -, -, counted⟩ := ofText_divides text
  have size : Text.byteSize text < 2 ^ 32 := by decide
  refine ⟨(divides _).2 (by decide), size, ?_⟩
  rw [counted size]
  decide

/-- The one exception: `maxOffset` LFs begin `maxOffset + 1` lines, and these are counted as none. -/
theorem lineCount_full :
    let text := List.replicate maxOffset '\n'
    Text.byteSize text < 2 ^ 32 ∧ Text.breakCount text = maxOffset ∧
      (ofText text).lineCount = 0 := by
  intro text
  have breakCount : Text.breakCount text = maxOffset := Text.breakCount_replicate maxOffset
  have size : Text.byteSize text < 2 ^ 32 := by
    rw [Text.byteSize_replicate]
    decide
  refine ⟨size, breakCount, ?_⟩
  rw [lineCount_of_size size, if_pos breakCount]

end LineIndex

end EncodingLint
