import Mathlib.Data.Set.Card
import EncodingLint.Proofs.UnknownKeys

/-!
# Keys in messages

Messages are meant to show a path with its keys behind dots and its indexes in brackets (`KeyPath.written`). They show
it after it was joined by dots and cut at them again, and so a stretch of a key can be taken for an index, and dots at
its front get lost. `KeyPath.isLegible` says which paths are shown as they are meant to be (`render_eq_written_iff`).
Legible paths can still be shown alike, since a key at the top can spell out the path of another one
(`ofEntries_renderedKeys`).
-/

set_option autoImplicit false

namespace EncodingLint

namespace KeyPath

variable {text a b first : Text} {name : String} {path : KeyPath} {stretches : List Text}

/-- A step behind others as it is meant to be shown. -/
def partBehind : KeyPart → Text
  | .key name => '.' :: name.toList
  | .index number => '[' :: (Nat.toDigits 10 number ++ [']'])

/-- A path as it is meant to be shown: keys behind dots, indexes in brackets. -/
def written : KeyPath → String
  | .key name :: path => String.ofList (name.toList ++ path.flatMap partBehind)
  | path => String.ofList (path.flatMap partBehind)

/-- The stretches between the dots of a step, if it is a key. -/
def keyStretches : KeyPart → List Text
  | .key name => splitDots name.toList
  | .index _ => []

/-- Whether a path is shown as it is meant to be: it has no dot at its front, and no stretch of a key behind a dot looks
like an index. -/
def isLegible : KeyPath → Bool
  | .key name :: path =>
    name.toList.head? ≠ some '.' &&
      ((splitDots name.toList).tail ++ path.flatMap keyStretches).all fun s => !looksLikeIndex s
  | _ => false

/-! ## Stretches between dots -/

/-- A stretch behind a dot as it is shown. -/
def shown (part : Text) : Text :=
  if looksLikeIndex part then '[' :: (part ++ [']']) else '.' :: part

theorem foldl_appendPart (stretches : List Text) (first : Text) :
    stretches.foldl appendPart first = first ++ stretches.flatMap shown := by
  induction stretches generalizing first with
  | nil => simp
  | cons s stretches ih =>
    have step : appendPart first s = first ++ shown s := by
      unfold appendPart shown
      split <;> rfl
    rw [List.foldl_cons, step, ih, List.flatMap_cons, List.append_assoc]

theorem splitDots_cons {c : Char} {cs : Text} (plain : c ≠ '.') (split : splitDots cs = first :: stretches) :
    splitDots (c :: cs) = (c :: first) :: stretches := by
  rw [splitDots, split]
  exact plain

theorem exists_splitDots (text : Text) : ∃ first stretches, splitDots text = first :: stretches := by
  apply List.exists_cons_of_ne_nil
  fun_cases splitDots text <;> simp

theorem splitDots_append (a b : Text) : splitDots (a ++ '.' :: b) = splitDots a ++ splitDots b := by
  induction a with
  | nil => rfl
  | cons c cs ih =>
    by_cases dot : c = '.'
    · subst dot
      change [] :: splitDots (cs ++ '.' :: b) = [] :: (splitDots cs ++ splitDots b)
      rw [ih]
    · obtain ⟨first, stretches, split⟩ := exists_splitDots cs
      rw [split, List.cons_append] at ih
      rw [List.cons_append, splitDots_cons dot ih, splitDots_cons dot split, List.cons_append]

theorem splitDots_of_notMem (inside : '.' ∉ text) : splitDots text = [text] := by
  induction text with
  | nil => rfl
  | cons c cs ih =>
    rw [List.mem_cons, not_or] at inside
    exact splitDots_cons (Ne.symm inside.1) (ih inside.2)

/-- The stretches of a text, put behind dots again. -/
theorem flatMap_splitDots (text : Text) : (splitDots text).flatMap ('.' :: ·) = '.' :: text := by
  induction text with
  | nil => rfl
  | cons c cs ih =>
    by_cases dot : c = '.'
    · subst dot
      change '.' :: (splitDots cs).flatMap ('.' :: ·) = _
      rw [ih]
    · obtain ⟨first, stretches, split⟩ := exists_splitDots cs
      rw [split, List.flatMap_cons, List.cons_append, List.cons.injEq] at ih
      rw [splitDots_cons dot split, List.flatMap_cons, List.cons_append, List.cons_append, ih.2]

theorem eq_append_of_splitDots (split : splitDots text = first :: stretches) :
    text = first ++ stretches.flatMap ('.' :: ·) := by
  have joined := flatMap_splitDots text
  rw [split, List.flatMap_cons, List.cons_append, List.cons.injEq] at joined
  exact joined.2.symm

/-! ## Steps joined by dots -/

theorem dotted_cons (part : KeyPart) (path : KeyPath) :
    dotted (part :: path) = partText part ++ path.flatMap fun p => '.' :: partText p := by
  induction path generalizing part with
  | nil => simp [dotted]
  | cons next path ih =>
    have joined : dotted (part :: next :: path) = partText part ++ '.' :: dotted (next :: path) := by
      simp [dotted, List.intercalate]
    rw [joined, ih, List.flatMap_cons, List.cons_append]

theorem splitDots_append_flatMap (text : Text) (path : KeyPath) :
    splitDots (text ++ path.flatMap fun p => '.' :: partText p) =
      splitDots text ++ path.flatMap fun p => splitDots (partText p) := by
  induction path generalizing text with
  | nil => simp
  | cons part path ih =>
    rw [List.flatMap_cons, ← List.append_assoc, ih, splitDots_append, List.flatMap_cons, List.append_assoc]

theorem dot_notMem_toDigits (number : Nat) : '.' ∉ Nat.toDigits 10 number := by
  intro member
  have digit := Nat.isDigit_of_mem_toDigits (by decide) (by decide) member
  cases digit

theorem looksLikeIndex_toDigits (number : Nat) : looksLikeIndex (Nat.toDigits 10 number) = true := by
  have digits : ∀ c ∈ Nat.toDigits 10 number, ('0' ≤ c && c ≤ '9') = true := by
    intro c member
    have digit := Nat.isDigit_of_mem_toDigits (by decide) (by decide) member
    simpa [Char.isDigit, Char.le_def] using digit
  simpa [looksLikeIndex, Nat.toDigits_ne_nil] using digits

/-- An index is shown as it is meant to be. -/
theorem flatMap_shown_index (number : Nat) :
    (splitDots (partText (.index number))).flatMap shown = partBehind (.index number) := by
  rw [partText, splitDots_of_notMem (dot_notMem_toDigits number), List.flatMap_singleton, shown,
    if_pos (looksLikeIndex_toDigits number), partBehind]

/-! ## Paths as they are shown -/

theorem render_eq (split : splitDots ((dotted path).dropWhile (· = '.')) = first :: stretches) :
    path.render = String.ofList (first ++ stretches.flatMap shown) := by
  unfold render
  rw [split, ← foldl_appendPart]

/-- No path is shown with a dot at its front. -/
theorem head?_render (path : KeyPath) : path.render.toList.head? ≠ some '.' := by
  cases chars : (dotted path).dropWhile (· = '.') with
  | nil =>
    rw [render_eq (by rw [chars, splitDots])]
    simp
  | cons c cs =>
    have plain : c ≠ '.' := by
      have stops := List.head?_dropWhile_not (fun x : Char => decide (x = '.')) (dotted path)
      rw [chars] at stops
      simpa using stops
    obtain ⟨first, stretches, split⟩ := exists_splitDots cs
    rw [render_eq (by rw [chars, splitDots_cons plain split])]
    simpa using plain

/-- A path without a dot at its front, as it is shown: the first stretch, and behind it all others. -/
theorem toList_render (noDot : name.toList.head? ≠ some '.') (filled : name = "" → path = [])
    (split : splitDots name.toList = first :: stretches) :
    (render (.key name :: path)).toList =
      first ++ (stretches.flatMap shown ++ path.flatMap fun p => (splitDots (partText p)).flatMap shown) := by
  have joined := dotted_cons (.key name) path
  have front : (dotted (.key name :: path)).dropWhile (· = '.') = dotted (.key name :: path) := by
    rw [joined]
    cases chars : name.toList with
    | nil => simp [filled (String.toList_eq_nil_iff.1 chars), partText, chars]
    | cons c cs =>
      have plain : c ≠ '.' := by simpa [chars] using noDot
      simp [partText, chars, plain]
  have cut : splitDots (dotted (.key name :: path)) =
      first :: (stretches ++ path.flatMap fun p => splitDots (partText p)) := by
    rw [joined, splitDots_append_flatMap, partText, split, List.cons_append]
  rw [render_eq (by rw [front, cut]), String.toList_ofList, List.flatMap_append, List.flatMap_assoc]

theorem toList_written (split : splitDots name.toList = first :: stretches) :
    (written (.key name :: path)).toList =
      first ++ (stretches.flatMap ('.' :: ·) ++ path.flatMap partBehind) := by
  rw [written, String.toList_ofList, eq_append_of_splitDots split, List.append_assoc]

/-- Every stretch that looks like an index makes what is shown longer than what is meant. -/
theorem length_flatMap_shown (stretches : List Text) :
    (stretches.flatMap shown).length =
      (stretches.flatMap ('.' :: ·)).length + stretches.countP looksLikeIndex := by
  induction stretches with
  | nil => rfl
  | cons s stretches ih =>
    rw [List.flatMap_cons, List.flatMap_cons, List.length_append, List.length_append, ih, List.countP_cons, shown]
    split
    · simp only [List.length_cons, List.length_append, List.length_nil]
      omega
    · simp only [List.length_cons]
      omega

theorem length_flatMap_parts (path : KeyPath) :
    (path.flatMap fun p => (splitDots (partText p)).flatMap shown).length =
      (path.flatMap partBehind).length + (path.flatMap keyStretches).countP looksLikeIndex := by
  induction path with
  | nil => rfl
  | cons part path ih =>
    simp only [List.flatMap_cons, List.length_append, List.countP_append, ih]
    cases part with
    | key name =>
      rw [partText, length_flatMap_shown, flatMap_splitDots, partBehind, keyStretches]
      omega
    | index number =>
      rw [flatMap_shown_index, keyStretches, List.countP_nil]
      omega

theorem flatMap_shown_eq (plain : ∀ s ∈ stretches, looksLikeIndex s = false) :
    stretches.flatMap shown = stretches.flatMap ('.' :: ·) := by
  apply List.flatMap_congr
  intro s member
  rw [shown, if_neg (by simp [plain s member])]

theorem flatMap_parts_eq (plain : ∀ s ∈ path.flatMap keyStretches, looksLikeIndex s = false) :
    (path.flatMap fun p => (splitDots (partText p)).flatMap shown) = path.flatMap partBehind := by
  apply List.flatMap_congr
  intro part member
  cases part with
  | key name =>
    rw [partText, flatMap_shown_eq, flatMap_splitDots, partBehind]
    intro s stretch
    exact plain s (List.mem_flatMap.2 ⟨_, member, stretch⟩)
  | index number => exact flatMap_shown_index number

/-- The legible paths are those that are shown as they are meant to be. -/
theorem render_eq_written_iff (filled : name = "" → path = []) :
    render (.key name :: path) = written (.key name :: path) ↔ isLegible (.key name :: path) = true := by
  obtain ⟨first, stretches, split⟩ := exists_splitDots name.toList
  have legible : isLegible (.key name :: path) = true ↔ name.toList.head? ≠ some '.' ∧
      ∀ s ∈ stretches ++ path.flatMap keyStretches, looksLikeIndex s = false := by
    simp only [isLegible, split, List.tail_cons, Bool.and_eq_true, decide_eq_true_eq, List.all_eq_true,
      Bool.not_eq_true']
  rw [legible]
  constructor
  · intro same
    have noDot : name.toList.head? ≠ some '.' := by
      intro dot
      obtain ⟨cs, chars⟩ := List.head?_eq_some_iff.1 dot
      apply head?_render (.key name :: path)
      rw [same, written, String.toList_ofList, chars]
      rfl
    refine ⟨noDot, ?_⟩
    -- Brackets take one character more than a dot, so the lengths tell whether there are any.
    have lengths := congrArg (fun s : String => s.toList.length) same
    simp only [toList_render noDot filled split, toList_written split, List.length_append, length_flatMap_shown,
      length_flatMap_parts] at lengths
    have none : (stretches ++ path.flatMap keyStretches).countP looksLikeIndex = 0 := by
      rw [List.countP_append]
      omega
    intro s member
    simpa using List.countP_eq_zero.1 none s member
  · rintro ⟨noDot, plain⟩
    rw [List.forall_mem_append] at plain
    rw [← String.toList_inj, toList_render noDot filled split, toList_written split, flatMap_shown_eq plain.1,
      flatMap_parts_eq plain.2]

end KeyPath

namespace Settings

open Toml (Node Entries)

variable {entries : Entries} {path p q : KeyPath}

/-! ## Keys of a document -/

/-- The paths that are noted when a document is read. -/
def Noted (entries : Entries) (path : KeyPath) : Prop :=
  UnknownKey entries path ∨ DateTimeKey entries path

/-- The paths of keys inside the sections of a document. -/
inductive IsInner : KeyPath → Prop where
  | inspection (key : String) : IsInner [.key "inspection", .key key]
  | logging (key : String) : IsInner [.key "logging", .key key]
  | rule (index : Nat) (key : String) : IsInner [.key "rules", .index index, .key key]

theorem Noted.top_or_inner (noted : Noted entries path) : (∃ key, path = [.key key]) ∨ IsInner path := by
  rcases noted with (⟨-, -⟩ | ⟨-, -, -⟩ | ⟨-, -, -⟩ | ⟨-, -, -, -⟩) | (- | - | ⟨-, -⟩)
  · exact .inl ⟨_, rfl⟩
  · exact .inr (.inspection _)
  · exact .inr (.logging _)
  · exact .inr (.rule _ _)
  · exact .inr (.inspection _)
  · exact .inr (.logging _)
  · exact .inr (.rule _ _)

theorem toDigits_append_inj {i j : Nat} {a b : Text}
    (same : Nat.toDigits 10 i ++ ']' :: a = Nat.toDigits 10 j ++ ']' :: b) : i = j ∧ a = b := by
  have digits (n : Nat) : ∀ c ∈ Nat.toDigits 10 n, decide (c ≠ ']') = true := by
    intro c member
    have digit := Nat.isDigit_of_mem_toDigits (by decide) (by decide) member
    rw [decide_eq_true_eq]
    rintro rfl
    cases digit
  have upTo := congrArg (List.takeWhile fun c => decide (c ≠ ']')) same
  rw [List.takeWhile_append_of_pos (digits i), List.takeWhile_append_of_pos (digits j)] at upTo
  have numbers : Nat.toDigits 10 i = Nat.toDigits 10 j := by simpa using upTo
  rw [numbers, List.append_cancel_left_eq, List.cons.injEq] at same
  refine ⟨?_, same.2⟩
  calc i = Nat.ofDigitChars 10 (Nat.toDigits 10 i) 0 := Nat.ofDigitChars_ten_toDigits.symm
    _ = Nat.ofDigitChars 10 (Nat.toDigits 10 j) 0 := by rw [numbers]
    _ = j := Nat.ofDigitChars_ten_toDigits

theorem key_eq_of_written {header key key' : String}
    (same : KeyPath.written [.key header, .key key] = KeyPath.written [.key header, .key key']) : key = key' := by
  have chars := congrArg String.toList same
  simpa [KeyPath.written, KeyPath.partBehind, String.toList_inj] using chars

/-- Inside the sections different paths are meant to be shown differently. -/
theorem IsInner.eq_of_written (inner : IsInner p) (inner' : IsInner q) (same : p.written = q.written) : p = q := by
  have chars := congrArg String.toList same
  cases inner with
  | inspection key =>
    cases inner' with
    | inspection key' => rw [key_eq_of_written same]
    | logging => simp [KeyPath.written] at chars
    | rule => simp [KeyPath.written] at chars
  | logging key =>
    cases inner' with
    | logging key' => rw [key_eq_of_written same]
    | inspection => simp [KeyPath.written] at chars
    | rule => simp [KeyPath.written] at chars
  | rule index key =>
    cases inner' with
    | rule index' key' =>
      have behind : Nat.toDigits 10 index ++ ']' :: '.' :: key.toList =
          Nat.toDigits 10 index' ++ ']' :: '.' :: key'.toList := by
        simpa [KeyPath.written, KeyPath.partBehind] using chars
      obtain ⟨rfl, rest⟩ := toDigits_append_inj behind
      rw [String.toList_inj.1 (List.cons.inj rest).2]
    | inspection => simp [KeyPath.written] at chars
    | logging => simp [KeyPath.written] at chars

theorem written_top (key : String) : KeyPath.written [.key key] = key := by
  simp [KeyPath.written]

/-- A noted path does not begin with an empty key, unless this is all of it. -/
theorem Noted.render_eq_written_iff (noted : Noted entries path) :
    path.render = path.written ↔ path.isLegible = true := by
  obtain ⟨key, rfl⟩ | inner := noted.top_or_inner
  · exact KeyPath.render_eq_written_iff fun _ => rfl
  · cases inner with
    | inspection | logging | rule => exact KeyPath.render_eq_written_iff fun empty => absurd empty (by decide)

/-- Two noted paths are meant to be shown alike only if one of them is a key that spells out the other. -/
theorem Noted.written_eq_iff (noted : Noted entries p) (noted' : Noted entries q) :
    p.written = q.written ↔ p = q ∨ p = [.key q.written] ∨ q = [.key p.written] := by
  constructor
  · intro same
    obtain ⟨key, rfl⟩ | inner := noted.top_or_inner
    · rw [written_top] at same
      exact .inr (.inl (by rw [same]))
    · obtain ⟨key, rfl⟩ | inner' := noted'.top_or_inner
      · rw [written_top] at same
        exact .inr (.inr (by rw [same]))
      · exact .inl (inner.eq_of_written inner' same)
  · rintro (rfl | spelt | spelt)
    · rfl
    · rw [spelt, written_top]
    · rw [spelt, written_top]

/-- As many texts are left as there are paths, if no two paths have the same text. -/
theorem length_renderKeys_eq_iff {paths : List KeyPath} :
    (renderKeys paths).length = paths.toFinset.card ↔ Set.InjOn KeyPath.render {path | path ∈ paths} := by
  have texts : (renderKeys paths).toFinset = paths.toFinset.image KeyPath.render := by
    ext text
    simp [mem_renderKeys]
  have distinct : (renderKeys paths).Nodup := (pairwise_renderKeys paths).nodup
  rw [← List.toFinset_card_of_nodup distinct, texts, Finset.card_image_iff, List.coe_toFinset]

theorem length_unknownKeys_eq_iff {loaded : LoadedSettings} (loads : ofEntries entries = .ok loaded) :
    loaded.diagnostics.unknownKeys.length = {path | Noted entries path}.ncard ↔
      Set.InjOn KeyPath.render {path | Noted entries path} := by
  obtain ⟨unknown, decoded, diagnostics⟩ := ofEntries_eq_ok_iff.1 loads
  have listed : {path | Noted entries path} = {path | path ∈ unknown} := by
    ext path
    exact ((explained_decode decoded).noted path).symm
  have count : {path | path ∈ unknown}.ncard = unknown.toFinset.card := by
    rw [← List.coe_toFinset, Set.ncard_coe_finset]
  rw [diagnostics, listed, count, length_renderKeys_eq_iff]

/-- **What becomes of keys in messages.** A key that means nothing is shown as it is meant to be if and only if its path
is legible. Two legible paths are shown alike if and only if one of them is a key at the top that spells out the other.
So if all paths are legible, as many keys are reported as were noted if and only if none spells out another one. -/
theorem ofEntries_renderedKeys (entries : Entries) (loaded : LoadedSettings) (loads : ofEntries entries = .ok loaded) :
    (∀ path, Noted entries path → (path.render = path.written ↔ path.isLegible = true)) ∧
    (∀ p q, Noted entries p → Noted entries q → p.isLegible = true → q.isLegible = true →
      (p.render = q.render ↔ p = q ∨ p = [.key q.written] ∨ q = [.key p.written])) ∧
    ((∀ path, Noted entries path → path.isLegible = true) →
      (loaded.diagnostics.unknownKeys.length = {path | Noted entries path}.ncard ↔
        ∀ path, Noted entries path → Noted entries [.key path.written] → path = [.key path.written])) := by
  have alike (p q : KeyPath) (noted : Noted entries p) (noted' : Noted entries q) (legible : p.isLegible = true)
      (legible' : q.isLegible = true) : p.render = q.render ↔ p = q ∨ p = [.key q.written] ∨ q = [.key p.written] := by
    rw [noted.render_eq_written_iff.2 legible, noted'.render_eq_written_iff.2 legible', noted.written_eq_iff noted']
  refine ⟨fun path noted => noted.render_eq_written_iff, alike, fun legible => ?_⟩
  rw [length_unknownKeys_eq_iff loads]
  constructor
  · intro apart path noted spelt
    exact apart noted spelt ((alike _ _ noted spelt (legible _ noted) (legible _ spelt)).2 (.inr (.inr rfl)))
  · intro unspelt p noted q noted' same
    obtain rfl | rfl | rfl := (alike p q noted noted' (legible p noted) (legible q noted')).1 same
    · rfl
    · exact (unspelt q noted' noted).symm
    · exact unspelt p noted noted'

/-- A document with a key at its top that spells out the path of another one, and with a dot in a key of a rule. -/
def spelt : Entries :=
  [("inspection.a", .boolean true), ("inspection", .table .header [("a", .boolean true)]),
   ("rules", .array .inline [.table .inline [("b.c", .boolean true)]])]

theorem ofEntries_renderedKeys_spelt :
    ∃ loaded, ofEntries spelt = .ok loaded ∧
      KeyPath.render [.key "rules", .index 0, .key "b.c"] = "rules[0].b.c" ∧
      KeyPath.render [.key "inspection.a"] = KeyPath.render [.key "inspection", .key "a"] ∧
      loaded.diagnostics.unknownKeys.length ≠ {path | Noted spelt path}.ncard := by
  refine ⟨_, rfl, ?_⟩
  obtain ⟨shown, alike, count⟩ := ofEntries_renderedKeys spelt _ rfl
  have listed (path : KeyPath) : Noted spelt path ↔ path ∈ [[.key "inspection.a"], [.key "inspection", .key "a"],
      [.key "rules", .index 0, .key "b.c"]] := by
    have reads : decode spelt = .ok ⟨_, _⟩ := rfl
    exact ((explained_decode reads).noted path).symm
  have legible (path : KeyPath) (noted : Noted spelt path) : path.isLegible = true := by
    rw [listed] at noted
    revert path
    decide
  have top : Noted spelt [.key "inspection.a"] := (listed _).2 (by decide)
  have inner : Noted spelt [.key "inspection", .key "a"] := (listed _).2 (by decide)
  have rule : Noted spelt [.key "rules", .index 0, .key "b.c"] := (listed _).2 (by decide)
  have spells : KeyPath.written [.key "inspection", .key "a"] = "inspection.a" := by decide
  refine ⟨((shown _ rule).2 (legible _ rule)).trans (by decide), ?_, fun kept => ?_⟩
  · exact (alike _ _ top inner (legible _ top) (legible _ inner)).2 (.inr (.inl (by rw [spells])))
  · have same := (count legible).1 kept _ inner (by rw [spells]; exact top)
    exact absurd same (by decide)

/-- Two keys that differ in a dot at the front, and a key of digits in a section. -/
def dotAndDigits : Text := "a = 1\n\".a\" = 2\n[inspection]\n7 = 3".toList

/-- Of two keys that differ in a dot at the front only one is reported, and a key of digits is shown as an index. -/
theorem keys_shown_alike :
    ∃ entries loaded, Toml.parse? dotAndDigits = some entries ∧ ofText dotAndDigits = .ok loaded ∧
      UnknownKey entries [.key "a"] ∧ UnknownKey entries [.key ".a"] ∧
      UnknownKey entries [.key "inspection", .key "7"] ∧
      loaded.diagnostics.unknownKeys = ["a", "inspection[7]"] := by
  have parsed : Toml.parse? dotAndDigits = some [("a", .integer 1), (".a", .integer 2),
      ("inspection", .table .header [("7", .integer 3)])] := by
    decide +kernel
  let paths : List KeyPath := [[.key "a"], [.key ".a"], [.key "inspection", .key "7"]]
  have rendered : paths.map KeyPath.render = ["a", "a", "inspection[7]"] := by decide
  have sorted : ["a", "a", "inspection[7]"].mergeSort (fun a b => decide (a ≤ b)) = ["a", "a", "inspection[7]"] :=
    List.mergeSort_of_pairwise (by decide)
  have loads : ofText dotAndDigits = .ok ⟨{}, ⟨["a", "inspection[7]"], []⟩⟩ := by
    rw [ofText, parsed]
    refine ofEntries_eq_ok_iff.2 ⟨paths, rfl, ?_⟩
    rw [renderKeys, rendered, sorted]
    decide
  refine ⟨_, _, parsed, loads, ?_, ?_, ?_, rfl⟩
  · exact .top (.head _) (by decide)
  · exact .top (.tail _ (.head _)) (by decide)
  · exact .inspection (.tail _ (.tail _ (.head _))) (.head _) (by decide)

end Settings

end EncodingLint
