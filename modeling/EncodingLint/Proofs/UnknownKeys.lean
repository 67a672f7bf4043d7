import Mathlib.Data.List.Sort
import Mathlib.Data.String.Basic
import EncodingLint.Proofs.Outcome
import EncodingLint.Settings.Load

/-!
# Keys that mean nothing

A document may have keys that no setting has. `UnknownKey` says which these are and `withoutUnknown` leaves them out.
Reading settings notes their paths, and not only theirs: a date-time in place of a table counts as a table with one
unknown key (`DateTimeKey`). Each reader of a part of the document has a `KeyView`, which says what it notes
about a node and what of the node matters to it; `Follows` is proved reader by reader, and for the whole document it
gives `ofEntries_unknownKeys`.
-/

set_option autoImplicit false

namespace EncodingLint.Settings

open Toml (Node Entries)
open Outcome (bind_eq_ok_iff pure_eq_ok_iff throw_ne_ok)

/-! ## Known and unknown keys -/

def sectionKeys : List String := ["inspection", "logging", "rules"]

def inspectionKeys : List String := ["enabled", "severity", "match_mode", "charset"]

def loggingKeys : List String := ["level", "json"]

def ruleKeys : List String :=
  ["class", "constructor", "name", "parameter_types", "with_parameter_type", "except_parameter_type", "dont_throw",
   "need", "fixes"]

/-- The keys of a document that no setting has, by their paths: at its top, in the tables of the two sections, and in
the tables of the rules. Keys below an unknown key are not meant. -/
inductive UnknownKey (entries : Entries) : KeyPath → Prop where
  | top {key : String} {node : Node} (member : (key, node) ∈ entries) (unknown : key ∉ sectionKeys) :
    UnknownKey entries [.key key]
  | inspection {kind : Toml.TableKind} {table : Entries} {key : String} {node : Node}
    (given : ("inspection", .table kind table) ∈ entries) (member : (key, node) ∈ table)
    (unknown : key ∉ inspectionKeys) : UnknownKey entries [.key "inspection", .key key]
  | logging {kind : Toml.TableKind} {table : Entries} {key : String} {node : Node}
    (given : ("logging", .table kind table) ∈ entries) (member : (key, node) ∈ table)
    (unknown : key ∉ loggingKeys) : UnknownKey entries [.key "logging", .key key]
  | rule {list : Toml.ArrayKind} {rules : List Node} {index : Nat} {kind : Toml.TableKind} {table : Entries}
    {key : String} {node : Node} (given : ("rules", .array list rules) ∈ entries)
    (at_index : rules[index]? = some (.table kind table)) (member : (key, node) ∈ table)
    (unknown : key ∉ ruleKeys) : UnknownKey entries [.key "rules", .index index, .key key]

/-- The places of a document where a date-time stands in place of a table, as if it were a table with one key. -/
inductive DateTimeKey (entries : Entries) : KeyPath → Prop where
  | inspection {text : String} (given : ("inspection", .dateTime text) ∈ entries) :
    DateTimeKey entries [.key "inspection", .key dateTimeKey]
  | logging {text : String} (given : ("logging", .dateTime text) ∈ entries) :
    DateTimeKey entries [.key "logging", .key dateTimeKey]
  | rule {list : Toml.ArrayKind} {rules : List Node} {index : Nat} {text : String}
    (given : ("rules", .array list rules) ∈ entries) (at_index : rules[index]? = some (.dateTime text)) :
    DateTimeKey entries [.key "rules", .index index, .key dateTimeKey]

/-- A node, without the entries under other keys than the given ones if it is a table. -/
def keep (keys : List String) : Node → Node
  | .table kind entries => .table kind (entries.filter fun e => keys.contains e.1)
  | node => node

/-- A node, with all its elements changed if it is an array. -/
def changeElements (change : Node → Node) : Node → Node
  | .array kind elements => .array kind (elements.map change)
  | node => node

/-- What stands under a key at the top of a document, without unknown keys. -/
def keepSection (key : String) (node : Node) : Node :=
  if key = "inspection" then keep inspectionKeys node
  else if key = "logging" then keep loggingKeys node
  else if key = "rules" then changeElements (keep ruleKeys) node
  else node

/-- A document without its unknown keys. -/
def withoutUnknown (entries : Entries) : Entries :=
  (entries.filter fun e => sectionKeys.contains e.1).map fun e => (e.1, keepSection e.1 e.2)

/-! ## Readers and the keys that they note -/

/-- How a reader sees the keys below a node: the paths of those that mean nothing to it, the paths that it takes
date-times for, and the node without the former. -/
structure KeyView where
  unknown : Node → KeyPath → Prop
  dateTime : Node → KeyPath → Prop
  known : Node → Node

/-- Paths that go on from a key or an index. -/
def Below (part : KeyPart) (paths : KeyPath → Prop) (path : KeyPath) : Prop :=
  ∃ inner, paths inner ∧ part :: inner = path

/-- The view of a reader that looks at no keys. -/
def noKeys : KeyView where
  unknown _ _ := False
  dateTime _ _ := False
  known node := node

/-- The view of a reader that knows some keys of a table and looks at no keys below them. -/
def tableKeys (keys : List String) : KeyView where
  unknown node path :=
    ∃ kind entries, node = .table kind entries ∧ ∃ e ∈ entries, e.1 ∉ keys ∧ path = [.key e.1]
  dateTime node path := ∃ text, node = .dateTime text ∧ path = [.key dateTimeKey]
  known := keep keys

/-- The view of a reader of lists. -/
def listKeys (item : KeyView) : KeyView where
  unknown node path :=
    ∃ kind elements, node = .array kind elements ∧
      ∃ i element, elements[i]? = some element ∧ Below (.index i) (item.unknown element) path
  dateTime node path :=
    ∃ kind elements, node = .array kind elements ∧
      ∃ i element, elements[i]? = some element ∧ Below (.index i) (item.dateTime element) path
  known := changeElements item.known

/-- The view of the reader of each section. -/
def sectionView (key : String) : KeyView :=
  if key = "inspection" then tableKeys inspectionKeys
  else if key = "logging" then tableKeys loggingKeys
  else if key = "rules" then listKeys (tableKeys ruleKeys)
  else noKeys

/-- What was read is explained by two sets of paths: both are noted, and if the document is read again without the
first, the same value comes out and only the second is noted. -/
structure Explained {α : Type} (d : Decoded α) (again : Except Mismatch (Decoded α))
    (unknown dateTime : KeyPath → Prop) : Prop where
  noted : ∀ path, path ∈ d.unknown ↔ unknown path ∨ dateTime path
  inert : ∃ left, again = .ok ⟨d.value, left⟩ ∧ ∀ path, path ∈ left ↔ dateTime path

/-- A reader notes what a view says. -/
def Follows {α : Type} (read : Node → Except Mismatch (Decoded α)) (view : KeyView) : Prop :=
  ∀ node d, read node = .ok d → Explained d (read (view.known node)) (view.unknown node) (view.dateTime node)

variable {α β γ σ : Type}

namespace Explained

variable {d : Decoded α} {again : Except Mismatch (Decoded α)} {unknown unknown' dateTime dateTime' : KeyPath → Prop}

theorem congr (explained : Explained d again unknown dateTime) (unknown_iff : ∀ path, unknown' path ↔ unknown path)
    (dateTime_iff : ∀ path, dateTime' path ↔ dateTime path) : Explained d again unknown' dateTime' := by
  obtain rfl : unknown' = unknown := funext fun path => propext (unknown_iff path)
  obtain rfl : dateTime' = dateTime := funext fun path => propext (dateTime_iff path)
  exact explained

/-- A part is read and then the rest; what is noted about the part goes below its key or index. -/
theorem append {head : Decoded β} {tail : Decoded γ} {again_head : Except Mismatch (Decoded β)}
    {again_tail : Except Mismatch (Decoded γ)} {value : α} (part : KeyPart)
    (explained_head : Explained head again_head unknown dateTime)
    (explained_tail : Explained tail again_tail unknown' dateTime')
    (again_eq : ∀ left_head left_tail, again_head = .ok ⟨head.value, left_head⟩ →
      again_tail = .ok ⟨tail.value, left_tail⟩ → again = .ok ⟨value, left_head.map (part :: ·) ++ left_tail⟩) :
    Explained ⟨value, head.unknown.map (part :: ·) ++ tail.unknown⟩ again
      (fun path => Below part unknown path ∨ unknown' path)
      (fun path => Below part dateTime path ∨ dateTime' path) := by
  obtain ⟨noted_head, left_head, again_head, left_head_iff⟩ := explained_head
  obtain ⟨noted_tail, left_tail, again_tail, left_tail_iff⟩ := explained_tail
  refine ⟨fun path => ?_, _, again_eq _ _ again_head again_tail, fun path => ?_⟩
  · simp only [List.mem_append, List.mem_map, noted_head, noted_tail, Below, or_and_right, exists_or]
    exact or_or_or_comm
  · simp only [List.mem_append, List.mem_map, left_head_iff, left_tail_iff, Below]

end Explained

/-! ### Fields -/

theorem Field.follows_leaf (name : String) (read : Node → Except Mismatch α) (put : α → σ → σ) (s : σ) :
    Follows ((Field.leaf name read put).read · s) noKeys := by
  intro node d reads
  obtain ⟨a, -, rfl⟩ : ∃ a, read node = .ok a ∧ ⟨put a s, []⟩ = d := by
    simpa only [Field.leaf, bind_eq_ok_iff, pure_eq_ok_iff] using reads
  exact ⟨by simp [noKeys], [], reads, by simp [noKeys]⟩

theorem Field.follows_nested {read : Node → Except Mismatch (Decoded α)} {view : KeyView}
    (follows : Follows read view) (name : String) (put : α → σ → σ) (s : σ) :
    Follows ((Field.nested name read put).read · s) view := by
  intro node d reads
  obtain ⟨inner, read_node, rfl⟩ : ∃ inner, read node = .ok inner ∧ ⟨put inner.value s, inner.unknown⟩ = d := by
    simpa only [Field.nested, bind_eq_ok_iff, pure_eq_ok_iff] using reads
  obtain ⟨noted, left, again, left_iff⟩ := follows node inner read_node
  refine ⟨noted, left, ?_, left_iff⟩
  simp only [Field.nested, again]
  rfl

/-! ### The entries of a table -/

section Entries

variable {fields : List (Field σ)} {keys : List String} {views : String → KeyView} {entries : Entries} {key : String}
  {node : Node} {path : KeyPath}

/-- The paths of unknown keys that an entry of a table accounts for, by the views of the fields. -/
def EntryUnknown (keys : List String) (views : String → KeyView) (e : String × Node) (path : KeyPath) : Prop :=
  e.1 ∉ keys ∧ path = [.key e.1] ∨ e.1 ∈ keys ∧ Below (.key e.1) ((views e.1).unknown e.2) path

def EntryDateTime (keys : List String) (views : String → KeyView) (e : String × Node) (path : KeyPath) : Prop :=
  e.1 ∈ keys ∧ Below (.key e.1) ((views e.1).dateTime e.2) path

/-- The entries that fields have, without the unknown keys below them. -/
def knownEntries (keys : List String) (views : String → KeyView) (entries : Entries) : Entries :=
  (entries.filter fun e => keys.contains e.1).map fun e => (e.1, (views e.1).known e.2)

theorem knownEntries_cons_of_mem (known : key ∈ keys) :
    knownEntries keys views ((key, node) :: entries) =
      (key, (views key).known node) :: knownEntries keys views entries := by
  simp [knownEntries, known]

theorem knownEntries_cons_of_notMem (unknown : key ∉ keys) :
    knownEntries keys views ((key, node) :: entries) = knownEntries keys views entries := by
  simp [knownEntries, unknown]

theorem explained_readEntries (names : fields.map (·.name) = keys)
    (follows : ∀ f ∈ fields, ∀ s, Follows (f.read · s) (views f.name)) {s : σ} {d : Decoded σ}
    (reads : readEntries fields entries s = .ok d) :
    Explained d (readEntries fields (knownEntries keys views entries) s)
      (fun path => ∃ e ∈ entries, EntryUnknown keys views e path)
      (fun path => ∃ e ∈ entries, EntryDateTime keys views e path) := by
  -- On the entries; the record read so far changes from one to the next.
  induction entries generalizing s d with
  | nil =>
    obtain rfl : ⟨s, []⟩ = d := by simpa only [readEntries, pure_eq_ok_iff] using reads
    exact ⟨by simp, [], rfl, by simp⟩
  | cons e rest ih =>
    obtain ⟨key, node⟩ := e
    cases found : fields.find? fun f => f.name = key with
    | none =>
      have unknown : key ∉ keys := by
        rw [← names]
        simpa [List.find?_eq_none] using found
      obtain ⟨tail, reads_tail, rfl⟩ : ∃ tail, readEntries fields rest s = .ok tail ∧
          ⟨tail.value, [.key key] :: tail.unknown⟩ = d := by
        simpa only [readEntries, found, bind_eq_ok_iff, pure_eq_ok_iff] using reads
      obtain ⟨noted, left, again, left_iff⟩ := ih reads_tail
      rw [knownEntries_cons_of_notMem unknown]
      refine ⟨fun path => ?_, left, again, fun path => ?_⟩
      · simp only [List.mem_cons, noted, exists_eq_or_imp, EntryUnknown, EntryDateTime, unknown, or_assoc,
          not_false_eq_true, true_and, false_and, false_or]
      · simp only [left_iff, List.mem_cons, exists_eq_or_imp, EntryDateTime, unknown, false_and, false_or]
    | some field =>
      obtain rfl : field.name = key := by simpa using List.find?_some found
      have member : field ∈ fields := List.mem_of_find?_eq_some found
      have known : field.name ∈ keys := names ▸ List.mem_map_of_mem member
      obtain ⟨head, reads_head, tail, reads_tail, rfl⟩ : ∃ head, field.read node s = .ok head ∧
          ∃ tail, readEntries fields rest head.value = .ok tail ∧
            ⟨tail.value, head.unknown.map (.key field.name :: ·) ++ tail.unknown⟩ = d := by
        simpa only [readEntries, found, bind_eq_ok_iff, pure_eq_ok_iff] using reads
      rw [knownEntries_cons_of_mem known]
      have explained_head := follows field member s node head reads_head
      refine (explained_head.append (.key field.name) (ih reads_tail) ?_).congr ?_ ?_
      · intro left_head left_tail again_head again_tail
        simp only [readEntries, found, bind_eq_ok_iff, pure_eq_ok_iff]
        exact ⟨_, again_head, _, again_tail, rfl⟩
      · simp [EntryUnknown, known]
      · simp [EntryDateTime, known]

end Entries

/-! ### Records and lists -/

/-- Fields without keys below them note nothing about the elements of an array. -/
theorem unknown_readElements {fields : List (Field σ)} (follows : ∀ f ∈ fields, ∀ s, Follows (f.read · s) noKeys)
    {elements : List Node} {index : Nat} {s : σ} {d : Decoded σ}
    (reads : readElements index fields elements s = .ok d) : d.unknown = [] := by
  induction fields generalizing elements index s d with
  | nil =>
    obtain rfl : ⟨s, []⟩ = d := by simpa only [readElements, pure_eq_ok_iff] using reads
    rfl
  | cons field fields ih =>
    cases elements with
    | nil =>
      obtain rfl : ⟨s, []⟩ = d := by simpa only [readElements, pure_eq_ok_iff] using reads
      rfl
    | cons node rest =>
      obtain ⟨head, reads_head, tail, reads_tail, rfl⟩ : ∃ head, field.read node s = .ok head ∧
          ∃ tail, readElements (index + 1) fields rest head.value = .ok tail ∧
            ⟨tail.value, head.unknown.map (.index index :: ·) ++ tail.unknown⟩ = d := by
        simpa only [readElements, bind_eq_ok_iff, pure_eq_ok_iff] using reads
      have none_head : head.unknown = [] := by
        refine List.eq_nil_iff_forall_not_mem.mpr fun path noted => ?_
        simpa [noKeys] using ((follows field (by simp) s node head reads_head).noted path).mp noted
      have none_tail := ih (fun f member => follows f (by simp [member])) reads_tail
      simp [none_head, none_tail]

theorem follows_readRecord {fields : List (Field σ)} {keys : List String} (names : fields.map (·.name) = keys)
    (follows : ∀ f ∈ fields, ∀ s, Follows (f.read · s) noKeys) (name : String) (defaults : σ) :
    Follows (readRecord name fields defaults) (tableKeys keys) := by
  intro node d reads
  cases node with
  | table kind entries =>
    have kept : (entries.filter fun e => keys.contains e.1) = knownEntries keys (fun _ => noKeys) entries := by
      simp [knownEntries, noKeys]
    change Explained d (readEntries fields (entries.filter fun e => keys.contains e.1) defaults) _ _
    rw [kept]
    refine (explained_readEntries names follows reads).congr ?_ ?_
    · simp [tableKeys, EntryUnknown, noKeys, Below]
    · simp [tableKeys, EntryDateTime, noKeys, Below]
  | array kind elements =>
    have none := unknown_readElements follows reads
    exact ⟨by simp [none, tableKeys], d.unknown, reads, by simp [none, tableKeys]⟩
  | dateTime text =>
    obtain rfl : ⟨defaults, [[.key dateTimeKey]]⟩ = d := by simpa only [readRecord, pure_eq_ok_iff] using reads
    exact ⟨by simp [tableKeys], _, rfl, by simp [tableKeys]⟩
  | string | integer | float | boolean => exact absurd reads throw_ne_ok

theorem explained_readItems {read : Node → Except Mismatch (Decoded α)} {view : KeyView} (follows : Follows read view)
    {nodes : List Node} {index : Nat} {d : Decoded (List α)} (reads : readItems read index nodes = .ok d) :
    Explained d (readItems read index (nodes.map view.known))
      (fun path => ∃ i node, nodes[i]? = some node ∧ Below (.index (index + i)) (view.unknown node) path)
      (fun path => ∃ i node, nodes[i]? = some node ∧ Below (.index (index + i)) (view.dateTime node) path) := by
  induction nodes generalizing index d with
  | nil =>
    obtain rfl : ⟨[], []⟩ = d := by simpa only [readItems, pure_eq_ok_iff] using reads
    exact ⟨by simp, [], rfl, by simp⟩
  | cons node rest ih =>
    obtain ⟨head, reads_head, tail, reads_tail, rfl⟩ : ∃ head, read node = .ok head ∧
        ∃ tail, readItems read (index + 1) rest = .ok tail ∧
          ⟨head.value :: tail.value, head.unknown.map (.index index :: ·) ++ tail.unknown⟩ = d := by
      simpa only [readItems, bind_eq_ok_iff, pure_eq_ok_iff] using reads
    -- The first node has the index of the list, and every other one is one further than in the rest.
    have shift (paths : Node → KeyPath → Prop) (path : KeyPath) :
        (∃ i n, (node :: rest)[i]? = some n ∧ Below (.index (index + i)) (paths n) path) ↔
          Below (.index index) (paths node) path ∨
            ∃ i n, rest[i]? = some n ∧ Below (.index (index + 1 + i)) (paths n) path := by
      rw [← Nat.or_exists_add_one]
      simp [Nat.add_assoc, Nat.add_comm 1]
    refine ((follows node head reads_head).append (.index index) (ih reads_tail) ?_).congr
      (shift view.unknown) (shift view.dateTime)
    intro left_head left_tail again_head again_tail
    simp only [List.map_cons, readItems, bind_eq_ok_iff, pure_eq_ok_iff]
    exact ⟨_, again_head, _, again_tail, rfl⟩

theorem follows_readList {read : Node → Except Mismatch (Decoded α)} {view : KeyView} (follows : Follows read view) :
    Follows (readList read) (listKeys view) := by
  intro node d reads
  cases node with
  | array kind elements =>
    refine (explained_readItems follows reads).congr ?_ ?_
    · simp [listKeys]
    · simp [listKeys]
  | string | integer | float | boolean | dateTime | table => exact absurd reads throw_ne_ok

/-! ### Whole documents -/

section Document

variable {entries : Entries} {path : KeyPath}

theorem follows_settingsFields : ∀ f ∈ settingsFields, ∀ s, Follows (f.read · s) (sectionView f.name) := by
  have inspection : Follows (readRecord "InspectionConfig" inspectionFields {}) (tableKeys inspectionKeys) :=
    follows_readRecord rfl (by simp [inspectionFields, Field.follows_leaf]) _ _
  have logging : Follows (readRecord "LoggingConfig" loggingFields {}) (tableKeys loggingKeys) :=
    follows_readRecord rfl (by simp [loggingFields, Field.follows_leaf]) _ _
  have rule : Follows (readRecord "RuleSpec" ruleFields {}) (tableKeys ruleKeys) :=
    follows_readRecord rfl (by simp [ruleFields, Field.follows_leaf]) _ _
  simp only [settingsFields, List.forall_mem_cons, List.not_mem_nil, false_imp_iff, implies_true, and_true]
  exact ⟨Field.follows_nested inspection _ _, Field.follows_nested logging _ _,
    Field.follows_nested (follows_readList rule) _ _⟩

theorem sectionView_known (key : String) : (sectionView key).known = keepSection key := by
  funext node
  unfold sectionView keepSection
  split_ifs <;> rfl

theorem mem_sectionKeys {key : String} :
    key ∈ sectionKeys ↔ key = "inspection" ∨ key = "logging" ∨ key = "rules" := by
  simp [sectionKeys]

theorem unknownKey_iff : UnknownKey entries path ↔ ∃ e ∈ entries, EntryUnknown sectionKeys sectionView e path := by
  constructor
  · rintro (⟨member, unknown⟩ | ⟨given, member, unknown⟩ | ⟨given, member, unknown⟩ |
      ⟨given, at_index, member, unknown⟩)
    · exact ⟨_, member, .inl ⟨unknown, rfl⟩⟩
    · exact ⟨_, given, .inr ⟨by simp [sectionKeys], _, ⟨_, _, rfl, _, member, unknown, rfl⟩, rfl⟩⟩
    · exact ⟨_, given, .inr ⟨by simp [sectionKeys], _, ⟨_, _, rfl, _, member, unknown, rfl⟩, rfl⟩⟩
    · exact ⟨_, given, .inr ⟨by simp [sectionKeys], _,
        ⟨_, _, rfl, _, _, at_index, _, ⟨_, _, rfl, _, member, unknown, rfl⟩, rfl⟩, rfl⟩⟩
  · rintro ⟨⟨key, node⟩, given, ⟨unknown, rfl⟩ | ⟨known, inner, below, rfl⟩⟩
    · exact .top given unknown
    · obtain rfl | rfl | rfl := mem_sectionKeys.mp known
      · obtain ⟨_, _, rfl, _, member, unknown, rfl⟩ := below
        exact .inspection given member unknown
      · obtain ⟨_, _, rfl, _, member, unknown, rfl⟩ := below
        exact .logging given member unknown
      · obtain ⟨_, _, rfl, _, _, at_index, _, ⟨_, _, rfl, _, member, unknown, rfl⟩, rfl⟩ := below
        exact .rule given at_index member unknown

theorem dateTimeKey_iff : DateTimeKey entries path ↔ ∃ e ∈ entries, EntryDateTime sectionKeys sectionView e path := by
  constructor
  · rintro (given | given | ⟨given, at_index⟩)
    · exact ⟨_, given, by simp [sectionKeys], _, ⟨_, rfl, rfl⟩, rfl⟩
    · exact ⟨_, given, by simp [sectionKeys], _, ⟨_, rfl, rfl⟩, rfl⟩
    · exact ⟨_, given, by simp [sectionKeys], _, ⟨_, _, rfl, _, _, at_index, _, ⟨_, rfl, rfl⟩, rfl⟩, rfl⟩
  · rintro ⟨⟨key, node⟩, given, known, inner, below, rfl⟩
    obtain rfl | rfl | rfl := mem_sectionKeys.mp known
    · obtain ⟨_, rfl, rfl⟩ := below
      exact .inspection given
    · obtain ⟨_, rfl, rfl⟩ := below
      exact .logging given
    · obtain ⟨_, _, rfl, _, _, at_index, _, ⟨_, rfl, rfl⟩, rfl⟩ := below
      exact .rule given at_index

theorem explained_decode {d : Decoded Settings} (reads : decode entries = .ok d) :
    Explained d (decode (withoutUnknown entries)) (UnknownKey entries) (DateTimeKey entries) := by
  have known : withoutUnknown entries = knownEntries sectionKeys sectionView entries := by
    simp only [knownEntries, withoutUnknown, sectionView_known]
  rw [known]
  exact (explained_readEntries rfl follows_settingsFields reads).congr (fun _ => unknownKey_iff)
    (fun _ => dateTimeKey_iff)

theorem mem_of_keep_eq_table {keys : List String} {node : Node} {kind : Toml.TableKind} {table : Entries}
    (kept : keep keys node = .table kind table) {e : String × Node} (member : e ∈ table) : e.1 ∈ keys := by
  cases node with
  | table kind entries =>
    obtain ⟨rfl, rfl⟩ : _ ∧ entries.filter (fun e => keys.contains e.1) = table := by simpa [keep] using kept
    simpa using (List.mem_filter.mp member).2
  | _ => simp [keep] at kept

theorem exists_of_changeElements_eq_array {change : Node → Node} {node : Node} {kind : Toml.ArrayKind}
    {elements : List Node} (changed : changeElements change node = .array kind elements) {element : Node}
    (member : element ∈ elements) : ∃ before, change before = element := by
  cases node with
  | array kind before =>
    obtain ⟨rfl, rfl⟩ : _ ∧ before.map change = elements := by simpa [changeElements] using changed
    obtain ⟨n, -, change_n⟩ := List.mem_map.mp member
    exact ⟨n, change_n⟩
  | _ => simp [changeElements] at changed

theorem exists_of_mem_withoutUnknown {key : String} {node : Node} (member : (key, node) ∈ withoutUnknown entries) :
    key ∈ sectionKeys ∧ ∃ before, keepSection key before = node := by
  obtain ⟨⟨key, before⟩, kept, same⟩ := List.mem_map.mp member
  obtain ⟨rfl, rfl⟩ := Prod.mk.inj same
  exact ⟨by simpa using (List.mem_filter.mp kept).2, before, rfl⟩

theorem not_unknownKey_withoutUnknown : ¬ UnknownKey (withoutUnknown entries) path := by
  rintro (⟨member, unknown⟩ | ⟨given, member, unknown⟩ | ⟨given, member, unknown⟩ |
      ⟨given, at_index, member, unknown⟩)
  · exact unknown (exists_of_mem_withoutUnknown member).1
  · obtain ⟨-, before, kept⟩ := exists_of_mem_withoutUnknown given
    exact unknown (mem_of_keep_eq_table kept member)
  · obtain ⟨-, before, kept⟩ := exists_of_mem_withoutUnknown given
    exact unknown (mem_of_keep_eq_table kept member)
  · obtain ⟨-, before, changed⟩ := exists_of_mem_withoutUnknown given
    obtain ⟨rule, kept⟩ := exists_of_changeElements_eq_array changed (List.mem_of_getElem? at_index)
    exact unknown (mem_of_keep_eq_table kept member)

end Document

/-! ## Keys in messages -/

section Rendered

variable [BEq α]

theorem eraseReps_loop (a : α) (as acc : List α) :
    List.eraseRepsBy.loop (· == ·) a as acc = acc.reverse ++ (a :: as).eraseReps := by
  have from_nil (a : α) (as : List α) : (a :: as).eraseReps = List.eraseRepsBy.loop (· == ·) a as [] := rfl
  induction as generalizing a acc with
  | nil => simp [from_nil, List.eraseRepsBy.loop]
  | cons b as ih =>
    rw [from_nil, List.eraseRepsBy.loop, List.eraseRepsBy.loop]
    cases a == b with
    | true => rw [ih, ih a []]; rfl
    | false => rw [ih b (a :: acc), ih b [a]]; simp

theorem eraseReps_cons_cons (a b : α) (as : List α) :
    (a :: b :: as).eraseReps = if a == b then (a :: as).eraseReps else a :: (b :: as).eraseReps := by
  change List.eraseRepsBy.loop (· == ·) a (b :: as) [] = _
  rw [List.eraseRepsBy.loop]
  cases a == b with
  | true => rfl
  | false => exact eraseReps_loop b as [a]

theorem mem_eraseReps [LawfulBEq α] {a : α} {as : List α} : a ∈ as.eraseReps ↔ a ∈ as := by
  cases as with
  | nil => rfl
  | cons b as =>
    induction as generalizing b with
    | nil => rfl
    | cons c as ih =>
      rw [eraseReps_cons_cons]
      split_ifs with same
      · rw [ih, eq_of_beq same]
        simp
      · simp only [List.mem_cons, ih]

theorem pairwise_eraseReps [LawfulBEq α] [LinearOrder α] {as : List α} (sorted : as.Pairwise (· ≤ ·)) :
    as.eraseReps.Pairwise (· < ·) := by
  cases as with
  | nil => exact .nil
  | cons a as =>
    induction as generalizing a with
    | nil => exact List.pairwise_singleton _ _
    | cons b as ih =>
      obtain ⟨least, sorted'⟩ := List.pairwise_cons.mp sorted
      rw [eraseReps_cons_cons]
      split_ifs with same
      · exact ih a (sorted.sublist (by simp))
      · refine List.pairwise_cons.mpr ⟨fun c later => ?_, ih b sorted'⟩
        have a_lt_b : a < b := lt_of_le_of_ne (least b (by simp)) (by simpa using same)
        obtain rfl | later := List.mem_cons.mp (mem_eraseReps.mp later)
        · exact a_lt_b
        · exact a_lt_b.trans_le ((List.pairwise_cons.mp sorted').1 c later)

end Rendered

theorem mem_renderKeys {paths : List KeyPath} {text : String} :
    text ∈ renderKeys paths ↔ ∃ path ∈ paths, path.render = text := by
  simp [renderKeys, mem_eraseReps]

theorem pairwise_renderKeys (paths : List KeyPath) : (renderKeys paths).Pairwise (· < ·) := by
  refine pairwise_eraseReps ?_
  exact List.pairwise_mergeSort' (· ≤ ·) (paths.map KeyPath.render)

theorem ofEntries_eq_ok_iff {entries : Entries} {loaded : LoadedSettings} :
    ofEntries entries = .ok loaded ↔ ∃ unknown, decode entries = .ok ⟨loaded.settings, unknown⟩ ∧
      loaded.diagnostics = ⟨renderKeys unknown, loaded.settings.warnings⟩ := by
  obtain ⟨settings, diagnostics⟩ := loaded
  unfold ofEntries
  constructor
  · intro loads
    split at loads
    next settings unknown decoded =>
      obtain ⟨rfl, rfl⟩ := LoadedSettings.mk.inj (pure_eq_ok_iff.mp loads)
      exact ⟨unknown, decoded, rfl⟩
    next => exact absurd loads throw_ne_ok
  · rintro ⟨unknown, decoded, same⟩
    obtain rfl : diagnostics = ⟨renderKeys unknown, settings.warnings⟩ := same
    rw [decoded]
    rfl

/-- **Unknown keys are reported, and mean nothing.** Settings are loaded with the unknown keys of the document in
order and without repetition, and with one more key for each date-time in place of a table. The document without its
unknown keys has none any more and gives the same settings and warnings; only the keys of date-times are left, which
are not in the document. -/
theorem ofEntries_unknownKeys (entries : Entries) (loaded : LoadedSettings) (loads : ofEntries entries = .ok loaded) :
    loaded.diagnostics.unknownKeys.Pairwise (· < ·) ∧
    (∀ text, text ∈ loaded.diagnostics.unknownKeys ↔
      ∃ path, (UnknownKey entries path ∨ DateTimeKey entries path) ∧ path.render = text) ∧
    (∀ path, ¬ UnknownKey (withoutUnknown entries) path) ∧
    ∃ left, ofEntries (withoutUnknown entries) = .ok ⟨loaded.settings, ⟨left, loaded.diagnostics.warnings⟩⟩ ∧
      left.Pairwise (· < ·) ∧ ∀ text, text ∈ left ↔ ∃ path, DateTimeKey entries path ∧ path.render = text := by
  obtain ⟨unknown, decoded, diagnostics⟩ := ofEntries_eq_ok_iff.mp loads
  obtain ⟨noted, left, again, left_iff⟩ := explained_decode decoded
  rw [diagnostics]
  refine ⟨pairwise_renderKeys unknown, fun text => ?_, fun _ => not_unknownKey_withoutUnknown, renderKeys left, ?_,
    pairwise_renderKeys left, fun text => ?_⟩
  · rw [mem_renderKeys]
    simp only [noted]
  · exact ofEntries_eq_ok_iff.mpr ⟨left, again, rfl⟩
  · rw [mem_renderKeys]
    simp only [left_iff]

/-- A document with an unknown key at its top, one in a section and one in its second rule. -/
def misspelt : Entries :=
  [("inspection", .table .header [("charset", .string "UTF-8"), ("colour", .boolean true)]),
   ("rules", .array .inline [.table .inline [], .table .inline [("clas", .string "A")]]),
   ("loging", .table .header [("level", .string "debug")])]

theorem ofEntries_unknownKeys_misspelt :
    ∃ loaded, ofEntries misspelt = .ok loaded ∧ "rules[1].clas" ∈ loaded.diagnostics.unknownKeys ∧
      ∃ left, ofEntries (withoutUnknown misspelt) = .ok ⟨loaded.settings, ⟨left, loaded.diagnostics.warnings⟩⟩ := by
  refine ⟨_, rfl, ?_⟩
  obtain ⟨-, reported, -, left, loads, -⟩ := ofEntries_unknownKeys misspelt _ rfl
  refine ⟨(reported _).mpr ⟨[.key "rules", .index 1, .key "clas"], .inl ?_, by decide⟩, left, loads⟩
  exact .rule (.tail _ (.head _)) rfl (.head _) (by decide)

/-- A time in place of a table is reported as a key, in a document that has no unknown key. -/
theorem time_reported_as_key :
    ofText "logging = 07:32:00".toList = .ok ⟨{}, ⟨["logging.$__toml_private_datetime"], []⟩⟩ ∧
      Toml.parse? "logging = 07:32:00".toList = some [("logging", .dateTime "07:32:00")] ∧
      ∀ path, ¬ UnknownKey [("logging", .dateTime "07:32:00")] path := by
  have parsed : Toml.parse? "logging = 07:32:00".toList = some [("logging", .dateTime "07:32:00")] := by
    decide +kernel
  refine ⟨?_, parsed, ?_⟩
  · rw [ofText, parsed]
    decide +kernel
  · rintro path (⟨member, unknown⟩ | ⟨given, -, -⟩ | ⟨given, -, -⟩ | ⟨given, -, -, -⟩)
    · simp_all [sectionKeys]
    · simp at given
    · simp at given
    · simp at given

end EncodingLint.Settings
