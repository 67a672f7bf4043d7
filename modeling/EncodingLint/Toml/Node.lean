import EncodingLint.Decimal.Binary64

/-!
# TOML documents

A document is a tree of nodes. The entries of a table stand in the order in which the document brings
them up, and every table and array remembers how it was written, since that decides what may still be
added to it.
-/

set_option autoImplicit false

namespace EncodingLint.Toml

/-- How a table came into being. -/
inductive TableKind where
  /-- Written as a value between braces. -/
  | inline
  /-- Opened by a header of its own. -/
  | header
  /-- Implied by the header of a table inside it. -/
  | implied
  /-- Implied by a dotted key. -/
  | dotted
deriving DecidableEq, Repr

/-- How an array came into being. -/
inductive ArrayKind where
  /-- Written as a value between brackets. -/
  | inline
  /-- Made of the tables opened by headers in double brackets. -/
  | tables
deriving DecidableEq, Repr

/-- A value, table or array of a document. -/
inductive Node where
  | string (value : String)
  | integer (value : Int)
  | float (value : Binary64)
  | boolean (value : Bool)
  | dateTime (text : String)
  | array (kind : ArrayKind) (elements : List Node)
  | table (kind : TableKind) (entries : List (String × Node))

/-- The entries of a table. -/
abbrev Entries := List (String × Node)

namespace Node

/-! Equality of nodes is decided along the tree, since it cannot be derived for a type nested in lists. -/

mutual

def beq : Node → Node → Bool
  | string a, string b => a == b
  | integer a, integer b => a == b
  | float a, float b => a == b
  | boolean a, boolean b => a == b
  | dateTime a, dateTime b => a == b
  | array kind elements, array kind' elements' => kind == kind' && beqElements elements elements'
  | table kind entries, table kind' entries' => kind == kind' && beqEntries entries entries'
  | _, _ => false

def beqElements : List Node → List Node → Bool
  | [], [] => true
  | a :: as, b :: bs => beq a b && beqElements as bs
  | _, _ => false

def beqEntries : Entries → Entries → Bool
  | [], [] => true
  | (key, a) :: as, (key', b) :: bs => key == key' && beq a b && beqEntries as bs
  | _, _ => false

end

mutual

theorem beq_iff : (a b : Node) → (beq a b = true ↔ a = b)
  | string _, b => by cases b <;> simp [beq]
  | integer _, b => by cases b <;> simp [beq]
  | float _, b => by cases b <;> simp [beq]
  | boolean _, b => by cases b <;> simp [beq]
  | dateTime _, b => by cases b <;> simp [beq]
  | array _ elements, b => by cases b <;> simp [beq, beqElements_iff elements]
  | table _ entries, b => by cases b <;> simp [beq, beqEntries_iff entries]

theorem beqElements_iff : (as bs : List Node) → (beqElements as bs = true ↔ as = bs)
  | [], bs => by cases bs <;> simp [beqElements]
  | a :: as, bs => by cases bs <;> simp [beqElements, beq_iff a, beqElements_iff as]

theorem beqEntries_iff : (as bs : Entries) → (beqEntries as bs = true ↔ as = bs)
  | [], bs => by cases bs <;> simp [beqEntries]
  | (key, a) :: as, bs => by
    rcases bs with _ | ⟨⟨key', b⟩, bs⟩ <;> simp [beqEntries, beq_iff a, beqEntries_iff as]

end

instance : DecidableEq Node := fun a b =>
  decidable_of_iff _ (beq_iff a b)

end Node

end EncodingLint.Toml
