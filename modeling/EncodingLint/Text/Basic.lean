/-!
# Texts and their measures

A text is a list of characters. Offsets into it count the bytes of its UTF-8 form and columns count
the code units of its UTF-16 form; `byteSize` and `unitSize` are the two measures. Cutting at an
offset is total: `takeBytes` and `dropBytes` meet at every offset that `isBoundary` accepts.
-/

set_option autoImplicit false

namespace EncodingLint

/-- A text, character by character. -/
abbrev Text := List Char

namespace Text

/-- The number of bytes of a text. -/
def byteSize : Text → Nat
  | [] => 0
  | c :: cs => c.utf8Size + byteSize cs

/-- The number of UTF-16 code units of a character: two outside the basic plane. -/
def charUnits (c : Char) : Nat :=
  if c.toNat < 0x10000 then 1 else 2

/-- The number of UTF-16 code units of a text. -/
def unitSize : Text → Nat
  | [] => 0
  | c :: cs => charUnits c + unitSize cs

/-- Whether `offset` lies between two characters of the text, or at one of its ends. -/
def isBoundary : Text → Nat → Bool
  | _, 0 => true
  | [], _ + 1 => false
  | c :: cs, n + 1 => decide (c.utf8Size ≤ n + 1) && isBoundary cs (n + 1 - c.utf8Size)

/-- The longest beginning of the text that fits into `limit` bytes. -/
def takeBytes : Nat → Text → Text
  | _, [] => []
  | limit, c :: cs =>
    if c.utf8Size ≤ limit then c :: takeBytes (limit - c.utf8Size) cs else []

/-- What is left of the text after the characters that start in its first `count` bytes. -/
def dropBytes : Nat → Text → Text
  | 0, cs => cs
  | _ + 1, [] => []
  | n + 1, c :: cs => dropBytes (n + 1 - c.utf8Size) cs

/-- The stretch between two offsets, if both are boundaries of the text in this order. -/
def slice? (text : Text) (start stop : Nat) : Option Text :=
  if start ≤ stop ∧ isBoundary text start ∧ isBoundary text stop then
    some (takeBytes (stop - start) (dropBytes start text))
  else
    none

/-- The text with the stretch between two offsets replaced. -/
def splice (text : Text) (start stop : Nat) (replacement : Text) : Text :=
  takeBytes start text ++ replacement ++ dropBytes stop text

@[simp] theorem byteSize_nil : byteSize [] = 0 := rfl

@[simp] theorem byteSize_cons (c : Char) (cs : Text) :
    byteSize (c :: cs) = c.utf8Size + byteSize cs := rfl

@[simp] theorem byteSize_append (s t : Text) : byteSize (s ++ t) = byteSize s + byteSize t := by
  induction s with
  | nil => simp
  | cons c cs ih => simp [ih]; omega

theorem byteSize_replicate (n : Nat) (c : Char) : byteSize (List.replicate n c) = n * c.utf8Size := by
  induction n with
  | zero => rw [Nat.zero_mul]; rfl
  | succ n ih => rw [List.replicate_succ, byteSize_cons, ih, Nat.succ_mul, Nat.add_comm]

@[simp] theorem unitSize_nil : unitSize [] = 0 := rfl

@[simp] theorem unitSize_cons (c : Char) (cs : Text) :
    unitSize (c :: cs) = charUnits c + unitSize cs := rfl

@[simp] theorem unitSize_append (s t : Text) : unitSize (s ++ t) = unitSize s + unitSize t := by
  induction s with
  | nil => simp
  | cons c cs ih => simp [ih]; omega

/-- Whether a number lies in one of some closed ranges. -/
def inRanges (ranges : List (Nat × Nat)) (n : Nat) : Bool :=
  ranges.any fun r => r.1 ≤ n && n ≤ r.2

end Text

end EncodingLint
