import EncodingLint.Text.Basic

/-!
# Readers

A reader takes a value off the front of a text and leaves the rest, or refuses the text. Loops end
because every round takes at least one character off.
-/

set_option autoImplicit false

namespace EncodingLint.Toml

/-- A reader of values of type `α`. -/
abbrev Reader (α : Type) := StateT Text Option α

namespace Reader

variable {α : Type}

/-- The next character, which stays where it is. -/
def peek : Reader (Option Char) :=
  return (← get).head?

/-- Takes the next character. -/
def next : Reader Char := do
  match ← get with
  | [] => failure
  | c :: cs => set cs; return c

/-- Takes the next character if it has the property. -/
def nextWhich (p : Char → Bool) : Reader Char := do
  let c ← next
  if p c then return c else failure

/-- Takes the given character if it comes next, and tells whether it did. -/
def accept (c : Char) : Reader Bool := do
  match ← get with
  | d :: cs => if c = d then set cs; return true else return false
  | [] => return false

/-- Takes the given character, which has to come next. -/
def expect (c : Char) : Reader Unit := do
  if ← accept c then return () else failure

/-- Takes the given characters, which have to come next. -/
def expectAll (cs : Text) : Reader Unit :=
  cs.forM expect

/-- Takes the characters that come next and have the property. -/
def takeWhile (p : Char → Bool) : Reader Text := do
  let s ← get
  set (s.dropWhile p)
  return s.takeWhile p

/-- Takes at least one character with the property. -/
def takeWhile1 (p : Char → Bool) : Reader Text := do
  let cs ← takeWhile p
  if cs.isEmpty then failure else return cs

/-- Takes the next `count` characters, which have to have the property. -/
def takeExactly (count : Nat) (p : Char → Bool) : Reader Text :=
  (List.replicate count ()).mapM fun _ => nextWhich p

/-- Nothing may be left. -/
def atEnd : Reader Unit := do
  match ← get with
  | [] => return ()
  | _ => failure

/-- At most `rounds` rounds of a step, up to the first that gives nothing. -/
def rounds (step : Reader (Option α)) : Nat → Reader (List α)
  | 0 => failure
  | n + 1 => do
    match ← step with
    | none => return []
    | some a => return a :: (← rounds step n)

/-- The values of a step that is repeated until it gives none. A step that gives a value has to take a
character. -/
def loop (step : Reader (Option α)) : Reader (List α) := do
  rounds step ((← get).length + 1)

end Reader

end EncodingLint.Toml
