import EncodingLint.Text.Basic

/-!
# Paths of keys

A key path leads from the top of a document to one of its values, through the keys of tables and the
indexes of arrays. In messages its parts are joined by dots; a part that then looks like an index is
written in brackets.
-/

set_option autoImplicit false

namespace EncodingLint

/-- One step into a document. -/
inductive KeyPart where
  | key (name : String)
  | index (number : Nat)
deriving DecidableEq, Repr

/-- The steps from the top of a document to a value. -/
abbrev KeyPath := List KeyPart

namespace KeyPath

/-- A step as it stands between dots. -/
def partText : KeyPart → Text
  | .key name => name.toList
  | .index number => Nat.toDigits 10 number

/-- The parts of a path joined by dots. -/
def dotted (path : KeyPath) : Text :=
  ['.'].intercalate (path.map partText)

/-- The stretches between the dots of a text. -/
def splitDots : Text → List Text
  | [] => [[]]
  | '.' :: cs => [] :: splitDots cs
  | c :: cs =>
    match splitDots cs with
    | [] => [[c]]
    | first :: rest => (c :: first) :: rest

/-- Whether a stretch between dots reads as an index. -/
def looksLikeIndex (part : Text) : Bool :=
  !part.isEmpty && part.all fun c => '0' ≤ c && c ≤ '9'

/-- Appends a stretch after the first to what is written so far. -/
def appendPart (written part : Text) : Text :=
  if looksLikeIndex part then written ++ '[' :: (part ++ [']']) else written ++ '.' :: part

/-- A path in messages, as in `rules[0].name`. Dots at the front of the first key are left out. -/
def render (path : KeyPath) : String :=
  match splitDots ((dotted path).dropWhile (· = '.')) with
  | [] => ""
  | first :: rest => String.ofList (rest.foldl appendPart first)

end KeyPath

end EncodingLint
