import EncodingLint.Toml.Node

/-!
# Building tables

A document says what stands where by keys and headers. `insert?` follows a dotted key, `openTable?` and
`openElement?` follow a header; each refuses what would give a key twice or extend a finished table.
-/

set_option autoImplicit false

namespace EncodingLint.Toml.Entries

/-- Puts a node in the place of the one under a key, or at the end if there is none. -/
def put (key : String) (node : Node) : Entries → Entries
  | [] => [(key, node)]
  | (k, n) :: rest => if k = key then (key, node) :: rest else (k, n) :: put key node rest

/-- The entries without the one under a key. -/
def erase (key : String) (entries : Entries) : Entries :=
  entries.filter fun e => e.1 ≠ key

/-- Changes the last table of an array of tables. -/
def changeLast? (change : TableKind → Entries → Option Entries) : List Node → Option (List Node)
  | [] => none
  | [.table kind entries] => do return [.table kind (← change kind entries)]
  | [_] => none
  | node :: rest => do return node :: (← changeLast? change rest)

/-- Changes the table that a path leads to. Tables on the way that are missing are made, of the kind
`missing`; those that `closed` holds of are not entered; an array of tables stands for its last table. -/
def change? (missing : TableKind) (closed : TableKind → Bool)
    (change : TableKind → Entries → Option Entries) :
    List String → TableKind → Entries → Option Entries
  | [], kind, entries => change kind entries
  | key :: path, _, entries =>
    let inner := change? missing closed change path
    match entries.lookup key with
    | none => do return put key (.table missing (← inner missing [])) entries
    | some (.table kind within) =>
      if closed kind then none
      else do return put key (.table kind (← inner kind within)) entries
    | some (.array .tables elements) => do
      return put key (.array .tables (← changeLast? inner elements)) entries
    | some _ => none

/-- Changes the table under a path of a header. Only values written between braces are closed. -/
def changeUnder? (path : List String) (change : Entries → Option Entries) (entries : Entries) :
    Option Entries :=
  change? .implied (· = .inline) (fun _ => change) path .header entries

/-- Adds the value of a dotted key. The tables on the way must not have been opened by a header or
written as values, and the last of them has to come from dotted keys only. -/
def insert? (path : List String) (key : String) (value : Node) (entries : Entries) :
    Option Entries :=
  let add (kind : TableKind) (entries : Entries) : Option Entries :=
    if !path.isEmpty && kind ≠ .dotted then none
    else if (entries.lookup key).isSome then none
    else some (entries ++ [(key, value)])
  change? .dotted (fun kind => kind = .inline || kind = .header) add path .header entries

/-- Opens the table of a header. A table that was only implied so far is moved to the end. -/
def openTable? (path : List String) (key : String) : Entries → Option Entries :=
  changeUnder? path fun entries =>
    match entries.lookup key with
    | none => some (entries ++ [(key, .table .header [])])
    | some (.table .implied within) => some (erase key entries ++ [(key, .table .header within)])
    | some _ => none

/-- Opens one more table of an array of tables. -/
def openElement? (path : List String) (key : String) : Entries → Option Entries :=
  changeUnder? path fun entries =>
    let fresh := Node.table .header []
    match entries.lookup key with
    | none => some (entries ++ [(key, .array .tables [fresh])])
    | some (.array .tables elements) => some (put key (.array .tables (elements ++ [fresh])) entries)
    | some _ => none

end EncodingLint.Toml.Entries
