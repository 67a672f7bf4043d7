import EncodingLint.Settings.Load

/-!
# Settings files of a workspace

A workspace is a list of places with the file or folder at each. A path is followed step by step, and
every step must start in a folder. The settings of a folder come from the first of the settings files
that it holds, or are the default ones if it holds none.
-/

set_option autoImplicit false

namespace EncodingLint

/-- One step along a path. -/
inductive PathStep where
  | stay
  | up
  | into (name : String)
deriving DecidableEq, Repr

/-- Steps from the top of a workspace. -/
abbrev FilePath := List PathStep

/-- The place of a file or folder: its name after the names of the folders around it, outermost first. -/
abbrev Place := List String

/-- What stands at a place. -/
inductive FileEntry where
  | file (content : ByteArray)
  | folder

/-- The files and folders of a workspace; its top is a folder besides these. -/
structure Workspace where
  entries : List (Place × FileEntry) := []

/-- Settings, and the name of the file that they come from if there is one. -/
structure WorkspaceSettings where
  file : Option String
  loaded : LoadedSettings

namespace FilePath

/-- The parts of a text between slashes. -/
def parts : Text → List Text
  | [] => [[]]
  | c :: cs =>
    match parts cs with
    | [] => [[c]]
    | first :: rest => if c = '/' then [] :: first :: rest else (c :: first) :: rest

/-- The step that a part of a path spells. -/
def step (part : Text) : PathStep :=
  if part = [] ∨ part = ['.'] then .stay
  else if part = ['.', '.'] then .up
  else .into (String.ofList part)

/-- The path that a text spells. A slash at the front leads out of the workspace. -/
def ofString (s : String) : FilePath :=
  match s.toList with
  | '/' :: rest => .up :: (parts rest).map step
  | text => (parts text).map step

end FilePath

namespace Workspace

/-- What stands at a place. -/
def entry? (w : Workspace) (place : Place) : Option FileEntry :=
  if place = [] then some .folder else w.entries.lookup place

def isFolder (w : Workspace) (place : Place) : Bool :=
  match w.entry? place with
  | some .folder => true
  | _ => false

/-- Where a step from a place leads. Nothing is known of what is above the top. -/
def move? (w : Workspace) (place : Place) (step : PathStep) : Option Place :=
  if w.isFolder place then
    match step with
    | .stay => some place
    | .up => if place = [] then none else some place.dropLast
    | .into name => some (place ++ [name])
  else
    none

/-- Where a path leads; there need not be anything at its end. -/
def locate? (w : Workspace) (path : FilePath) : Option Place :=
  path.foldlM w.move? []

/-- What stands at the end of a path. -/
def find? (w : Workspace) (path : FilePath) : Option FileEntry :=
  (w.locate? path).bind w.entry?

/-- Puts a file or folder at a place. -/
def put (w : Workspace) (place : Place) (entry : FileEntry) : Workspace :=
  ⟨(place, entry) :: w.entries.filter fun e => e.1 ≠ place⟩

/-- Makes a folder at a place where nothing stands. -/
def fill (w : Workspace) (place : Place) : Workspace :=
  if (w.entry? place).isSome then w else w.put place .folder

/-- Makes the folders along a path, and gives the place of the last one. -/
def openFolders? (w : Workspace) (path : FilePath) : Option (Workspace × Place) :=
  path.foldlM (fun (w, place) step => (w.move? place step).map fun next => (w.fill next, next))
    (w, [])

/-- Makes a folder, with those around it. Where a file is in the way, nothing changes. -/
def makeFolder (w : Workspace) (path : FilePath) : Workspace :=
  ((w.openFolders? path).map Prod.fst).getD w

/-- Writes a file, with the folders around it. Where something is in the way, nothing changes. -/
def writeFile (w : Workspace) (path : FilePath) (content : ByteArray) : Workspace :=
  match w.openFolders? path.dropLast, path.getLast? with
  | some (opened, folder), some (.into name) =>
    let place := folder ++ [name]
    if opened.isFolder folder && !opened.isFolder place then opened.put place (.file content) else w
  | _, _ => w

/-- Removes what stands at the end of a path, and all below it. -/
def remove (w : Workspace) (path : FilePath) : Workspace :=
  match w.locate? path with
  | some place => ⟨w.entries.filter fun e => !place.isPrefixOf e.1⟩
  | none => w

def isFile (w : Workspace) (path : FilePath) : Bool :=
  match w.find? path with
  | some (.file _) => true
  | _ => false

/-- The text of the file at the end of a path. -/
def readText? (w : Workspace) (path : FilePath) : Option Text :=
  match w.find? path with
  | some (.file content) => (String.fromUTF8? content).map String.toList
  | _ => none

/-- The settings of the file at the end of a path. -/
def load (w : Workspace) (path : FilePath) : Except LoadError LoadedSettings :=
  match w.readText? path with
  | some text => Settings.ofText text
  | none => throw .unreadable

/-- The settings of a folder. -/
def discover (w : Workspace) (folder : FilePath) : Except LoadError WorkspaceSettings :=
  match settingsFileNames.find? fun name => w.isFile (folder ++ [.into name]) with
  | some name => do return ⟨some name, ← w.load (folder ++ [.into name])⟩
  | none => return ⟨none, ⟨{}, ⟨[], []⟩⟩⟩

end Workspace

end EncodingLint
