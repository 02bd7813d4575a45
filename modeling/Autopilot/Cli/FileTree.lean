import Autopilot.Cli.Path

/-!
# Folders and files

A `FileTree` is what a session finds on disk and what it leaves there.  Paths are followed from the
top, one part at a time: a part is looked up in a folder, two points lead to the folder around it,
and one point or no text at all stays in it.

`FileTree.read` and `FileTree.write` read and write a file.  `FileTree.makeFolders` makes a folder,
and the folders around it that are missing.  `FileError` says why a path cannot be used.
-/

namespace Autopilot.Cli

/-- The reasons why a path cannot be used. -/
inductive FileError where
  | missing
  /-- There is something already where a folder is to be made. -/
  | occupied
  /-- A path leads through a file. -/
  | notFolder
  /-- A folder is used as a file. -/
  | isFolder
  /-- A path or one of its parts is longer than a path can be. -/
  | tooLong
  /-- A path contains the character that ends a path. -/
  | nullCharacter
  | other (text : String)
deriving DecidableEq, Repr

/-- The text of an error. -/
def FileError.message : FileError → String
  | .missing => "No such file or directory (os error 2)"
  | .occupied => "File exists (os error 17)"
  | .notFolder => "Not a directory (os error 20)"
  | .isFolder => "Is a directory (os error 21)"
  | .tooLong => "File name too long (os error 36)"
  | .nullCharacter => "file name contained an unexpected NUL byte"
  | .other text => text

/-- A place in a tree: the names that lead to it from the top. -/
abbrev Place : Type :=
  List String

/-- What is at a place. -/
inductive Entry where
  | folder
  | file (text : String)
deriving DecidableEq, Repr

/-- What is on disk, below a folder at the top. -/
structure FileTree where
  entries : List (Place × Entry) := []
deriving DecidableEq, Repr

/-- The most bytes of a path. -/
def mostPathBytes : Nat :=
  4095

/-- The most bytes of a part of a path. -/
def mostPartBytes : Nat :=
  255

namespace FileTree

/-- What is at a place. -/
def entry? (t : FileTree) (place : Place) : Option Entry :=
  if place.isEmpty then some .folder else t.entries.lookup place

/-- The tree with something else at a place. -/
def put (t : FileTree) (place : Place) (entry : Entry) : FileTree where
  entries := (place, entry) :: t.entries.filter fun other => other.1 != place

/-- The parts of a path, if it can be followed at all. -/
def parts (path : String) : Except FileError (List String) :=
  if path.contains '\x00' then .error .nullCharacter
  else if mostPathBytes < path.utf8ByteSize then .error .tooLong
  else .ok (Path.parts path)

/-- The place that a part of a path leads to from a folder. -/
def step (t : FileTree) (place : Place) (part : String) : Except FileError Place :=
  match t.entry? place with
  | none => .error .missing
  | some (.file _) => .error .notFolder
  | some .folder =>
    if Path.stays part then .ok place
    else if part = ".." then .ok place.dropLast
    else if mostPartBytes < part.utf8ByteSize then .error .tooLong
    else .ok (place ++ [part])

/-- The place that the parts of a path lead to, where there need not be anything yet. -/
def follow (t : FileTree) (parts : List String) : Except FileError Place :=
  parts.foldlM t.step []

/-! ### Files -/

/-- Reads a file. -/
def read (t : FileTree) (path : String) : Except FileError String := do
  match t.entry? (← t.follow (← parts path)) with
  | some (.file text) => .ok text
  | some .folder => .error .isFolder
  | none => .error .missing

/-- Writes a file. -/
def write (t : FileTree) (path text : String) : Except FileError FileTree := do
  let place ← t.follow (← parts path)
  match t.entry? place with
  | some .folder => .error .isFolder
  | _ => .ok (t.put place (.file text))

/-! ### Folders -/

/-- Whether the parts of a path lead to a folder. -/
def isFolder (t : FileTree) (parts : List String) : Bool :=
  match t.follow parts with
  | .ok place => t.entry? place == some .folder
  | .error _ => false

/-- Makes a folder in one that is there.  A path may end in slashes. -/
def makeFolder (t : FileTree) (parts : List String) : Except FileError FileTree := do
  let place ← t.follow (Path.trimEnd (· == "") parts)
  match t.entry? place with
  | some _ => .error .occupied
  | none => .ok (t.put place .folder)

/-- Makes a folder unless it is there. -/
def ensureFolder (t : FileTree) (parts : List String) : Except FileError FileTree :=
  match t.makeFolder parts with
  | .error .occupied => if t.isFolder parts then .ok t else .error .occupied
  | result => result

/-- Makes the first of some folders, the others of which are the folders around it.  As long as the
folder around one is missing it is made before. -/
def ensureFolders (t : FileTree) : List (List String) → Except FileError FileTree
  | [] => .ok t
  | parts :: outer =>
    match t.ensureFolder parts with
    | .error .missing => do (← t.ensureFolders outer).ensureFolder parts
    | result => result

/-- Makes a folder and all folders around it, as far as they are missing. -/
def makeFolders (t : FileTree) (path : String) : Except FileError FileTree := do
  let parts ← parts path
  t.ensureFolders (parts :: Path.around parts)

/-- The files below a folder, with their paths from the top. -/
def filesBelow (t : FileTree) (folder : Place) : List (String × String) :=
  t.entries.filterMap fun
    | (place, .file text) =>
      if folder.isPrefixOf place && place != folder then some ("/".intercalate place, text)
      else none
    | (_, .folder) => none

end FileTree

end Autopilot.Cli
