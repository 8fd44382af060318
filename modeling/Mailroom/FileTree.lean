import Mailroom.Files

/-!
# A disk that is held in memory

A tree of files and folders answers the questions that a disk answers.  A path is followed step by
step: a dot stays, two dots go back, and any other step has to find its name in a folder.  So a path
that goes through a file, or that ends with a slash behind one, leads nowhere.  Names and paths must
not be too long.

This is the working directory that a run of the program finds.

- `FileTree`: the entries, and the folder that relative paths start from.
- `FileTree.walk`: following a path.
- `FileTree.disk`: the answers.
-/

namespace Mailroom

/-- What is at a place. -/
inductive Entry where
  | folder
  | file (bytes : List UInt8)
  deriving DecidableEq, Repr

/-- The names that lead to something from the root. -/
abbrev Place := List String

/-- Files and folders at their places. -/
structure FileTree where
  /-- The folder that relative paths start from. -/
  home : Place
  entries : List (Place × Entry)
  deriving DecidableEq, Repr

namespace FileTree

/-- How many bytes a name may have. -/
def nameLimit : Nat := 255

/-- How many bytes a path may have. -/
def pathLimit : Nat := 4095

/-- What is at a place.  Whatever leads to an entry or home is a folder. -/
def entry? (t : FileTree) (place : Place) : Option Entry :=
  match t.entries.lookup place with
  | some entry => some entry
  | none =>
    if (t.home :: t.entries.map (·.1)).any place.isPrefixOf then some .folder else none

/-- The steps of a path; a slash at its end is a step that stays. -/
def steps (path : String) : List String :=
  let names := (path.splitOn "/").filter (· ≠ "")
  if path.endsWith "/" then names ++ ["."] else names

/-- Where a path starts. -/
def start (t : FileTree) (path : String) : Place :=
  if path.startsWith "/" then [] else t.home

/-- Where a step leads, if all is there. -/
def advance (place : Place) (step : String) : Place :=
  if step = "." then place
  else if step = ".." then place.dropLast
  else place ++ [step]

/-- The place that a path leads to, if all on the way is there. -/
def target (t : FileTree) (path : String) : Place :=
  (steps path).foldl advance (t.start path)

/-- Follows steps from a place. -/
def walkFrom (t : FileTree) (place : Place) : List String → Except FileError Entry
  | [] =>
    match t.entry? place with
    | some entry => .ok entry
    | none => .error .missing
  | step :: rest =>
    match t.entry? place with
    | none => .error .missing
    | some (.file _) => .error .notADirectory
    | some .folder =>
      if nameLimit < step.utf8ByteSize then .error .nameTooLong
      else t.walkFrom (advance place step) rest

/-- Follows a path to what is at its end. -/
def walk (t : FileTree) (path : String) : Except FileError Entry :=
  if path.isEmpty then .error .missing
  else if pathLimit < path.utf8ByteSize then .error .nameTooLong
  else t.walkFrom (t.start path) (steps path)

/-- The file at a path. -/
def read (t : FileTree) (path : String) : FileBytes :=
  match t.walk path with
  | .ok (.file bytes) => .ok bytes
  | .ok .folder => .error .isADirectory
  | .error e => .error e

/-- Whether anything is at a path.  A path that leads nowhere is no error, but one that is too long
is. -/
def has (t : FileTree) (path : String) : Except FileError Bool :=
  match t.walk path with
  | .ok _ => .ok true
  | .error .missing | .error .notADirectory => .ok false
  | .error e => .error e

/-- What is in the way of a folder. -/
def folderTrouble (t : FileTree) (path : String) : Option FileError :=
  match t.walk path with
  | .ok .folder => none
  | .ok (.file _) => some .occupied
  | .error .missing => none
  | .error e => some e

/-- What is in the way of a file in a folder.  A file that is there already makes room. -/
def fileTrouble (t : FileTree) (folder name : String) : Option FileError :=
  if nameLimit < name.utf8ByteSize then some .nameTooLong
  else
    match t.walk (folder ++ "/" ++ name) with
    | .ok .folder => some .isADirectory
    | .ok (.file _) => none
    | .error .missing => none
    | .error e => some e

/-- The tree as a disk. -/
def disk (t : FileTree) : Disk :=
  { read := t.read, has := t.has, folderTrouble := t.folderTrouble, fileTrouble := t.fileTrouble }

/-- The path from home to a file that is written to a path, unless it was there before or lies
elsewhere. -/
def newFile? (t : FileTree) (path : String) : Option String :=
  let place := t.target path
  if t.home.isPrefixOf place && (t.entry? place).isNone then
    some ("/".intercalate (place.drop t.home.length))
  else none

end FileTree

end Mailroom
