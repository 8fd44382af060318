import Mailroom.Text.Newline
import Mailroom.Text.Quoted
import Mailroom.Text.Utf8

/-!
# Files as they are found

Files are reached through a disk, which answers questions and leaves nothing to guess: what is in a
file, whether something is there, and what is in the way of a file or a folder that is to be made.

The program asks these questions where it opens an inbox, a program text or a map, where it writes a
map, and where it looks for its folder for data.

- `FileError`: why a file cannot be opened or made.
- `Disk`: the questions, and `Disk.openFile`, which asks for a file.
- `readText`: the text of a file, with its line ends made alike.
-/

namespace Mailroom

open Text

/-- Why a file cannot be opened or made. -/
inductive FileError where
  | missing
  /-- Something else is there already. -/
  | occupied
  | notADirectory
  | isADirectory
  | nameTooLong
  | denied
  /-- The path holds a null character, and so it leads to no file. -/
  | nullCharacter
  deriving DecidableEq, Repr

/-- What the system says about an error: its number and its words. -/
def FileError.system? : FileError → Option (String × String)
  | .missing => some ("2", "No such file or directory")
  | .denied => some ("13", "Permission denied")
  | .occupied => some ("17", "File exists")
  | .notADirectory => some ("20", "Not a directory")
  | .isADirectory => some ("21", "Is a directory")
  | .nameTooLong => some ("36", "File name too long")
  | .nullCharacter => none

/-- The wording of an error about the file at a path.  A path with a null character does not get as
far as the system. -/
def FileError.message (e : FileError) (path : String) : String :=
  match e.system? with
  | some (code, reason) => "[Errno " ++ code ++ "] " ++ reason ++ ": " ++ quoted path
  | none => "embedded null byte"

/-- The bytes of a file, or why it cannot be opened. -/
abbrev FileBytes := Except FileError (List UInt8)

/-- The questions that a disk answers. -/
structure Disk where
  /-- The file at a path. -/
  read : String → FileBytes
  /-- Whether anything is at a path. -/
  has : String → Except FileError Bool
  /-- What is in the way of a folder that is to be at a path, along with those that lead there. -/
  folderTrouble : String → Option FileError
  /-- What is in the way of a file with a name that is to be in a folder, once that is there. -/
  fileTrouble : String → String → Option FileError

/-- Opens the file at a path. -/
def Disk.openFile (disk : Disk) (path : String) : FileBytes :=
  if path.toList.contains '\x00' then .error .nullCharacter else disk.read path

/-- The text of a file, in which every line end is a line feed. -/
def readText (bytes : List UInt8) : Except Utf8.Error (List Char) :=
  (Utf8.decode bytes).map unifyNewlines

end Mailroom
