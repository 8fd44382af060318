import Mailroom.Assoc
import Mailroom.Text.Blank
import Mailroom.Text.Case
import Mailroom.Text.Search
import Mailroom.Text.Word

/-!
# Which light belongs to which key

A keyboard names its lights in its own way.  The keys that are used for display have labels, and
each label goes by some names.  A label belongs to a light if the light has one of these names;
where no light has, it is enough that the name of a light contains a longer one of them.  A label
that would belong to more than one light belongs to none.

This follows the program's `RGBLabelController` and `_norm`, with the table of names that it goes
by.

- `LabelMap.normalise`: a name without what keyboards put around it.
- `LabelMap.aliases`: the labels and their names.
- `LabelMap.nameTable`: the lights of a keyboard under their names.
- `LabelMap.named`, `LabelMap.looselyNamed`: the lights that a label may belong to.
- `LabelMap.ofRows`: the lights of the labels.
-/

namespace Mailroom

open Text

/-- A light: its index and the name that the keyboard gives it. -/
structure LedRow where
  index : Int
  name : String
  deriving DecidableEq, Repr

/-- The lights of labels. -/
abbrev LabelMap := Assoc String Int

namespace LabelMap

/-- A name in small letters, without the words that keyboards put around it and without superfluous
blanks. -/
def normalise (name : List Char) : List Char :=
  let name := lower (trim name)
  let name := replaceAll "key:".toList [] name
  let name := replaceAll "key ".toList [] name
  let name := replaceAll "keyboard".toList [] name
  let name := replaceAll "kbd".toList [] name
  [' '].intercalate (words name)

/-- The labels of the keys that are used for display, each with the names that it goes by. -/
def aliases : List (String × List String) :=
  [("grave", ["`", "grave", "backtick", "tilde"]),
    ("1", ["1"]), ("2", ["2"]), ("3", ["3"]), ("4", ["4"]), ("5", ["5"]),
    ("6", ["6"]), ("7", ["7"]), ("8", ["8"]), ("9", ["9"]), ("0", ["0"]),
    ("minus", ["-"]),
    ("backspace", ["backspace"]),
    ("up", ["up arrow", "up"]), ("down", ["down arrow", "down"]),
    ("left", ["left arrow", "left"]), ("right", ["right arrow", "right"])]

/-! ## Lights under their names -/

/-- The lights under each name, the names in order of first entry. -/
abbrev NameTable := Assoc (List Char) (List Int)

/-- One more light entered behind those that have its name already. -/
def enter (table : NameTable) (row : LedRow) : NameTable :=
  let name := normalise row.name.toList
  table.put name ((table.get? name).getD [] ++ [row.index])

/-- The lights of a keyboard, entered one after the other. -/
def nameTable (rows : List LedRow) : NameTable :=
  rows.foldl enter []

/-- The lights that have a name, behind those that were found before. -/
def gather (table : NameTable) (found : List Int) (name : String) : List Int :=
  match table.get? (normalise name.toList) with
  | some indices => found ++ indices
  | none => found

/-- The lights that have one of the names, gathered name by name. -/
def named (table : NameTable) (names : List String) : List Int :=
  names.foldl (gather table) []

/-- The lights whose names contain a name that is longer than a character, from one end of the table
to the other, behind those that were found before. -/
def gatherLoosely (table : NameTable) (found : List Int) (name : String) : List Int :=
  let part := normalise name.toList
  if part.length < 2 then found
  else
    table.foldl (fun found entry => if hasInfix part entry.1 then found ++ entry.2 else found) found

/-- The lights whose names contain one of the names, gathered name by name. -/
def looselyNamed (table : NameTable) (names : List String) : List Int :=
  names.foldl (gatherLoosely table) []

/-! ## The light of a label -/

/-- An ascending list with one more integer, unless that is in it already. -/
def insertNew (i : Int) : List Int → List Int
  | [] => [i]
  | j :: rest =>
    if i < j then i :: j :: rest
    else if i = j then j :: rest
    else j :: insertNew i rest

/-- The integers of a list in ascending order, each of them once. -/
def distinct (l : List Int) : List Int :=
  l.foldr insertNew []

/-- The only integer of a list, if there is one. -/
def only? : List Int → Option Int
  | [i] => some i
  | _ => none

/-- The light that goes by one of the names: those that have one of them come before those whose
names only contain one, and there must be just one in the end. -/
def lightFor? (table : NameTable) (names : List String) : Option Int :=
  let found := named table names
  only? (distinct (if found.isEmpty then looselyNamed table names else found))

/-- A label with its names is put under the light that goes by them, if there is one. -/
def putLabel (table : NameTable) (map : LabelMap) (entry : String × List String) : LabelMap :=
  match lightFor? table entry.2 with
  | some i => map.put entry.1 i
  | none => map

/-- The lights of the labels among those of a keyboard. -/
def ofRows (rows : List LedRow) : LabelMap :=
  aliases.foldl (putLabel (nameTable rows)) []

end LabelMap

end Mailroom
