import Mailroom.Files
import Mailroom.Keyboard.LabelMap
import Mailroom.Text.Csv
import Mailroom.Text.Json.Printer
import Mailroom.Text.Json.Reader

/-!
# Map files

The lights of a keyboard can be written to two files, one of which can be edited and read back in
place of the names that the keyboard gives.

Writing follows the program's `export_led_map`, and reading the part of `RGBLabelController` that is
given a map.

- `MapFile.pair`: both files for a keyboard, and `MapFile.Pair.save`: writing them.
- `MapFile.rowsOf`: the lights in a value that was read.
- `MapFile.read`: the lights in a file.
- `MapFile.choose`: the lights to go by.
-/

namespace Mailroom

open Text

/-- Why a map file gives no lights. -/
inductive MapError where
  | file (e : FileError) (path : String)
  | undecodable (e : Utf8.Error)
  | json (e : Json.ParseError)
  /-- The value is no object. -/
  | notAnObject
  /-- The lights are not listed. -/
  | notAList
  /-- An index is infinite. -/
  | infiniteIndex
  /-- Neither lights nor a map are given. -/
  | nothingGiven
  deriving DecidableEq, Repr

/-- The wording of an error. -/
def MapError.message : MapError → String
  | .file e path => e.message path
  | .undecodable e => e.message
  | .json e => e.message
  | .notAnObject => "the map is no object"
  | .notAList => "the lights are not listed"
  | .infiniteIndex => "an index is infinite"
  | .nothingGiven => "RGBLabelController needs LED rows or a JSON map"

namespace MapFile

/-! ## Writing -/

/-- A character that is fit for a file name. -/
def isNameChar (c : Char) : Bool :=
  isWordChar c || c == '.' || c == '-'

/-- Every run of characters that are not fit for a file name becomes one underscore.  `inRun` says
that the last character belonged to such a run. -/
def underscoreRuns (inRun : Bool) : List Char → List Char
  | [] => []
  | c :: cs =>
    if isNameChar c then c :: underscoreRuns false cs
    else if inRun then underscoreRuns true cs
    else '_' :: underscoreRuns true cs

/-- The name of a keyboard made fit for a file name. -/
def safeName (keyboard : Option String) : String :=
  let name := match keyboard with
    | none => "keyboard"
    | some name => if name.isEmpty then "keyboard" else name
  let fit := underscoreRuns false (trim name.toList)
  let bare := dropEndWhile (· == '_') (fit.dropWhile (· == '_'))
  if bare.isEmpty then "keyboard" else String.ofList bare

/-- The lights as rows of a table under a header. -/
def csv (rows : List LedRow) : String :=
  let header := Csv.row ["index".toList, "name_raw".toList]
  let line (row : LedRow) := Csv.row [Numeral.write row.index, row.name.toList]
  String.ofList (header ++ rows.flatMap line)

/-- A light as a value. -/
def rowJson (row : LedRow) : Json :=
  .obj [("index", .int row.index), ("name_raw", .str row.name)]

/-- The lights of a keyboard as a value. -/
def mapJson (rows : List LedRow) (keyboard : Option String) : Json :=
  .obj [("keyboard", match keyboard with
      | none => .null
      | some name => .str name),
    ("leds", .arr (rows.map rowJson))]

/-- The two files for a keyboard. -/
structure Pair where
  folder : String
  csvName : String
  jsonName : String
  csv : String
  json : String
  deriving DecidableEq, Repr

/-- The two files for the lights of a keyboard, in a folder. -/
def pair (rows : List LedRow) (keyboard : Option String) (folder : String) : Pair :=
  let stem := safeName keyboard ++ "_leds"
  ⟨folder, stem ++ ".csv", stem ++ ".json", csv rows, Json.render (mapJson rows keyboard)⟩

namespace Pair

/-- The path of the table. -/
def csvPath (p : Pair) : String :=
  p.folder ++ "/" ++ p.csvName

/-- The path of the file that can be read back. -/
def jsonPath (p : Pair) : String :=
  p.folder ++ "/" ++ p.jsonName

/-- What is said about files that have been written. -/
def notes (p : Pair) : List String :=
  ["[OK] CSV saved: " ++ p.csvPath, "[OK] JSON saved: " ++ p.jsonPath]

end Pair

/-- The files that have come to lie on a disk, and what went wrong then, with its path. -/
structure Saved where
  files : List (String × String)
  trouble : Option (FileError × String) := none

/-- Writes both files to a disk, one after the other. -/
def Pair.save (p : Pair) (disk : Disk) : Saved :=
  match disk.folderTrouble p.folder with
  | some e => { files := [], trouble := some (e, p.folder) }
  | none =>
    match disk.fileTrouble p.folder p.csvName, disk.fileTrouble p.folder p.jsonName with
    | some e, _ => { files := [], trouble := some (e, p.csvPath) }
    | none, some e => { files := [(p.csvPath, p.csv)], trouble := some (e, p.jsonPath) }
    | none, none => { files := [(p.csvPath, p.csv), (p.jsonPath, p.json)] }

/-! ## Reading -/

/-- The light that a value describes.  A value that describes none is passed over. -/
def rowOf? : Json → Except MapError (Option LedRow)
  | .obj fields =>
    match (Assoc.get? "index" fields).map Json.toInteger with
    | some (.ok index) =>
      .ok (some ⟨index, ((Assoc.get? "name_raw" fields).map Json.display).getD ""⟩)
    | some (.error .infinite) => .error .infiniteIndex
    | _ => .ok none
  | _ => .ok none

/-- The lights that values describe. -/
def rowsOfItems : List Json → Except MapError (List LedRow)
  | [] => .ok []
  | item :: rest => do
    let row ← rowOf? item
    return row.toList ++ (← rowsOfItems rest)

/-- The lights that a value lists.  A text or an object in place of the list has no item that
describes a light. -/
def rowsOf : Json → Except MapError (List LedRow)
  | .obj fields =>
    match Assoc.get? "leds" fields with
    | none | some (.str _) | some (.obj _) => .ok []
    | some (.arr items) => rowsOfItems items
    | some _ => .error .notAList
  | _ => .error .notAnObject

/-- The lights that a text lists.  What is said about a light lies inside three containers; there is
room for these, and for as many more inside one another as `spare` says. -/
def ofText (spare : Nat) (text : List Char) : Except MapError (List LedRow) :=
  match Json.parse (spare + 3) text with
  | .error e => .error (.json e)
  | .ok value => rowsOf value

/-- The lights that the file at a path lists. -/
def read (spare : Nat) (path : String) (file : FileBytes) : Except MapError (List LedRow) :=
  match file with
  | .error e => .error (.file e path)
  | .ok bytes =>
    match readText bytes with
    | .error e => .error (.undecodable e)
    | .ok text => ofText spare text

/-- The lights to go by: those that are given come before those of a map. -/
def choose (given : Option (List LedRow)) (map : Option (Except MapError (List LedRow))) :
    Except MapError (List LedRow) :=
  match given, map with
  | some rows, _ => .ok rows
  | none, some fromMap => fromMap
  | none, none => .error .nothingGiven

end MapFile

end Mailroom
