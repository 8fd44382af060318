import Mailroom.Text.Json.Basic

/-!
# Writing the JSON format

Values are spread over lines, two blanks deeper for each level.  Strings keep every character that
the format lets stand, so names in any script stay readable.

This is how the program's `export_led_map` writes a map.

- `Json.escape`: one character inside a string.
- `Json.render`: the text of a value.
-/

namespace Mailroom.Text.Json

/-- How a character is written inside a string. -/
def escape (c : Char) : List Char :=
  if c = '"' then ['\\', '"']
  else if c = '\\' then ['\\', '\\']
  else if c = '\n' then ['\\', 'n']
  else if c = '\r' then ['\\', 'r']
  else if c = '\t' then ['\\', 't']
  else if c.toNat = 8 then ['\\', 'b']
  else if c.toNat = 12 then ['\\', 'f']
  else if c.toNat < 32 then '\\' :: 'u' :: padStart 4 '0' (Nat.toDigits 16 c.toNat)
  else [c]

/-- A string of the format. -/
def renderString (s : String) : List Char :=
  '"' :: s.toList.flatMap escape ++ ['"']

/-- A new line, indented for a level. -/
def newLine (level : Nat) : List Char :=
  '\n' :: List.replicate (2 * level) ' '

mutual

/-- The text of a value that stands at a level. -/
def renderAt (level : Nat) : Json → List Char
  | .null => "null".toList
  | .bool b => (if b then "true" else "false").toList
  | .int n => Numeral.write n
  | .decimal d => (decimalText d).toList
  | .infinity negative => (if negative then "-Infinity" else "Infinity").toList
  | .nan => "NaN".toList
  | .str s => renderString s
  | .arr [] => "[]".toList
  | .arr (item :: rest) =>
    '[' :: newLine (level + 1) ++ renderAt (level + 1) item ++ renderItems (level + 1) rest
      ++ newLine level ++ [']']
  | .obj [] => "\x7b\x7d".toList
  | .obj ((name, value) :: rest) =>
    '\x7b' :: newLine (level + 1) ++ renderString name ++ [':', ' '] ++ renderAt (level + 1) value
      ++ renderFields (level + 1) rest ++ newLine level ++ ['\x7d']

/-- The items of an array after the first one. -/
def renderItems (level : Nat) : List Json → List Char
  | [] => []
  | item :: rest => ',' :: newLine level ++ renderAt level item ++ renderItems level rest

/-- The fields of an object after the first one. -/
def renderFields (level : Nat) : List (String × Json) → List Char
  | [] => []
  | (name, value) :: rest =>
    ',' :: newLine level ++ renderString name ++ [':', ' '] ++ renderAt level value
      ++ renderFields level rest

end

/-- The text of a value. -/
def render (value : Json) : String :=
  String.ofList (renderAt 0 value)

end Mailroom.Text.Json
