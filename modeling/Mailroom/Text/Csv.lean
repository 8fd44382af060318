/-!
# Rows of comma separated fields

A field is put in double quotes when it holds a comma, a double quote or a character of a line end;
double quotes inside are then written twice.  A row ends with a carriage return and a line feed.

The table that the program's `export_led_map` writes is made of such rows.

- `Csv.field`: one field.
- `Csv.row`: a row with its line end.
-/

namespace Mailroom.Text.Csv

/-- A character that a field cannot hold without quotes. -/
def needsQuotes (c : Char) : Bool :=
  c == ',' || c == '"' || c == '\r' || c == '\n'

/-- A field as it is written. -/
def field (cs : List Char) : List Char :=
  if cs.any needsQuotes then
    '"' :: cs.flatMap (fun c => if c = '"' then ['"', '"'] else [c]) ++ ['"']
  else cs

/-- A row of fields with its line end. -/
def row (fields : List (List Char)) : List Char :=
  [','].intercalate (fields.map field) ++ ['\r', '\n']

end Mailroom.Text.Csv
