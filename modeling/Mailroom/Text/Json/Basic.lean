import Mailroom.Text.Decimal
import Mailroom.Text.Numeral

/-!
# Values of the JSON format

Integers are kept apart from decimal fractions, and the format's three numbers that are no numbers
have values of their own.

These are the values that the program's map files hold.

- `Json`: a value.
- `Json.toInteger`: the integer that a value stands for, as an index or as a part of a colour.
- `Json.display`: a value in running text.
-/

namespace Mailroom.Text

/-- A value of the JSON format; the names of an object are in order of first entry. -/
inductive Json where
  | null
  | bool (value : Bool)
  | int (value : Int)
  | decimal (value : Decimal)
  | infinity (negative : Bool)
  | nan
  | str (value : String)
  | arr (items : List Json)
  | obj (fields : List (String × Json))

namespace Json

/-- Why a value stands for no integer. -/
inductive NoInteger where
  /-- The value is of a kind that stands for no number. -/
  | wrongKind
  /-- The text spells no integer. -/
  | numeral (e : Numeral.Error)
  /-- The number that is no number. -/
  | notANumber
  /-- The number is infinite, or too large to be told from infinity. -/
  | infinite
  deriving DecidableEq, Repr

/-- The integer that a value stands for: a fraction loses what is behind the point, a text is read
as a plain numeral, and the truth values are one and zero. -/
def toInteger : Json → Except NoInteger Int
  | .int n => .ok n
  | .bool b => .ok (if b then 1 else 0)
  | .decimal d =>
    match d.truncate? with
    | some n => .ok n
    | none => .error .infinite
  | .infinity _ => .error .infinite
  | .nan => .error .notANumber
  | .str s =>
    match Numeral.read .plain s.toList with
    | .ok n => .ok n
    | .error e => .error (.numeral e)
  | .null | .arr _ | .obj _ => .error .wrongKind

/-- A decimal fraction in running text: its digits and the power of ten that they are multiplied
by. -/
def decimalText (d : Decimal) : String :=
  (if d.negative then "-" else "") ++ Numeral.natText d.mantissa ++ "e" ++ Numeral.text d.exponent

mutual

/-- A value inside brackets: texts are quoted there. -/
def shown : Json → String
  | .null => "None"
  | .bool b => if b then "True" else "False"
  | .int n => Numeral.text n
  | .decimal d => decimalText d
  | .infinity negative => if negative then "-inf" else "inf"
  | .nan => "nan"
  | .str s => quoted s
  | .arr items => "[" ++ ", ".intercalate (shownItems items) ++ "]"
  | .obj fields => "\x7b" ++ ", ".intercalate (shownFields fields) ++ "\x7d"

/-- The items of an array inside brackets. -/
def shownItems : List Json → List String
  | [] => []
  | item :: rest => shown item :: shownItems rest

/-- The fields of an object inside brackets. -/
def shownFields : List (String × Json) → List String
  | [] => []
  | (name, value) :: rest => (quoted name ++ ": " ++ shown value) :: shownFields rest

end

/-- A value in running text: a text stands for itself. -/
def display : Json → String
  | .str s => s
  | value => shown value

end Json

end Mailroom.Text
