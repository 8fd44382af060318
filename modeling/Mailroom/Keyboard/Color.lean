import Mailroom.Text.Json.Basic

/-!
# Colours of keys

A colour has a red, a green and a blue part between 0 and 255.  What lies outside is brought to the
nearer end.

This follows the program's `RGBColor` with `_clamp8`, and the `_to_color` of its RGB controller.

- `Color`: a colour.
- `Color.ofInts`: the colour for three integers.
- `Color.ofJson`: the colour for three values of a data format, each of which has to stand for an
  integer.
- `Color.lenient`: the same, where a part that stands for no integer counts as zero.
-/

namespace Mailroom

open Text

/-- A colour. -/
structure Color where
  red : UInt8
  green : UInt8
  blue : UInt8
  deriving DecidableEq, Repr

namespace Color

/-- An integer brought into the range of a part. -/
def clamp (n : Int) : UInt8 :=
  UInt8.ofNat (min n.toNat 255)

/-- The colour for three integers. -/
def ofInts (red green blue : Int) : Color :=
  ⟨clamp red, clamp green, clamp blue⟩

/-- A key that is off. -/
def black : Color := ⟨0, 0, 0⟩

/-- A key that is used for display and shows nothing. -/
def darkGray : Color := ⟨40, 40, 40⟩

/-- A value that has no key of its own. -/
def plainRed : Color := ⟨255, 0, 0⟩

/-- A value that comes a second time in a row. -/
def orange : Color := ⟨255, 149, 5⟩

/-- A value that differs from the one before. -/
def pink : Color := ⟨255, 105, 180⟩

/-- The stage that the splitter is in. -/
def cyan : Color := ⟨0, 200, 255⟩

/-- The mark of a running machine. -/
def plainGreen : Color := ⟨0, 255, 0⟩

/-- The parts of a colour. -/
def parts (c : Color) : List Nat :=
  [c.red.toNat, c.green.toNat, c.blue.toNat]

/-- A colour as messages give it. -/
def text (c : Color) : String :=
  "(" ++ ", ".intercalate (c.parts.map Numeral.natText) ++ ")"

end Color

/-- Why data stand for no colour. -/
inductive ColorError where
  | tooFew (got : Nat)
  | tooMany
  /-- The value has no parts at all. -/
  | noParts
  | part (e : Json.NoInteger)
  deriving DecidableEq, Repr

/-- The wording of an error. -/
def ColorError.message : ColorError → String
  | .tooFew got => "not enough values to unpack (expected 3, got " ++ Numeral.natText got ++ ")"
  | .tooMany => "too many values to unpack (expected 3)"
  | .noParts => "a colour has to have three parts"
  | .part (.numeral e) => e.message
  | .part .notANumber => "cannot convert float NaN to integer"
  | .part .infinite => "a colour part has to be finite"
  | .part .wrongKind => "a colour part has to be a number"

namespace Color

/-- The parts of a value: the items of an array, the characters of a text or the names of an object.
-/
def partsOf : Json → Except ColorError (List Json)
  | .arr items => .ok items
  | .str s => .ok (s.toList.map fun c => .str c.toString)
  | .obj fields => .ok (fields.map fun field => .str field.1)
  | _ => .error .noParts

/-- The integer that one part stands for. -/
def partOf (value : Json) : Except ColorError Int :=
  match value.toInteger with
  | .ok n => .ok n
  | .error e => .error (.part e)

/-- The colour for a value with three parts. -/
def ofJson (value : Json) : Except ColorError Color := do
  match ← partsOf value with
  | [r, g, b] => return ofInts (← partOf r) (← partOf g) (← partOf b)
  | [] => throw (.tooFew 0)
  | [_] => throw (.tooFew 1)
  | [_, _] => throw (.tooFew 2)
  | _ => throw .tooMany

/-- The integer that a part stands for, or zero; only infinity is refused. -/
def lenientPart (value : Json) : Except ColorError Int :=
  match value.toInteger with
  | .ok n => .ok n
  | .error .infinite => .error (.part .infinite)
  | .error _ => .ok 0

/-- The colour for three values, where a part that stands for no integer counts as zero. -/
def lenient (red green blue : Json) : Except ColorError Color := do
  return ofInts (← lenientPart red) (← lenientPart green) (← lenientPart blue)

end Color

end Mailroom
