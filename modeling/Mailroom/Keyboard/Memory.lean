import Mailroom.Assoc
import Mailroom.Keyboard.Color
import Mailroom.Keyboard.LabelMap

/-!
# A keyboard that only remembers

It takes colours for any index and touches no device.  Three switches make it refuse, which is how
the ways of failing can be tried.

This follows the program's `NoopBackend`.

- `MemoryKeyboard`: its state.
-/

namespace Mailroom

/-- A keyboard that remembers the colours it was given. -/
structure MemoryKeyboard where
  names : List String
  connected : Bool := false
  colors : Assoc Int Color := []
  /-- The colours that it had when it was last disconnected. -/
  lastColors : Option (Assoc Int Color) := none
  /-- How many times colours have been written, one by one or together. -/
  writes : Nat := 0
  refusesConnect : Bool := false
  refusesColor : Bool := false
  refusesMany : Bool := false
  deriving DecidableEq, Repr

namespace MemoryKeyboard

/-- Connects, unless that is refused. -/
def connect (k : MemoryKeyboard) : Bool × MemoryKeyboard :=
  if k.refusesConnect then (false, k) else (true, { k with connected := true })

/-- Disconnects and forgets all colours. -/
def disconnect (k : MemoryKeyboard) : MemoryKeyboard :=
  { k with connected := false, colors := [], lastColors := some k.colors }

/-- The lights, in the order of their names. -/
def rows (k : MemoryKeyboard) : List LedRow :=
  k.names.zipIdx.map fun (name, i) => ⟨i, name⟩

/-- The first lights turn black. -/
def clear (k : MemoryKeyboard) (total : Int) : MemoryKeyboard :=
  { k with
    colors := (List.range total.toNat).foldl
      (fun colors (i : Nat) => Assoc.put (i : Int) .black colors) k.colors }

/-- Gives one light a colour. -/
def setColor (k : MemoryKeyboard) (index : Int) (color : Color) : Bool × MemoryKeyboard :=
  if k.refusesColor then (false, k)
  else (true, { k with colors := k.colors.put index color, writes := k.writes + 1 })

/-- Gives lights their colours together. -/
def setMany (k : MemoryKeyboard) (changes : List (Int × Color)) : Bool × MemoryKeyboard :=
  if k.refusesMany then (false, k)
  else
    (true, { k with
      colors := changes.foldl (fun colors (i, c) => Assoc.put i c colors) k.colors
      writes := k.writes + 1 })

/-- The colour of a light; one that was given none is black. -/
def color (k : MemoryKeyboard) (index : Int) : Color :=
  (k.colors.get? index).getD .black

end MemoryKeyboard

end Mailroom
