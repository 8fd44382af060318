import Mailroom.Keyboard.Memory
import Mailroom.Keyboard.Served

/-!
# Keyboards

A keyboard is one behind a server or one that only remembers.

What can be asked of both is the program's `RGBBackend`.

- `Keyboard`: either of them, with what can be asked of both.
-/

namespace Mailroom

/-- A keyboard of either kind. -/
inductive Keyboard where
  | memory (k : MemoryKeyboard)
  | served (k : ServedKeyboard)
  deriving DecidableEq, Repr

/-- The reply of one kind of keyboard as that of a keyboard. -/
def Reply.lift {κ κ' α : Type} (f : κ → κ') (r : Reply κ α) : Reply κ' α :=
  ⟨f r.keyboard, r.notes, r.result⟩

/-- What a keyboard that only remembers has to say: nothing. -/
def Reply.quiet (r : Bool × MemoryKeyboard) : Reply Keyboard Bool :=
  ⟨.memory r.2, [], .ok r.1⟩

namespace Keyboard

/-- Connects and says whether that worked. -/
def connect : Keyboard → Reply Keyboard Bool
  | .memory k => .quiet k.connect
  | .served k => k.connect.lift .served

/-- Disconnects. -/
def disconnect : Keyboard → Reply Keyboard Unit
  | .memory k => ⟨.memory k.disconnect, [], .ok ()⟩
  | .served k => k.disconnect.lift .served

/-- Whether it is connected. -/
def connected : Keyboard → Bool
  | .memory k => k.connected
  | .served k => k.connected

/-- Its lights. -/
def rows : Keyboard → List LedRow
  | .memory k => k.rows
  | .served k => k.rows

/-- Its name. -/
def deviceName : Keyboard → String
  | .memory _ => "noop"
  | .served k => k.deviceName

/-- Its lights turn black; where their number is not known, it is taken to be `total`. -/
def clear (total : Int) (verbose : Bool) : Keyboard → Reply Keyboard Bool
  | .memory k => .quiet (true, k.clear total)
  | .served k => (k.clear verbose).lift .served

/-- Gives one light a colour and says whether that worked. -/
def setColor (index : Int) (color : Color) : Keyboard → Reply Keyboard Bool
  | .memory k => .quiet (k.setColor index color)
  | .served k => (k.setColor index color).lift .served

/-- Gives lights their colours together and says whether that worked. -/
def setMany (changes : List (Int × Color)) : Keyboard → Reply Keyboard Bool
  | .memory k => .quiet (k.setMany changes)
  | .served k => (k.setMany changes).lift .served

/-- The colour of a light. -/
def color (index : Int) : Keyboard → Color
  | .memory k => k.color index
  | .served k => k.color index

end Keyboard

end Mailroom
