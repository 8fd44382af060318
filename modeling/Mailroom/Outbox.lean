import Mailroom.Text.Numeral

/-!
# The outbox

A tray takes integers.  Some trays keep them as they are, others write each on a line of its own.

This follows the program's `Outbox` and `TextOutbox`.

- `Tray.write`: an integer put into a tray.
- `Tray.clear`: an emptied tray.
-/

namespace Mailroom

open Text

/-- What has been put into a tray. -/
inductive Tray where
  /-- The integers in order. -/
  | values (written : List Int)
  /-- Their text, one on a line. -/
  | text (written : String)
  deriving DecidableEq, Repr

namespace Tray

/-- An integer is put behind the ones that are there. -/
def write (v : Int) : Tray → Tray
  | .values written => .values (written ++ [v])
  | .text written => .text (written ++ Numeral.text v ++ "\n")

/-- A tray with nothing in it. -/
def clear : Tray → Tray
  | .values _ => .values []
  | .text _ => .text ""

end Tray

end Mailroom
