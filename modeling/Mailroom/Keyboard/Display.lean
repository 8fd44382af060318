import Mailroom.Keyboard.Panel
import Mailroom.Splitter

/-!
# What the keys show

Ten number keys show the digit that was sent last, in a colour of its own if it is the same as the
one before, and a further key stands for everything that is no digit.  Three arrow keys show how far
the splitting of an integer has come.  One key is green while a machine runs.

This follows the program's `show_digit`, `clear_outbox`, `post_stage`, `clear_stages` and `set_run`,
and its `LedOutbox`.

- `Display`: a panel with what it shows.
- `Display.showValue`, `Display.clearValues`: the number keys.
- `Display.showStage`, `Display.clearStages`: the arrow keys.
- `Display.showRunning`: the key for a running machine.
-/

namespace Mailroom

/-- A panel with what it shows. -/
structure Display where
  panel : Panel
  /-- The digit that was shown last. -/
  lastDigit : Option Int := none
  stage : Option Stage := none
  /-- How many values have been shown since the keys were cleared. -/
  count : Nat := 0
  deriving Repr

/-- Steps of a display. -/
abbrev DisplayM := EStateM PanelError Display

namespace Display

/-- A step of the panel as one of the display. -/
def onPanel {α : Type} (step : PanelM α) : DisplayM α := fun d =>
  match step d.panel with
  | .ok a panel => .ok a { d with panel }
  | .error e panel => .error e { d with panel }

/-! ## Number keys -/

/-- The labels of the number keys. -/
def digitLabels : List String := ["1", "2", "3", "4", "5", "6", "7", "8", "9", "0"]

/-- The label of the key for what is no digit. -/
def overflowLabel : String := "backspace"

/-- Labels with their colours. -/
abbrev Payload := Assoc String Color

/-- All number keys off. -/
def valuesOff : Payload :=
  (digitLabels ++ [overflowLabel]).map fun label => (label, .darkGray)

/-- The label of a digit. -/
def digitLabel (digit : Int) : String :=
  Text.Numeral.text digit

/-- Whether an integer is a digit. -/
def isDigit (v : Int) : Bool :=
  0 ≤ v && v ≤ 9

/-- The colours of the number keys for a value. -/
def valuePayload (last : Option Int) (v : Int) : Payload :=
  if isDigit v then
    valuesOff.put (digitLabel v) (if last = some v then .orange else .pink)
  else valuesOff.put overflowLabel .plainRed

/-- A payload for the panel. -/
def wanted (payload : Payload) : List (String × Except ColorError Color) :=
  payload.map fun (label, color) => (label, .ok color)

/-- Gives labels their colours one by one. -/
def applySingly : Payload → DisplayM Unit
  | [] => pure ()
  | (label, color) :: rest => do
    let _ ← onPanel (Panel.setColor label (.ok color) false)
    applySingly rest

/-- Gives labels their colours together, or one by one if that fails. -/
def apply (payload : Payload) : DisplayM Unit := do
  unless ← onPanel (Panel.setTogether (wanted payload)) do
    applySingly payload

/-- Shows a value on the number keys. -/
def showValue (v : Int) : DisplayM Unit := do
  let payload := valuePayload (← get).lastDigit v
  modify fun d => { d with lastDigit := if isDigit v then some v else none }
  apply payload

/-- Turns the number keys off. -/
def clearValues : DisplayM Unit := do
  modify fun d => { d with lastDigit := none }
  apply valuesOff

/-! ## Arrow keys -/

/-- The label of the key for a stage. -/
def stageLabel : Stage → String
  | .extractingHundreds => "left"
  | .extractingTens => "down"
  | .emitting => "right"

/-- All arrow keys off. -/
def stagesOff : Payload :=
  Stage.all.map fun stage => (stageLabel stage, .black)

/-- Turns the arrow keys off. -/
def clearStages : DisplayM Unit := do
  let _ ← onPanel (Panel.setTogether (wanted stagesOff))
  modify fun d => { d with stage := none }

/-- Shows a stage on the arrow keys, unless it is shown already. -/
def showStage (stage : Stage) : DisplayM Unit := do
  if (← get).stage = some stage then pure ()
  else if ← onPanel (Panel.setTogether (wanted (stagesOff.put (stageLabel stage) .cyan))) then
    modify fun d => { d with stage := some stage }

/-- Shows the stage of the given name; a name that belongs to no stage shows nothing. -/
def showStageNamed (name : String) : DisplayM Unit :=
  match Stage.ofName? name with
  | none => pure ()
  | some stage => showStage stage

/-! ## The key for a running machine -/

/-- The label of the key for a running machine. -/
def runningLabel : String := "grave"

/-- Shows whether a machine runs, if a keyboard is connected. -/
def showRunning (running : Bool) : DisplayM Unit := do
  if (← get).panel.isConnected then
    let _ ← onPanel
      (Panel.setColor runningLabel (.ok (if running then .plainGreen else .black)) false)

/-! ## The display as an outbox -/

/-- Shows a value that is sent and counts it. -/
def send (v : Int) : DisplayM Unit := do
  showValue v
  modify fun d => { d with count := d.count + 1 }

/-- Turns number and arrow keys off and counts from zero. -/
def reset : DisplayM Unit := do
  clearValues
  clearStages
  modify fun d => { d with count := 0 }

end Display

end Mailroom
