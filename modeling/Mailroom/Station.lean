import Mailroom.Keyboard.Display
import Mailroom.Machine.Trace

/-!
# Where values come out

A station is what stands behind an outbox: values are kept, written to the console if that is
wanted, and shown on the keys if there is a display.  It follows what a splitter or a machine does.
Whatever goes wrong on the way ends the run.

This follows the sinks that the program's `Decomposer` and `Machine` write to, a `TeeOutbox` among
them, and what these two tell the keys.

- `Station`: its state.
- `Station.follow`: what it does about an event of a splitter.
- `Station.machineStep`: what it does about an event of a machine.
- `Station.split`, `Station.runMachine`: whole runs.
-/

namespace Mailroom

open Text

/-- Why a run at a station ends early. -/
inductive StationError where
  | inbox (e : InboxError)
  | panel (e : PanelError)
  | numeral (e : Numeral.Error)
  deriving DecidableEq, Repr

/-- A station. -/
structure Station where
  /-- What has been written to the console. -/
  console : String := ""
  sent : Array Int := #[]
  /-- Whether values are written to the console. -/
  prints : Bool := false
  /-- Whether every step is written to the console. -/
  traced : Bool := false
  display : Option Display := none

/-- Steps at a station. -/
abbrev StationM := EStateM StationError Station

namespace Station

/-- Writes lines to the console. -/
def write (s : Station) (lines : List String) : Station :=
  { s with console := s.console ++ String.join (lines.map (· ++ "\n")) }

/-- Writes a line to the console. -/
def print (line : String) : StationM Unit :=
  modify fun s => s.write [line]

/-- A step of the display, if there is one; what its panel says goes to the console. -/
def onDisplay (step : DisplayM Unit) : StationM Unit := fun s =>
  match s.display with
  | none => .ok () s
  | some d =>
    let keep (d : Display) : Station :=
      { s.write d.panel.notes with
        display := some { d with panel := { d.panel with notes := [] } } }
    match step d with
    | .ok () d => .ok () (keep d)
    | .error e d => .error (.panel e) (keep d)

/-- A value is sent. -/
def send (v : Int) : StationM Unit := do
  modify fun s => { s with sent := s.sent.push v }
  if (← get).prints then
    match Numeral.text? v with
    | .ok text => print text
    | .error e => throw (.numeral e)
  onDisplay (Display.send v)

/-! ## Splitters -/

/-- Follows what a splitter does. -/
def follow (event : SplitEvent) : StationM Unit := do
  if (← get).traced then
    match event.traceLine? with
    | none => pure ()
    | some line => print line
  match event with
  | .entered stage => onDisplay (Display.showStage stage)
  | .emitted v => send v
  | .read _ | .finished _ => pure ()

/-- Follows all that a splitter does. -/
def followAll : List SplitEvent → StationM Unit
  | [] => pure ()
  | event :: rest => do
    follow event
    followAll rest

/-- Splits all integers of an inbox and counts them. -/
def split (inbox : Inbox) : StationM Nat := do
  let run := Splitter.run none { inbox }
  followAll run.events
  match run.outcome with
  | .ok count => return count
  | .error e => throw (.inbox e)

/-! ## Machines -/

/-- A station that follows a machine until something goes wrong. -/
structure Watch where
  station : Station
  broken : Option StationError := none

/-- Writes a line to the console if every step is written there. -/
def trace (line : String) : StationM Unit := do
  if (← get).traced then print line

/-- What a station does about an event of a machine.  One that cannot be written ends the run even
if nothing is written. -/
def machineStep (event : MachineEvent) : StationM Unit := do
  match event with
  | .sent v => send v
  | _ => pure ()
  if !event.fits then throw (.numeral .unwritable)
  if (← get).traced then print event.traceLine

/-- Follows what a machine does. -/
def Watch.see (w : Watch) (event : MachineEvent) : Watch :=
  if w.broken.isSome then w
  else
    match machineStep event w.station with
    | .ok () station => { w with station }
    | .error e station => ⟨station, some e⟩

/-- A station as an observer. -/
def watcher : Machine.Observer Watch :=
  ⟨Watch.see, fun w => w.broken.isSome⟩

/-- Drives a machine until it stops or something goes wrong. -/
def drive (m : Machine) : StationM Machine := fun s =>
  match m.drive watcher ⟨s, none⟩ with
  | (_, _, ⟨s, some e⟩) => .error e s
  | (some e, _, ⟨s, none⟩) => .error (.inbox e) s
  | (none, m, ⟨s, none⟩) => .ok m s

/-- What comes after a step is done whether the step fails or not. -/
def ensuring {α : Type} (step : StationM α) (after : StationM Unit) : StationM α := fun s =>
  match step s with
  | .ok a s =>
    match after s with
    | .ok () s => .ok a s
    | .error e s => .error e s
  | .error e s =>
    match after s with
    | .ok () s => .error e s
    | .error e s => .error e s

/-- Runs a machine from where it stands until it stops; a fault stays with the machine.  While it
runs, the display says so. -/
def runMachine (m : Machine) : StationM Machine := do
  trace Machine.startLine
  onDisplay (Display.showRunning true)
  let m ← ensuring (drive m) (onDisplay (Display.showRunning false))
  trace Machine.finishLine
  return m

end Station

end Mailroom
