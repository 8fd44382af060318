import Mailroom.Machine.Basic

/-!
# Machine runs with a transcript

Whoever runs a machine gets the values that went to its outbox and, if a trace is wanted, a line for
each thing that happened.  An integer with too many digits to be written ends the transcript, and
with it the run, whether a trace is wanted or not.

This follows the debug lines of the program's `Machine`, and `run_program`.

- `MachineEvent.traceLine`: the line for one event, and `MachineEvent.fits`: whether it can be made.
- `Machine.stepTraced`, `Machine.runTraced`: a step and a run with their transcript.
- `runProgram`: a listing run from start to end.
-/

namespace Mailroom

open Text

/-- What a change looks like in a trace. -/
def Change.text : Change → String
  | .hand v => "hand=" ++ Numeral.text v
  | .tile address v => "tile" ++ Numeral.text address ++ "=" ++ Numeral.text v

/-- Whether a change can be written within the limit on digits. -/
def Change.fits : Change → Bool
  | .hand v => Numeral.fits v
  | .tile address v => Numeral.fits address && Numeral.fits v

/-- The wording of a fault. -/
def Fault.message (f : Fault) : String :=
  f.cause.message

/-- Whether a fault can be worded within the limit on digits. -/
def Fault.fits (f : Fault) : Bool :=
  match f.cause with
  | .stepLimit most => Numeral.fits most
  | .offFloor e => Numeral.fits e.address && Numeral.fits e.size
  | .emptyHand _ | .unknownLabel _ => true

namespace MachineEvent

/-- Whether an event can be written within the limit on digits. -/
def fits : MachineEvent → Bool
  | .fetched _ _ | .halted => true
  | .sent v => Numeral.fits v
  | .executed i changes => i.fits && changes.all Change.fits
  | .faulted f => f.fits

/-- The line for an event. -/
def traceLine : MachineEvent → String
  | .fetched pc line => "[FETCH]  PC=" ++ Program.addressText pc ++ " | " ++ trimmed line
  | .sent v => "[OUTBOX] " ++ Numeral.text v
  | .executed i [] => "[EXEC]   " ++ i.text
  | .executed i changes =>
    "[EXEC]   " ++ String.ofList (padEnd 14 ' ' i.text.toList) ++ " | "
      ++ ", ".intercalate (changes.map Change.text)
  | .halted => "[HALT]   Inbox empty or PC out of range."
  | .faulted f =>
    "[FAULT] PC=" ++ Program.addressText f.pc ++ " line=" ++ Numeral.natText f.line ++ " | "
      ++ f.message

end MachineEvent

/-- Texts in brackets, each in quotes. -/
def quotedList (items : List String) : String :=
  "[" ++ ", ".intercalate (items.map quoted) ++ "]"

/-- Texts in the order of their code points. -/
def sortTexts (items : List String) : List String :=
  items.mergeSort fun a b => !(b < a)

namespace Machine

/-- The line for a loaded listing. -/
def loadLine (p : Program) : String :=
  "[LOAD] " ++ Numeral.natText p.size ++ " instructions, labels="
    ++ quotedList (sortTexts (p.labels.map (·.1)))

/-- The line at the start of a run. -/
def startLine : String := "\n[RUN] Starting execution..."

/-- The line at the end of a run. -/
def finishLine : String := "[RUN] Execution finished.\n"

/-- Why a run or a step gives no result. -/
inductive RunError where
  | inbox (e : InboxError)
  | fault (f : Fault)
  | numeral (e : Numeral.Error)
  deriving DecidableEq, Repr

/-- What has been printed and sent, up to an integer that cannot be written. -/
structure Transcript where
  printed : String := ""
  sent : Array Int := #[]
  broken : Option Numeral.Error := none

namespace Transcript

/-- A line is printed. -/
def line (t : Transcript) (s : String) : Transcript :=
  { t with printed := t.printed ++ s ++ "\n" }

/-- An event is followed: a value is sent, and a line is printed if a trace is wanted. -/
def see (traced : Bool) (t : Transcript) (event : MachineEvent) : Transcript :=
  if t.broken.isSome then t
  else
    let t := match event with
      | .sent v => { t with sent := t.sent.push v }
      | _ => t
    if !event.fits then { t with broken := some .unwritable }
    else if traced then t.line event.traceLine
    else t

/-- Whoever keeps a transcript gives up when it is broken. -/
def keeper (traced : Bool) : Observer Transcript :=
  ⟨see traced, fun t => t.broken.isSome⟩

end Transcript

/-- A step or a run with its transcript. -/
structure Traced (α : Type) where
  machine : Machine
  transcript : Transcript
  result : Except RunError α

/-- Loads a listing and says so. -/
def loadTraced (m : Machine) (traced : Bool) (lines : List String) :
    Machine × String × Option LineError :=
  match m.load lines with
  | (m, some e) => (m, "", some e)
  | (m, none) => (m, if traced then loadLine m.program ++ "\n" else "", none)

/-- One step with its transcript; the result says whether the machine goes on. -/
def stepTraced (m : Machine) (traced : Bool) : Traced Bool :=
  let turn := m.step
  let transcript := turn.events.foldl (Transcript.see traced) {}
  let result := match transcript.broken, turn.outcome with
    | some e, _ => .error (.numeral e)
    | none, .running => .ok true
    | none, .stopped => .ok false
    | none, .failed e => .error (.inbox e)
    | none, .fault f => if f.fits then .error (.fault f) else .error (.numeral .unwritable)
  ⟨turn.machine, transcript, result⟩

/-- A run with its transcript; the result is what the machine has sent since its listing was loaded.
A fault is no failure of the run: it stays with the machine. -/
def runTraced (m : Machine) (traced : Bool) : Traced (Array Int) :=
  let start : Transcript := if traced then ({} : Transcript).line startLine else {}
  let (error, m, transcript) := m.drive (Transcript.keeper traced) start
  match transcript.broken, error with
  | some e, _ => ⟨m, transcript, .error (.numeral e)⟩
  | none, some e => ⟨m, transcript, .error (.inbox e)⟩
  | none, none => ⟨m, if traced then transcript.line finishLine else transcript, .ok m.emitted⟩

end Machine

/-- Why a listing gives no result. -/
inductive ProgramError where
  | line (e : LineError)
  | run (e : Machine.RunError)
  deriving DecidableEq, Repr

/-- A listing loaded and run on a floor; here a fault is a failure. -/
structure ProgramRun where
  printed : String
  sent : Array Int
  result : Except ProgramError (Array Int)

/-- Runs a listing from start to end. -/
def runProgram (lines : List String) (inbox : Inbox) (floor : Floor) (maxSteps : Int)
    (traced : Bool) : ProgramRun :=
  let m : Machine := { floor, inbox, maxSteps }
  match m.loadTraced traced lines with
  | (_, printed, some e) => ⟨printed, #[], .error (.line e)⟩
  | (m, printed, none) =>
    let run := m.runTraced traced
    let result := match run.result, run.machine.fault with
      | .error e, _ => .error (.run e)
      | .ok _, some f => .error (.run (.fault f))
      | .ok values, none => .ok values
    ⟨printed ++ run.transcript.printed, run.transcript.sent, result⟩

end Mailroom
