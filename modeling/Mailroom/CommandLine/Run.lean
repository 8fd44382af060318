import Mailroom.CommandLine.Arguments
import Mailroom.Settings
import Mailroom.Station

/-!
# Runs from the command line

What the program does is a function of its words and of what it finds around it: settings, a disk,
standard input, a server.  It leaves two texts, perhaps some files, and a status.

This follows the program's `main` with `_open_source`, `_load_listing` and `_export_map`.

- `Surroundings`: what is found.
- `Outcome`: what is left.
- `run`: the whole program.
-/

namespace Mailroom.CommandLine

open Source Text

/-- What the program finds around it. -/
structure Surroundings where
  settings : Settings
  /-- The folder for data. -/
  data : Except FileError String
  disk : Disk
  input : List UInt8
  server : Server
  /-- The names of the lights of a keyboard that only remembers. -/
  ledNames : List String
  /-- How many containers there is room for inside one another in what a map says about a light. -/
  spare : Nat

/-- What ends the program without a status. -/
inductive Crash where
  | compile (e : CompileError)
  | undecodable (e : Utf8.Error)
  | listing (e : ListingError)
  | floor (e : LayError)
  | panel (e : PanelError)
  | station (e : StationError)
  | file (e : FileError)
  /-- The option for a bundled program has no value. -/
  | noProgram

/-- What the program leaves. -/
structure Outcome where
  status : Except Crash Nat
  /-- Whether the words were not understood. -/
  misused : Bool := false
  stdout : String := ""
  stderr : String := ""
  files : List (String × String) := []
  /-- The panel as it is left, if one was used. -/
  panel : Option Panel := none

/-- The keyboard, if one was used. -/
def Outcome.keyboard (o : Outcome) : Option Keyboard :=
  o.panel.map (·.keyboard)

/-- Lines of a text. -/
def linesText (lines : List String) : String :=
  String.join (lines.map (· ++ "\n"))

/-- The program ends with a status and some last words. -/
def stop (status : Nat) (errors : List String) : Outcome :=
  { status := .ok status, stderr := linesText errors }

/-- The files that arguments name. -/
def namedFiles (args : Arguments) : List String :=
  [args.file, args.source, args.ledMap].filterMap Setting.value?

/-- Whether standard input is read. -/
def readsInput (args : Arguments) : Bool :=
  args.values.isEmpty && args.file.value?.isNone && !args.listing && !args.exportMap && !args.help

/-! ## Errors of a connection -/

/-- Trouble with a file, a connection or a value. -/
def loadFailure? : PanelError → Option String
  | .map (.file e path) => some (e.message path)
  | .map (.undecodable e) => some e.message
  | .map (.json (.tooDeep _)) => none
  | .map (.json e) => some e.message
  | .color (.tooFew got) => some (ColorError.tooFew got).message
  | .color .tooMany => some ColorError.tooMany.message
  | .keyboard (.trouble ⟨.connection, message⟩) => some message
  | .keyboard (.trouble ⟨.value, message⟩) => some message
  | _ => none

/-- Trouble while something runs.  A map that is nested too deep counts as such, and not as one that
cannot be loaded. -/
def unavailable? : PanelError → Option String
  | .refused => some PanelError.refused.message
  | .notConnected => some PanelError.notConnected.message
  | .map (.json (.tooDeep opened)) => some (Json.ParseError.tooDeep opened).message
  | .keyboard (.trouble ⟨.runtime, message⟩) => some message
  | _ => none

/-- The line for a keyboard that is not available. -/
def unavailableLine (message : String) : String :=
  "[ERROR] RGB backend unavailable: " ++ message

/-- The panel that the settings ask for. -/
def newPanel (around : Surroundings) : Panel :=
  { keyboard := around.settings.chooseKeyboard around.server { names := around.ledNames }
    startDelay := around.settings.delay
    alwaysVerbose := around.settings.panelVerbose }

/-- What a panel leaves when the program ends. -/
def Outcome.withPanel (o : Outcome) (p : Panel) : Outcome :=
  { o with
    stdout := o.stdout ++ linesText p.notes
    files := o.files ++ p.saved
    panel := some p }

/-! ## Map files -/

/-- Writes the map files for the keyboard to a folder. -/
def exportMap (around : Surroundings) (folder : String) : Outcome :=
  match Panel.connect none (newPanel around) with
  | .error e p =>
    match unavailable? e with
    | some message => (stop 1 [unavailableLine message]).withPanel p
    | none => Outcome.withPanel { status := .error (.panel e) } p
  | .ok () p =>
    let (trouble, p) := match Panel.saveMap around.disk folder p with
      | .ok _ p => (none, p)
      | .error e p => (some e, p)
    match Panel.disconnect p, trouble with
    | .error e p, _ => Outcome.withPanel { status := .error (.panel e) } p
    | .ok () p, some e => Outcome.withPanel { status := .error (.panel e) } p
    | .ok () p, none => Outcome.withPanel { status := .ok 0 } p

/-! ## Listings -/

/-- The messages of an error in a program text that are shown line by line. -/
def compileMessages? : CompileError → Option (List String)
  | .source (.numeral _) => none
  | .source e => some [e.message]
  | .rejected diagnostics => some (diagnostics.map (·.message))
  | .lowering e => e.message?.map fun message => [message]
  | .numeral _ => none

/-- How the program ends if it cannot read a file: the system may tell why, but a path that cannot
be one is a failure of its own. -/
def cannotRead (status : Nat) (path : String) (e : FileError) : Outcome :=
  if e = .nullCharacter then { status := .error (.file e) }
  else stop status ["[ERROR] cannot read " ++ path ++ ": " ++ e.message path]

/-- The listing of the program text at a path, or how the program ends instead. -/
def sourceListing (around : Surroundings) (path : String) : Except Outcome (List String) :=
  match around.disk.openFile path with
  | .error e => .error (cannotRead 3 path e)
  | .ok bytes =>
    match readText bytes with
    | .error e => .error { status := .error (.undecodable e) }
    | .ok text =>
      match (compile { floorSize := around.settings.floorSize } text).outcome with
      | .ok lines => .ok lines
      | .error e =>
        match compileMessages? e with
        | some messages =>
          .error (stop 3 (messages.map fun message => "[ERROR] " ++ path ++ ": " ++ message))
        | none => .error { status := .error (.compile e) }

/-- Prints a listing. -/
def printListing (lines : List String) : Outcome :=
  match printout lines with
  | .ok rows => { status := .ok 0, stdout := linesText rows }
  | .error e => { status := .error (.listing e) }

/-! ## Runs -/

/-- The inbox that the arguments ask for. -/
def openInbox (around : Surroundings) (args : Arguments) : Except (String × FileError) Inbox :=
  if !args.values.isEmpty then .ok (.ofText (" ".intercalate args.values).toList)
  else
    match args.file.value? with
    | some path =>
      match around.disk.openFile path with
      | .ok bytes => .ok (.ofBytes bytes)
      | .error e => .error (path, e)
    | none => .ok (.ofBytes around.input)

/-- What is run. -/
inductive Task where
  | split
  | machine (listing : List String)

/-- What the arguments ask to be run. -/
def taskFor (args : Arguments) (listing : List String) : Task :=
  if args.machine || args.source.value?.isSome then .machine listing else .split

/-- The floor for the bundled program that the arguments name. -/
def floorFor (around : Surroundings) (args : Arguments) : Except Crash Floor :=
  match args.program with
  | .hollow => .error .noProgram
  | program =>
    let presets := ((program.value?.bind fun name => bundled.lookup name).map (·.floor)).getD []
    match Floor.lay around.settings.floorSize presets with
    | .ok floor => .ok floor
    | .error e => .error (.floor e)

/-- Runs a machine and gives the words for its fault. -/
def machineTask (around : Surroundings) (args : Arguments) (listing : List String)
    (inbox : Inbox) : EStateM Crash Station (Option String) := fun s =>
  match floorFor around args with
  | .error e => .error e s
  | .ok floor =>
    let m : Machine := { floor, inbox, maxSteps := around.settings.maxSteps }
    match m.loadTraced args.debug listing with
    | (_, _, some e) => .error (.listing (.line e)) s
    | (m, printed, none) =>
      match Station.runMachine m { s with console := s.console ++ printed } with
      | .error e s => .error (.station e) s
      | .ok m s => .ok (m.fault.map Fault.message) s

/-- Carries out a task: the status and the last words. -/
def perform (around : Surroundings) (args : Arguments) (inbox : Inbox) :
    Task → EStateM Crash Station (Nat × List String)
  | .split => fun s =>
    match Station.split inbox s with
    | .ok _ s => .ok (0, []) s
    | .error e s => .error (.station e) s
  | .machine listing => do
    match ← machineTask around args listing inbox with
    | some message => return (1, ["[FAULT] " ++ message])
    | none => return (0, [])

/-- What is left after a task: a slip that spells no integer is told, all else ends the program. -/
def conclude (result : EStateM.Result Crash Station (Nat × List String)) :
    Station × Except Crash (Nat × List String) :=
  match result with
  | .ok ended s => (s, .ok ended)
  | .error (.station (.inbox (.notInteger line token))) s =>
    (s, .ok (2, ["[ERROR] " ++ (InboxError.notInteger line token).message]))
  | .error e s => (s, .error e)

/-- Lets the keyboard go when the program ends. -/
def leave (panel : Panel) (o : Outcome) : Outcome :=
  match Panel.disconnect { panel with notes := [] } with
  | .ok () p => o.withPanel p
  | .error e p => { o with status := .error (.panel e) }.withPanel p

/-- Carries out a task, with a display if there is one. -/
def runTask (around : Surroundings) (args : Arguments) (task : Task) (display : Option Display) :
    Outcome :=
  match openInbox around args with
  | .error (path, e) =>
    let o := cannotRead 2 path e
    match display, o.status with
    | none, _ => o
    | some d, .ok _ => leave d.panel o
    | some d, .error _ => o.withPanel d.panel
  | .ok inbox =>
    let station : Station := { prints := true, traced := args.debug, display }
    let (s, ended) := conclude (perform around args inbox task station)
    let o : Outcome := match ended with
      | .ok (status, errors) =>
        { status := .ok status, stdout := s.console, stderr := linesText errors }
      | .error e => { status := .error e, stdout := s.console }
    match s.display with
    | none => o
    | some d => leave d.panel o

/-- Carries out a task with a display on the keyboard. -/
def runLit (around : Surroundings) (args : Arguments) (task : Task) : Outcome :=
  let map := args.ledMap.value?.map fun path =>
    MapFile.read around.spare path (around.disk.openFile path)
  match Panel.connect map (newPanel around) with
  | .error e p =>
    match loadFailure? e, unavailable? e with
    | some message, _ =>
      let line := "[ERROR] cannot load LED map " ++ args.ledMap.shown ++ ": " ++ message
      let notes := linesText p.notes
      match leave p (stop 1 [line]) with
      | o@{ status := .error _, .. } => { o with stdout := notes ++ o.stdout, stderr := "" }
      | o => { o with stdout := notes ++ o.stdout }
    | none, some message =>
      (stop 1 [unavailableLine message,
        "[HINT] Start OpenRGB with --server, or set RGB_BACKEND=noop."]).withPanel p
    | none, none => Outcome.withPanel { status := .error (.panel e) } p
  | .ok () p =>
    match Panel.clear args.debug p with
    | .error e p => Outcome.withPanel { status := .error (.panel e) } p
    | .ok _ p =>
      let o := runTask around args task (some { panel := { p with notes := [] } })
      { o with stdout := linesText p.notes ++ o.stdout }

/-- The listing that the arguments ask for, or how the program ends instead. -/
def listingFor (around : Surroundings) (listings : List (String × List String))
    (args : Arguments) : Except Outcome (List String) :=
  match args.source.value?, args.program with
  | some path, _ => sourceListing around path
  | none, .hollow => .error { status := .error .noProgram }
  | none, program => .ok ((program.value?.bind fun name => listings.lookup name).getD [])

/-- What the program does for arguments that are in order; `listings` are those of the bundled
programs, and `data` is the folder for data. -/
def runArguments (around : Surroundings) (data : String) (listings : List (String × List String))
    (args : Arguments) : Outcome :=
  if args.exportMap then exportMap around (Folder.maps data)
  else
    match listingFor around listings args with
    | .error o => o
    | .ok listing =>
      let task := taskFor args listing
      if args.listing then printListing listing
      else if args.led then runLit around args task
      else runTask around args task none

/-- How the program is called. -/
def usage : String :=
  "usage: digit-exploder [-h] [-f FILE] [--machine]"
    ++ " [--program \x7bdigit_exploder\x7d] [--listing]\n"
    ++ "                      [--source FILE] [--led] [--led-map FILE] [--export-map] [--debug]\n"
    ++ "                      [values ...]\n"

/-- What is said about words that are not understood. -/
def misuse (e : UsageError) : Outcome :=
  { status := .ok 2
    misused := true
    stderr := usage ++ "digit-exploder: error: " ++ e.message ++ "\n" }

/-- The listings of the bundled programs for a floor of the given size. -/
def bundledListings (floorSize : Int) : Except CompileError (List (String × List String)) :=
  bundled.mapM fun (name, b) => do return (name, ← b.listing floorSize)

/-- The whole program.  The folder for data is looked for and the bundled programs are made ready
first, so trouble with them ends it before the words are looked at. -/
def run (around : Surroundings) (words : List String) : Outcome :=
  match around.data, bundledListings around.settings.floorSize with
  | .error e, _ => { status := .error (.file e) }
  | .ok _, .error e => { status := .error (.compile e) }
  | .ok data, .ok listings =>
    match Arguments.read around.settings.debug words with
    | .error e => misuse e
    | .ok args =>
      if args.help then { status := .ok 0, stdout := usage }
      else runArguments around data listings args

end Mailroom.CommandLine
