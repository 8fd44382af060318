import Mailroom.Files
import Mailroom.Keyboard.Basic
import Mailroom.Text.Blank
import Mailroom.Text.Case
import Mailroom.Text.Numeral

/-!
# Settings from the environment

This follows the program's configuration: `env_flag`, `env_int`, the variables that they are asked
for, and `_resolve_data_dir`; and the `_choose_backend` of its RGB controller.

- `flagSetting`, `integerSetting`: how the value of a variable is read.
- `Settings.ofEnvironment`: all settings.
- `Folder.data`: the folder for data, the first of some candidates that exists.
-/

namespace Mailroom

open Text

/-- The values of variables. -/
abbrev Environment := String → Option String

/-- The value of a variable without blanks around it, or nothing if nothing is left. -/
def Environment.get? (env : Environment) (name : String) : Option String :=
  match (env name).map trimmed with
  | none => none
  | some value => if value.isEmpty then none else some value

/-- The words that switch something on. -/
def affirmations : List String := ["1", "y", "yes", "true", "on"]

/-- A variable that switches something on or off. -/
def flagSetting (env : Environment) (name : String) (fallback : Bool) : Bool :=
  match (env name).map (fun value => lowered (trimmed value)) with
  | none => fallback
  | some word => if word.isEmpty then fallback else affirmations.contains word

/-- A variable that gives an integer; what spells none is passed over. -/
def integerSetting (env : Environment) (name : String) (fallback : Int) : Int :=
  match env.get? name with
  | none => fallback
  | some value =>
    match Numeral.read .tagged value.toList with
    | .ok n => n
    | .error _ => fallback

/-- All settings. -/
structure Settings where
  debug : Bool := false
  maxSteps : Int := 100000
  floorSize : Int := 100
  /-- The kind of keyboard. -/
  keyboard : String := "openrgb"
  host : String := "127.0.0.1"
  portNumber : Int := 6742
  /-- The wait after colours have been written, in milliseconds. -/
  delay : Int := 20
  /-- Whether a keyboard behind a server says what it does. -/
  keyboardVerbose : Bool := false
  /-- Whether a panel says which labels change together. -/
  panelVerbose : Bool := false
  deriving DecidableEq, Repr

namespace Settings

/-- The variables that settings are read from. -/
def variableNames : List String :=
  ["EXPLODER_DEBUG", "EXPLODER_MAX_STEPS", "EXPLODER_FLOOR_SIZE", "RGB_BACKEND", "OPENRGB_HOST",
    "OPENRGB_PORT", "RGB_APPLY_DELAY_MS", "RGB_DEBUG", "RGB_ATOMIC_DEBUG"]

/-- The settings that variables give. -/
def ofEnvironment (env : Environment) : Settings :=
  let standard : Settings := {}
  { debug := flagSetting env "EXPLODER_DEBUG" standard.debug
    maxSteps := integerSetting env "EXPLODER_MAX_STEPS" standard.maxSteps
    floorSize := integerSetting env "EXPLODER_FLOOR_SIZE" standard.floorSize
    keyboard := lowered (trimmed ((env "RGB_BACKEND").getD standard.keyboard))
    host := trimmed ((env "OPENRGB_HOST").getD standard.host)
    portNumber := integerSetting env "OPENRGB_PORT" standard.portNumber
    delay := integerSetting env "RGB_APPLY_DELAY_MS" standard.delay
    keyboardVerbose := flagSetting env "RGB_DEBUG" standard.keyboardVerbose
    panelVerbose := flagSetting env "RGB_ATOMIC_DEBUG" standard.panelVerbose }

/-- The kinds of keyboard that stand behind a server. -/
def servedKinds : List String := ["openrgb", "orgb", "sdk"]

/-- Whether the keyboard stands behind a server. -/
def isServed (s : Settings) : Bool :=
  servedKinds.contains s.keyboard

/-- A keyboard behind the server that the settings name, unless another address is given. -/
def servedKeyboard (s : Settings) (server : Server) (host : String) (portNumber : Int) :
    ServedKeyboard :=
  { server
    host := if host.isEmpty then s.host else host
    portNumber := if portNumber = 0 then s.portNumber else portNumber
    verbose := s.keyboardVerbose }

/-- The keyboard that the settings ask for. -/
def chooseKeyboard (s : Settings) (server : Server) (memory : MemoryKeyboard) :
    Keyboard :=
  if s.isServed then .served (s.servedKeyboard server "" 0) else .memory memory

end Settings

/-! ## Folders -/

namespace Folder

/-- The steps of a path: empty ones and single dots lead nowhere. -/
def steps (path : List Char) : List (List Char) :=
  ((String.ofList path).splitOn "/").map String.toList |>.filter
    fun step => !step.isEmpty && step != ['.']

/-- What a path starts from: nothing, the root, or a root of its own if there are just two slashes.
-/
def root (path : List Char) : String :=
  match (path.takeWhile (· == '/')).length with
  | 0 => ""
  | 2 => "//"
  | _ => "/"

/-- A path made from a root and steps. -/
def ofSteps (root : String) (steps : List (List Char)) : String :=
  if root.isEmpty && steps.isEmpty then "."
  else root ++ "/".intercalate (steps.map String.ofList)

/-- A path without superfluous slashes and dots; steps upwards stay as they are. -/
def tidy (path : String) : String :=
  ofSteps (root path.toList) (steps path.toList)

/-- A folder inside another one. -/
def join (path step : String) : String :=
  ofSteps (root path.toList) (steps path.toList ++ [step.toList])

/-- The variable that asks for a folder for data. -/
def wishVariable : String := "EXPLODER_DATA_DIR"

/-- Where data may lie: in the folder that is asked for, in that of the installation or in that of a
bundle. -/
def candidates (installation : String) (bundle wish : Option String) : List String :=
  (wish.map tidy).toList ++ [join installation "data"]
    ++ (bundle.map fun b => join b "data").toList

/-- The first of some paths at which there is anything. -/
def firstPresent (has : String → Except FileError Bool) :
    List String → Except FileError (Option String)
  | [] => .ok none
  | path :: rest => do
    if ← has path then return some path
    else firstPresent has rest

/-- The folder for data: the first candidate that exists, and that of the installation if none does.
-/
def data (has : String → Except FileError Bool) (installation : String)
    (bundle wish : Option String) : Except FileError String := do
  let found ← firstPresent has (candidates installation bundle wish)
  return found.getD (join installation "data")

/-- The folder for map files. -/
def maps (data : String) : String :=
  join data "maps"

/-- Takes steps upwards together with the step before. -/
def climb (done : List (List Char)) : List (List Char) → List (List Char)
  | [] => done.reverse
  | step :: rest => if step = ['.', '.'] then climb done.tail rest else climb (step :: done) rest

/-- The folder that a program lies in, with all steps upwards taken. -/
def ofProgram (path : String) : String :=
  ofSteps (root path.toList) (climb [] (steps path.toList)).dropLast

end Folder

end Mailroom
