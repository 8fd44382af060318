import Mailroom.Keyboard.Basic
import Mailroom.Keyboard.MapFile

/-!
# Keys by their labels

A panel stands between labels and a keyboard.  It knows which light belongs to which label and what
colour each label was last given, so that a colour that a label has already is not written again.
After every write it waits a little.

This follows the program's RGB controller: `connect`, `disconnect`, `init_all_keys`,
`get_key_color`, `set_key_color`, `set_labels_atomic` and `export_map`, with the variables that they
share as a state.

- `Panel`: its state.
- `Panel.connect`, `Panel.disconnect`: the keyboard is attached and let go.
- `Panel.setColor`, `Panel.setTogether`: labels get their colours.
- `Panel.saveMap`: the lights of the keyboard are written to files.
-/

namespace Mailroom

open Text

/-- Why a panel does not do what is asked of it. -/
inductive PanelError where
  /-- The keyboard does not connect. -/
  | refused
  /-- There is no keyboard, or it is not known which lights it has. -/
  | notConnected
  | keyboard (e : KeyboardError)
  | color (e : ColorError)
  | map (e : MapError)
  /-- A file cannot be written. -/
  | file (e : FileError) (path : String)
  deriving DecidableEq, Repr

/-- The wording of an error. -/
def PanelError.message : PanelError → String
  | .refused => "Failed to initialize RGB backend."
  | .notConnected => "connect() must be called before using LED functions."
  | .keyboard (.trouble t) => t.message
  | .keyboard .outsideFrame => "light outside the frame"
  | .color e => e.message
  | .map e => e.message
  | .file e path => e.message path

/-- A panel. -/
structure Panel where
  keyboard : Keyboard
  /-- The wait that a connection starts with. -/
  startDelay : Int := 20
  /-- Whether the keyboard is attached. -/
  attached : Bool := false
  labels : Option LabelMap := none
  /-- The colours that labels were last given. -/
  shown : Assoc String Color := []
  /-- How long to wait after a write, in milliseconds. -/
  delay : Nat := 20
  /-- Whether it says which labels change together. -/
  verbose : Bool := false
  /-- Whether it does so in any case. -/
  alwaysVerbose : Bool := false
  /-- What it has said. -/
  notes : List String := []
  /-- How long it has waited each time. -/
  waits : List Nat := []
  /-- The files that it has written. -/
  saved : List (String × String) := []
  deriving Repr

/-- Steps of a panel. -/
abbrev PanelM := EStateM PanelError Panel

namespace Panel

/-- A wait is at most forty milliseconds. -/
def clampDelay (ms : Int) : Nat :=
  min ms.toNat 40

/-- Sets the wait after a write. -/
def setDelay (ms : Int) : PanelM Unit :=
  modify fun p => { p with delay := clampDelay ms }

/-- Whether it says which labels change together, for the one reason or the other. -/
def isVerbose (p : Panel) : Bool :=
  p.verbose || p.alwaysVerbose

/-- Says something. -/
def say (line : String) : PanelM Unit :=
  modify fun p => { p with notes := p.notes ++ [line] }

/-- Says something if it is asked to. -/
def sayIf (wanted : Bool) (line : String) : PanelM Unit :=
  if wanted then say line else pure ()

/-- Asks something of the keyboard. -/
def ask {α : Type} (f : Keyboard → Reply Keyboard α) : PanelM α := fun p =>
  let reply := f p.keyboard
  let p := { p with keyboard := reply.keyboard, notes := p.notes ++ reply.notes }
  match reply.result with
  | .ok a => .ok a p
  | .error e => .error (.keyboard e) p

/-- Waits after a write. -/
def settle : PanelM Unit :=
  modify fun p => if 0 < p.delay then { p with waits := p.waits ++ [p.delay] } else p

/-- Forgets which colours the labels were given. -/
def forget : PanelM Unit :=
  modify fun p => { p with shown := [] }

/-- Attaches the keyboard.  Its lights are the ones that it names itself, or those of a map. -/
def connect (map : Option (Except MapError (List LedRow))) : PanelM Unit := do
  modify fun p => { p with attached := true, labels := none }
  unless ← ask Keyboard.connect do
    modify fun p => { p with attached := false }
    throw .refused
  let rows ← match map with
    | none => pure (← get).keyboard.rows
    | some (.ok rows) => pure rows
    | some (.error e) => throw (.map e)
  modify fun p => { p with labels := some (.ofRows rows), delay := clampDelay p.startDelay }
  forget

/-- Lets the keyboard go, whatever trouble that makes. -/
def disconnect : PanelM Unit := fun p =>
  let detach (p : Panel) : Panel := { p with attached := false, labels := none, shown := [] }
  if p.attached then
    match ask Keyboard.disconnect p with
    | .ok () p => .ok () (detach p)
    | .error e p => .error e (detach p)
  else .ok () (detach p)

/-- Whether a keyboard is attached, connected and known. -/
def isConnected (p : Panel) : Bool :=
  p.attached && p.keyboard.connected && p.labels.isSome

/-- The lights of the labels. -/
def requireLabels : PanelM LabelMap := do
  let p ← get
  match p.attached, p.labels with
  | true, some labels => return labels
  | _, _ => throw .notConnected

/-- The number of lights, as far as the labels tell: one more than the highest index. -/
def lightCount (labels : LabelMap) : Int :=
  match labels.map (·.2) with
  | [] => 0
  | i :: rest => rest.foldl max i + 1

/-- All lights turn black. -/
def clear (verbose : Bool) : PanelM Bool := do
  let labels ← requireLabels
  let done ← ask (Keyboard.clear (lightCount labels) verbose)
  forget
  return done

/-- The colour of a label; one that belongs to no light is black. -/
def color (label : String) : PanelM Color := do
  let labels ← requireLabels
  match labels.get? (lowered label) with
  | none => return .black
  | some index => return (← get).keyboard.color index

/-- A colour that may turn out to be none. -/
def requireColor (color : Except ColorError Color) : PanelM Color :=
  match color with
  | .ok c => pure c
  | .error e => throw (.color e)

/-- Gives a label a colour, and says whether it has it. -/
def setColor (label : String) (color : Except ColorError Color) (verbose : Bool) : PanelM Bool := do
  let labels ← requireLabels
  let key := lowered label
  match labels.get? key with
  | none => return false
  | some index =>
    let color ← requireColor color
    if (← get).shown.get? key = some color then return true
    else
      let done ← ask (Keyboard.setColor index color)
      settle
      if done then
        modify fun p => { p with shown := p.shown.put key color }
        sayIf verbose ("[DEBUG] " ++ uppered key ++ " -> " ++ color.text)
      return done

/-- A label with a light and a colour that it does not have yet. -/
structure LightChange where
  key : String
  index : Int
  color : Color
  deriving DecidableEq, Repr

/-- What has to change so that labels get their colours. -/
def changesFor (labels : LabelMap) :
    List (String × Except ColorError Color) → PanelM (List LightChange)
  | [] => pure []
  | (label, color) :: rest => do
    let p ← get
    let key := lowered label
    match labels.get? key with
    | none =>
      sayIf p.isVerbose ("[RGB-ATOMIC] unknown label=\x27" ++ label ++ "\x27")
      changesFor labels rest
    | some index =>
      let color ← requireColor color
      if p.shown.get? key = some color then
        sayIf p.isVerbose
          ("[RGB-ATOMIC] skip-noop idx=" ++ Numeral.text index ++ " label=\x27" ++ label ++ "\x27")
        changesFor labels rest
      else
        return ⟨key, index, color⟩ :: (← changesFor labels rest)

/-- Gives labels their colours together, and says whether they have them.  Of several colours for
one label the last one counts. -/
def setTogether (wanted : List (String × Except ColorError Color)) : PanelM Bool := do
  let labels ← requireLabels
  let changes ← changesFor labels (Assoc.ofPairs wanted)
  let verbose := (← get).isVerbose
  if changes.isEmpty then
    sayIf verbose "[RGB-ATOMIC] no-op (no changes)"
    return true
  else if ← ask (Keyboard.setMany (changes.map fun c => (c.index, c.color))) then
    settle
    modify fun p => { p with
      shown := changes.foldl (fun shown c => Assoc.put c.key c.color shown) p.shown }
    sayIf verbose ("[RGB-ATOMIC] applied; changes=" ++ Numeral.natText changes.length)
    return true
  else return false

/-- Writes the map files for the attached keyboard to a folder. -/
def saveMap (disk : Disk) (folder : String) : PanelM MapFile.Pair := do
  let _ ← requireLabels
  let keyboard := (← get).keyboard
  let pair := MapFile.pair keyboard.rows (some keyboard.deviceName) folder
  let saved := pair.save disk
  modify fun p => { p with saved := p.saved ++ saved.files }
  match saved.trouble with
  | some (e, path) => throw (.file e path)
  | none =>
    modify fun p => { p with notes := p.notes ++ pair.notes }
    return pair

end Panel

end Mailroom
