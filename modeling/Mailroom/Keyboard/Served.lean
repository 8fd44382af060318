import Mailroom.Keyboard.Color
import Mailroom.Keyboard.LabelMap

/-!
# A keyboard behind a server

A server speaks for devices.  The first one that is a keyboard is taken and switched to a mode in
which every light can be set.  A frame keeps the colours of all lights, so that many changes go out
in one call. Every call is kept in a journal.

This follows the program's `OpenRGBBackend` and `_is_keyboard`.

- `Server`: how a server answers.
- `Call`: what is asked of it.
- `ServedKeyboard`: the state of the connection.
-/

namespace Mailroom

open Text

/-- The kinds of trouble that a server can make. -/
inductive TroubleKind where
  /-- The connection fails. -/
  | connection
  /-- A value is not accepted. -/
  | value
  /-- An index is not accepted. -/
  | index
  /-- Something goes wrong while it runs. -/
  | runtime
  /-- Anything else, by its name. -/
  | other (name : String)
  deriving DecidableEq, Repr

/-- Trouble with its wording. -/
structure Trouble where
  kind : TroubleKind
  message : String
  deriving DecidableEq, Repr

/-- A device that a server speaks for. -/
structure Device where
  kind : String
  name : Option String
  leds : List String
  /-- What happens when it is switched to another mode. -/
  modeTrouble : Option Trouble := none
  deriving DecidableEq, Repr

/-- How a server answers. -/
structure Server where
  refusal : Option Trouble := none
  devices : List Device := []
  /-- The devices are not announced and have to be asked for. -/
  onRequest : Bool := false
  closeTrouble : Option Trouble := none
  deriving DecidableEq, Repr

/-- What is asked of a server. -/
inductive Call where
  | client (host : String) (portNumber : Int) (name : String)
  | devices
  | mode (name : String)
  | led (index : Nat) (color : Color)
  | all (color : Color)
  | frame (colors : List Color)
  | close
  deriving DecidableEq, Repr

/-- Why a keyboard does not do what is asked of it. -/
inductive KeyboardError where
  | trouble (t : Trouble)
  /-- The frame has no place for the light. -/
  | outsideFrame
  deriving DecidableEq, Repr

/-- What a keyboard does: its next state, what it has to say and what comes of it. -/
structure Reply (κ α : Type) where
  keyboard : κ
  notes : List String := []
  result : Except KeyboardError α

/-- A keyboard behind a server. -/
structure ServedKeyboard where
  server : Server
  host : String
  portNumber : Int
  name : String := "DigitExploder"
  /-- Whether it says what it does. -/
  verbose : Bool := false
  /-- Whether there is a connection to the server. -/
  linked : Bool := false
  device : Option Device := none
  frame : List Color := []
  calls : List Call := []
  deriving DecidableEq, Repr

namespace ServedKeyboard

/-- A call is kept in the journal. -/
def called (k : ServedKeyboard) (call : Call) : ServedKeyboard :=
  { k with calls := k.calls ++ [call] }

/-- What it says, if it does. -/
def notes (k : ServedKeyboard) (text : String) : List String :=
  if k.verbose then ["[OPENRGB] " ++ text] else []

/-- A device is a keyboard if it says so, in letters of whatever size. -/
def isKeyboard (d : Device) : Bool :=
  lowered d.kind == "keyboard"

/-- A frame in which all lights are black. -/
def blackFrame (d : Device) : List Color :=
  List.replicate d.leds.length .black

/-- Switches a keyboard to the mode in which every light can be set, and starts a frame.  Some
keyboards have no such mode, and then it is left at that.  The words about it are made whether they
are said or not. -/
def take (k : ServedKeyboard) (d : Device) : Reply ServedKeyboard Bool :=
  let k := { k with device := some d }.called (.mode "direct")
  let started := { k with frame := blackFrame d }
  let ready := k.notes ("keyboard=" ++ d.name.getD "None" ++ " leds="
    ++ Numeral.natText d.leds.length ++ " @ " ++ k.host ++ ":" ++ Numeral.text k.portNumber)
  let finish (notes : List String) : Reply ServedKeyboard Bool :=
    if Numeral.fits k.portNumber then ⟨started, notes ++ ready, .ok true⟩
    else ⟨started, notes, .error (.trouble ⟨.value, Numeral.Error.unwritable.message⟩)⟩
  match d.modeTrouble with
  | none => finish []
  | some t =>
    if t.kind = .value ∨ t.kind = .index then
      finish (k.notes ("direct mode unavailable: " ++ t.message))
    else ⟨k, [], .error (.trouble t)⟩

/-- Opens a connection and takes the first keyboard. -/
def connect (k : ServedKeyboard) : Reply ServedKeyboard Bool :=
  let k := k.called (.client k.host k.portNumber k.name)
  match k.server.refusal with
  | some t =>
    if t.kind = .connection then
      ⟨{ k with linked := false }, k.notes ("connect error: " ++ t.message), .ok false⟩
    else ⟨k, [], .error (.trouble t)⟩
  | none =>
    let k := { k with linked := true }
    let k := if k.server.onRequest || k.server.devices.isEmpty then k.called .devices else k
    match k.server.devices.find? isKeyboard with
    | none =>
      ⟨{ k with device := none },
        k.notes ("no keyboard among " ++ Numeral.natText k.server.devices.length ++ " devices"),
        .ok false⟩
    | some d => k.take d

/-- Closes the connection, whatever trouble that makes. -/
def disconnect (k : ServedKeyboard) : Reply ServedKeyboard Unit :=
  let closed := { k with linked := false, device := none, frame := [] }
  if k.linked then
    match k.server.closeTrouble with
    | none => ⟨closed.called .close, [], .ok ()⟩
    | some t => ⟨closed.called .close, [], .error (.trouble t)⟩
  else ⟨closed, [], .ok ()⟩

/-- Whether there is a connection and a keyboard. -/
def connected (k : ServedKeyboard) : Bool :=
  k.linked && k.device.isSome

/-- The lights of the keyboard. -/
def rows (k : ServedKeyboard) : List LedRow :=
  match k.device with
  | none => []
  | some d => d.leds.zipIdx.map fun (name, i) => ⟨i, name⟩

/-- The name of the keyboard. -/
def deviceName (k : ServedKeyboard) : String :=
  match k.device.bind (·.name) with
  | none => "keyboard"
  | some name => if name.isEmpty then "keyboard" else name

/-- All lights turn black. -/
def clear (k : ServedKeyboard) (verbose : Bool) : Reply ServedKeyboard Bool :=
  match k.device with
  | none => ⟨k, [], .ok false⟩
  | some d =>
    ⟨{ k with frame := blackFrame d }.called (.all .black),
      if verbose then ["[OPENRGB] cleared " ++ Numeral.natText d.leds.length ++ " leds"] else [],
      .ok true⟩

/-- Gives one light a colour. -/
def setColor (k : ServedKeyboard) (index : Int) (color : Color) : Reply ServedKeyboard Bool :=
  match k.device with
  | none => ⟨k, [], .ok false⟩
  | some d =>
    if 0 ≤ index ∧ index < d.leds.length then
      if index < k.frame.length then
        ⟨{ k with frame := k.frame.set index.toNat color }.called (.led index.toNat color), [],
          .ok true⟩
      else ⟨k, [], .error .outsideFrame⟩
    else ⟨k, [], .ok false⟩

/-- A frame with one change; a light outside of it changes nothing. -/
def change (frame : List Color) (index : Int) (color : Color) : List Color :=
  if 0 ≤ index then frame.set index.toNat color else frame

/-- Gives lights their colours together. -/
def setMany (k : ServedKeyboard) (changes : List (Int × Color)) : Reply ServedKeyboard Bool :=
  match k.device with
  | none => ⟨k, [], .ok false⟩
  | some _ =>
    let frame := changes.foldl (fun frame (i, c) => change frame i c) k.frame
    ⟨{ k with frame }.called (.frame frame), [], .ok true⟩

/-- The colour of a light; one outside the frame is black. -/
def color (k : ServedKeyboard) (index : Int) : Color :=
  if 0 ≤ index then k.frame.getD index.toNat .black else .black

end ServedKeyboard

end Mailroom
