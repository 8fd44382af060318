import Mathlib
import Mailroom.Proofs.ShownColors
import Mailroom.Station

/-!
# Keyboards that are held

From the moment a client is opened until it is closed, a panel holds a keyboard.  Whatever is asked
of a panel, a display or a station in the meantime, and however that ends, the panel still holds it
afterwards: nothing in between opens another client or closes the one there is.

- `Open`, `Closed`: the journals of one client that is open, and of one that has been closed.
- `Keyboard.Held`, `Panel.Holding`: a keyboard in use.
- `Preserves`: a property of states that a step keeps up, whether it succeeds or fails.
- `Panel.setTogether_preserves`, `Display.send_preserves`, `Station.split_preserves`,
  `Station.runMachine_preserves`: a panel that holds a keyboard goes on holding it.
-/

namespace Mailroom

open Text

/-! ## Journals -/

/-- A call that neither opens a client nor closes one. -/
def Call.Routine : Call → Prop
  | .client _ _ _ => False
  | .close => False
  | _ => True

/-- The journal of a client that has been opened and not been closed. -/
def Open (calls : List Call) : Prop :=
  ∃ host portNumber name routine,
    calls = .client host portNumber name :: routine ∧ ∀ call ∈ routine, call.Routine

/-- The journal of a client that has been opened and then, at the very end, closed. -/
def Closed (calls : List Call) : Prop :=
  ∃ before, Open before ∧ calls = before ++ [.close]

lemma Open.append {calls : List Call} (h : Open calls) {call : Call} (hcall : call.Routine) :
    Open (calls ++ [call]) := by
  obtain ⟨host, portNumber, name, routine, rfl, hroutine⟩ := h
  refine ⟨host, portNumber, name, routine ++ [call], rfl, fun c hc => ?_⟩
  rcases List.mem_append.mp hc with hc | hc
  · exact hroutine c hc
  · rw [List.mem_singleton.mp hc]
    exact hcall

/-! ## Keyboards in use -/

/-- A server that has a keyboard among its devices. -/
def Server.Offers (server : Server) : Prop :=
  ∃ d ∈ server.devices, ServedKeyboard.isKeyboard d = true

namespace ServedKeyboard

/-- A keyboard behind a server that is in use: its client is open. -/
structure Held (server : Server) (k : ServedKeyboard) : Prop where
  serving : k.server = server
  accepted : server.refusal = none
  offered : server.Offers
  linked : k.linked = true
  calls : Open k.calls

variable {server : Server} {k : ServedKeyboard}

lemma Held.clear (h : k.Held server) (verbose : Bool) : (k.clear verbose).keyboard.Held server := by
  unfold ServedKeyboard.clear
  split
  · exact h
  · exact { h with calls := h.calls.append trivial }

lemma Held.setColor (h : k.Held server) (index : Int) (color : Color) :
    (k.setColor index color).keyboard.Held server := by
  unfold ServedKeyboard.setColor
  split
  · exact h
  split
  · split
    · exact { h with calls := h.calls.append trivial }
    · exact h
  · exact h

lemma Held.setMany (h : k.Held server) (changes : List (Int × Color)) :
    (k.setMany changes).keyboard.Held server := by
  unfold ServedKeyboard.setMany
  split
  · exact h
  · exact { h with calls := h.calls.append trivial }

end ServedKeyboard

/-- A keyboard in use.  One that only remembers has no client to care for. -/
def Keyboard.Held (server : Server) : Keyboard → Prop
  | .memory _ => True
  | .served k => k.Held server

namespace Keyboard

variable {server : Server} {k : Keyboard}

lemma Held.clear (h : k.Held server) (total : Int) (verbose : Bool) :
    (k.clear total verbose).keyboard.Held server := by
  cases k with
  | memory k => exact trivial
  | served k => exact ServedKeyboard.Held.clear h verbose

lemma Held.setColor (h : k.Held server) (index : Int) (color : Color) :
    (k.setColor index color).keyboard.Held server := by
  cases k with
  | memory k => exact trivial
  | served k => exact ServedKeyboard.Held.setColor h index color

lemma Held.setMany (h : k.Held server) (changes : List (Int × Color)) :
    (k.setMany changes).keyboard.Held server := by
  cases k with
  | memory k => exact trivial
  | served k => exact ServedKeyboard.Held.setMany h changes

end Keyboard

/-- A panel with an attached keyboard that is in use. -/
structure Panel.Holding (server : Server) (p : Panel) : Prop where
  attached : p.attached = true
  held : p.keyboard.Held server

/-! ## Steps that keep up a property -/

/-- A step after which a property of states still holds, whether it succeeds or fails. -/
def Preserves {ε σ α : Type} (P : σ → Prop) (x : EStateM ε σ α) : Prop :=
  ∀ s, P s → P (stateOf (x s))

section Steps

variable {ε σ α β : Type} {P : σ → Prop}

lemma preserves_pure (a : α) : Preserves P (pure a : EStateM ε σ α) :=
  fun _ h => h

lemma preserves_throw (e : ε) : Preserves P (throw e : EStateM ε σ α) :=
  fun _ h => h

lemma preserves_get : Preserves P (get : EStateM ε σ σ) :=
  fun _ h => h

lemma preserves_modify {f : σ → σ} (hf : ∀ s, P s → P (f s)) :
    Preserves P (modify f : EStateM ε σ PUnit) :=
  hf

lemma Preserves.bind {x : EStateM ε σ α} {f : α → EStateM ε σ β} (hx : Preserves P x)
    (hf : ∀ a, Preserves P (f a)) : Preserves P (x >>= f) := by
  intro s hs
  have hstep := hx s hs
  cases hrun : x s with
  | ok a s' =>
      rw [hrun] at hstep
      rw [bind_of_ok hrun]
      exact hf a s' hstep
  | error e s' =>
      rw [hrun] at hstep
      rw [bind_of_error hrun]
      exact hstep

end Steps

/-! ## Panels -/

namespace Panel

variable {server : Server}

lemma stateOf_ask {α : Type} (f : Keyboard → Reply Keyboard α) (p : Panel) :
    stateOf (ask f p) = { p with
      keyboard := (f p.keyboard).keyboard, notes := p.notes ++ (f p.keyboard).notes } := by
  cases hresult : (f p.keyboard).result with
  | ok a => rw [ask_ok hresult, stateOf]
  | error e => rw [ask_error hresult, stateOf]

lemma ask_preserves {α : Type} {f : Keyboard → Reply Keyboard α}
    (hf : ∀ k : Keyboard, k.Held server → (f k).keyboard.Held server) :
    Preserves (Holding server) (ask f) := by
  intro p hp
  rw [stateOf_ask]
  exact ⟨hp.attached, hf _ hp.held⟩

lemma settle_preserves : Preserves (Holding server) settle := by
  intro p hp
  obtain ⟨waits, hsettle⟩ := settle_eq p
  rw [hsettle]
  exact ⟨hp.attached, hp.held⟩

lemma sayIf_preserves (wanted : Bool) (line : String) :
    Preserves (Holding server) (sayIf wanted line) := by
  intro p hp
  obtain ⟨notes, hsay⟩ := sayIf_eq wanted line p
  rw [hsay]
  exact ⟨hp.attached, hp.held⟩

lemma requireLabels_preserves : Preserves (Holding server) requireLabels := by
  refine preserves_get.bind fun p => ?_
  split
  · exact preserves_pure _
  · exact preserves_throw _

lemma requireColor_preserves (color : Except ColorError Color) :
    Preserves (Holding server) (requireColor color) := by
  cases color with
  | ok c => exact preserves_pure c
  | error e => exact preserves_throw _

lemma clear_preserves (verbose : Bool) : Preserves (Holding server) (clear verbose) := by
  refine requireLabels_preserves.bind fun labels => ?_
  refine (ask_preserves fun k hk => hk.clear _ _).bind fun done => ?_
  exact (preserves_modify fun p hp => ⟨hp.attached, hp.held⟩).bind fun _ => preserves_pure done

lemma setColor_preserves (label : String) (color : Except ColorError Color) (verbose : Bool) :
    Preserves (Holding server) (setColor label color verbose) := by
  refine requireLabels_preserves.bind fun labels => ?_
  dsimp only
  split
  · exact preserves_pure _
  · refine (requireColor_preserves color).bind fun c => preserves_get.bind fun p => ?_
    split
    · exact preserves_pure _
    · refine (ask_preserves fun k hk => hk.setColor _ _).bind fun done => ?_
      refine settle_preserves.bind fun _ => ?_
      cases done with
      | false => exact preserves_pure _
      | true =>
          refine (preserves_modify fun p hp => ⟨hp.attached, hp.held⟩).bind fun _ => ?_
          exact (sayIf_preserves verbose _).bind fun _ => preserves_pure _

lemma changesFor_preserves (labels : LabelMap) (named : List (String × Except ColorError Color)) :
    Preserves (Holding server) (changesFor labels named) := by
  intro p hp
  obtain ⟨notes, hchanges⟩ := changesFor_eq labels named p
  rw [hchanges]
  cases resolve labels named <;> exact ⟨hp.attached, hp.held⟩

lemma setTogether_preserves (wanted : List (String × Except ColorError Color)) :
    Preserves (Holding server) (setTogether wanted) := by
  refine requireLabels_preserves.bind fun labels => ?_
  refine (changesFor_preserves labels _).bind fun changes => preserves_get.bind fun p => ?_
  dsimp only
  split
  · exact (sayIf_preserves _ _).bind fun _ => preserves_pure _
  · refine (ask_preserves fun k hk => hk.setMany _).bind fun done => ?_
    cases done with
    | false => exact preserves_pure _
    | true =>
        refine settle_preserves.bind fun _ => ?_
        refine (preserves_modify fun p hp => ⟨hp.attached, hp.held⟩).bind fun _ => ?_
        exact (sayIf_preserves _ _).bind fun _ => preserves_pure _

lemma saveMap_preserves (disk : Disk) (folder : String) :
    Preserves (Holding server) (saveMap disk folder) := by
  refine requireLabels_preserves.bind fun labels => preserves_get.bind fun p => ?_
  refine (preserves_modify fun p hp => ⟨hp.attached, hp.held⟩).bind fun _ => ?_
  split
  · exact preserves_throw _
  · exact (preserves_modify fun p hp => ⟨hp.attached, hp.held⟩).bind fun _ => preserves_pure _

end Panel

/-! ## Displays -/

namespace Display

variable {server : Server}

/-- A display whose panel holds a keyboard. -/
def Holding (server : Server) (d : Display) : Prop :=
  d.panel.Holding server

lemma onPanel_preserves {α : Type} {step : PanelM α}
    (hstep : Preserves (Panel.Holding server) step) :
    Preserves (Holding server) (onPanel step) := by
  intro d hd
  rw [stateOf_onPanel]
  exact hstep d.panel hd

lemma applySingly_preserves (payload : Payload) :
    Preserves (Holding server) (applySingly payload) := by
  induction payload with
  | nil => exact preserves_pure ()
  | cons entry rest ih =>
      exact (onPanel_preserves (Panel.setColor_preserves _ _ _)).bind fun _ => ih

lemma apply_preserves (payload : Payload) : Preserves (Holding server) (apply payload) := by
  refine (onPanel_preserves (Panel.setTogether_preserves _)).bind fun done => ?_
  cases done with
  | true => exact preserves_pure ()
  | false => exact applySingly_preserves payload

lemma showStage_preserves (stage : Stage) : Preserves (Holding server) (showStage stage) := by
  refine preserves_get.bind fun d => ?_
  split
  · exact preserves_pure ()
  · refine (onPanel_preserves (Panel.setTogether_preserves _)).bind fun done => ?_
    cases done with
    | false => exact preserves_pure ()
    | true => exact preserves_modify fun d hd => hd

lemma showRunning_preserves (running : Bool) :
    Preserves (Holding server) (showRunning running) := by
  refine preserves_get.bind fun d => ?_
  split
  · exact (onPanel_preserves (Panel.setColor_preserves _ _ _)).bind fun _ => preserves_pure ()
  · exact preserves_pure ()

lemma showValue_preserves (v : Int) : Preserves (Holding server) (showValue v) := by
  refine preserves_get.bind fun _ => (preserves_modify ?_).bind fun _ => apply_preserves _
  exact fun _ hd => hd

lemma send_preserves (v : Int) : Preserves (Holding server) (send v) :=
  (showValue_preserves v).bind fun _ => preserves_modify fun _ hd => hd

end Display

/-! ## Stations -/

/-- Whatever each event keeps up, a whole run keeps up. -/
lemma Machine.drive_seen {σ : Type} {P : σ → Prop} (observer : Observer σ)
    (hsee : ∀ seen event, P seen → P (observer.see seen event)) (m : Machine) (seen : σ)
    (h : P seen) : P (m.drive observer seen).2.2 := by
  have hfold : ∀ (events : List MachineEvent) (seen : σ), P seen →
      P (events.foldl observer.see seen) := by
    intro events
    induction events with
    | nil => exact fun _ h => h
    | cons event events ih => exact fun seen h => ih _ (hsee seen event h)
  fun_induction Machine.drive m observer seen with
  | case1 => exact hfold _ _ h
  | case2 m seen turn seen' hup hrunning ih => exact ih (hfold _ _ h)
  | case3 => exact hfold _ _ h
  | case4 => exact hfold _ _ h
  | case5 => exact hsee _ _ (hfold _ _ h)
  | case6 => exact hsee _ _ (hfold _ _ h)

namespace Station

variable {server : Server}

/-- A station whose display, if it has one, holds a keyboard. -/
def Holding (server : Server) (s : Station) : Prop :=
  ∀ d ∈ s.display, d.Holding server

lemma print_preserves (line : String) : Preserves (Holding server) (print line) :=
  preserves_modify fun _ hs => hs

lemma display_onDisplay (step : DisplayM Unit) (s : Station) :
    (stateOf (onDisplay step s)).display = s.display.map fun d =>
      { stateOf (step d) with panel := { (stateOf (step d)).panel with notes := [] } } := by
  rw [onDisplay]
  cases hdisplay : s.display with
  | none => exact hdisplay
  | some d =>
      dsimp only [Option.map_some]
      cases step d <;> rfl

lemma onDisplay_preserves {step : DisplayM Unit}
    (hstep : Preserves (Display.Holding server) step) :
    Preserves (Holding server) (onDisplay step) := by
  intro s hs d' hd'
  rw [display_onDisplay] at hd'
  obtain ⟨d, hd, rfl⟩ := Option.map_eq_some_iff.mp hd'
  have hkept := hstep d (hs d hd)
  exact ⟨hkept.attached, hkept.held⟩

lemma send_preserves (v : Int) : Preserves (Holding server) (send v) := by
  refine (preserves_modify ?_).bind fun _ => preserves_get.bind fun s => ?_
  · exact fun s hs => hs
  have hshow : Preserves (Holding server) (onDisplay (Display.send v)) :=
    onDisplay_preserves (Display.send_preserves v)
  dsimp only
  split
  · split
    · exact (print_preserves _).bind fun _ => hshow
    · exact (preserves_throw _).bind fun _ => hshow
  · exact hshow

lemma react_preserves (event : SplitEvent) : Preserves (Holding server) (match event with
    | .entered stage => onDisplay (Display.showStage stage)
    | .emitted v => send v
    | .read _ | .finished _ => pure ()) := by
  cases event with
  | entered stage => exact onDisplay_preserves (Display.showStage_preserves stage)
  | emitted v => exact send_preserves v
  | read _ => exact preserves_pure ()
  | finished _ => exact preserves_pure ()

lemma follow_preserves (event : SplitEvent) : Preserves (Holding server) (follow event) := by
  refine preserves_get.bind fun s => ?_
  dsimp only
  split
  · split
    · exact react_preserves event
    · exact (print_preserves _).bind fun _ => react_preserves event
  · exact react_preserves event

lemma followAll_preserves (events : List SplitEvent) :
    Preserves (Holding server) (followAll events) := by
  induction events with
  | nil => exact preserves_pure ()
  | cons event rest ih => exact (follow_preserves event).bind fun _ => ih

/-- **Splitters.**  A station that follows a splitter goes on holding its keyboard. -/
lemma split_preserves (inbox : Inbox) : Preserves (Holding server) (split inbox) := by
  refine (followAll_preserves _).bind fun _ => ?_
  split
  · exact preserves_pure _
  · exact preserves_throw _

lemma trace_preserves (line : String) : Preserves (Holding server) (trace line) := by
  refine preserves_get.bind fun s => ?_
  split
  · exact print_preserves line
  · exact preserves_pure ()

lemma machineStep_preserves (event : MachineEvent) :
    Preserves (Holding server) (machineStep event) := by
  have hrest : Preserves (Holding server) (do
      if !event.fits then throw (.numeral .unwritable)
      if (← get).traced then print event.traceLine) := by
    dsimp only
    split
    · exact (preserves_throw _).bind fun _ => trace_preserves _
    · exact trace_preserves _
  cases event with
  | sent v => exact (send_preserves v).bind fun _ => hrest
  | fetched pc line => exact hrest
  | executed i changes => exact hrest
  | halted => exact hrest
  | faulted f => exact hrest

lemma Watch.station_see (w : Watch) (event : MachineEvent) :
    (w.see event).station
      = if w.broken.isSome then w.station else stateOf (machineStep event w.station) := by
  rw [Watch.see]
  split
  · rfl
  · cases machineStep event w.station <;> rfl

lemma stateOf_drive (m : Machine) (s : Station) :
    stateOf (drive m s) = (m.drive watcher ⟨s, none⟩).2.2.station := by
  rw [drive]
  split
  next hrun => rw [hrun, stateOf]
  next hrun => rw [hrun, stateOf]
  next hrun => rw [hrun, stateOf]

lemma drive_preserves (m : Machine) : Preserves (Holding server) (drive m) := by
  intro s hs
  rw [stateOf_drive]
  refine Machine.drive_seen (P := fun w => w.station.Holding server) watcher ?_ m ⟨s, none⟩ hs
  intro w event hw
  change (w.see event).station.Holding server
  rw [Watch.station_see]
  split
  · exact hw
  · exact machineStep_preserves event w.station hw

lemma stateOf_ensuring {α : Type} (step : StationM α) (after : StationM Unit) (s : Station) :
    stateOf (ensuring step after s) = stateOf (after (stateOf (step s))) := by
  rw [ensuring]
  cases step s with
  | ok a s' => dsimp only [stateOf]; cases after s' <;> rfl
  | error e s' => dsimp only [stateOf]; cases after s' <;> rfl

lemma ensuring_preserves {α : Type} {step : StationM α} {after : StationM Unit}
    (hstep : Preserves (Holding server) step) (hafter : Preserves (Holding server) after) :
    Preserves (Holding server) (ensuring step after) := by
  intro s hs
  rw [stateOf_ensuring]
  exact hafter _ (hstep s hs)

/-- **Machines.**  A station that follows a machine goes on holding its keyboard. -/
lemma runMachine_preserves (m : Machine) : Preserves (Holding server) (runMachine m) := by
  refine (trace_preserves _).bind fun _ => ?_
  refine (onDisplay_preserves (Display.showRunning_preserves true)).bind fun _ => ?_
  refine (ensuring_preserves (drive_preserves m)
    (onDisplay_preserves (Display.showRunning_preserves false))).bind fun m => ?_
  exact (trace_preserves _).bind fun _ => preserves_pure m

end Station

end Mailroom
