import Mathlib
import Mailroom.CommandLine.Run
import Mailroom.Proofs.DigitExploder
import Mailroom.Proofs.Holding
import Mailroom.Proofs.MapFiles

/-!
# Letting go of the keyboard

There are many ways for the program to end: the server turns the client away, it has no keyboard,
the map cannot be read, the inbox cannot be read, a slip spells no integer, the machine stops with a
fault, or all goes well.  Whenever there is a status in the end, no keyboard is connected any more,
and a client that took a keyboard has been closed.

There are two exceptions, both with an error that is taken for a keyboard that is not available.  A
client whose server has no keyboard is dropped without being closed, and so is one that has taken a
keyboard before the map turns out to be nested too deep.

- `ServedKeyboard.Fresh.connect`: how opening a client can turn out.
- `Panel.disconnect_releases`: a panel that lets go closes the client that it holds.
- `CommandLine.Overtaxes`: a map that is nested too deep.
- `CommandLine.run_lets_go`: every run that ends with a status.
- `CommandLine.run_drops_client`, `CommandLine.run_keeps_client`: runs that leave their client open,
  one for each exception.
-/

namespace Mailroom

/-! ## Opening a client -/

namespace ServedKeyboard

/-- A keyboard that nothing has been asked of. -/
structure Fresh (server : Server) (k : ServedKeyboard) : Prop where
  serving : k.server = server
  unlinked : k.linked = false
  calls : k.calls = []

/-- A keyboard whose client was turned away, so that none was opened. -/
structure TurnedAway (server : Server) (k : ServedKeyboard) : Prop where
  refused : server.refusal ≠ none
  unlinked : k.linked = false
  calls : ∃ host portNumber name, k.calls = [.client host portNumber name]

/-- A client that is open although the server has no keyboard for it. -/
structure Stranded (server : Server) (k : ServedKeyboard) : Prop where
  accepted : server.refusal = none
  unoffered : ¬server.Offers
  calls : Open k.calls

variable {server : Server} {k : ServedKeyboard}

/-- Trouble with a mode or with the words about it does not change that the keyboard is in use. -/
lemma Held.take (h : k.Held server) (d : Device) :
    (k.take d).keyboard.Held server ∧ ((k.take d).result = .ok true ∨
      ∃ t, (k.take d).result = .error (.trouble t) ∧
        (t.kind = .value ∨ d.modeTrouble = some t)) := by
  have hcalls : Open (k.calls ++ [.mode "direct"]) := h.calls.append trivial
  unfold ServedKeyboard.take
  dsimp only
  split
  · split
    · exact ⟨{ h with calls := hcalls }, .inl rfl⟩
    · exact ⟨{ h with calls := hcalls }, .inr ⟨_, rfl, .inl rfl⟩⟩
  next t ht =>
    split
    · split
      · exact ⟨{ h with calls := hcalls }, .inl rfl⟩
      · exact ⟨{ h with calls := hcalls }, .inr ⟨_, rfl, .inl rfl⟩⟩
    · exact ⟨{ h with calls := hcalls }, .inr ⟨t, rfl, .inr ht⟩⟩

/-- An open client finds no keyboard, or takes the first one. -/
lemma find_or_strand (hserving : k.server = server) (haccepted : server.refusal = none)
    (hlinked : k.linked = true) (hopen : Open k.calls) (notes : List String) :
    let reply : Reply ServedKeyboard Bool := match k.server.devices.find? isKeyboard with
      | none => ⟨{ k with device := none }, notes, .ok false⟩
      | some d => k.take d
    (reply.keyboard.Stranded server ∧ reply.result = .ok false) ∨
      reply.keyboard.Held server ∧ (reply.result = .ok true ∨
        ∃ t, reply.result = .error (.trouble t) ∧
          (t.kind = .value ∨ ∃ d ∈ server.devices, d.modeTrouble = some t)) := by
  dsimp only
  rw [hserving]
  cases hfind : server.devices.find? isKeyboard with
  | none =>
      have hunoffered : ¬server.Offers := fun ⟨d, hd, hkeyboard⟩ =>
        List.find?_eq_none.mp hfind d hd hkeyboard
      exact .inl ⟨⟨haccepted, hunoffered, hopen⟩, rfl⟩
  | some d =>
      have hmem : d ∈ server.devices := List.mem_of_find?_eq_some hfind
      have hoffered : server.Offers := ⟨d, hmem, List.find?_some hfind⟩
      obtain ⟨hheld, hresult⟩ := Held.take ⟨hserving, haccepted, hoffered, hlinked, hopen⟩ d
      refine .inr ⟨hheld, hresult.imp_right fun ⟨t, ht, hkind⟩ => ⟨t, ht, ?_⟩⟩
      exact hkind.imp_right fun hmode => ⟨d, hmem, hmode⟩

/-- **Opening.**  The client is turned away, finds no keyboard, or takes one. -/
lemma Fresh.connect (h : k.Fresh server) :
    (k.connect.keyboard.TurnedAway server ∧ k.connect.result ≠ .ok true) ∨
      (k.connect.keyboard.Stranded server ∧ k.connect.result = .ok false) ∨
      k.connect.keyboard.Held server ∧ (k.connect.result = .ok true ∨
        ∃ t, k.connect.result = .error (.trouble t) ∧
          (t.kind = .value ∨ ∃ d ∈ server.devices, d.modeTrouble = some t)) := by
  obtain ⟨hserving, hunlinked, hcalls⟩ := h
  have hclient : k.calls ++ [.client k.host k.portNumber k.name]
      = [.client k.host k.portNumber k.name] := by rw [hcalls, List.nil_append]
  have hopen : Open (k.calls ++ [.client k.host k.portNumber k.name]) :=
    ⟨_, _, _, [], hclient, fun _ hmem => absurd hmem List.not_mem_nil⟩
  unfold ServedKeyboard.connect
  dsimp only [called]
  rw [hserving]
  cases hrefusal : server.refusal with
  | some t =>
      have hrefused : server.refusal ≠ none := by rw [hrefusal]; exact Option.some_ne_none t
      dsimp only
      split
      · exact .inl ⟨⟨hrefused, rfl, _, _, _, hclient⟩, fun hok => by cases hok⟩
      · exact .inl ⟨⟨hrefused, hunlinked, _, _, _, hclient⟩, fun hok => by cases hok⟩
  | none =>
      refine .inr (find_or_strand ?_ hrefusal ?_ ?_ _)
      all_goals split
      · rfl
      · rfl
      · rfl
      · rfl
      · exact hopen.append trivial
      · exact hopen

end ServedKeyboard

/-- A keyboard as the program finds it: one behind a server that nothing has been asked of, or one
that only remembers. -/
def Keyboard.Fresh (server : Server) : Keyboard → Prop
  | .memory _ => True
  | .served k => k.Fresh server

/-! ## Letting go -/

/-- How a keyboard is left by a program that ends with a status: its client was turned away, it has
been closed, or it is still open, either for want of a keyboard or because the map was nested too
deep.  The last is the case if the program is `overtaxed`. -/
def Keyboard.Released (server : Server) (overtaxed : Prop) (status : Nat) : Keyboard → Prop
  | .memory _ => True
  | .served k => k.TurnedAway server ∨
      (server.refusal = none ∧ server.Offers ∧ ¬overtaxed ∧ Closed k.calls) ∨
      (k.Stranded server ∧ status = 1) ∨ (k.Held server ∧ overtaxed ∧ status = 1)

/-- How a panel is left by a program that ends with a status. -/
structure Panel.Released (server : Server) (overtaxed : Prop) (status : Nat) (p : Panel) :
    Prop where
  disconnected : p.isConnected = false
  keyboard : p.keyboard.Released server overtaxed status

lemma ServedKeyboard.Held.disconnect {server : Server} {k : ServedKeyboard} (h : k.Held server) :
    Closed k.disconnect.keyboard.calls := by
  unfold ServedKeyboard.disconnect
  rw [if_pos h.linked]
  split <;> exact ⟨k.calls, h.calls, rfl⟩

lemma ServedKeyboard.TurnedAway.disconnect {server : Server} {k : ServedKeyboard}
    (h : k.TurnedAway server) : k.disconnect.keyboard.TurnedAway server := by
  unfold ServedKeyboard.disconnect
  rw [if_neg (by rw [h.unlinked]; exact Bool.false_ne_true)]
  exact { h with unlinked := rfl }

namespace Panel

variable {server : Server} {overtaxed : Prop} {p q : Panel}

/-- A panel whose keyboard is one that turned its client away. -/
def TurnedAway (server : Server) (p : Panel) : Prop :=
  ∃ k, p.keyboard = .served k ∧ k.TurnedAway server

lemma isConnected_eq_false_of_unlabelled (h : p.labels = none) : p.isConnected = false := by
  rw [isConnected, h, Option.isSome_none, Bool.and_false]

lemma TurnedAway.released (h : p.TurnedAway server) (hlabels : p.labels = none) (status : Nat) :
    p.Released server overtaxed status := by
  obtain ⟨k, hk, haway⟩ := h
  refine ⟨isConnected_eq_false_of_unlabelled hlabels, ?_⟩
  rw [hk]
  exact .inl haway

lemma stateOf_disconnect (p : Panel) : (stateOf (disconnect p)).labels = none ∧
    (stateOf (disconnect p)).keyboard
      = if p.attached then p.keyboard.disconnect.keyboard else p.keyboard := by
  unfold disconnect
  cases hattached : p.attached with
  | false => exact ⟨rfl, rfl⟩
  | true =>
      dsimp only
      cases hresult : p.keyboard.disconnect.result with
      | ok u =>
          rw [ask_ok hresult]
          exact ⟨rfl, rfl⟩
      | error e =>
          rw [ask_error hresult]
          exact ⟨rfl, rfl⟩

/-- **Letting go.**  A panel that lets go closes the client that it holds, whatever trouble that
makes. -/
lemma disconnect_releases (h : p.Holding server) (hcalm : ¬overtaxed) (status : Nat) :
    (stateOf (disconnect p)).Released server overtaxed status := by
  obtain ⟨hlabels, hkeyboard⟩ := stateOf_disconnect p
  refine ⟨isConnected_eq_false_of_unlabelled hlabels, ?_⟩
  rw [hkeyboard, if_pos h.attached]
  have hheld := h.held
  cases hk : p.keyboard with
  | memory k => exact trivial
  | served k =>
      rw [hk] at hheld
      have hclosed := ServedKeyboard.Held.disconnect hheld
      exact .inr (.inl ⟨hheld.accepted, hheld.offered, hcalm, hclosed⟩)

lemma TurnedAway.disconnect_releases (h : p.TurnedAway server) (status : Nat) :
    (stateOf (disconnect p)).Released server overtaxed status := by
  obtain ⟨hlabels, hkeyboard⟩ := stateOf_disconnect p
  obtain ⟨k, hk, haway⟩ := h
  refine TurnedAway.released ?_ hlabels status
  rw [TurnedAway, hkeyboard, hk]
  split
  · exact ⟨_, rfl, haway.disconnect⟩
  · exact ⟨k, rfl, haway⟩

/-! ## Connecting -/

/-- A keyboard that says that it is connected is in use. -/
lemma held_of_connect (hfresh : p.keyboard.Fresh server)
    (hdone : p.keyboard.connect.result = .ok true) : p.keyboard.connect.keyboard.Held server := by
  cases hk : p.keyboard with
  | memory k => exact trivial
  | served k =>
      rw [hk] at hfresh hdone
      rcases ServedKeyboard.Fresh.connect hfresh with
        ⟨-, hresult⟩ | ⟨-, hresult⟩ | ⟨hheld, -⟩
      · exact absurd hdone hresult
      · rw [show k.connect.result = .ok true from hdone] at hresult
        cases hresult
      · exact hheld

lemma connect_holding {map : Option (Except MapError (List LedRow))}
    (hfresh : p.keyboard.Fresh server) (h : connect map p = .ok () q) : q.Holding server := by
  obtain ⟨hdone, hkeyboard, hattached, -, -⟩ := connect_ok h
  exact ⟨hattached, hkeyboard ▸ held_of_connect hfresh hdone⟩

end Panel

/-! ## Runs -/

namespace CommandLine

open Source

variable {around : Surroundings} {p q : Panel} {server : Server} {overtaxed : Prop}

/-- No device of the server answers a switch to another mode with trouble of the kind that is taken
for a keyboard that is not available. -/
def Steady (server : Server) : Prop :=
  ∀ d ∈ server.devices, ∀ t ∈ d.modeTrouble, t.kind ≠ .runtime

lemma unavailable?_trouble {t : Trouble} (h : t.kind ≠ .runtime) :
    unavailable? (.keyboard (.trouble t)) = none := by
  obtain ⟨kind, message⟩ := t
  cases kind with
  | runtime => exact absurd rfl h
  | connection => rfl
  | value => rfl
  | index => rfl
  | other name => rfl

lemma unavailable?_map {flaw : MapError} (h : ∀ opened, flaw ≠ .json (.tooDeep opened)) :
    unavailable? (.map flaw) = none := by
  cases flaw with
  | json e =>
      cases e with
      | tooDeep opened => exact absurd rfl (h opened)
      | flaw what line column offset => rfl
      | numeral e => rfl
  | file e path => rfl
  | undecodable e => rfl
  | notAnObject => rfl
  | notAList => rfl
  | infiniteIndex => rfl
  | nothingGiven => rfl

/-- Trouble arises with a keyboard that is held, and then it is not taken for one that is not
available, or because the client was turned away. -/
lemma connect_of_trouble {k : Keyboard} {trouble : KeyboardError} (hsteady : Steady server)
    (hfresh : k.Fresh server) (h : k.connect.result = .error trouble) :
    (k.connect.keyboard.Held server ∧ unavailable? (.keyboard trouble) = none) ∨
      ∃ k', k.connect.keyboard = .served k' ∧ k'.TurnedAway server := by
  cases k with
  | memory k => cases h
  | served k =>
      change k.connect.result = .error trouble at h
      rcases ServedKeyboard.Fresh.connect hfresh with ⟨haway, -⟩ | ⟨-, hfalse⟩ | ⟨hheld, hresult⟩
      · exact .inr ⟨_, rfl, haway⟩
      · rw [h] at hfalse
        cases hfalse
      · refine .inl ⟨hheld, ?_⟩
        rw [h] at hresult
        rcases hresult with htrue | ⟨t, ht, hkind⟩
        · cases htrue
        · cases ht
          refine unavailable?_trouble fun hruntime => ?_
          rcases hkind with hvalue | ⟨d, hd, hmode⟩
          · rw [hruntime] at hvalue
            cases hvalue
          · exact hsteady d hd t hmode hruntime

/-- A keyboard does not connect because the client was turned away or because there is none. -/
lemma connect_of_refusal (overtaxed : Prop) {k : Keyboard} (hfresh : k.Fresh server)
    (h : k.connect.result = .ok false) :
    (∃ k', k.connect.keyboard = .served k' ∧ k'.TurnedAway server) ∨
      k.connect.keyboard.Released server overtaxed 1 := by
  cases k with
  | memory k => exact .inr trivial
  | served k =>
      change k.connect.result = .ok false at h
      rcases ServedKeyboard.Fresh.connect hfresh with
        ⟨haway, -⟩ | ⟨hstranded, -⟩ | ⟨-, hresult⟩
      · exact .inl ⟨_, rfl, haway⟩
      · exact .inr (.inr (.inr (.inl ⟨hstranded, rfl⟩)))
      · rw [h] at hresult
        rcases hresult with hne | ⟨t, hne, -⟩ <;> cases hne

/-- **A failed connection.**  Unless the map is nested too deep, the keyboard is held and that is
not taken for one that is not available, or the client was turned away, or there is nothing left to
let go of. -/
lemma connect_failure (overtaxed : Prop) {map : Option (Except MapError (List LedRow))}
    {e : PanelError} (hsteady : Steady server) (hfresh : p.keyboard.Fresh server)
    (hmap : p.keyboard.connect.result = .ok true →
      ∀ opened, map ≠ some (.error (.json (.tooDeep opened))))
    (h : Panel.connect map p = .error e q) :
    (q.Holding server ∧ unavailable? e = none) ∨ (q.TurnedAway server ∧ q.labels = none) ∨
      q.Released server overtaxed 1 ∧ loadFailure? e = none := by
  obtain ⟨hkeyboard, hlabels, hcause⟩ := Panel.connect_error h
  rcases hcause with ⟨trouble, rfl, hattached, herror⟩ | ⟨rfl, hfalse⟩ |
    ⟨flaw, rfl, hattached, hok, rfl⟩
  · rcases connect_of_trouble hsteady hfresh herror with ⟨hheld, hnone⟩ | haway
    · exact .inl ⟨⟨hattached, hkeyboard ▸ hheld⟩, hnone⟩
    · rw [← hkeyboard] at haway
      exact .inr (.inl ⟨haway, hlabels⟩)
  · rcases connect_of_refusal overtaxed hfresh hfalse with haway | hreleased
    · rw [← hkeyboard] at haway
      exact .inr (.inl ⟨haway, hlabels⟩)
    · have hdisconnected := Panel.isConnected_eq_false_of_unlabelled hlabels
      exact .inr (.inr ⟨⟨hdisconnected, hkeyboard ▸ hreleased⟩, rfl⟩)
  · have hheld := Panel.held_of_connect hfresh hok
    refine .inl ⟨⟨hattached, hkeyboard ▸ hheld⟩, unavailable?_map fun opened hflaw => ?_⟩
    subst hflaw
    exact hmap hok opened rfl

/-- A keyboard that is said not to be available needs no letting go. -/
lemma released_of_unavailable {map : Option (Except MapError (List LedRow))} {e : PanelError}
    {message : String} (hsteady : Steady server) (hfresh : p.keyboard.Fresh server)
    (hmap : p.keyboard.connect.result = .ok true →
      ∀ opened, map ≠ some (.error (.json (.tooDeep opened))))
    (h : Panel.connect map p = .error e q) (hmessage : unavailable? e = some message) :
    q.Released server overtaxed 1 := by
  rcases connect_failure overtaxed hsteady hfresh hmap h with
    ⟨-, hnone⟩ | ⟨haway, hlabels⟩ | ⟨hreleased, -⟩
  · rw [hnone] at hmessage
    cases hmessage
  · exact haway.released hlabels 1
  · exact hreleased

lemma newPanel_fresh (around : Surroundings) :
    (newPanel around).keyboard.Fresh around.server := by
  dsimp only [newPanel, Settings.chooseKeyboard]
  split
  · exact ⟨rfl, rfl, rfl⟩
  · exact trivial

/-- A run that has let go of the keyboard if it ends with a status, unless it is `overtaxed`. -/
def Outcome.Releases (server : Server) (overtaxed : Prop) (o : Outcome) : Prop :=
  ∀ status, o.status = .ok status → ∀ p ∈ o.panel, p.Released server overtaxed status

lemma Outcome.releases_of_crash {o : Outcome} {e : Crash} (h : o.status = .error e) :
    o.Releases server overtaxed := by
  intro status hstatus
  rw [h] at hstatus
  cases hstatus

lemma Outcome.releases_of_unlit {o : Outcome} (h : o.panel = none) :
    o.Releases server overtaxed := by
  intro status _ p hp
  rw [h] at hp
  cases hp

lemma Outcome.withPanel_releases {o : Outcome}
    (h : ∀ status, o.status = .ok status → p.Released server overtaxed status) :
    (o.withPanel p).Releases server overtaxed := by
  rintro status hstatus _ ⟨⟩
  exact h status hstatus

lemma leave_releases (h : p.Holding server ∨ p.TurnedAway server) (hcalm : ¬overtaxed)
    (o : Outcome) : (leave p o).Releases server overtaxed := by
  have hreleased : ∀ status,
      (stateOf (Panel.disconnect { p with notes := [] })).Released server overtaxed status := by
    intro status
    rcases h with hholding | haway
    · have hquiet : ({ p with notes := [] } : Panel).Holding server :=
        ⟨hholding.attached, hholding.held⟩
      exact Panel.disconnect_releases hquiet hcalm status
    · have hquiet : ({ p with notes := [] } : Panel).TurnedAway server := haway
      exact hquiet.disconnect_releases status
  unfold leave
  split
  next q hrun =>
    rw [hrun] at hreleased
    exact Outcome.withPanel_releases fun status _ => hreleased status
  next e q hrun => exact Outcome.releases_of_crash rfl

lemma exportMap_releases (hsteady : Steady around.server) (hcalm : ¬overtaxed) (folder : String) :
    (exportMap around folder).Releases around.server overtaxed := by
  unfold exportMap
  split
  next e q hconnect =>
    split
    next message hmessage =>
      refine Outcome.withPanel_releases fun status hstatus => ?_
      cases hstatus
      refine released_of_unavailable hsteady (newPanel_fresh around) ?_ hconnect hmessage
      rintro - opened ⟨⟩
    · exact Outcome.releases_of_crash rfl
  next q hconnect =>
    have hholding := Panel.saveMap_preserves around.disk folder q
      (Panel.connect_holding (newPanel_fresh around) hconnect)
    cases hsave : Panel.saveMap around.disk folder q with
    | error e p =>
        dsimp only
        cases Panel.disconnect p <;> exact Outcome.releases_of_crash rfl
    | ok pair p =>
        rw [hsave] at hholding
        have hreleased : (stateOf (Panel.disconnect p)).Released around.server overtaxed 0 :=
          Panel.disconnect_releases hholding hcalm 0
        dsimp only
        cases hrun : Panel.disconnect p with
        | error e p' => exact Outcome.releases_of_crash rfl
        | ok _ p' =>
            rw [hrun] at hreleased
            refine Outcome.withPanel_releases fun status hstatus => ?_
            cases hstatus
            exact hreleased

lemma machineTask_preserves (around : Surroundings) (args : Arguments) (listing : List String)
    (inbox : Inbox) :
    Preserves (Station.Holding server) (machineTask around args listing inbox) := by
  intro s hs
  unfold machineTask
  split
  · exact hs
  next floor _ =>
    dsimp only
    split
    · exact hs
    next m printed _ =>
      have hprinted : ({ s with console := s.console ++ printed } : Station).Holding server := hs
      have hrun := Station.runMachine_preserves m _ hprinted
      split
      next e s' heq => rwa [heq] at hrun
      next m' s' heq => rwa [heq] at hrun

lemma perform_preserves (around : Surroundings) (args : Arguments) (inbox : Inbox) (task : Task) :
    Preserves (Station.Holding server) (perform around args inbox task) := by
  cases task with
  | split =>
      intro s hs
      have hsplit := Station.split_preserves inbox s hs
      unfold perform
      dsimp only
      split
      next heq => rwa [heq] at hsplit
      next heq => rwa [heq] at hsplit
  | machine listing =>
      refine (machineTask_preserves around args listing inbox).bind fun fault => ?_
      split
      · exact preserves_pure _
      · exact preserves_pure _

lemma conclude_fst (result : EStateM.Result Crash Station (Nat × List String)) :
    (conclude result).1 = stateOf result := by
  unfold conclude
  split <;> rfl

lemma cannotRead_panel (status : Nat) (path : String) (e : FileError) :
    (cannotRead status path e).panel = none := by
  unfold cannotRead
  split <;> rfl

/-- **Tasks.**  A task that is carried out with a keyboard lets go of it in the end. -/
lemma runTask_releases (around : Surroundings) (args : Arguments) (task : Task)
    {display : Option Display} (h : ∀ d ∈ display, d.Holding server) (hcalm : ¬overtaxed) :
    (runTask around args task display).Releases server overtaxed := by
  unfold runTask
  split
  next path e _ =>
    dsimp only
    split
    · exact Outcome.releases_of_unlit (cannotRead_panel 2 path e)
    next d _ _ => exact leave_releases (.inl (h d rfl)) hcalm _
    next herror => exact Outcome.releases_of_crash herror
  next inbox _ =>
    have hperform := perform_preserves around args inbox task
      { prints := true, traced := args.debug, display } h
    rw [← conclude_fst] at hperform
    dsimp only
    split
    next hdark =>
      refine Outcome.releases_of_unlit ?_
      split <;> rfl
    next d hlit => exact leave_releases (.inl (hperform d hlit)) hcalm _

/-- The arguments ask for lights, the keyboard connects, and then the map that they name is nested
too deep to be read. -/
structure Overtaxes (around : Surroundings) (args : Arguments) : Prop where
  lit : args.led = true
  unexported : args.exportMap = false
  connected : (newPanel around).keyboard.connect.result = .ok true
  nested : ∃ path opened, args.ledMap.value? = some path ∧
    MapFile.read around.spare path (around.disk.openFile path) = .error (.json (.tooDeep opened))

/-- **Maps that are nested too deep.**  The keyboard has been connected by then, but the program
ends as if it were not available, and leaves it as it is. -/
lemma Overtaxes.runLit {args : Arguments} (h : Overtaxes around args) (task : Task) :
    (runLit around args task).status = .ok 1 ∧ ∃ q, (runLit around args task).panel = some q ∧
      q.labels = none ∧ q.keyboard = (newPanel around).keyboard.connect.keyboard := by
  obtain ⟨path, opened, hpath, hread⟩ := h.nested
  obtain ⟨q, hconnect⟩ := Panel.connect_of_flaw (.json (.tooDeep opened)) h.connected
  have hmisses := Panel.connect_error hconnect
  unfold CommandLine.runLit
  rw [hpath, Option.map_some, hread]
  dsimp only
  rw [hconnect]
  exact ⟨rfl, q, rfl, hmisses.unknown, hmisses.keyboard⟩

lemma Overtaxes.runLit_releases {args : Arguments} (h : Overtaxes around args) (task : Task) :
    (CommandLine.runLit around args task).Releases around.server (Overtaxes around args) := by
  obtain ⟨hone, q, hpanel, hlabels, hkeyboard⟩ := h.runLit task
  intro status hstatus p hp
  rw [hone] at hstatus
  cases hstatus
  rw [hpanel] at hp
  cases hp
  refine ⟨Panel.isConnected_eq_false_of_unlabelled hlabels, ?_⟩
  have hheld := Panel.held_of_connect (newPanel_fresh around) h.connected
  rw [← hkeyboard] at hheld
  cases hk : q.keyboard with
  | memory k => exact trivial
  | served k =>
      rw [hk] at hheld
      exact .inr (.inr (.inr ⟨hheld, h, rfl⟩))

lemma runLit_releases (hsteady : Steady around.server) {args : Arguments} (hled : args.led = true)
    (hexport : args.exportMap = false) (task : Task) :
    (runLit around args task).Releases around.server (Overtaxes around args) := by
  by_cases hcalm : Overtaxes around args
  · exact hcalm.runLit_releases task
  have hfresh := newPanel_fresh around
  have hmap : (newPanel around).keyboard.connect.result = .ok true → ∀ opened,
      args.ledMap.value?.map (fun path => MapFile.read around.spare path
        (around.disk.openFile path)) ≠ some (.error (.json (.tooDeep opened))) := by
    intro hdone opened hdeep
    obtain ⟨path, hpath, hread⟩ := Option.map_eq_some_iff.mp hdeep
    exact hcalm ⟨hled, hexport, hdone, path, opened, hpath, hread⟩
  unfold runLit
  dsimp only
  split
  next e q hconnect =>
    split
    next message hload =>
      -- what could not be loaded may have left a keyboard to let go of
      have hleave : q.Holding around.server ∨ q.TurnedAway around.server := by
        rcases connect_failure (Overtaxes around args) hsteady hfresh hmap hconnect with
          ⟨hholding, -⟩ | ⟨haway, -⟩ | ⟨-, hnone⟩
        · exact .inl hholding
        · exact .inr haway
        · rw [hnone] at hload
          cases hload
      have hreleases := leave_releases hleave hcalm (stop 1 ["[ERROR] cannot load LED map "
        ++ args.ledMap.shown ++ ": " ++ message])
      split
      · exact Outcome.releases_of_crash rfl
      · exact hreleases
    next message _ hmessage =>
      refine Outcome.withPanel_releases fun status hstatus => ?_
      cases hstatus
      exact released_of_unavailable hsteady hfresh hmap hconnect hmessage
    · exact Outcome.releases_of_crash rfl
  next q hconnect =>
    have hholding := Panel.clear_preserves args.debug q (Panel.connect_holding hfresh hconnect)
    split
    · exact Outcome.releases_of_crash rfl
    next p hclear =>
      rw [hclear] at hholding
      have hquiet : ∀ d ∈ some ({ panel := { p with notes := [] } } : Display),
          d.Holding around.server := by
        rintro _ ⟨⟩
        exact ⟨hholding.attached, hholding.held⟩
      exact runTask_releases around args task hquiet hcalm

lemma sourceListing_panel {path : String} {o : Outcome} (h : sourceListing around path = .error o) :
    o.panel = none := by
  unfold sourceListing at h
  split at h
  · cases h
    exact cannotRead_panel 3 path _
  split at h
  · cases h
    rfl
  split at h
  · cases h
  split at h
  · cases h
    rfl
  · cases h
    rfl

lemma listingFor_panel {listings : List (String × List String)} {args : Arguments} {o : Outcome}
    (h : listingFor around listings args = .error o) : o.panel = none := by
  unfold listingFor at h
  split at h
  · exact sourceListing_panel h
  · cases h
    rfl
  · cases h

lemma printListing_panel (lines : List String) : (printListing lines).panel = none := by
  unfold printListing
  split <;> rfl

lemma runArguments_releases (hsteady : Steady around.server) (data : String)
    (listings : List (String × List String)) (args : Arguments) :
    (runArguments around data listings args).Releases around.server (Overtaxes around args) := by
  unfold runArguments
  split
  next hexport =>
    refine exportMap_releases hsteady (fun h => ?_) _
    rw [h.unexported] at hexport
    cases hexport
  next hexport =>
    split
    next o hlisting => exact Outcome.releases_of_unlit (listingFor_panel hlisting)
    dsimp only
    split
    · exact Outcome.releases_of_unlit (printListing_panel _)
    split
    next hled => exact runLit_releases hsteady hled (Bool.eq_false_of_not_eq_true hexport) _
    next hled => exact runTask_releases around args _ (fun d hd => by cases hd) fun h => hled h.lit

lemma runArguments_lit {data : String} {listings : List (String × List String)} {args : Arguments}
    {listing : List String} (hexport : args.exportMap = false)
    (hlisting : listingFor around listings args = .ok listing) (hprint : args.listing = false)
    (hled : args.led = true) :
    runArguments around data listings args = runLit around args (taskFor args listing) := by
  rw [runArguments, hexport, hlisting]
  dsimp only
  rw [hprint, hled]
  rfl

lemma run_releases (hsteady : Steady around.server) {words : List String} {args : Arguments}
    (hread : Arguments.read around.settings.debug words = .ok args) :
    (run around words).Releases around.server (Overtaxes around args) := by
  unfold run
  rw [hread]
  split
  · exact Outcome.releases_of_crash rfl
  · exact Outcome.releases_of_crash rfl
  dsimp only
  split
  · exact Outcome.releases_of_unlit rfl
  · exact runArguments_releases hsteady _ _ _

lemma bundledListings_hundred :
    bundledListings 100 = .ok [("digit_exploder", render explodeOps)] := by
  rw [bundledListings, bundled, List.mapM_cons, List.mapM_nil]
  dsimp only
  rw [listing_digitExploder]
  rfl

/-- A server with some devices and perhaps a file, and else an empty disk, no input and the usual
settings. -/
def offering (devices : List Device) (file : FileBytes) (spare : Nat) : Surroundings :=
  { settings := {}
    data := .ok "data"
    disk :=
      { read := fun _ => file
        has := fun _ => .ok false
        folderTrouble := fun _ => none
        fileTrouble := fun _ _ => none }
    input := []
    server := { devices }
    ledNames := []
    spare }

lemma run_offering {devices : List Device} {file : FileBytes} {spare : Nat} {words : List String}
    {args : Arguments}
    (hread : Arguments.read false words = .ok args) (hhelp : args.help = false) :
    run (offering devices file spare) words
      = runArguments (offering devices file spare) "data" [("digit_exploder", render explodeOps)]
          args := by
  rw [run, show (offering devices file spare).settings.floorSize = 100 from rfl,
    bundledListings_hundred]
  dsimp only [offering]
  rw [hread]
  dsimp only
  rw [hhelp]
  rfl

lemma status_eq_ok {result : Except Crash Nat} {status : Nat}
    (h : result.toOption = some status) : result = .ok status := by
  cases result with
  | error e => cases h
  | ok n => exact congrArg Except.ok (Option.some.inj h)

/-- **Letting go.**  Whenever the program ends with a status, no keyboard is connected any more.  A
client that was turned away was never opened; one that was opened has been closed as the last thing,
if the server has a keyboard and the map is not nested too deep.  If the server has none, or if it
is connected and then the map is nested too deep, the client is left open, and the status is 1. -/
theorem run_lets_go {words : List String} {args : Arguments} {status : Nat}
    (hsteady : ∀ d ∈ around.server.devices, ∀ t ∈ d.modeTrouble, t.kind ≠ .runtime)
    (hread : Arguments.read around.settings.debug words = .ok args)
    (hstatus : (run around words).status = .ok status)
    (hpanel : (run around words).panel = some p) :
    p.isConnected = false ∧ ∀ k, p.keyboard = .served k →
      (around.server.refusal ≠ none →
        ∃ host portNumber name, k.calls = [.client host portNumber name]) ∧
      (around.server.refusal = none → around.server.Offers → ¬Overtaxes around args →
        Closed k.calls) ∧
      (around.server.refusal = none → ¬around.server.Offers ∨ Overtaxes around args →
        Open k.calls ∧ status = 1) := by
  obtain ⟨hdisconnected, hkeyboard⟩ := run_releases hsteady hread status hstatus p hpanel
  refine ⟨hdisconnected, fun k hk => ?_⟩
  rw [hk] at hkeyboard
  rcases hkeyboard with haway | ⟨haccepted, hoffered, hcalm, hclosed⟩ | ⟨hstranded, hone⟩ |
    ⟨hheld, hovertaxed, hone⟩
  · exact ⟨fun _ => haway.calls, fun h => absurd h haway.refused, fun h => absurd h haway.refused⟩
  · refine ⟨fun h => absurd haccepted h, fun _ _ _ => hclosed, fun _ h => ?_⟩
    rcases h with hnone | hovertaxed
    · exact absurd hoffered hnone
    · exact absurd hovertaxed hcalm
  · exact ⟨fun h => absurd hstranded.accepted h, fun _ h => absurd h hstranded.unoffered,
      fun _ _ => ⟨hstranded.calls, hone⟩⟩
  · exact ⟨fun h => absurd hheld.accepted h, fun _ _ h => absurd hovertaxed h,
      fun _ _ => ⟨hheld.calls, hone⟩⟩

/-- With a keyboard to be had, an inbox that cannot be read ends the program, and the client is
closed. -/
theorem run_lets_go_unreadable : ∃ p k,
    (run (offering [⟨"keyboard", none, [], none⟩] (.error .missing) 986)
        ["--led", "-f", "nowhere"]).status = .ok 2 ∧
      (run (offering [⟨"keyboard", none, [], none⟩] (.error .missing) 986)
        ["--led", "-f", "nowhere"]).panel = some p ∧
      p.keyboard = .served k ∧ p.isConnected = false ∧ Closed k.calls := by
  have hread : Arguments.read false ["--led", "-f", "nowhere"]
      = .ok { led := true, file := .text "nowhere" } := by decide +kernel
  have hstatus : (run (offering [⟨"keyboard", none, [], none⟩] (.error .missing) 986)
      ["--led", "-f", "nowhere"]).status = .ok 2 := by
    rw [run_offering hread rfl]
    exact status_eq_ok (by decide +kernel)
  have hkeyboard : (run (offering [⟨"keyboard", none, [], none⟩] (.error .missing) 986)
      ["--led", "-f", "nowhere"]).keyboard = some (.served
        { ({} : Settings).servedKeyboard { devices := [⟨"keyboard", none, [], none⟩] } "" 0
          with calls := [.client "127.0.0.1" 6742 "DigitExploder", .mode "direct", .all .black,
            .close] }) := by
    rw [run_offering hread rfl]
    decide +kernel
  obtain ⟨p, hpanel, hk⟩ := Option.map_eq_some_iff.mp hkeyboard
  obtain ⟨hdisconnected, hcalls⟩ := run_lets_go (by decide) hread hstatus hpanel
  have hoffers : (offering [⟨"keyboard", none, [], none⟩] (.error .missing) 986).server.Offers :=
    ⟨_, List.mem_singleton_self _, by decide +kernel⟩
  -- no map is named, so none is nested too deep
  have hcalm : ¬Overtaxes (offering [⟨"keyboard", none, [], none⟩] (.error .missing) 986)
      { led := true, file := .text "nowhere" } := by
    rintro ⟨-, -, -, path, opened, hpath, -⟩
    cases hpath
  exact ⟨p, _, hstatus, hpanel, hk, hdisconnected, (hcalls _ hk).2.1 rfl hoffers hcalm⟩

/-- With nothing but a mouse to be had, the program ends with a status and has closed nothing. -/
theorem run_drops_client : ∃ p k,
    (run (offering [⟨"mouse", none, [], none⟩] (.error .missing) 986) ["--led", "7"]).status
        = .ok 1 ∧
      (run (offering [⟨"mouse", none, [], none⟩] (.error .missing) 986) ["--led", "7"]).panel
        = some p ∧
      p.keyboard = .served k ∧ k.server.refusal = none ∧
      k.calls = [.client "127.0.0.1" 6742 "DigitExploder"] := by
  have hread : Arguments.read false ["--led", "7"]
      = .ok { led := true, values := ["7"] } := by decide +kernel
  rw [run_offering hread rfl]
  exact ⟨_, _, rfl, rfl, rfl, rfl, rfl⟩

/-- A file of opening brackets, one more than there is room for. -/
def bracketFile (spare : Nat) : FileBytes :=
  .ok (String.ofList (List.replicate (spare + 4) '[')).toUTF8.data.toList

lemma read_bracketFile (spare : Nat) (path : String) :
    MapFile.read spare path (bracketFile spare) = .error (.json (.tooDeep .array)) := by
  have hplain : '\r' ∉ List.replicate (spare + 4) '[' := fun hmem =>
    absurd (List.eq_of_mem_replicate hmem) (by decide)
  have hparse := Text.Json.parse_brackets (spare + 3) []
  rw [List.append_nil] at hparse
  rw [bracketFile, MapFile.read, readText, Text.Utf8.decode_toUTF8, Except.map,
    String.toList_ofList, Text.unifyNewlines_eq_self hplain]
  dsimp only
  rw [MapFile.ofText, hparse]

/-- However much room there is, some map is nested too deep: the keyboard that was to be had has
been taken, and the program ends with a status and has closed nothing. -/
theorem run_keeps_client (spare : Nat) : ∃ p k,
    (run (offering [⟨"keyboard", none, [], none⟩] (bracketFile spare) spare)
        ["--led", "--led-map", "map", "7"]).status = .ok 1 ∧
      (run (offering [⟨"keyboard", none, [], none⟩] (bracketFile spare) spare)
        ["--led", "--led-map", "map", "7"]).panel = some p ∧
      p.keyboard = .served k ∧
      k.calls = [.client "127.0.0.1" 6742 "DigitExploder", .mode "direct"] := by
  have hread : Arguments.read false ["--led", "--led-map", "map", "7"]
      = .ok { led := true, ledMap := .text "map", values := ["7"] } := by decide +kernel
  have hserved : (newPanel (offering [⟨"keyboard", none, [], none⟩] (bracketFile spare)
      spare)).keyboard = .served (({} : Settings).servedKeyboard
        { devices := [⟨"keyboard", none, [], none⟩] } "" 0) := rfl
  have hconnected : (newPanel (offering [⟨"keyboard", none, [], none⟩] (bracketFile spare)
      spare)).keyboard.connect.result = .ok true := by
    rw [hserved]
    decide +kernel
  have hovertaxes : Overtaxes
      (offering [⟨"keyboard", none, [], none⟩] (bracketFile spare) spare)
      { led := true, ledMap := .text "map", values := ["7"] } :=
    ⟨rfl, rfl, hconnected, "map", .array, rfl, read_bracketFile spare "map"⟩
  rw [run_offering hread rfl, runArguments_lit rfl rfl rfl rfl]
  generalize taskFor _ _ = task
  obtain ⟨hstatus, p, hpanel, -, hkeyboard⟩ := hovertaxes.runLit task
  rw [hserved] at hkeyboard
  refine ⟨p, _, hstatus, hpanel, hkeyboard, ?_⟩
  decide +kernel

end CommandLine

end Mailroom
