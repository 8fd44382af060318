import Mailroom.Floor
import Mailroom.Inbox
import Mailroom.Listing.Program

/-!
# The mailroom machine

The machine has one hand, which may be empty, a floor, an inbox and an outbox.  It runs a loaded
listing from its first instruction on.  It halts when it asks an empty inbox for a value, or when no
instruction is left.  Using an empty hand, an unknown label or an address without a tile is a fault,
and so is running more than a given number of instructions without reading a value.

A step says what happened by a list of events, in order, so that the outbox, a trace and a display
can follow it without a part in the machine.

This follows the program's `Machine` with its `PC`, its `IR` and `MachineFault`.

- `Machine`: the state.
- `Machine.carryOut`: an instruction, made of steps that end where one of them comes to a fault.
- `Machine.step`: one instruction fetched and carried out.
- `Machine.execute_withRest`: all instructions but the one that reads have no part in the inbox and
  the counters.
- `Machine.drive`: instructions until the machine halts, with an observer of all that happens.
-/

namespace Mailroom

open Text

/-- Why an instruction cannot be carried out. -/
inductive FaultCause where
  | stepLimit (most : Int)
  | emptyHand (mnemonic : String)
  | unknownLabel (label : String)
  | offFloor (e : FloorError)
  deriving DecidableEq, Repr

/-- The wording of a cause. -/
def FaultCause.message : FaultCause → String
  | .stepLimit most =>
    "step limit " ++ Numeral.text most ++ " exceeded without reading the inbox"
  | .emptyHand mnemonic => mnemonic ++ " with empty hand"
  | .unknownLabel label => "unknown label " ++ quoted label
  | .offFloor e => e.message

/-- A cause with the address and the line of its instruction. -/
structure Fault where
  cause : FaultCause
  pc : Nat
  line : Nat
  deriving DecidableEq, Repr

/-- The state of a machine. -/
structure Machine where
  program : Program := {}
  floor : Floor
  inbox : Inbox
  /-- How many instructions may run without a value being read. -/
  maxSteps : Int
  /-- The address of the next instruction. -/
  pc : Nat := 0
  /-- How many jumps have been taken. -/
  jumps : Nat := 0
  hand : Option Int := none
  /-- The instruction that was fetched last. -/
  current : Option Row := none
  halted : Bool := false
  fault : Option Fault := none
  /-- How many instructions have been fetched. -/
  steps : Nat := 0
  /-- How many of them since the last value was read. -/
  idle : Nat := 0
  /-- The values sent to the outbox. -/
  emitted : Array Int := #[]

/-- Something that an instruction has changed. -/
inductive Change where
  | hand (v : Int)
  | tile (address v : Int)
  deriving DecidableEq, Repr

/-- What happens while a machine runs. -/
inductive MachineEvent where
  /-- The instruction at an address is about to be carried out. -/
  | fetched (pc : Nat) (line : String)
  /-- A value goes to the outbox. -/
  | sent (v : Int)
  /-- An instruction has been carried out. -/
  | executed (i : Instr) (changes : List Change)
  | halted
  | faulted (f : Fault)
  deriving DecidableEq, Repr

namespace Machine

/-- How a step ended. -/
inductive Outcome where
  | running
  | stopped
  | fault (f : Fault)
  | failed (e : InboxError)
  deriving DecidableEq, Repr

/-- What a step leaves behind. -/
structure Turn where
  machine : Machine
  events : List MachineEvent
  outcome : Outcome

/-! ## Instructions

An instruction is made of small steps.  Where one of them comes to a fault the work ends there and
then, and what has been done by then stays done. -/

/-- A machine at work on an instruction, and what has happened since the work began. -/
structure Bench where
  machine : Machine
  events : List MachineEvent := []

/-- What ends the work on an instruction early. -/
inductive Trouble where
  | fault (cause : FaultCause)
  | failed (e : InboxError)
  deriving DecidableEq, Repr

/-- Steps that an instruction is made of; in trouble, those taken so far stay. -/
abbrev Work := EStateM Trouble Bench

/-- Something happens. -/
def say (event : MachineEvent) : Work Unit := fun b =>
  .ok () { b with events := b.events ++ [event] }

/-- The machine is changed. -/
def alter (f : Machine → Machine) : Work Unit := fun b =>
  .ok () { b with machine := f b.machine }

/-- The value in the hand, which an instruction needs. -/
def needHand (i : Instr) : Work Int := fun b =>
  match b.machine.hand with
  | some v => .ok v b
  | none => .error (.fault (.emptyHand i.mnemonic)) b

/-- A step on the floor, seen from an instruction. -/
def onFloor {α : Type} (r : Except FloorError α) : Except FaultCause α :=
  match r with
  | .ok a => .ok a
  | .error e => .error (.offFloor e)

/-- The floor is asked for something. -/
def askFloor {α : Type} (ask : Floor → Except FloorError α) : Work α := fun b =>
  match onFloor (ask b.machine.floor) with
  | .ok a => .ok a b
  | .error cause => .error (.fault cause) b

/-- The tile that an operand means. -/
def findTile (t : Tile) : Work Int :=
  askFloor (·.resolve t.address t.indirect)

/-- What lies on a tile. -/
def readTile (address : Int) : Work Int :=
  askFloor (·.get address)

/-- Something else is put on a tile. -/
def writeTile (address v : Int) : Work Unit := do
  let floor ← askFloor (·.set address v)
  alter fun m => { m with floor }

/-- Something is taken into the hand. -/
def grasp (v : Int) : Work Unit :=
  alter fun m => { m with hand := some v }

/-- The next instruction comes next. -/
def moveOn : Work Unit :=
  alter fun m => { m with pc := m.pc + 1 }

/-- The instruction that a label stands for comes next. -/
def goTo (label : String) : Work Unit := fun b =>
  match b.machine.program.address? label with
  | none => .error (.fault (.unknownLabel label)) b
  | some address => alter (fun m => { m with pc := address, jumps := m.jumps + 1 }) b

/-- Takes a value out of the inbox.  An empty inbox halts the machine.  The result says whether the
machine goes on. -/
def executeInbox : Work Bool := fun b =>
  match b.machine.inbox.next with
  | (.empty, _) => .ok false ⟨{ b.machine with halted := true }, b.events ++ [.halted]⟩
  | (.failed e, inbox) => .error (.failed e) ⟨{ b.machine with inbox }, b.events⟩
  | (.value v, inbox) =>
    .ok true ⟨{ b.machine with inbox, hand := some v, idle := 0, pc := b.machine.pc + 1 },
      b.events ++ [.executed .inbox [.hand v]]⟩

/-- Sends what is in the hand to the outbox, which leaves the hand empty. -/
def executeOutbox : Work Unit := do
  let v ← needHand .outbox
  say (.sent v)
  alter fun m => { m with emitted := m.emitted.push v }
  alter fun m => { m with hand := none }
  moveOn

/-- Carries out an instruction on a tile. -/
def executeTile (op : TileOp) (t : Tile) : Work (List Change) :=
  match op with
  | .copyFrom => do
    let address ← findTile t
    let v ← readTile address
    grasp v
    return [.hand v]
  | .copyTo => do
    let v ← needHand (.tile op t)
    let address ← findTile t
    writeTile address v
    return [.tile address v]
  | .add => do
    let v ← needHand (.tile op t)
    let address ← findTile t
    let w ← readTile address
    grasp (v + w)
    return [.hand (v + w)]
  | .sub => do
    let v ← needHand (.tile op t)
    let address ← findTile t
    let w ← readTile address
    grasp (v - w)
    return [.hand (v - w)]
  | .bumpUp => do
    let address ← findTile t
    let w ← readTile address
    writeTile address (w + 1)
    grasp (w + 1)
    return [.tile address (w + 1), .hand (w + 1)]
  | .bumpDown => do
    let address ← findTile t
    let w ← readTile address
    writeTile address (w - 1)
    grasp (w - 1)
    return [.tile address (w - 1), .hand (w - 1)]

/-- Whether a jump is taken. -/
def takesJump (kind : JumpKind) (label : String) : Work Bool :=
  match kind with
  | .always => return true
  | .ifZero => return (← needHand (.jump kind label)) == 0
  | .ifNegative => return decide ((← needHand (.jump kind label)) < 0)

/-- Carries out a jump, which goes to the label or to the next instruction. -/
def executeJump (kind : JumpKind) (label : String) : Work Unit := do
  if ← takesJump kind label then goTo label else moveOn

/-- Carries out an instruction.  The result says whether the machine goes on. -/
def carryOut (i : Instr) : Work Bool :=
  match i with
  | .inbox => executeInbox
  | .outbox => do
    executeOutbox
    say (.executed i [])
    return true
  | .tile op t => do
    let changes ← executeTile op t
    moveOn
    say (.executed i changes)
    return true
  | .jump kind label => do
    executeJump kind label
    say (.executed i [])
    return true

/-- Carries out the instruction of a row that has been fetched. -/
def execute (m : Machine) (row : Row) : Turn :=
  match carryOut row.instr { machine := m } with
  | .ok goesOn b => ⟨b.machine, b.events, if goesOn then .running else .stopped⟩
  | .error (.fault cause) b => ⟨b.machine, b.events, .fault ⟨cause, b.machine.pc, row.number⟩⟩
  | .error (.failed e) b => ⟨b.machine, b.events, .failed e⟩

/-- One step: the next instruction is fetched and carried out.  A machine that has halted stays as
it is. -/
def step (m : Machine) : Turn :=
  if m.halted then ⟨m, [], .stopped⟩
  else
    match m.program.fetch? m.pc with
    | none => ⟨{ m with halted := true }, [.halted], .stopped⟩
    | some row =>
      if m.maxSteps ≤ m.idle then ⟨m, [], .fault ⟨.stepLimit m.maxSteps, m.pc, row.number⟩⟩
      else
        let fetched :=
          { m with steps := m.steps + 1, idle := m.idle + 1, current := some row }
        let turn := fetched.execute row
        { turn with events := .fetched m.pc row.line :: turn.events }

/-! ## What an instruction has no part in

Only reading the inbox touches the inbox and the counters.  All other instructions neither look at
them nor change them: they do the same when these are replaced (`Blind`), and so leave them as they
are. -/

/-- A machine that has the inbox, the counters and what tells of its end from another one. -/
def withRest (m other : Machine) : Machine :=
  { m with
    inbox := other.inbox, maxSteps := other.maxSteps, current := other.current,
    halted := other.halted, fault := other.fault, steps := other.steps, idle := other.idle }

/-- The same for a machine at work. -/
def Bench.withRest (b : Bench) (other : Machine) : Bench :=
  { b with machine := b.machine.withRest other }

/-- The same for what work comes to. -/
def resultWithRest {α : Type} (r : EStateM.Result Trouble Bench α) (other : Machine) :
    EStateM.Result Trouble Bench α :=
  match r with
  | .ok a b => .ok a (b.withRest other)
  | .error e b => .error e (b.withRest other)

/-- The same for what a step leaves behind. -/
def Turn.withRest (t : Turn) (other : Machine) : Turn :=
  { t with machine := t.machine.withRest other }

/-- Steps that have no part in the inbox, the counters and the end. -/
def Blind {α : Type} (x : Work α) : Prop :=
  ∀ (b : Bench) (other : Machine), x (b.withRest other) = resultWithRest (x b) other

theorem Blind.bind {α β : Type} {x : Work α} {f : α → Work β} (hx : Blind x)
    (hf : ∀ a, Blind (f a)) : Blind (x >>= f) := by
  intro b other
  change EStateM.bind x f (b.withRest other) = resultWithRest (EStateM.bind x f b) other
  unfold EStateM.bind
  rw [hx b other]
  cases x b with
  | ok a b' => exact hf a b' other
  | error e b' => rfl

theorem blind_pure {α : Type} (a : α) : Blind (pure a) :=
  fun _ _ => rfl

theorem blind_say (event : MachineEvent) : Blind (say event) :=
  fun _ _ => rfl

theorem blind_alter {f : Machine → Machine}
    (h : ∀ m other, f (m.withRest other) = (f m).withRest other) : Blind (alter f) := by
  intro b other
  exact congrArg (fun m => EStateM.Result.ok () { b with machine := m }) (h b.machine other)

theorem blind_moveOn : Blind moveOn :=
  blind_alter fun _ _ => rfl

theorem blind_grasp (v : Int) : Blind (grasp v) :=
  blind_alter fun _ _ => rfl

theorem blind_needHand (i : Instr) : Blind (needHand i) := by
  intro b other
  change (match b.machine.hand with | some v => _ | none => _) = _
  unfold needHand
  cases b.machine.hand <;> rfl

theorem blind_askFloor {α : Type} (ask : Floor → Except FloorError α) : Blind (askFloor ask) := by
  intro b other
  change (match onFloor (ask b.machine.floor) with | .ok a => _ | .error cause => _) = _
  unfold askFloor
  cases onFloor (ask b.machine.floor) <;> rfl

theorem blind_goTo (label : String) : Blind (goTo label) := by
  intro b other
  change (match b.machine.program.address? label with | none => _ | some address => _) = _
  unfold goTo
  cases b.machine.program.address? label <;> rfl

theorem blind_writeTile (address v : Int) : Blind (writeTile address v) :=
  (blind_askFloor _).bind fun _ => blind_alter fun _ _ => rfl

theorem blind_executeOutbox : Blind executeOutbox :=
  (blind_needHand _).bind fun _ => (blind_say _).bind fun _ =>
    (blind_alter fun _ _ => rfl).bind fun _ => (blind_alter fun _ _ => rfl).bind fun _ =>
      blind_moveOn

theorem blind_executeTile (op : TileOp) (t : Tile) : Blind (executeTile op t) := by
  cases op with
  | copyFrom =>
      exact (blind_askFloor _).bind fun _ => (blind_askFloor _).bind fun _ =>
        (blind_grasp _).bind fun _ => blind_pure _
  | copyTo =>
      exact (blind_needHand _).bind fun _ => (blind_askFloor _).bind fun _ =>
        (blind_writeTile _ _).bind fun _ => blind_pure _
  | add | sub =>
      exact (blind_needHand _).bind fun _ => (blind_askFloor _).bind fun _ =>
        (blind_askFloor _).bind fun _ => (blind_grasp _).bind fun _ => blind_pure _
  | bumpUp | bumpDown =>
      exact (blind_askFloor _).bind fun _ => (blind_askFloor _).bind fun _ =>
        (blind_writeTile _ _).bind fun _ => (blind_grasp _).bind fun _ => blind_pure _

theorem blind_executeJump (kind : JumpKind) (label : String) : Blind (executeJump kind label) := by
  have htakes : Blind (takesJump kind label) := by
    cases kind with
    | always => exact blind_pure _
    | ifZero | ifNegative => exact (blind_needHand _).bind fun _ => blind_pure _
  refine htakes.bind fun taken => ?_
  cases taken with
  | false => exact blind_moveOn
  | true => exact blind_goTo label

theorem blind_carryOut {i : Instr} (h : i ≠ .inbox) : Blind (carryOut i) := by
  cases i with
  | inbox => exact absurd rfl h
  | outbox =>
      exact blind_executeOutbox.bind fun _ => (blind_say _).bind fun _ => blind_pure _
  | tile op t =>
      exact (blind_executeTile op t).bind fun _ => blind_moveOn.bind fun _ =>
        (blind_say _).bind fun _ => blind_pure _
  | jump kind label =>
      exact (blind_executeJump kind label).bind fun _ => (blind_say _).bind fun _ => blind_pure _

/-- An instruction that reads no value does the same whatever the rest of the machine is. -/
theorem execute_withRest {row : Row} (h : row.instr ≠ .inbox) (m other : Machine) :
    (m.withRest other).execute row = (m.execute row).withRest other := by
  have hblind := blind_carryOut h { machine := m } other
  unfold execute
  rw [show ({ machine := m.withRest other } : Bench)
    = ({ machine := m } : Bench).withRest other from rfl, hblind]
  cases carryOut row.instr { machine := m } with
  | ok goesOn b => rfl
  | error e b => cases e <;> rfl

/-- So it leaves the rest as it is. -/
theorem execute_rest {row : Row} (h : row.instr ≠ .inbox) (m : Machine) :
    (m.execute row).machine = (m.execute row).machine.withRest m :=
  congrArg Turn.machine (execute_withRest h m m)

/-- Reading the inbox as a whole. -/
theorem execute_inbox {row : Row} (h : row.instr = .inbox) (m : Machine) :
    m.execute row = match m.inbox.next with
      | (.empty, _) => ⟨{ m with halted := true }, [.halted], .stopped⟩
      | (.failed e, inbox) => ⟨{ m with inbox }, [], .failed e⟩
      | (.value v, inbox) =>
        ⟨{ m with inbox, hand := some v, idle := 0, pc := m.pc + 1 },
          [.executed .inbox [.hand v]], .running⟩ := by
  unfold execute
  rw [h, carryOut, executeInbox]
  rcases m.inbox.next with ⟨_ | _ | _, _⟩ <;> rfl

/-! ## Runs

Each step of a run reads a value, or uses up one of the instructions that may run without one. -/

/-- What a run still has ahead: values to read, then instructions that may run without one. -/
def budget (m : Machine) : Nat × Nat :=
  (m.inbox.remaining, (m.maxSteps - m.idle).toNat)

theorem next_remaining {inbox inbox' : Inbox} {v : Int} (h : inbox.next = (.value v, inbox')) :
    inbox'.remaining < inbox.remaining := by
  unfold Inbox.next at h
  split at h <;> cases h
  rename_i hp
  simp [Inbox.remaining, hp]

theorem execute_running {m : Machine} {row : Row} (h : (m.execute row).outcome = .running) :
    (m.execute row).machine.inbox.remaining < m.inbox.remaining ∨
      (m.execute row).machine.budget = m.budget := by
  by_cases hinbox : row.instr = .inbox
  · rw [execute_inbox hinbox] at h ⊢
    rcases hnext : m.inbox.next with ⟨_ | _ | _, inbox⟩
    · exact Or.inl (next_remaining hnext)
    · rw [hnext] at h
      cases h
    · rw [hnext] at h
      cases h
  · rw [execute_rest hinbox]
    exact Or.inr rfl

theorem step_budget {m : Machine} {turn : Turn} (ht : m.step = turn)
    (h : turn.outcome = .running) :
    Prod.Lex (· < ·) (· < ·) turn.machine.budget m.budget := by
  unfold step at ht
  split at ht
  · subst ht; simp at h
  · split at ht
    · subst ht; simp at h
    · split at ht
      · subst ht; simp at h
      · rename_i hidle
        subst ht
        rcases execute_running h with hread | hkept
        · exact Prod.Lex.left _ _ hread
        · dsimp only
          rw [hkept]
          apply Prod.Lex.right
          dsimp only
          omega

/-- Whoever follows a run: what becomes of what they have seen, and when they give up. -/
structure Observer (σ : Type) where
  see : σ → MachineEvent → σ
  givesUp : σ → Bool

/-- Runs until the machine halts, a fault arises, a slip is spoiled or the observer gives up.  A
fault halts the machine and is kept, unless it makes the observer give up. -/
def drive {σ : Type} (m : Machine) (observer : Observer σ) (seen : σ) :
    Option InboxError × Machine × σ :=
  let turn := m.step
  let seen := turn.events.foldl observer.see seen
  if observer.givesUp seen then (none, turn.machine, seen)
  else
    match _h : turn.outcome with
    | .running => turn.machine.drive observer seen
    | .stopped => (none, turn.machine, seen)
    | .failed e => (some e, turn.machine, seen)
    | .fault f =>
      let seen := observer.see seen (.faulted f)
      if observer.givesUp seen then (none, turn.machine, seen)
      else (none, { turn.machine with halted := true, fault := some f }, seen)
termination_by m.budget
decreasing_by exact step_budget rfl _h

/-- Runs without an observer. -/
def run (m : Machine) : Option InboxError × Machine :=
  let (error, m, _) := m.drive ⟨fun _ _ => (), fun _ => false⟩ ()
  (error, m)

/-- Loads a listing.  A listing with a flaw replaces the one before as far as it goes, and leaves
the rest of the machine as it is. -/
def load (m : Machine) (lines : List String) : Machine × Option LineError :=
  match Program.load lines with
  | (program, some e) => ({ m with program }, some e)
  | (program, none) =>
    ({ program, floor := m.floor, inbox := m.inbox, maxSteps := m.maxSteps }, none)

end Machine

end Mailroom
