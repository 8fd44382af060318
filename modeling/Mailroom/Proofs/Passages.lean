import Mathlib
import Mailroom.Proofs.Execution

/-!
# The states that a run passes

A run takes one step after another for as long as the machine goes on.  `Machine.Passes` tells the
states that it comes to, with the addresses of the instructions that have been carried out by then.
`Machine.Visits` counts the state in which the run ends among them.

What a step does is said once for each way that it can go: the machine goes on (`step_goes`), or the
run ends and leaves all but a few fields alone (`step_ends`).  From these follows what holds along a
run, by induction on the states that it passes.

- `run_ends`: every run ends, and with it the states that it passes.
- `Passes.floor_get`: a tile that no instruction on the trail stores to is left alone.
-/

namespace Mailroom.Machine

open Source

/-- A run passes a state.  The trail holds the addresses of the instructions that have been carried
out, the latest first. -/
inductive Passes (m : Machine) : List Nat → Machine → Prop
  | start : Passes m [] m
  | step {trail : List Nat} {m' : Machine} : Passes m trail m' → m'.step.outcome = .running →
      Passes m (m'.pc :: trail) m'.step.machine

/-- A state that a run passes, or the one in which it ends. -/
def Visits (m m' : Machine) : Prop :=
  (∃ trail, m.Passes trail m') ∨ m' = m.run.2

/-- A machine that is neither halted nor at fault. -/
structure On (m : Machine) : Prop where
  running : m.halted = false
  unfaulted : m.fault = none

/-! ## Steps -/

/-- Where a machine goes on after an instruction: at the next one, or at the label it leads to. -/
def GoesTo (m : Machine) (way : Option String) (pc : Nat) : Prop :=
  (way = none ∧ pc = m.pc + 1) ∨ ∃ label, way = some label ∧ m.program.address? label = some pc

/-- A machine has carried out an instruction, and goes on. -/
structure Goes (m m' : Machine) (row : Row) : Prop where
  fetched : m.program.fetch? m.pc = some row
  inTime : (m.idle : Int) < m.maxSteps
  desk : ∃ way, m.desk.perform row.instr = .ok (m'.desk, way) ∧ m.GoesTo way m'.pc
  idle : m'.idle = if row.instr = .inbox then 0 else m.idle + 1
  steps : m'.steps = m.steps + 1
  program : m'.program = m.program
  maxSteps : m'.maxSteps = m.maxSteps
  on : m'.On

section Steps

variable {m : Machine}

/-- **One step.**  What a machine does that goes on. -/
lemma step_goes (hon : m.On) (h : m.step.outcome = .running) :
    ∃ row, m.Goes m.step.machine row := by
  cases hrow : m.program.fetch? m.pc with
  | none => simp [step, hon.running, hrow] at h
  | some row =>
      by_cases hlimit : m.maxSteps ≤ m.idle
      · simp [step, hon.running, hrow, hlimit] at h
      obtain ⟨fetched, ⟨houtcome, hmachine, -⟩, hfetched⟩ :=
        m.step_fetched hon.running hrow hlimit
      obtain ⟨hprogram, hmost, hhalted, hfault⟩ := hfetched.kept
      have hexecute := execute_desk (hhalted.trans hon.running) (hfault.trans hon.unfaulted) row
      -- whichever way the instruction leads, the rest is the same
      have hgoes : ∀ {d way pc}, m.desk.perform row.instr = .ok (d, way) → m.GoesTo way pc →
          Moved fetched m.step.machine row.instr d pc → m.Goes m.step.machine row := by
        intro d way pc hperform hway hmoved
        obtain ⟨hprogram', hmost', hhalted', hfault'⟩ := hmoved.kept
        refine ⟨hrow, by omega, ⟨way, ?_, ?_⟩, ?_, ?_, hprogram'.trans hprogram,
          hmost'.trans hmost, ?_, ?_⟩
        · rw [hmoved.desk, hperform]
        · rw [hmoved.pc]
          exact hway
        · rw [hmoved.idle, hfetched.idle]
        · rw [hmoved.steps, hfetched.steps]
        · rw [hhalted', hhalted, hon.running]
        · rw [hfault', hfault, hon.unfaulted]
      rw [hfetched.desk, ← houtcome, ← hmachine] at hexecute
      refine ⟨row, ?_⟩
      cases hperform : m.desk.perform row.instr with
      | error halt =>
          rw [hperform] at hexecute
          exact absurd h hexecute.1
      | ok result =>
          obtain ⟨d, way⟩ := result
          rw [hperform] at hexecute
          cases way with
          | none =>
              have hmoved := hexecute.2
              rw [hfetched.pc] at hmoved
              exact hgoes hperform (.inl ⟨rfl, rfl⟩) hmoved
          | some label =>
              dsimp only at hexecute
              rw [hprogram] at hexecute
              cases haddress : m.program.address? label with
              | none =>
                  rw [haddress] at hexecute
                  exact absurd h hexecute.1
              | some pc =>
                  rw [haddress] at hexecute
                  exact hgoes hperform (.inr ⟨label, rfl, haddress⟩) hexecute.2

/-- An instruction that stores to no tile leaves the floor alone. -/
lemma Goes.floor {m' : Machine} {row : Row} (h : m.Goes m' row)
    (hrow : ∀ op t, row.instr = .tile op t → op.takes = true) : m'.floor = m.floor := by
  obtain ⟨way, hperform, -⟩ := h.desk
  exact Desk.perform_floor hrow hperform

/-- An instruction that stores to a tile changes that one, and leaves in the hand what is there. -/
lemma Goes.stores {m' : Machine} {row : Row} (h : m.Goes m' row) {op : TileOp} {t : Tile}
    (hrow : row.instr = .tile op t) (hop : op.takes = false) (hdirect : t.indirect = false) :
    m.floor.Has t.address ∧ ∃ v, m'.floor = m.floor.put t.address v ∧ m'.hand = some v := by
  obtain ⟨way, hperform, -⟩ := h.desk
  rw [hrow] at hperform
  obtain ⟨a, v, hreach, hfloor, hhand⟩ := Desk.useTile_stores hop (Desk.perform_tile hperform)
  obtain rfl := Desk.reach_eq hdirect hreach
  exact ⟨Desk.reach_has hreach, v, hfloor, hhand⟩

/-- What keeps a machine from carrying out an instruction. -/
def obstacle? (m : Machine) (i : Instr) : Option Halt :=
  match m.desk.perform i with
  | .error halt => some halt
  | .ok (_, none) => none
  | .ok (_, some label) =>
    match m.program.address? label with
    | some _ => none
    | none => some (.fault (.unknownLabel label))

/-- What an instruction leaves behind that is not carried out. -/
def refuse (m : Machine) (row : Row) : Halt → Turn
  | .fault cause => ⟨m, [], .fault ⟨cause, m.pc, row.number⟩⟩
  | .failed e => ⟨{ m with inbox := ⟨[]⟩ }, [], .failed e⟩
  | .dry | .ended => ⟨{ m with halted := true }, [.halted], .stopped⟩

/-- An instruction that is kept from being carried out leaves the machine as it is, but for what
tells of the end and for an inbox that is spoiled; any other is carried out. -/
lemma execute_obstacle (m : Machine) (row : Row) :
    match m.obstacle? row.instr with
    | some halt => m.execute row = m.refuse row halt
    | none => (m.execute row).outcome = .running := by
  have hcarry := carryOut_desk row.instr { machine := m }
  dsimp only at hcarry
  rw [execute, obstacle?]
  cases hperform : m.desk.perform row.instr with
  | error halt =>
      rw [hperform] at hcarry
      cases halt <;> (rw [hcarry]; rfl)
  | ok result =>
      obtain ⟨d, way⟩ := result
      rw [hperform] at hcarry
      cases way with
      | none =>
          obtain ⟨events, hcarry⟩ := hcarry
          rw [hcarry]
          rfl
      | some label =>
          dsimp only at hcarry ⊢
          cases haddress : m.program.address? label with
          | none =>
              rw [haddress] at hcarry
              rw [hcarry]
              rfl
          | some pc =>
              rw [haddress] at hcarry
              obtain ⟨events, hcarry⟩ := hcarry
              rw [hcarry]
              rfl

/-- An instruction that ends a run changes what tells of the end, and the inbox if that is
spoiled. -/
lemma execute_ends (m : Machine) (row : Row) (h : (m.execute row).outcome ≠ .running) :
    ∃ inbox halted, (m.execute row).machine = { m with inbox, halted } := by
  have hexecute := m.execute_obstacle row
  cases hobstacle : m.obstacle? row.instr with
  | none =>
      rw [hobstacle] at hexecute
      exact absurd hexecute h
  | some halt =>
      rw [hobstacle] at hexecute
      rw [hexecute]
      cases halt <;> exact ⟨_, _, rfl⟩

/-- **The last step.**  What the end of a run leaves as it was.  An instruction may have been
fetched in vain. -/
lemma step_ends (h : m.step.outcome ≠ .running) :
    (∃ halted, m.step.machine = { m with halted }) ∨
      ((m.idle : Int) < m.maxSteps ∧ ∃ inbox halted current,
        m.step.machine = { m with
          steps := m.steps + 1, idle := m.idle + 1, inbox, halted, current }) := by
  by_cases hhalted : m.halted
  · rw [step, if_pos hhalted]
    exact .inl ⟨_, rfl⟩
  rw [step, if_neg hhalted] at h ⊢
  cases hrow : m.program.fetch? m.pc with
  | none => exact .inl ⟨_, rfl⟩
  | some row =>
      rw [hrow] at h
      dsimp only at h ⊢
      by_cases hlimit : m.maxSteps ≤ m.idle
      · rw [if_pos hlimit]
        exact .inl ⟨_, rfl⟩
      rw [if_neg hlimit] at h ⊢
      obtain ⟨inbox, halted, hmachine⟩ := execute_ends _ row h
      exact .inr ⟨by omega, inbox, halted, some row, hmachine⟩

/-- The end of a run changes only what tells of it. -/
lemma Turn.close_eq (t : Turn) :
    ∃ halted fault, t.close.2 = { t.machine with halted, fault } := by
  obtain ⟨m, events, outcome⟩ := t
  cases outcome <;> exact ⟨_, _, rfl⟩

/-- A run that ends leaves the floor as it is. -/
lemma step_close_floor (h : m.step.outcome ≠ .running) : m.step.close.2.floor = m.floor := by
  obtain ⟨_, _, hclose⟩ := m.step.close_eq
  rw [hclose]
  obtain ⟨_, hmachine⟩ | ⟨-, _, _, _, hmachine⟩ := step_ends h <;> rw [hmachine]

/-- A run ends with the fault of its last step. -/
lemma step_close_fault {f : Fault} (hon : m.On) (h : m.step.outcome ≠ .running)
    (hfault : m.step.close.2.fault = some f) : m.step.outcome = .fault f := by
  have hnone : m.step.machine.fault = none := by
    obtain ⟨_, hmachine⟩ | ⟨-, _, _, _, hmachine⟩ := step_ends h <;> rw [hmachine] <;>
      exact hon.unfaulted
  rw [Turn.close] at hfault
  cases houtcome : m.step.outcome with
  | fault f' =>
      rw [houtcome] at hfault
      exact congrArg _ (Option.some.inj hfault)
  | running | stopped | failed e =>
      rw [houtcome] at hfault
      exact absurd (hfault.symm.trans hnone) (by simp)

/-- A step meets the limit where there is an instruction and no time for it. -/
lemma step_limit {f : Fault} {k : Int} (hon : m.On) (hf : m.step.outcome = .fault f)
    (hcause : f.cause = .stepLimit k) :
    k = m.maxSteps ∧ (m.program.fetch? m.pc).isSome ∧ m.maxSteps ≤ m.idle := by
  cases hrow : m.program.fetch? m.pc with
  | none => simp [step, hon.running, hrow] at hf
  | some row =>
      by_cases hlimit : m.maxSteps ≤ m.idle
      · simp only [step, hon.running, hrow, hlimit, if_true, Bool.false_eq_true, if_false,
          Outcome.fault.injEq] at hf
        rw [← hf] at hcause
        cases hcause
        exact ⟨rfl, rfl, hlimit⟩
      obtain ⟨fetched, ⟨houtcome, -, hclose⟩, hfetched⟩ := m.step_fetched hon.running hrow hlimit
      have hexecute := execute_desk (hfetched.kept.2.2.1.trans hon.running)
        (hfetched.kept.2.2.2.trans hon.unfaulted) row
      rw [← houtcome, ← hclose, hf] at hexecute
      -- an instruction that fails has been fetched, which the limit prevents
      have hstuck : ∀ {halt : Halt}, Stuck fetched row halt m.step.close → halt.cost = 1 →
          False := by
        intro halt hstuck hcost
        have hfault := hstuck.fault
        rw [Turn.close, hf] at hfault
        obtain ⟨cause, hhalt, rfl⟩ := Option.map_eq_some_iff.mp hfault.symm
        rw [Halt.eq_fault hhalt, show cause = .stepLimit k from hcause] at hcost
        simp [Halt.cost] at hcost
      cases hperform : fetched.desk.perform row.instr with
      | error halt =>
          rw [hperform] at hexecute
          exact (hstuck hexecute.2 (Desk.perform_cost hperform)).elim
      | ok result =>
          obtain ⟨d, way⟩ := result
          rw [hperform] at hexecute
          cases way with
          | none => simp at hexecute
          | some label =>
              cases haddress : fetched.program.address? label with
              | none =>
                  simp only [haddress] at hexecute
                  exact (hstuck hexecute.2 rfl).elim
              | some pc => simp [haddress] at hexecute

/-- A step meets the limit exactly where there is an instruction and no time for it. -/
lemma step_limit_iff (hon : m.On) :
    (∃ f, m.step.outcome = .fault f ∧ f.cause = .stepLimit m.maxSteps) ↔
      (m.program.fetch? m.pc).isSome ∧ m.maxSteps ≤ m.idle := by
  constructor
  · rintro ⟨f, hf, hcause⟩
    exact (step_limit hon hf hcause).2
  · rintro ⟨hfetch, hlimit⟩
    obtain ⟨row, hrow⟩ := Option.isSome_iff_exists.mp hfetch
    simp [step, hon.running, hrow, hlimit]

end Steps

/-! ## Runs -/

section Runs

variable {m m' : Machine} {trail : List Nat}

lemma Passes.on (hpasses : m.Passes trail m') (hon : m.On) : m'.On := by
  induction hpasses with
  | start => exact hon
  | step _ hrunning ih =>
      obtain ⟨row, hgoes⟩ := step_goes ih hrunning
      exact hgoes.on

/-- A run never changes its listing or its limit. -/
lemma Passes.kept (hpasses : m.Passes trail m') (hon : m.On) :
    m'.program = m.program ∧ m'.maxSteps = m.maxSteps := by
  induction hpasses with
  | start => exact ⟨rfl, rfl⟩
  | step hpasses hrunning ih =>
      obtain ⟨row, hgoes⟩ := step_goes (hpasses.on hon) hrunning
      exact ⟨hgoes.program.trans ih.1, hgoes.maxSteps.trans ih.2⟩

/-- A run goes on from each state that it passes. -/
lemma Passes.run_eq (hpasses : m.Passes trail m') : m.run = m'.run := by
  induction hpasses with
  | start => rfl
  | @step trail m' _ hrunning ih => rw [ih, Machine.run_eq m', if_pos hrunning]

/-- A run that passes a state and goes no further ends there. -/
lemma Passes.run_eq_close (hpasses : m.Passes trail m') (hstop : m'.step.outcome ≠ .running) :
    m.run = m'.step.close := by
  rw [hpasses.run_eq, Machine.run_eq m', if_neg hstop]

lemma Passes.ends {m m' : Machine} {trail : List Nat} (hpasses : m.Passes trail m') :
    ∃ trail' last, m.Passes trail' last ∧ last.step.outcome ≠ .running := by
  by_cases hrunning : m'.step.outcome = .running
  · exact (hpasses.step hrunning).ends
  · exact ⟨trail, m', hpasses, hrunning⟩
termination_by m'.budget
decreasing_by exact step_budget rfl hrunning

/-- **Every run ends.** -/
theorem run_ends (m : Machine) : ∃ trail last, m.Passes trail last ∧
    last.step.outcome ≠ .running ∧ m.run = last.step.close := by
  obtain ⟨trail, last, hpasses, hstop⟩ := (Passes.start (m := m)).ends
  exact ⟨trail, last, hpasses, hstop, hpasses.run_eq_close hstop⟩

/-- The trail and the state after some steps, as far as the run goes. -/
def travel (m : Machine) : Nat → List Nat × Machine
  | 0 => ([], m)
  | n + 1 =>
    let (trail, m') := m.travel n
    if m'.step.outcome = .running then (m'.pc :: trail, m'.step.machine) else (trail, m')

lemma passes_travel (m : Machine) : ∀ n, m.Passes (m.travel n).1 (m.travel n).2
  | 0 => .start
  | n + 1 => by
      rw [travel]
      dsimp only
      split
      · rename_i hrunning
        exact (m.passes_travel n).step hrunning
      · exact m.passes_travel n

/-- A machine that has just been given a listing is at its start, with nothing done. -/
structure Loads (m : Machine) (lines : List String) (loaded : Machine) : Prop where
  program : Program.load lines = (loaded.program, none)
  floor : loaded.floor = m.floor
  inbox : loaded.inbox = m.inbox
  maxSteps : loaded.maxSteps = m.maxSteps
  pc : loaded.pc = 0
  steps : loaded.steps = 0
  idle : loaded.idle = 0
  on : loaded.On

lemma load_ok {m loaded : Machine} {lines : List String} (h : m.load lines = (loaded, none)) :
    m.Loads lines loaded := by
  rw [load] at h
  split at h
  · cases h
  · rename_i program hprogram
    cases h
    exact ⟨hprogram, rfl, rfl, rfl, rfl, rfl, rfl, rfl, rfl⟩

/-- A listing that has been written and loaded is what it was written from. -/
lemma load_loaded {m loaded : Machine} {ops : List Op} (hops : ∀ op ∈ ops, op.Spelled)
    (h : m.load (render ops) = (loaded, none)) : Loaded loaded.program ops := by
  obtain ⟨loaded', hload, -, hshows⟩ :=
    load_shows hops ((load_iff_legible hops m).mp (by rw [h])) m
  rw [h] at hload
  cases hload
  exact hshows.loaded

/-- **Frames.**  A tile that no instruction on the trail stores to holds what it held before. -/
theorem Passes.floor_get (hpasses : m.Passes trail m') (hon : m.On) {a : Int}
    (hstores : ∀ pc ∈ trail, ∀ row, m.program.fetch? pc = some row → ∀ op t,
      row.instr = .tile op t → op.takes = false → t.indirect = false ∧ (t.address : Int) ≠ a) :
    m'.floor.get a = m.floor.get a := by
  induction hpasses with
  | start => rfl
  | @step trail m' hpasses hrunning ih =>
      rw [List.forall_mem_cons] at hstores
      obtain ⟨row, hgoes⟩ := step_goes (hpasses.on hon) hrunning
      have hfetched := hgoes.fetched
      rw [(hpasses.kept hon).1] at hfetched
      rw [← ih hstores.2]
      by_cases hrow : ∀ op t, row.instr = .tile op t → op.takes = true
      · rw [hgoes.floor hrow]
      · push Not at hrow
        obtain ⟨op, t, hinstr, hop⟩ := hrow
        rw [ne_eq, Bool.not_eq_true] at hop
        obtain ⟨hdirect, hne⟩ := hstores.1 row hfetched op t hinstr hop
        obtain ⟨hhas, v, hfloor, -⟩ := hgoes.stores hinstr hop hdirect
        rw [hfloor, Floor.get_put v hhas hne.symm]

/-- A tile that no instruction stores to holds the same wherever a run comes to. -/
lemma Visits.floor_get (hvisits : m.Visits m') (hon : m.On) {a : Int}
    (hstores : ∀ pc row, m.program.fetch? pc = some row → ∀ op t, row.instr = .tile op t →
      op.takes = false → t.indirect = false ∧ (t.address : Int) ≠ a) :
    m'.floor.get a = m.floor.get a := by
  rcases hvisits with ⟨trail, hpasses⟩ | rfl
  · exact hpasses.floor_get hon fun pc _ => hstores pc
  · obtain ⟨trail, last, hpasses, hstop, hrun⟩ := m.run_ends
    rw [hrun, step_close_floor hstop]
    exact hpasses.floor_get hon fun pc _ => hstores pc

end Runs

end Mailroom.Machine
