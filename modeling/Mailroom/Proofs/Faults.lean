import Mathlib
import Mailroom.Proofs.Passages

/-!
# Faults leave no trace

An instruction may come to a fault at several of its steps, after it has looked at the hand, for a
tile or for a label.  By then it has changed nothing: a machine at fault differs from what it was
only in its counters and in the instruction that it fetched last (`Alike`).  What keeps an
instruction from being carried out lies in what machines that are alike have in common, so taking
the step once more leads to the same fault, until the counters meet the limit.

- `step_late`, `step_refused`: the two ways to a fault, as a whole, and `step_fault`: there are no
  others.
- `Balked.retry`: what becomes of a machine that keeps trying.
- `step_atomic`: a fault changes nothing that counts, and comes up again.
-/

namespace Mailroom.Machine

/-- Two machines that differ at most in their counters and in the instruction fetched last. -/
structure Alike (m m' : Machine) : Prop where
  hand : m'.hand = m.hand
  floor : m'.floor = m.floor
  pc : m'.pc = m.pc
  jumps : m'.jumps = m.jumps
  inbox : m'.inbox = m.inbox
  emitted : m'.emitted = m.emitted
  halted : m'.halted = m.halted
  fault : m'.fault = m.fault
  program : m'.program = m.program
  maxSteps : m'.maxSteps = m.maxSteps

/-- A machine that has fetched an instruction and not carried it out yet. -/
def fetching (m : Machine) (row : Row) : Machine :=
  { m with steps := m.steps + 1, idle := m.idle + 1, current := some row }

/-- A machine after some steps, whatever they come to. -/
def retry (m : Machine) : Nat → Machine
  | 0 => m
  | n + 1 => (m.retry n).step.machine

lemma Alike.refl (m : Machine) : m.Alike m :=
  ⟨rfl, rfl, rfl, rfl, rfl, rfl, rfl, rfl, rfl, rfl⟩

lemma alike_fetching (m : Machine) (row : Row) : m.Alike (m.fetching row) :=
  ⟨rfl, rfl, rfl, rfl, rfl, rfl, rfl, rfl, rfl, rfl⟩

/-! ## The ways to a fault -/

section Steps

variable {m : Machine} {row : Row}

/-- A machine that has halted stays as it is. -/
lemma step_halted (hhalted : m.halted = true) : m.step = ⟨m, [], .stopped⟩ := by
  simp [step, hhalted]

/-- Where no instruction is left the machine halts. -/
lemma step_ended (hrunning : m.halted = false) (hrow : m.program.fetch? m.pc = none) :
    m.step = ⟨{ m with halted := true }, [.halted], .stopped⟩ := by
  simp [step, hrunning, hrow]

/-- Where an instruction comes too late nothing happens at all. -/
lemma step_late (hrunning : m.halted = false) (hrow : m.program.fetch? m.pc = some row)
    (hlate : m.maxSteps ≤ m.idle) :
    m.step = ⟨m, [], .fault ⟨.stepLimit m.maxSteps, m.pc, row.number⟩⟩ := by
  simp [step, hrunning, hrow, hlate]

/-- In time an instruction is fetched and carried out. -/
lemma step_inTime (hrunning : m.halted = false) (hrow : m.program.fetch? m.pc = some row)
    (htime : (m.idle : Int) < m.maxSteps) :
    m.step = { (m.fetching row).execute row with
      events := .fetched m.pc row.line :: ((m.fetching row).execute row).events } := by
  rw [step, if_neg (by simp [hrunning]), hrow]
  dsimp only
  rw [if_neg (not_le.mpr htime)]
  rfl

/-- An instruction that is kept from being carried out has been fetched, and that is all. -/
lemma step_refused (hrunning : m.halted = false) (hrow : m.program.fetch? m.pc = some row)
    (htime : (m.idle : Int) < m.maxSteps) {halt : Halt}
    (hobstacle : m.obstacle? row.instr = some halt) :
    m.step = { (m.fetching row).refuse row halt with
      events := .fetched m.pc row.line :: ((m.fetching row).refuse row halt).events } := by
  have hexecute := (m.fetching row).execute_obstacle row
  rw [show (m.fetching row).obstacle? row.instr = some halt from hobstacle] at hexecute
  rw [step_inTime hrunning hrow htime, hexecute]

/-- A step that goes on, or ends a run, finds the machine on and an instruction to carry out, unless
it halts the machine. -/
lemma step_cases (m : Machine) :
    (m.step.outcome = .stopped ∧ m.step.machine.halted = true) ∨
      ∃ row, m.halted = false ∧ m.program.fetch? m.pc = some row ∧
        (m.maxSteps ≤ m.idle ∨
          (m.idle : Int) < m.maxSteps ∧
            (m.step.outcome = .running ∨ ∃ halt, m.obstacle? row.instr = some halt)) := by
  cases hrunning : m.halted with
  | true =>
      rw [step_halted hrunning]
      exact .inl ⟨rfl, hrunning⟩
  | false =>
      cases hrow : m.program.fetch? m.pc with
      | none =>
          rw [step_ended hrunning hrow]
          exact .inl ⟨rfl, rfl⟩
      | some row =>
          refine .inr ⟨row, rfl, rfl, ?_⟩
          rcases le_or_gt m.maxSteps m.idle with hlate | htime
          · exact .inl hlate
          refine .inr ⟨htime, ?_⟩
          have hexecute := (m.fetching row).execute_obstacle row
          cases hobstacle : m.obstacle? row.instr with
          | some halt => exact .inr ⟨halt, rfl⟩
          | none =>
              rw [show (m.fetching row).obstacle? row.instr = none from hobstacle] at hexecute
              rw [step_inTime hrunning hrow htime]
              exact .inl hexecute

/-- What keeps an instruction from being carried out is not the limit. -/
lemma obstacle?_cost {i : Instr} {halt : Halt} (h : m.obstacle? i = some halt) :
    halt.cost = 1 := by
  rw [obstacle?] at h
  cases hperform : m.desk.perform i with
  | error halt' =>
      rw [hperform] at h
      cases h
      exact Desk.perform_cost hperform
  | ok result =>
      obtain ⟨d, way⟩ := result
      rw [hperform] at h
      cases way with
      | none => cases h
      | some label =>
          dsimp only at h
          split at h
          · cases h
          · cases h
            rfl

/-- **Faults.**  A fault comes from the limit or from the instruction at hand. -/
lemma step_fault {f : Fault} (h : m.step.outcome = .fault f) :
    ∃ row, m.halted = false ∧ m.program.fetch? m.pc = some row ∧ f.pc = m.pc ∧
      f.line = row.number ∧
      (m.maxSteps ≤ m.idle ∧ f.cause = .stepLimit m.maxSteps ∨
        (m.idle : Int) < m.maxSteps ∧ m.obstacle? row.instr = some (.fault f.cause)) := by
  rcases m.step_cases with
    ⟨hstop, -⟩ | ⟨row, hrunning, hrow, hlate | ⟨htime, hgoes | ⟨halt, hhalt⟩⟩⟩
  · rw [h] at hstop
    cases hstop
  · rw [step_late hrunning hrow hlate] at h
    cases h
    exact ⟨row, hrunning, hrow, rfl, rfl, .inl ⟨hlate, rfl⟩⟩
  · rw [h] at hgoes
    cases hgoes
  · rw [step_refused hrunning hrow htime hhalt] at h
    cases halt with
    | fault cause =>
        cases h
        exact ⟨row, hrunning, hrow, rfl, rfl, .inr ⟨htime, hhalt⟩⟩
    | failed e | dry | ended => cases h

/-- A step that stops the machine leaves it off. -/
lemma step_stopped (h : m.step.outcome = .stopped) : m.step.machine.halted = true := by
  rcases m.step_cases with
    ⟨-, hhalted⟩ | ⟨row, hrunning, hrow, hlate | ⟨htime, hgoes | ⟨halt, hhalt⟩⟩⟩
  · exact hhalted
  · rw [step_late hrunning hrow hlate] at h
    cases h
  · rw [h] at hgoes
    cases hgoes
  · rw [step_refused hrunning hrow htime hhalt] at h ⊢
    cases halt with
    | dry | ended => rfl
    | fault cause | failed e => cases h

/-- Only reading fails, on a slip that is spoiled. -/
lemma obstacle?_failed {i : Instr} {e : InboxError} (h : m.obstacle? i = some (.failed e)) :
    i = .inbox ∧ ∃ later, m.inbox.pending = .spoiled e :: later := by
  have hperform : m.desk.perform i = .error (.failed e) := by
    rw [obstacle?] at h
    split at h
    · cases h
      assumption
    · cases h
    · split at h <;> cases h
  rcases Desk.perform_error hperform with ⟨hhalt, -⟩ | ⟨e', hhalt, hinbox, hpending⟩ | ⟨hhalt, -⟩ |
    ⟨op, t, e', hhalt, -⟩
  · cases hhalt
  · cases hhalt
    exact ⟨hinbox, hpending⟩
  · cases hhalt
  · cases hhalt

/-- **Spoiled slips.**  Reading one leaves the machine as it is, but for the inbox. -/
lemma step_failed {e : InboxError} (h : m.step.outcome = .failed e) :
    ∃ row later, m.program.fetch? m.pc = some row ∧ row.instr = .inbox ∧
      m.inbox.pending = .spoiled e :: later ∧
      m.step = ⟨{ m.fetching row with inbox := ⟨[]⟩ }, [.fetched m.pc row.line], .failed e⟩ := by
  rcases m.step_cases with
    ⟨hstop, -⟩ | ⟨row, hrunning, hrow, hlate | ⟨htime, hgoes | ⟨halt, hhalt⟩⟩⟩
  · rw [h] at hstop
    cases hstop
  · rw [step_late hrunning hrow hlate] at h
    cases h
  · rw [h] at hgoes
    cases hgoes
  · have hstep := step_refused hrunning hrow htime hhalt
    rw [hstep] at h
    cases halt with
    | failed e' =>
        cases h
        obtain ⟨hinbox, later, hpending⟩ := obstacle?_failed hhalt
        exact ⟨row, later, hrow, hinbox, hpending, hstep⟩
    | fault cause | dry | ended => cases h

end Steps

/-! ## Trying again -/

/-- A machine that stands before an instruction which it cannot carry out. -/
structure Balked (m : Machine) (row : Row) (cause : FaultCause) : Prop where
  running : m.halted = false
  fetched : m.program.fetch? m.pc = some row
  obstacle : m.obstacle? row.instr = some (.fault cause)

section Retries

variable {m : Machine} {row : Row} {cause : FaultCause}

/-- **One more step.**  It fetches the instruction in vain, or meets the limit. -/
lemma Balked.step (h : m.Balked row cause) :
    m.step = if (m.idle : Int) < m.maxSteps then
        ⟨m.fetching row, [.fetched m.pc row.line], .fault ⟨cause, m.pc, row.number⟩⟩
      else ⟨m, [], .fault ⟨.stepLimit m.maxSteps, m.pc, row.number⟩⟩ := by
  split
  · rename_i htime
    exact step_refused h.running h.fetched htime h.obstacle
  · rename_i hlate
    exact step_late h.running h.fetched (not_lt.mp hlate)

lemma Balked.fetching (h : m.Balked row cause) : (m.fetching row).Balked row cause :=
  ⟨h.running, h.fetched, h.obstacle⟩

/-- **Trying again and again.**  The machine stays before its instruction, and its counter runs on
until it meets the limit. -/
lemma Balked.retry (h : m.Balked row cause) (n : Nat) :
    (m.retry n).Balked row cause ∧ m.Alike (m.retry n) ∧
      ((m.retry n).idle = m.idle + n ∨
        m.maxSteps ≤ (m.retry n).idle ∧ m.maxSteps ≤ (m.idle + n : Int)) := by
  induction n with
  | zero => exact ⟨h, .refl m, .inl rfl⟩
  | succ n ih =>
      obtain ⟨hbalked, halike, hidle⟩ := ih
      rw [Machine.retry, hbalked.step, halike.maxSteps]
      by_cases htime : ((m.retry n).idle : Int) < m.maxSteps
      · rw [if_pos htime]
        refine ⟨hbalked.fetching, ⟨halike.hand, halike.floor, halike.pc, halike.jumps, halike.inbox,
          halike.emitted, halike.halted, halike.fault, halike.program, halike.maxSteps⟩, .inl ?_⟩
        have hcount : (m.retry n).idle = m.idle + n := by omega
        exact congrArg (· + 1) hcount
      · rw [if_neg htime]
        exact ⟨hbalked, halike, .inr ⟨not_lt.mp htime, by push_cast; omega⟩⟩

end Retries

/-- A machine that meets the limit stays where it is. -/
lemma retry_of_late {m : Machine} {row : Row} (hrunning : m.halted = false)
    (hrow : m.program.fetch? m.pc = some row) (hlate : m.maxSteps ≤ m.idle) (n : Nat) :
    m.retry n = m := by
  induction n with
  | zero => rfl
  | succ n ih => rw [retry, ih, step_late hrunning hrow hlate]

/-- **Faults are atomic and stable.**  A step that comes to a fault leaves the machine as it was,
but for the counters and the instruction fetched last, and leaves even these alone when the limit is
the fault; nothing is sent.  Taking the step again, any number of times, leads to the same fault at
the same place, until the limit is met, which is a fault at that place then.  A spoiled slip takes
only the rest of the inbox with it. -/
theorem step_atomic (m : Machine) :
    (∀ f, m.step.outcome = .fault f →
      m.Alike m.step.machine ∧ (∀ v, .sent v ∉ m.step.events) ∧
      (∀ most, f.cause = .stepLimit most → m.step.machine = m) ∧
      ∀ n : Nat, (m.retry n).step.outcome
        = .fault (if (m.idle + n : Int) < m.maxSteps then f
            else ⟨.stepLimit m.maxSteps, f.pc, f.line⟩)) ∧
    (∀ e, m.step.outcome = .failed e →
      m.step.machine = { m with
        steps := m.steps + 1, idle := m.idle + 1, current := m.program.fetch? m.pc,
        inbox := ⟨[]⟩ } ∧
      ∀ v, .sent v ∉ m.step.events) := by
  constructor
  · intro f hf
    obtain ⟨row, hrunning, hrow, hpc, hline, ⟨hlate, hcause⟩ | ⟨htime, hobstacle⟩⟩ := step_fault hf
    · have hstep := step_late hrunning hrow hlate
      refine ⟨by rw [hstep]; exact .refl m, by simp [hstep], fun _ _ => by rw [hstep], fun n => ?_⟩
      rw [retry_of_late hrunning hrow hlate, hstep, if_neg (by omega), hpc, hline]
    · have hbalked : m.Balked row f.cause := ⟨hrunning, hrow, hobstacle⟩
      have hstep := hbalked.step
      rw [if_pos htime] at hstep
      refine ⟨by rw [hstep]; exact m.alike_fetching row, by simp [hstep], fun most hmost => ?_,
        fun n => ?_⟩
      · have hcost := obstacle?_cost hobstacle
        rw [hmost] at hcost
        cases hcost
      · obtain ⟨hagain, halike, hidle⟩ := hbalked.retry n
        rw [hagain.step, halike.maxSteps, halike.pc, ← hpc, ← hline]
        by_cases hmore : ((m.retry n).idle : Int) < m.maxSteps
        · rw [if_pos hmore, if_pos (by omega)]
        · rw [if_neg hmore, if_neg (by omega)]
  · intro e he
    obtain ⟨row, -, hrow, -, -, hstep⟩ := step_failed he
    rw [hstep, hrow]
    exact ⟨rfl, by simp⟩

/-- A value is to be put on a tile that does not exist, and cannot be: the machine tries twice and
then meets its limit.  A slip that is no integer ends the reading, and nothing else is lost. -/
theorem step_atomic_far_tile :
    let start : Machine := { floor := ⟨1, #[7], rfl⟩, inbox := .ofText "5 x".toList, maxSteps := 2 }
    let far := (start.load ["INBOX", "COPYTO [0]"]).1.step.machine
    let spoiled := (start.load ["INBOX", "INBOX"]).1.step.machine
    (far.step.outcome = .fault ⟨.offFloor ⟨7, 1⟩, 1, 2⟩ ∧ far.Alike far.step.machine ∧
      (far.retry 1).step.outcome = .fault ⟨.offFloor ⟨7, 1⟩, 1, 2⟩ ∧
      (far.retry 2).step.outcome = .fault ⟨.stepLimit 2, 1, 2⟩) ∧
    spoiled.step.outcome = .failed (.notInteger 1 "x") ∧ spoiled.step.machine.hand = some 5 ∧
      spoiled.step.machine.pc = 1 := by
  intro start far spoiled
  have hfault : far.step.outcome = .fault ⟨.offFloor ⟨7, 1⟩, 1, 2⟩ := by decide +kernel
  have hcounters : far.idle = 0 ∧ far.maxSteps = 2 := by decide +kernel
  have hfailed : spoiled.step.outcome = .failed (.notInteger 1 "x") := by decide +kernel
  have hspoiled : spoiled.hand = some 5 ∧ spoiled.pc = 1 := by decide +kernel
  obtain ⟨halike, -, -, hretry⟩ := (step_atomic far).1 _ hfault
  obtain ⟨hmachine, -⟩ := (step_atomic spoiled).2 _ hfailed
  simp only [hcounters] at hretry
  rw [hmachine]
  exact ⟨⟨hfault, halike, hretry 1, hretry 2⟩, hfailed, hspoiled⟩

end Mailroom.Machine
