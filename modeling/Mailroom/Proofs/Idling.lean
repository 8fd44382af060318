import Mathlib
import Mailroom.Proofs.Passages

/-!
# How long a machine may go without reading

A machine faults when it has carried out as many instructions as its limit allows without reading a
value and there is one more to carry out.  `Program.valuesRead` and `Program.sinceRead` count, in the
trail of a run, the values that have been read and the instructions since the last of them.

- `Passes.timed`: the counters of a machine are those of its trail, and the limit bounds both.
- `step_withLimit`: the limit has no other part in what a machine does.
- `run_idles`: every run ends, within the bounds that its limit sets; the limit is a fault exactly
  where the trail says so, and a run whose values each need few instructions never meets it.
-/

namespace Mailroom

/-- Whether the instruction at an address reads a value. -/
def Program.readsAt (p : Program) (pc : Nat) : Bool :=
  (p.fetch? pc).any (·.instr = .inbox)

/-- How many values have been read on a trail. -/
def Program.valuesRead (p : Program) (trail : List Nat) : Nat :=
  trail.countP p.readsAt

/-- How many instructions have been carried out since the last value was read or since the start. -/
def Program.sinceRead (p : Program) (trail : List Nat) : Nat :=
  (trail.takeWhile (!p.readsAt ·)).length

namespace Machine

/-! ## Counters -/

/-- What the counters of a machine say after a trail. -/
structure Timed (m : Machine) (trail : List Nat) (m' : Machine) : Prop where
  steps : m'.steps = trail.length
  idle : m'.idle = m.program.sinceRead trail
  inTime : (m'.idle : Int) ≤ m.maxSteps
  bound : (m'.steps : Int) ≤ m.maxSteps * m.program.valuesRead trail + m'.idle
  remaining : m.inbox.remaining = m.program.valuesRead trail + m'.inbox.remaining

section Counters

variable {m m' : Machine} {trail : List Nat}

/-- One instruction keeps the counters right, whether it reads a value or not. -/
lemma Timed.goes {m'' : Machine} {row : Row} (htimed : Timed m trail m')
    (hprogram : m'.program = m.program) (hmost : m'.maxSteps = m.maxSteps)
    (hgoes : m'.Goes m'' row) : Timed m (m'.pc :: trail) m'' := by
  obtain ⟨hsteps, hidle, htime, hbound, hremaining⟩ := htimed
  obtain ⟨way, hperform, -⟩ := hgoes.desk
  have hlimit := hmost ▸ hgoes.inTime
  have hfetched := hprogram ▸ hgoes.fetched
  by_cases hinbox : row.instr = .inbox
  · have hreads : m.program.readsAt m'.pc = true := by
      rw [Program.readsAt, hfetched, Option.any_some, decide_eq_true hinbox]
    have hread : m.program.valuesRead (m'.pc :: trail) = m.program.valuesRead trail + 1 :=
      List.countP_cons_of_pos hreads
    have hsince : m.program.sinceRead (m'.pc :: trail) = 0 := by
      rw [Program.sinceRead, List.takeWhile_cons_of_neg (by simp [hreads])]
      rfl
    have hzero : m''.idle = 0 := by rw [hgoes.idle, if_pos hinbox]
    rw [hinbox] at hperform
    obtain ⟨v, hpending⟩ := Desk.perform_inbox hperform
    have htaken : m'.inbox.remaining = m''.inbox.remaining + 1 := congrArg List.length hpending
    refine ⟨by rw [hgoes.steps, hsteps, List.length_cons], by rw [hzero, hsince], by omega, ?_,
      by omega⟩
    have hmore : m.maxSteps * ((m.program.valuesRead trail + 1 : Nat) : Int)
        = m.maxSteps * m.program.valuesRead trail + m.maxSteps := by push_cast; ring
    rw [hread, hgoes.steps, hzero, hmore]
    omega
  · have hreads : m.program.readsAt m'.pc = false := by
      rw [Program.readsAt, hfetched, Option.any_some, decide_eq_false hinbox]
    have hread : m.program.valuesRead (m'.pc :: trail) = m.program.valuesRead trail :=
      List.countP_cons_of_neg (by simp [hreads])
    have hsince : m.program.sinceRead (m'.pc :: trail) = m.program.sinceRead trail + 1 := by
      rw [Program.sinceRead, List.takeWhile_cons_of_pos (by simp [hreads])]
      rfl
    have hmore : m''.idle = m'.idle + 1 := by rw [hgoes.idle, if_neg hinbox]
    have hkept : m''.inbox = m'.inbox := Desk.perform_inbox_kept hinbox hperform
    refine ⟨by rw [hgoes.steps, hsteps, List.length_cons], by rw [hmore, hidle, hsince], by omega,
      ?_, by rw [hread, hkept]; exact hremaining⟩
    rw [hread, hgoes.steps, hmore]
    omega

/-- **Counters.**  Along a run the counters of a machine are those of its trail. -/
lemma Passes.timed (hpasses : m.Passes trail m') (hon : m.On) (hsteps : m.steps = 0)
    (hidle : m.idle = 0) (hmost : 0 ≤ m.maxSteps) : Timed m trail m' := by
  induction hpasses with
  | start =>
      refine ⟨hsteps, hidle, by omega, ?_, (Nat.zero_add _).symm⟩
      rw [hsteps, hidle]
      simp [Program.valuesRead]
  | step hpasses hrunning ih =>
      obtain ⟨row, hgoes⟩ := step_goes (hpasses.on hon) hrunning
      obtain ⟨hprogram, hlimit⟩ := hpasses.kept hon
      exact ih.goes hprogram hlimit hgoes

lemma Timed.le (htimed : Timed m trail m') :
    (m'.steps : Int) ≤ m.maxSteps * (m.program.valuesRead trail + 1) := by
  have hbound := htimed.bound
  have htime := htimed.inTime
  rw [mul_add, mul_one]
  omega

/-- The instruction that ends a run stays within the limit as well. -/
lemma Timed.close (htimed : Timed m trail m') (hmost : m'.maxSteps = m.maxSteps)
    (hstop : m'.step.outcome ≠ .running) :
    (m'.step.close.2.idle : Int) ≤ m.maxSteps ∧
      (m'.step.close.2.steps : Int) ≤ m.maxSteps * (m.program.valuesRead trail + 1) := by
  have hbound := htimed.bound
  have htime := htimed.inTime
  obtain ⟨_, _, hclose⟩ := m'.step.close_eq
  rw [hclose]
  obtain ⟨_, hmachine⟩ | ⟨hlimit, _, _, _, hmachine⟩ := step_ends hstop
  · rw [hmachine]
    exact ⟨htime, htimed.le⟩
  · rw [hmachine, mul_add, mul_one]
    constructor <;> push_cast <;> omega

end Counters

/-! ## Limits -/

/-- A machine with another limit. -/
def withLimit (m : Machine) (most : Int) : Machine :=
  { m with maxSteps := most }

/-- A step of a machine with another limit. -/
def Turn.withLimit (t : Turn) (most : Int) : Turn :=
  { t with machine := t.machine.withLimit most }

lemma Turn.close_withLimit (t : Turn) (most : Int) :
    (t.withLimit most).close = (t.close.1, t.close.2.withLimit most) := by
  obtain ⟨m, events, outcome⟩ := t
  cases outcome <;> rfl

section Limits

variable {m m' : Machine} {trail : List Nat} {most : Int}

lemma execute_withLimit (m : Machine) (row : Row) (most : Int) :
    (m.withLimit most).execute row = (m.execute row).withLimit most := by
  by_cases hinbox : row.instr = .inbox
  · have hkept : (m.withLimit most).inbox = m.inbox := rfl
    rw [execute_inbox hinbox, execute_inbox hinbox, hkept]
    rcases m.inbox.next with ⟨_ | _ | _, _⟩ <;> rfl
  · calc (m.withLimit most).execute row
        = (m.withRest (m.withLimit most)).execute row := rfl
      _ = (m.execute row).withRest (m.withLimit most) := execute_withRest hinbox m _
      _ = (m.execute row).withLimit most := by
          rw [Turn.withRest, Turn.withLimit, execute_rest hinbox m]
          rfl

/-- A machine that has time for an instruction, or has none to carry out, does the same under any
limit that leaves it the time. -/
lemma step_withLimit (h : (m.program.fetch? m.pc).isSome →
      (m.idle : Int) < m.maxSteps ∧ (m.idle : Int) < most) :
    (m.withLimit most).step = m.step.withLimit most := by
  have hhalted : (m.withLimit most).halted = m.halted := rfl
  have hfetch : (m.withLimit most).program.fetch? (m.withLimit most).pc
      = m.program.fetch? m.pc := rfl
  rw [step, step, hhalted, hfetch]
  by_cases hoff : m.halted
  · rw [if_pos hoff, if_pos hoff]
    rfl
  rw [if_neg hoff, if_neg hoff]
  cases hrow : m.program.fetch? m.pc with
  | none => rfl
  | some row =>
      obtain ⟨htime, htime'⟩ := h (by rw [hrow]; rfl)
      have hlimit : ¬ (m.withLimit most).maxSteps ≤ (m.withLimit most).idle := not_le.mpr htime'
      dsimp only
      rw [if_neg hlimit, if_neg (not_le.mpr htime)]
      have hexecute := execute_withLimit
        { m with steps := m.steps + 1, idle := m.idle + 1, current := some row } row most
      simp only [withLimit] at hexecute ⊢
      rw [hexecute]
      rfl

/-- A run passes the same states under a limit that leaves it the time for each instruction. -/
lemma Passes.withLimit (hpasses : m.Passes trail m') (hon : m.On)
    (htime : ∀ {trail m'}, m.Passes trail m' → (m.program.fetch? m'.pc).isSome →
      (m'.idle : Int) < most) :
    (m.withLimit most).Passes trail (m'.withLimit most) := by
  induction hpasses with
  | start => exact .start
  | @step trail m' hpasses hrunning ih =>
      obtain ⟨row, hgoes⟩ := step_goes (hpasses.on hon) hrunning
      have hstep : (m'.withLimit most).step = m'.step.withLimit most := by
        refine step_withLimit fun hfetch => ⟨hgoes.inTime, htime hpasses ?_⟩
        rwa [← (hpasses.kept hon).1]
      have hnext := ih.step (by rw [hstep]; exact hrunning)
      rw [hstep] at hnext
      exact hnext

/-- **Limits that are not met.**  A run goes the same way under any two limits that leave it the
time for each instruction, and meets neither. -/
lemma run_withLimit (hon : m.On)
    (htime : ∀ {trail m'}, m.Passes trail m' → (m.program.fetch? m'.pc).isSome →
      (m'.idle : Int) < m.maxSteps ∧ (m'.idle : Int) < most) :
    (m.withLimit most).run = (m.run.1, m.run.2.withLimit most) ∧
      ∀ k, m.run.2.fault.map (·.cause) ≠ some (.stepLimit k) := by
  obtain ⟨trail, last, hpasses, hstop, hrun⟩ := m.run_ends
  obtain ⟨hprogram, hlimit⟩ := hpasses.kept hon
  have hlast : (last.program.fetch? last.pc).isSome →
      (last.idle : Int) < last.maxSteps ∧ (last.idle : Int) < most := by
    rw [hprogram, hlimit]
    exact htime hpasses
  constructor
  · have hstep := step_withLimit hlast
    have hpasses' := hpasses.withLimit hon fun hpasses hfetch => (htime hpasses hfetch).2
    rw [hpasses'.run_eq_close (by rw [hstep]; exact hstop), hstep, Turn.close_withLimit, hrun]
  · intro k hfault
    rw [hrun] at hfault
    obtain ⟨f, hf, hcause⟩ := Option.map_eq_some_iff.mp hfault
    have hon' := hpasses.on hon
    obtain ⟨-, hfetch, hlimit⟩ := step_limit hon' (step_close_fault hon' hstop hf) hcause
    have := (hlast hfetch).1
    omega

end Limits

/-- **Bounded idling.**  Every run of a listing that has been loaded ends.  On the way, and at its
end, the machine has carried out no more instructions since it last read a value than its limit
allows, and in all no more than that for each value and once for the start.  The limit is a fault
exactly where the next instruction would be one too many.  So a run that never needs as many, under
whatever larger limit, goes just as well under this one. -/
theorem run_idles {m loaded : Machine} {lines : List String}
    (hload : m.load lines = (loaded, none)) (hmost : 0 ≤ m.maxSteps) :
    (∃ trail last, loaded.Passes trail last ∧ last.step.outcome ≠ .running ∧
      loaded.run = last.step.close ∧
      (loaded.run.2.idle : Int) ≤ m.maxSteps ∧
      (loaded.run.2.steps : Int) ≤ m.maxSteps * (loaded.program.valuesRead trail + 1)) ∧
    (∀ trail m', loaded.Passes trail m' →
      (m'.idle : Int) ≤ m.maxSteps ∧
      (m'.steps : Int) ≤ m.maxSteps * (loaded.program.valuesRead trail + 1) ∧
      m'.steps = trail.length ∧
      m.inbox.remaining = loaded.program.valuesRead trail + m'.inbox.remaining ∧
      ((∃ f, m'.step.outcome = .fault f ∧ f.cause = .stepLimit m.maxSteps) ↔
        (loaded.program.fetch? m'.pc).isSome ∧
          (loaded.program.sinceRead trail : Int) + 1 = m.maxSteps + 1)) ∧
    (∀ most, m.maxSteps ≤ most →
      (∀ trail m', (loaded.withLimit most).Passes trail m' →
        (loaded.program.fetch? m'.pc).isSome →
          (loaded.program.sinceRead trail : Int) + 1 ≤ m.maxSteps) →
      loaded.run = ((loaded.withLimit most).run.1,
          (loaded.withLimit most).run.2.withLimit m.maxSteps) ∧
        ∀ k, loaded.run.2.fault.map (·.cause) ≠ some (.stepLimit k)) := by
  have hloads := load_ok hload
  have hon := hloads.on
  have htimed : ∀ {trail m'}, loaded.Passes trail m' → Timed loaded trail m' := fun hpasses =>
    hpasses.timed hon hloads.steps hloads.idle (hloads.maxSteps ▸ hmost)
  rw [← hloads.maxSteps, ← hloads.inbox]
  refine ⟨?_, ?_, ?_⟩
  · obtain ⟨trail, last, hpasses, hstop, hrun⟩ := loaded.run_ends
    obtain ⟨hidle, hsteps⟩ := (htimed hpasses).close (hpasses.kept hon).2 hstop
    exact ⟨trail, last, hpasses, hstop, hrun, hrun ▸ hidle, hrun ▸ hsteps⟩
  · intro trail m' hpasses
    obtain ⟨hsteps, hidle, htime, -, hremaining⟩ := htimed hpasses
    refine ⟨htime, (htimed hpasses).le, hsteps, hremaining, ?_⟩
    have hiff := step_limit_iff (hpasses.on hon)
    rw [(hpasses.kept hon).1, (hpasses.kept hon).2] at hiff
    rw [hiff, ← hidle]
    refine and_congr_right fun _ => ?_
    constructor <;> intro h <;> omega
  · intro most hle hneed
    have hon' : (loaded.withLimit most).On := ⟨hon.running, hon.unfaulted⟩
    have htime : ∀ {trail m'}, (loaded.withLimit most).Passes trail m' →
        (loaded.program.fetch? m'.pc).isSome →
        (m'.idle : Int) < most ∧ (m'.idle : Int) < loaded.maxSteps := by
      intro trail m' hpasses hfetch
      have hlimit : 0 ≤ most := by rw [hloads.maxSteps] at hle; omega
      have hidle := (hpasses.timed hon' hloads.steps hloads.idle hlimit).idle
      have hless : (loaded.program.sinceRead trail : Int) + 1 ≤ loaded.maxSteps :=
        hneed trail m' hpasses hfetch
      have hsame : m'.idle = loaded.program.sinceRead trail := hidle
      omega
    obtain ⟨hrun, hfault⟩ := run_withLimit hon' htime
    have hback : (loaded.withLimit most).withLimit loaded.maxSteps = loaded := rfl
    rw [hback] at hrun
    rw [hrun]
    exact ⟨rfl, hfault⟩

/-- A loop of three instructions passes values on.  With a limit of two it reads one value, and
the next round meets the limit before it can read another one. -/
theorem run_idles_two :
    let m : Machine := { floor := ⟨0, #[], rfl⟩, inbox := .ofValues [5, 6], maxSteps := 2 }
    let lines := ["top:", "INBOX", "OUTBOX", "JUMP top"]
    ∃ loaded, m.load lines = (loaded, none) ∧ 0 ≤ m.maxSteps ∧
      loaded.run.2.fault = some ⟨.stepLimit 2, 0, 2⟩ ∧
      ∃ trail last, loaded.Passes trail last ∧ loaded.run = last.step.close ∧
        loaded.program.sinceRead trail = 2 ∧
        (loaded.run.2.steps : Int) ≤ 2 * (loaded.program.valuesRead trail + 1) := by
  intro m lines
  have hload : m.load lines = ((m.load lines).1, none) := Prod.ext rfl (by cbv)
  have hfault : (m.load lines).1.run.2.fault = some ⟨.stepLimit 2, 0, 2⟩ := by cbv
  generalize (m.load lines).1 = loaded at hload hfault
  obtain ⟨⟨trail, last, hpasses, hstop, hrun, -, hsteps⟩, hpassed, -⟩ :=
    run_idles hload (by decide)
  refine ⟨loaded, hload, by decide, hfault, trail, last, hpasses, hrun, ?_, hsteps⟩
  obtain ⟨-, -, -, -, hlimit⟩ := hpassed trail last hpasses
  rw [hrun] at hfault
  have hend := step_close_fault (hpasses.on (load_ok hload).on) hstop hfault
  obtain ⟨-, hsince⟩ := hlimit.mp ⟨_, hend, rfl⟩
  have htwo : m.maxSteps = 2 := rfl
  omega

end Machine

end Mailroom
