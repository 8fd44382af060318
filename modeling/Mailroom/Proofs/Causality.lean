import Mathlib
import Mailroom.Proofs.Faults

/-!
# More to read comes too late for what has been sent

Two machines that differ only in how many values their inboxes hold do the same, step by step, until
the one with fewer values asks for one that it does not have.  So what it has sent by then the other
one has sent as well, and if it never asks for such a value, both end alike.

- `step_given`: one step, with and without more values to read.
- `Passes.given`: a run passes the same states with more values to read.
- `run_causal`: what has been sent stays sent, and a run that does not end for want of a value ends
  in the same state.
-/

namespace Mailroom.Machine

/-- A machine that is given values to read. -/
def given (m : Machine) (values : List Int) : Machine :=
  { m with inbox := .ofValues values }

/-- A machine that is at an instruction which asks an empty inbox for a value. -/
structure Starved (m : Machine) : Prop where
  unfaulted : m.fault = none
  asks : (m.program.fetch? m.pc).map (·.instr) = some .inbox
  empty : m.inbox.pending = []

lemma given_eq_self {m : Machine} {values : List Int} (h : m.inbox = .ofValues values) :
    m.given values = m := by
  rw [given, ← h]

/-! ## Steps -/

/-- An instruction that reads no value does the same whatever there is to read. -/
lemma execute_given {row : Row} (h : row.instr ≠ .inbox) (m : Machine) (values : List Int) :
    (m.given values).execute row
      = { m.execute row with machine := (m.execute row).machine.given values } :=
  calc (m.given values).execute row
      = (m.withRest (m.given values)).execute row := rfl
    _ = (m.execute row).withRest (m.given values) := execute_withRest h m _
    _ = _ := by
        rw [Turn.withRest, execute_rest h m]
        rfl

/-- **One step.**  With more values to read a machine does the same, and leaves these alone, unless
it would ask for a value in vain without them. -/
lemma step_given (m : Machine) (xs ys : List Int) :
    (∃ rest, (m.given xs).step.machine.inbox = .ofValues rest ∧
      (m.given (xs ++ ys)).step = { (m.given xs).step with
        machine := (m.given xs).step.machine.given (rest ++ ys) }) ∨
    (xs = [] ∧ ∃ row, m.program.fetch? m.pc = some row ∧ row.instr = .inbox ∧
      (m.given xs).step = ⟨{ (m.given xs).fetching row with halted := true },
        [.fetched m.pc row.line, .halted], .stopped⟩) := by
  cases hrunning : m.halted with
  | true =>
      have hstep := fun zs => step_halted (m := m.given zs) hrunning
      rw [hstep, hstep]
      exact .inl ⟨xs, rfl, rfl⟩
  | false =>
      cases hrow : m.program.fetch? m.pc with
      | none =>
          have hstep := fun zs => step_ended (m := m.given zs) hrunning hrow
          rw [hstep, hstep]
          exact .inl ⟨xs, rfl, rfl⟩
      | some row =>
          rcases le_or_gt m.maxSteps m.idle with hlate | htime
          · have hstep := fun zs => step_late (m := m.given zs) hrunning hrow hlate
            rw [hstep, hstep]
            exact .inl ⟨xs, rfl, rfl⟩
          have hstep := fun zs => step_inTime (m := m.given zs) hrunning hrow htime
          have hfetching : ∀ zs, (m.given zs).fetching row = (m.fetching row).given zs :=
            fun _ => rfl
          rw [hstep, hstep, hfetching, hfetching]
          by_cases hinbox : row.instr = .inbox
          · rw [execute_inbox hinbox, execute_inbox hinbox]
            cases xs with
            | nil => exact .inr ⟨rfl, row, rfl, hinbox, rfl⟩
            | cons v xs => exact .inl ⟨xs, rfl, rfl⟩
          · rw [execute_given hinbox, execute_given hinbox]
            exact .inl ⟨xs, rfl, rfl⟩

/-! ## Runs -/

section Runs

variable {m m' : Machine} {trail : List Nat}

/-- A run passes the same states with more values to read. -/
lemma Passes.given {xs : List Int} (hpasses : (m.given xs).Passes trail m') (ys : List Int) :
    ∃ rest, m'.inbox = .ofValues rest ∧
      (m.given (xs ++ ys)).Passes trail (m'.given (rest ++ ys)) := by
  induction hpasses with
  | start => exact ⟨xs, rfl, .start⟩
  | @step trail m' _ hrunning ih =>
      obtain ⟨rest, hinbox, hpasses⟩ := ih
      have hstep := step_given m' rest ys
      rw [given_eq_self hinbox] at hstep
      obtain ⟨rest', hinbox', hmore⟩ | ⟨-, _, -, -, hdry⟩ := hstep
      · have hnext := hpasses.step (by rw [hmore]; exact hrunning)
        rw [hmore] at hnext
        exact ⟨rest', hinbox', hnext⟩
      · rw [hdry] at hrunning
        cases hrunning

/-- What has been sent stays sent. -/
lemma Passes.emitted (hpasses : m.Passes trail m') (hon : m.On) :
    m.emitted.toList <+: m'.emitted.toList := by
  induction hpasses with
  | start => exact List.prefix_refl _
  | step hpasses hrunning ih =>
      obtain ⟨row, hgoes⟩ := step_goes (hpasses.on hon) hrunning
      obtain ⟨way, hperform, -⟩ := hgoes.desk
      exact ih.trans (Desk.perform_emitted hperform)

/-- The end of a run sends nothing. -/
lemma step_close_emitted (h : m.step.outcome ≠ .running) :
    m.step.close.2.emitted = m.emitted := by
  obtain ⟨_, _, hclose⟩ := m.step.close_eq
  rw [hclose]
  obtain ⟨_, hmachine⟩ | ⟨-, _, _, _, hmachine⟩ := step_ends h <;> rw [hmachine]

lemma run_emitted (hon : m.On) : m.emitted.toList <+: m.run.2.emitted.toList := by
  obtain ⟨trail, last, hpasses, hstop, hrun⟩ := m.run_ends
  rw [hrun, step_close_emitted hstop]
  exact hpasses.emitted hon

/-- The end of a run has no part in the inbox. -/
lemma Turn.close_given (t : Turn) (values : List Int) :
    ({ t with machine := t.machine.given values } : Turn).close
      = (t.close.1, t.close.2.given values) := by
  obtain ⟨m, events, outcome⟩ := t
  cases outcome <;> rfl

end Runs

/-- **Causality.**  What a run sends it sends as well when there is more to read.  A run that does
not end with an empty inbox asked for a value, but behind the last instruction or with a fault, ends
in the same state when there is more to read, and leaves that unread. -/
theorem run_causal {m loaded : Machine} {lines : List String}
    (hload : m.load lines = (loaded, none)) (xs ys : List Int) :
    (loaded.given xs).run.2.emitted.toList <+: (loaded.given (xs ++ ys)).run.2.emitted.toList ∧
    (¬ (loaded.given xs).run.2.Starved →
      ∃ rest, (loaded.given xs).run.2.inbox = .ofValues rest ∧
        (loaded.given (xs ++ ys)).run
          = ((loaded.given xs).run.1, (loaded.given xs).run.2.given (rest ++ ys))) := by
  have hloaded := (load_ok hload).on
  have hon : ∀ zs, (loaded.given zs).On := fun _ => ⟨hloaded.running, hloaded.unfaulted⟩
  obtain ⟨trail, last, hpasses, hstop, hrun⟩ := (loaded.given xs).run_ends
  obtain ⟨rest, hinbox, hpasses'⟩ := hpasses.given ys
  rw [hpasses'.run_eq, hrun]
  have hstep := step_given last rest ys
  rw [given_eq_self hinbox] at hstep
  obtain ⟨rest', hinbox', hmore⟩ | ⟨rfl, row, hrow, hasks, hdry⟩ := hstep
  · -- the last step is the same as well
    have hend : (last.given (rest ++ ys)).run
        = (last.step.close.1, last.step.close.2.given (rest' ++ ys)) := by
      rw [Machine.run_eq, if_neg (by rw [hmore]; exact hstop), hmore, Turn.close_given]
    rw [hend]
    refine ⟨List.prefix_refl _, fun _ => ⟨rest', ?_, rfl⟩⟩
    obtain ⟨_, _, hclose⟩ := last.step.close_eq
    rw [hclose, hinbox']
  · -- the run ends for want of a value, and may go on when there are more
    have hlast := hpasses.on (hon xs)
    constructor
    · rw [step_close_emitted hstop]
      exact run_emitted (m := last.given _) ⟨hlast.running, hlast.unfaulted⟩
    · refine fun hfed => absurd ⟨?_, ?_, ?_⟩ hfed <;> rw [hdry]
      · exact hlast.unfaulted
      · exact (congrArg (Option.map (·.instr)) hrow).trans (congrArg some hasks)
      · exact congrArg Inbox.pending hinbox

/-- The second sending finds the hand empty, whatever there is left to read. -/
theorem run_causal_empty_hand :
    let m : Machine := { floor := .ofSize 1, inbox := .ofValues [], maxSteps := 9 }
    ∃ loaded, m.load ["INBOX", "OUTBOX", "OUTBOX"] = (loaded, none) ∧
      (loaded.given [4]).run.2.fault = some ⟨.emptyHand "OUTBOX", 2, 3⟩ ∧
      ¬ (loaded.given [4]).run.2.Starved ∧
      ∃ rest, (loaded.given [4, 5]).run.2 = (loaded.given [4]).run.2.given (rest ++ [5]) := by
  intro m
  have hload : (m.load ["INBOX", "OUTBOX", "OUTBOX"]).2 = none := by decide +kernel
  have hfault : ((m.load ["INBOX", "OUTBOX", "OUTBOX"]).1.given [4]).run.2.fault
      = some ⟨.emptyHand "OUTBOX", 2, 3⟩ := by cbv
  have hfed : ¬ ((m.load ["INBOX", "OUTBOX", "OUTBOX"]).1.given [4]).run.2.Starved := by
    intro hstarved
    have hnone := hstarved.unfaulted
    rw [hfault] at hnone
    cases hnone
  obtain ⟨rest, -, hrun⟩ := (run_causal (Prod.ext rfl hload) [4] [5]).2 hfed
  exact ⟨_, Prod.ext rfl hload, hfault, hfed, rest, congrArg Prod.snd hrun⟩

end Mailroom.Machine
