import Mathlib.Logic.Relation
import Mailroom.Proofs.Desk
import Mailroom.Proofs.Places

/-!
# Runs of a listing, place by place

A machine counts addresses and looks labels up in a table.  Here the same run is told in terms of
the listing itself: a `Config` has a place in the listing, the desk and the two counters.  `advance`
carries out the next instruction, and `turn` does so within a limit on the number of instructions
without a value read.

The two views agree step by step (`Shows.step`), so a run of a machine ends where the listing's own
run ends (`run_finishes`).  Everything about runs is proved on configurations.

- `Config.advance`, `Config.turn`: one instruction, without and with the limit.
- `Leads`, `Finishes`: runs without and with the limit.
-/

namespace Mailroom

open Text Source

/-! ## Configurations -/

/-- A place in a listing with the state of a run there. -/
structure Config where
  /-- What is left of the listing. -/
  rest : List Op
  desk : Desk
  /-- How many instructions have been carried out since a value was read. -/
  idle : Nat
  /-- How many instructions have been carried out. -/
  steps : Nat

namespace Config

/-- The start of a listing. -/
def start (code : List Op) (desk : Desk) : Config :=
  ⟨code, desk, 0, 0⟩

/-- One more instruction has been carried out. -/
def move (c : Config) (i : Instr) (rest : List Op) (desk : Desk) : Config :=
  ⟨rest, desk, if i = .inbox then 0 else c.idle + 1, c.steps + 1⟩

/-- Carries out the next instruction. -/
def advance (code : List Op) (c : Config) : Except Halt Config :=
  match upcoming c.rest with
  | none => .error .ended
  | some (i, later) =>
    match c.desk.perform i with
    | .error h => .error h
    | .ok (desk, none) => .ok (c.move i later desk)
    | .ok (desk, some label) =>
      match after label code with
      | none => .error (.fault (.unknownLabel label))
      | some rest => .ok (c.move i rest desk)

/-- Carries out the next instruction, unless too many have been carried out without a value
read. -/
def turn (code : List Op) (limit : Int) (c : Config) : Except Halt Config :=
  if (upcoming c.rest).isSome ∧ limit ≤ c.idle then .error (.fault (.stepLimit limit))
  else c.advance code

end Config

/-! ## Instructions of a machine -/

/-- What a run comes to that ends with a step. -/
def Machine.Turn.close (t : Machine.Turn) : Option InboxError × Machine :=
  match t.outcome with
  | .failed e => (some e, t.machine)
  | .fault f => (none, { t.machine with halted := true, fault := some f })
  | _ => (none, t.machine)

/-- A machine that has carried out an instruction. -/
structure Moved (m m' : Machine) (i : Instr) (d : Desk) (pc : Nat) : Prop where
  desk : m'.desk = d
  pc : m'.pc = pc
  idle : m'.idle = if i = .inbox then 0 else m.idle
  steps : m'.steps = m.steps
  kept : m'.program = m.program ∧ m'.maxSteps = m.maxSteps ∧ m'.halted = m.halted ∧
    m'.fault = m.fault

/-- A run that ends with an instruction. -/
structure Stuck (m : Machine) (row : Row) (h : Halt) (r : Option InboxError × Machine) : Prop where
  error : r.1 = h.error?
  fault : r.2.fault = h.cause?.map (⟨·, m.pc, row.number⟩)
  desk : r.2.desk = h.leave m.desk
  steps : r.2.steps = m.steps
  halted : r.2.halted = r.1.isNone
  program : r.2.program = m.program

/-- A machine carries out an instruction as its desk says. -/
lemma execute_desk {m : Machine} (hrunning : m.halted = false) (hfault : m.fault = none)
    (row : Row) :
    match m.desk.perform row.instr with
    | .error h => (m.execute row).outcome ≠ .running ∧ Stuck m row h (m.execute row).close
    | .ok (d, none) => (m.execute row).outcome = .running ∧
        Moved m (m.execute row).machine row.instr d (m.pc + 1)
    | .ok (d, some label) =>
      match m.program.address? label with
      | some pc => (m.execute row).outcome = .running ∧
          Moved m (m.execute row).machine row.instr d pc
      | none => (m.execute row).outcome ≠ .running ∧
          Stuck m row (.fault (.unknownLabel label)) (m.execute row).close := by
  have hcarry := Machine.carryOut_desk row.instr { machine := m }
  dsimp only at hcarry
  rw [Machine.execute]
  cases hperform : m.desk.perform row.instr with
  | error halt =>
      rw [hperform] at hcarry
      cases halt with
      | fault cause =>
          rw [hcarry]
          exact ⟨by simp, rfl, rfl, rfl, rfl, rfl, rfl⟩
      | failed e =>
          rw [hcarry]
          exact ⟨by simp, rfl, hfault, rfl, rfl, hrunning, rfl⟩
      | dry | ended =>
          rw [hcarry]
          exact ⟨by simp, rfl, hfault, rfl, rfl, rfl, rfl⟩
  | ok result =>
      obtain ⟨d, way⟩ := result
      rw [hperform] at hcarry
      cases way with
      | none =>
          obtain ⟨events, hcarry⟩ := hcarry
          rw [hcarry]
          exact ⟨rfl, rfl, rfl, rfl, rfl, rfl, rfl, rfl, rfl⟩
      | some label =>
          dsimp only at hcarry ⊢
          cases haddress : m.program.address? label with
          | none =>
              rw [haddress] at hcarry
              rw [hcarry]
              exact ⟨by simp, rfl, rfl, rfl, rfl, rfl, rfl⟩
          | some pc =>
              rw [haddress] at hcarry
              obtain ⟨events, hcarry⟩ := hcarry
              obtain ⟨-, kind, hjump⟩ := Desk.perform_taken hperform
              rw [hcarry, hjump]
              exact ⟨rfl, rfl, rfl, rfl, rfl, rfl, rfl, rfl, rfl⟩

/-! ## Machines and configurations -/

/-- A machine that is at a place of the listing it was loaded with. -/
structure Shows (m : Machine) (code : List Op) (c : Config) : Prop where
  loaded : Loaded m.program code
  running : m.halted = false
  unfaulted : m.fault = none
  desk : m.desk = c.desk
  idle : m.idle = c.idle
  steps : m.steps = c.steps
  place : c.rest <:+ code
  pc : m.pc + (instrs c.rest).length = (instrs code).length

/-- A machine fetches the instruction that comes next. -/
lemma Shows.fetch {m : Machine} {code : List Op} {c : Config} (h : Shows m code c) :
    (m.program.fetch? m.pc).map (·.instr) = (upcoming c.rest).map (·.1) := by
  obtain ⟨front, hfront⟩ := h.place
  have hpc : m.pc = (instrs front).length := by
    have := h.pc
    rw [← hfront, instrs_append, List.length_append] at this
    omega
  rw [h.loaded.fetch, ← hfront, instrs_append, hpc, List.getElem?_append_right (le_refl _), Nat.sub_self]
  cases hup : upcoming c.rest with
  | none => rw [upcoming_eq_none hup]; rfl
  | some next =>
      obtain ⟨i, later⟩ := next
      rw [(upcoming_eq_some hup).1]
      rfl

/-- How a machine looks that went no further than a configuration. -/
structure Closes (r : Option InboxError × Machine) (h : Halt) (c : Config) : Prop where
  error : r.1 = h.error?
  cause : r.2.fault.map (·.cause) = h.cause?
  desk : r.2.desk = h.leave c.desk
  steps : r.2.steps = c.steps + h.cost
  halted : r.2.halted = r.1.isNone
  place : ∀ f ∈ r.2.fault, (r.2.program.fetch? f.pc).map (·.instr) = (upcoming c.rest).map (·.1)

/-- A machine that has fetched an instruction. -/
structure Fetched (m m' : Machine) : Prop where
  desk : m'.desk = m.desk
  pc : m'.pc = m.pc
  idle : m'.idle = m.idle + 1
  steps : m'.steps = m.steps + 1
  kept : m'.program = m.program ∧ m'.maxSteps = m.maxSteps ∧ m'.halted = m.halted ∧
    m'.fault = m.fault

/-- A step within the limit fetches an instruction and carries it out. -/
lemma Machine.step_fetched {m : Machine} (hrunning : m.halted = false) {row : Row}
    (hrow : m.program.fetch? m.pc = some row) (hlimit : ¬ m.maxSteps ≤ m.idle) :
    ∃ fetched : Machine, (m.step.outcome = (fetched.execute row).outcome ∧
      m.step.machine = (fetched.execute row).machine ∧
      m.step.close = (fetched.execute row).close) ∧ Fetched m fetched := by
  refine ⟨{ m with steps := m.steps + 1, idle := m.idle + 1, current := some row }, ?_,
    rfl, rfl, rfl, rfl, rfl, rfl, rfl, rfl⟩
  rw [Machine.step, hrunning, if_neg Bool.false_ne_true, hrow]
  dsimp only
  rw [if_neg hlimit]
  exact ⟨rfl, rfl, rfl⟩

lemma Shows.closes {m fetched : Machine} {code : List Op} {c : Config} (h : Shows m code c)
    (hfetched : Fetched m fetched) {row : Row} (hrow : m.program.fetch? m.pc = some row)
    {later : List Op} (hup : upcoming c.rest = some (row.instr, later)) {halt : Halt}
    (hcost : halt.cost = 1) {r : Option InboxError × Machine} (hr : Stuck fetched row halt r) :
    Closes r halt c := by
  refine ⟨hr.error, ?_, ?_, ?_, hr.halted, ?_⟩
  · rw [hr.fault]
    cases halt.cause? <;> rfl
  · rw [hr.desk, hfetched.desk, h.desk]
  · rw [hr.steps, hfetched.steps, h.steps, hcost]
  · intro f hf
    rw [hr.fault] at hf
    obtain ⟨cause, -, rfl⟩ := Option.map_eq_some_iff.mp hf
    rw [hr.program, hfetched.kept.1, hfetched.pc, hrow, hup]
    rfl

lemma Shows.moved {m fetched m' : Machine} {code : List Op} {c : Config} (h : Shows m code c)
    (hfetched : Fetched m fetched) {i : Instr} {d : Desk} {pc : Nat} (hm : Moved fetched m' i d pc)
    {rest : List Op} (hplace : rest <:+ code)
    (hpc : pc + (instrs rest).length = (instrs code).length) :
    Shows m' code (c.move i rest d) ∧ m'.maxSteps = m.maxSteps := by
  obtain ⟨hprogram, hmost, hhalted, hfault⟩ := hm.kept
  obtain ⟨hprogram', hmost', hhalted', hfault'⟩ := hfetched.kept
  refine ⟨⟨?_, ?_, ?_, hm.desk, ?_, ?_, hplace, ?_⟩, hmost.trans hmost'⟩
  · rw [hprogram, hprogram']
    exact h.loaded
  · rw [hhalted, hhalted', h.running]
  · rw [hfault, hfault', h.unfaulted]
  · rw [hm.idle, hfetched.idle, h.idle]
    rfl
  · rw [hm.steps, hfetched.steps, h.steps]
    rfl
  · rw [hm.pc]
    exact hpc

/-- **One step.**  A machine does what its configuration does. -/
lemma Shows.step {m : Machine} {code : List Op} {c : Config} (h : Shows m code c) :
    match c.turn code m.maxSteps with
    | .ok c' => m.step.outcome = .running ∧ Shows m.step.machine code c' ∧
        m.step.machine.maxSteps = m.maxSteps
    | .error halt => m.step.outcome ≠ .running ∧ Closes m.step.close halt c := by
  have hfetch := h.fetch
  rw [Config.turn]
  cases hup : upcoming c.rest with
  | none =>
      have hrow : m.program.fetch? m.pc = none := by simpa [hup] using hfetch
      simp only [Machine.step, Config.advance, hup, hrow, h.running, Option.isSome_none,
        Bool.false_eq_true, false_and, if_false]
      refine ⟨by simp, rfl, ?_, h.desk, h.steps, rfl, ?_⟩
      · simp [Machine.Turn.close, h.unfaulted, Halt.cause?]
      · simp [Machine.Turn.close, h.unfaulted]
  | some next =>
      obtain ⟨i, later⟩ := next
      obtain ⟨row, hrow, rfl⟩ : ∃ row, m.program.fetch? m.pc = some row ∧ row.instr = i := by
        simpa [hup] using hfetch
      obtain ⟨hinstrs, hlater⟩ := upcoming_eq_some hup
      by_cases hlimit : m.maxSteps ≤ m.idle
      · have hlimit' : m.maxSteps ≤ c.idle := h.idle ▸ hlimit
        simp only [Machine.step, hrow, h.running, Option.isSome_some, hlimit, hlimit', and_self,
          Bool.false_eq_true, if_false, if_true]
        refine ⟨by simp, rfl, rfl, h.desk, h.steps, rfl, ?_⟩
        rintro f ⟨⟩
        simp [Machine.Turn.close, hrow, hup]
      · have hlimit' : ¬ m.maxSteps ≤ c.idle := h.idle ▸ hlimit
        obtain ⟨fetched, hturn, hfetched⟩ := m.step_fetched h.running hrow hlimit
        rw [if_neg fun h => hlimit' h.2, Config.advance, hup]
        have hdesk : fetched.desk = c.desk := hfetched.desk.trans h.desk
        have hexecute := execute_desk (hfetched.kept.2.2.1.trans h.running)
          (hfetched.kept.2.2.2.trans h.unfaulted) row
        rw [hdesk] at hexecute
        rw [hturn.1, hturn.2.1, hturn.2.2]
        dsimp only
        cases hperform : c.desk.perform row.instr with
        | error halt =>
            rw [hperform] at hexecute
            exact ⟨hexecute.1, h.closes hfetched hrow hup (Desk.perform_cost hperform) hexecute.2⟩
        | ok result =>
            obtain ⟨d, way⟩ := result
            rw [hperform] at hexecute
            cases way with
            | none =>
                obtain ⟨hrunning, hmoved⟩ := hexecute
                refine ⟨hrunning, h.moved hfetched hmoved ?_ ?_⟩
                · exact (List.suffix_cons _ _).trans (hlater.trans h.place)
                · have hpc := h.pc
                  rw [hinstrs, List.length_cons] at hpc
                  rw [hfetched.pc]
                  omega
            | some label =>
                dsimp only at hexecute ⊢
                rw [hfetched.kept.1, h.loaded.address] at hexecute
                cases hafter : after label code with
                | none =>
                    rw [hafter] at hexecute
                    exact ⟨hexecute.1, h.closes hfetched hrow hup rfl hexecute.2⟩
                | some rest =>
                    rw [hafter] at hexecute
                    obtain ⟨hrunning, hmoved⟩ := hexecute
                    have hplace := (List.suffix_cons _ _).trans (after_suffix hafter)
                    have hle := instrs_length_le hplace
                    exact ⟨hrunning, h.moved hfetched hmoved hplace (Nat.sub_add_cancel hle)⟩

/-! ## Runs -/

/-- A run within a limit comes to a configuration and goes no further. -/
inductive Finishes (code : List Op) (limit : Int) : Config → Halt → Config → Prop
  | stop {c : Config} {h : Halt} : c.turn code limit = .error h → Finishes code limit c h c
  | step {c c' last : Config} {h : Halt} : c.turn code limit = .ok c' →
      Finishes code limit c' h last → Finishes code limit c h last

/-- A run ends in one way. -/
lemma Finishes.unique {code : List Op} {limit : Int} {c last last' : Config} {h h' : Halt}
    (h1 : Finishes code limit c h last) (h2 : Finishes code limit c h' last') :
    h = h' ∧ last = last' := by
  induction h1 with
  | stop hturn =>
      cases h2 with
      | stop hturn' =>
          rw [hturn] at hturn'
          cases hturn'
          exact ⟨rfl, rfl⟩
      | step hturn' _ =>
          rw [hturn] at hturn'
          cases hturn'
  | step hturn _ ih =>
      cases h2 with
      | stop hturn' =>
          rw [hturn] at hturn'
          cases hturn'
      | step hturn' hrest =>
          rw [hturn] at hturn'
          cases hturn'
          exact ih hrest

lemma Machine.run_eq (m : Machine) :
    m.run = if m.step.outcome = .running then m.step.machine.run else m.step.close := by
  rw [run, drive]
  simp only [Bool.false_eq_true, if_false]
  split
  · rename_i h
    rw [if_pos h]
    rfl
  all_goals
    rename_i h
    rw [if_neg (by rw [h]; simp), Turn.close.eq_def, h]

/-- **Runs.**  A machine ends as the run of its listing does. -/
theorem run_finishes {m : Machine} {code : List Op} {c : Config} (h : Shows m code c) :
    ∃ halt last, Finishes code m.maxSteps c halt last ∧ Closes m.run halt last := by
  have hstep := h.step
  rw [Machine.run_eq]
  cases hturn : c.turn code m.maxSteps with
  | error halt =>
      rw [hturn] at hstep
      rw [if_neg hstep.1]
      exact ⟨halt, c, .stop hturn, hstep.2⟩
  | ok c' =>
      rw [hturn] at hstep
      obtain ⟨hrunning, hshows, hmost⟩ := hstep
      obtain ⟨halt, last, hfinishes, hcloses⟩ := run_finishes hshows
      rw [if_pos hrunning]
      rw [hmost] at hfinishes
      exact ⟨halt, last, .step hturn hfinishes, hcloses⟩
termination_by m.budget
decreasing_by exact Machine.step_budget rfl hrunning

/-- A machine that has been loaded with what operations were written as is at their start. -/
lemma load_shows {ops : List Op} (hops : ∀ op ∈ ops, op.Spelled)
    (hlegible : ∀ op ∈ ops, op.legible = true) (m : Machine) :
    ∃ m', m.load (render ops) = (m', none) ∧ m'.maxSteps = m.maxSteps ∧
      Shows m' ops (.start ops ⟨none, m.floor, m.inbox, #[]⟩) := by
  obtain ⟨p, hp, hloaded⟩ := load_render hops hlegible
  refine ⟨{ program := p, floor := m.floor, inbox := m.inbox, maxSteps := m.maxSteps }, ?_, rfl,
    hloaded, rfl, rfl, rfl, rfl, rfl, List.suffix_refl _, Nat.zero_add _⟩
  rw [Machine.load, hp]

/-- A listing is loaded exactly when each of its lines can be read. -/
lemma load_iff_legible {ops : List Op} (hops : ∀ op ∈ ops, op.Spelled) (m : Machine) :
    (m.load (render ops)).2 = none ↔ ∀ op ∈ ops, op.legible = true := by
  constructor
  · intro hnone op hop
    by_contra hnot
    obtain ⟨p, e, hload⟩ := load_render_error hops ⟨op, hop, by simpa using hnot⟩
    rw [Machine.load, hload] at hnone
    cases hnone
  · intro hall
    obtain ⟨m', hload, -⟩ := load_shows hops hall m
    rw [hload]

/-! ### Runs without a limit -/

/-- One configuration comes after another when nothing is said about a limit. -/
def Leads (code : List Op) : Config → Config → Prop :=
  Relation.ReflTransGen fun c c' => c.advance code = .ok c'

namespace Config

variable {code : List Op} {limit : Int} {c c' : Config} {h : Halt}

lemma advance_of_turn (hturn : c.turn code limit = .ok c') : c.advance code = .ok c' := by
  rw [turn] at hturn
  split at hturn
  · cases hturn
  · exact hturn

lemma advance_of_turn_error (hturn : c.turn code limit = .error h)
    (hlimit : h ≠ .fault (.stepLimit limit)) : c.advance code = .error h := by
  rw [turn] at hturn
  split at hturn
  · cases hturn
    exact absurd rfl hlimit
  · exact hturn

/-- An instruction is carried out within the limit. -/
lemma turn_of_lt (hidle : (c.idle : Int) < limit) : c.turn code limit = c.advance code := by
  rw [turn, if_neg fun h => by omega]

/-- An instruction that leads to no label. -/
lemma advance_of_perform {i : Instr} {later : List Op} {d : Desk}
    (hup : upcoming c.rest = some (i, later)) (hperform : c.desk.perform i = .ok (d, none)) :
    c.advance code = .ok (c.move i later d) := by
  simp only [advance, hup, hperform]

lemma advance_of_perform_error {i : Instr} {later : List Op}
    (hup : upcoming c.rest = some (i, later)) (hperform : c.desk.perform i = .error h) :
    c.advance code = .error h := by
  simp only [advance, hup, hperform]

/-- A jump goes to its label or to the next line. -/
lemma advance_jump {kind : JumpKind} {label : String} {later rest : List Op} {b : Bool}
    (hup : upcoming c.rest = some (.jump kind label, later))
    (htakes : c.desk.takes kind label = .ok b) (hafter : after label code = some rest) :
    c.advance code = .ok (c.move (.jump kind label) (if b then rest else later) c.desk) := by
  cases b with
  | true => simp only [advance, hup, Desk.perform, htakes, hafter, if_true]
  | false => simp only [advance, hup, Desk.perform, htakes, Bool.false_eq_true, if_false]

/-- Why there is no step. -/
lemma advance_error (hadvance : c.advance code = .error h) :
    (h = .ended ∧ upcoming c.rest = none) ∨
      ∃ i later, upcoming c.rest = some (i, later) ∧ (c.desk.perform i = .error h ∨
        ∃ desk label, c.desk.perform i = .ok (desk, some label) ∧ after label code = none ∧
          h = .fault (.unknownLabel label)) := by
  rw [advance] at hadvance
  split at hadvance
  · rename_i hup
    cases hadvance
    exact .inl ⟨rfl, hup⟩
  · rename_i i later hup
    refine .inr ⟨i, later, hup, ?_⟩
    split at hadvance
    · rename_i hperform
      cases hadvance
      exact .inl hperform
    · cases hadvance
    · rename_i desk label hperform
      split at hadvance
      · rename_i hafter
        cases hadvance
        exact .inr ⟨desk, label, hperform, hafter, rfl⟩
      · cases hadvance

/-- Without a limit there is no fault about it. -/
lemma advance_ne_limit {most : Int} : c.advance code ≠ .error (.fault (.stepLimit most)) := by
  intro hadvance
  rcases advance_error hadvance with ⟨⟨⟩, -⟩ | ⟨i, later, -, hperform | ⟨_, _, -, -, ⟨⟩⟩⟩
  rcases Desk.perform_error hperform with ⟨h, -⟩ | ⟨e, h, -⟩ | ⟨h, -⟩ | ⟨op, t, e, h, -⟩ <;> cases h

/-- What a step does. -/
lemma advance_cases (hadvance : c.advance code = .ok c') :
    ∃ i later desk way, upcoming c.rest = some (i, later) ∧ c.desk.perform i = .ok (desk, way) ∧
      ((way = none ∧ c' = c.move i later desk) ∨
        ∃ label rest, way = some label ∧ after label code = some rest ∧ c' = c.move i rest desk) := by
  rw [advance] at hadvance
  split at hadvance
  · cases hadvance
  · rename_i i later hup
    split at hadvance
    · cases hadvance
    · rename_i desk hperform
      cases hadvance
      exact ⟨i, later, desk, none, hup, hperform, .inl ⟨rfl, rfl⟩⟩
    · rename_i desk label hperform
      split at hadvance
      · cases hadvance
      · rename_i rest hafter
        cases hadvance
        exact ⟨i, later, desk, some label, hup, hperform, .inr ⟨label, rest, rfl, hafter, rfl⟩⟩

/-- A step changes the counters by one at most. -/
lemma advance_counters (hadvance : c.advance code = .ok c') :
    c'.steps = c.steps + 1 ∧ c'.idle ≤ c.idle + 1 := by
  have hmove : ∀ (i : Instr) (rest : List Op) (d : Desk), (c.move i rest d).steps = c.steps + 1 ∧
      (c.move i rest d).idle ≤ c.idle + 1 := by
    intro i rest d
    refine ⟨rfl, ?_⟩
    simp only [move]
    split <;> omega
  obtain ⟨i, later, d, way, -, -, ⟨-, rfl⟩ | ⟨label, rest, -, -, rfl⟩⟩ := advance_cases hadvance
  · exact hmove ..
  · exact hmove ..

lemma advance_emitted (hadvance : c.advance code = .ok c') :
    c.desk.emitted.toList <+: c'.desk.emitted.toList := by
  obtain ⟨i, later, d, way, -, hperform, ⟨-, rfl⟩ | ⟨label, rest, -, -, rfl⟩⟩ :=
    advance_cases hadvance
  · exact Desk.perform_emitted hperform
  · exact Desk.perform_emitted hperform

/-- A step stays in the listing. -/
lemma advance_place (hplace : c.rest <:+ code) (hadvance : c.advance code = .ok c') :
    c'.rest <:+ code := by
  obtain ⟨i, later, d, way, hup, -, ⟨-, rfl⟩ | ⟨label, rest, -, hafter, rfl⟩⟩ :=
    advance_cases hadvance
  · exact (List.suffix_cons _ _).trans ((upcoming_eq_some hup).2.trans hplace)
  · exact (List.suffix_cons _ _).trans (after_suffix hafter)

lemma advance_size (hadvance : c.advance code = .ok c') :
    c'.desk.floor.size = c.desk.floor.size := by
  obtain ⟨i, later, d, way, -, hperform, ⟨-, rfl⟩ | ⟨label, rest, -, -, rfl⟩⟩ :=
    advance_cases hadvance
  · exact Desk.perform_size hperform
  · exact Desk.perform_size hperform

end Config

section Limits

variable {code : List Op} {limit : Int} {c c' last : Config} {h : Halt}

lemma Leads.steps_le (hleads : Leads code c c') : c.steps ≤ c'.steps := by
  induction hleads with
  | refl => exact le_refl _
  | tail _ hadvance ih =>
      have := (Config.advance_counters hadvance).1
      omega

lemma Leads.emitted (hleads : Leads code c c') :
    c.desk.emitted.toList <+: c'.desk.emitted.toList := by
  induction hleads with
  | refl => exact List.prefix_refl _
  | tail _ hadvance ih => exact ih.trans (Config.advance_emitted hadvance)

/-- A run stays in the listing and on the floor. -/
lemma Leads.stays (hleads : Leads code c c') (hplace : c.rest <:+ code) :
    c'.rest <:+ code ∧ c'.desk.floor.size = c.desk.floor.size := by
  induction hleads with
  | refl => exact ⟨hplace, rfl⟩
  | tail _ hadvance ih =>
      exact ⟨Config.advance_place ih.1 hadvance, (Config.advance_size hadvance).trans ih.2⟩

/-- Of two places that a run passes, one comes first. -/
lemma Leads.total (hleads : Leads code c c') (hlast : Leads code c last) :
    Leads code c' last ∨ Leads code last c' := by
  refine Relation.ReflTransGen.total_of_right_unique ?_ hleads hlast
  intro a b b' hb hb'
  rw [hb] at hb'
  exact Except.ok.inj hb'

/-- Nothing comes behind the place where a run goes no further. -/
lemma Leads.eq_of_stop (hleads : Leads code c c') (hstop : c.advance code = .error h) : c' = c := by
  rcases Relation.ReflTransGen.cases_head hleads with rfl | ⟨next, hadvance, -⟩
  · rfl
  · rw [hstop] at hadvance
    cases hadvance

/-- A run gets as far as it does without a limit if the limit is large. -/
lemma Leads.continues (hleads : Leads code c c')
    (hlimit : (c.idle + c'.steps : Int) ≤ limit + c.steps)
    (hfinishes : Finishes code limit c' h last) : Finishes code limit c h last := by
  induction hleads using Relation.ReflTransGen.head_induction_on with
  | refl => exact hfinishes
  | head hadvance hleads ih =>
      obtain ⟨hsteps, hidle⟩ := Config.advance_counters hadvance
      have hle := Leads.steps_le hleads
      refine .step ?_ (ih (by omega))
      rw [Config.turn_of_lt (by omega)]
      exact hadvance

/-- How many instructions have been carried out since a value was read is bounded by how many there
were before and how many there have been since. -/
lemma Leads.idle_bound (hleads : Leads code c c') : c'.idle + c.steps ≤ c.idle + c'.steps := by
  induction hleads with
  | refl => exact le_refl _
  | tail _ hadvance ih =>
      have := Config.advance_counters hadvance
      omega

/-- With a large limit a run ends as it does without one. -/
lemma Leads.finishes (hleads : Leads code c c') (hstop : c'.advance code = .error h)
    (hlimit : (c.idle + c'.steps : Int) < limit + c.steps) : Finishes code limit c h c' := by
  have hidle := hleads.idle_bound
  refine hleads.continues (by omega) (.stop ?_)
  rw [Config.turn_of_lt (by omega)]
  exact hstop

/-- A run within a limit goes the way of the run without one. -/
lemma Finishes.leads (hfinishes : Finishes code limit c h last) :
    Leads code c last ∧ (last.advance code = .error h ∨ h = .fault (.stepLimit limit)) := by
  induction hfinishes with
  | @stop c h hturn =>
      refine ⟨.refl, ?_⟩
      by_cases hlimit : h = .fault (.stepLimit limit)
      · exact .inr hlimit
      · exact .inl (Config.advance_of_turn_error hturn hlimit)
  | step hturn _ ih => exact ⟨.head (Config.advance_of_turn hturn) ih.1, ih.2⟩

/-- The limit ends a run when that many instructions have been carried out without a value read. -/
lemma Finishes.limit_le (hfinishes : Finishes code limit c (.fault (.stepLimit limit)) last) :
    limit ≤ last.idle := by
  generalize hh : Halt.fault (.stepLimit limit) = halt at hfinishes
  induction hfinishes with
  | step _ _ ih => exact ih hh
  | @stop c h hturn =>
      subst hh
      rw [Config.turn] at hturn
      split at hturn
      · rename_i hlimit
        exact hlimit.2
      · exact absurd hturn Config.advance_ne_limit

end Limits

end Mailroom
