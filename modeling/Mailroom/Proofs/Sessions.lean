import Mathlib
import Mailroom.Machine.Trace
import Mailroom.Proofs.Faults

/-!
# Machines that are loaded and stepped at will

A machine may be given one listing after the other, and be stepped in between.  A listing with a
flaw replaces the program as far as it goes and leaves the address of the next instruction alone, so
that this may lie outside of the new program.  Even so the program is sound at all times, and a step
comes to a fault, to a slip that cannot be read or to a result, and to nothing else.

- `Program.Sound`: each address has an instruction with its line, in the order of the lines, and no
  label leads outside; `load_sound`: whatever the lines are, loading them gives no other program.
- `InOrder`: what a step and a load keep up, and `obeyAll_inOrder`: what holds after all of them.
- `ComesTo`: the ways in which a step can come out, and `stepTraced_comesTo`: there are no others.
- `obeyAll_sound`: the programs, addresses and steps of a machine after any loads and steps.
-/

namespace Mailroom

open Text

/-! ## Sound programs -/

/-- A row that has its line from a listing, at its number, and its instruction from that line. -/
structure Row.StandsIn (row : Row) (lines : List String) : Prop where
  pos : 0 < row.number
  line : lines[row.number - 1]? = some row.line
  instr : parseLine (some (row.number : Int)) row.line = .ok (.instr row.instr)

/-- A program whose parts fit together. -/
structure Program.Sound (p : Program) : Prop where
  /-- Each address has an instruction, and with it the line that holds it and its number. -/
  rows : ∀ address < p.size, ∃ row, p.fetch? address = some row ∧ row.StandsIn p.lines
  /-- The instructions are in the order of their lines, with one on a line at most. -/
  numbers : (p.rows.toList.map (·.number)).Pairwise (· < ·)
  /-- Labels lead to an instruction or to the end. -/
  labels : ∀ name address, (name, address) ∈ p.labels → address ≤ p.size

/-- A program made from lines of a listing, of which so many have been read. -/
structure Program.SoundTo (lines : List String) (count : Nat) (p : Program) : Prop where
  listing : p.lines = lines
  rows : ∀ row ∈ p.rows.toList, row.number ≤ count ∧ row.StandsIn lines
  numbers : (p.rows.toList.map (·.number)).Pairwise (· < ·)
  labels : ∀ name address, (name, address) ∈ p.labels → address ≤ p.size

namespace Program

/-- **One line.**  What the next line of a listing adds. -/
lemma SoundTo.addOp {lines : List String} {count : Nat} {p : Program} (h : SoundTo lines count p)
    {line : String} {op : Op} (hline : lines[count]? = some line)
    (hop : parseLine (some ((1 + count : Nat) : Int)) line = .ok op) :
    SoundTo lines (count + 1) (p.addOp (1 + count) line op) := by
  have hrows : ∀ row ∈ p.rows.toList, row.number ≤ count + 1 ∧ row.StandsIn lines :=
    fun row hrow => ⟨(h.rows row hrow).1.trans (Nat.le_succ _), (h.rows row hrow).2⟩
  cases op with
  | blank => exact ⟨h.listing, hrows, h.numbers, h.labels⟩
  | label name =>
      refine ⟨h.listing, hrows, h.numbers, fun other address hmem => ?_⟩
      rcases Assoc.mem_putNew hmem with hold | hnew
      · exact h.labels other address hold
      · cases hnew
        exact Nat.le_refl _
  | instr i =>
      have hnew : Row.StandsIn ⟨line, 1 + count, i⟩ lines :=
        ⟨by simp, by simpa using hline, hop⟩
      refine ⟨h.listing, ?_, ?_, fun name address hmem => ?_⟩
      · intro row hrow
        rw [Program.addOp, Array.toList_push, List.mem_append, List.mem_singleton] at hrow
        rcases hrow with hold | rfl
        · exact hrows row hold
        · exact ⟨by simp [Nat.add_comm], hnew⟩
      · rw [Program.addOp, Array.toList_push, List.map_append, List.pairwise_append]
        refine ⟨h.numbers, List.pairwise_singleton _ _, ?_⟩
        intro number hnumber other hother
        obtain ⟨row, hrow, rfl⟩ := List.mem_map.mp hnumber
        obtain rfl : other = 1 + count := List.mem_singleton.mp hother
        have hle := (h.rows row hrow).1
        omega
      · have hle := h.labels name address hmem
        simp only [Program.addOp, Program.size, Array.size_push] at hle ⊢
        omega

lemma SoundTo.sound {lines : List String} {count : Nat} {p : Program} (h : SoundTo lines count p) :
    p.Sound := by
  refine ⟨fun address haddress => ?_, h.numbers, h.labels⟩
  refine ⟨p.rows[address], Array.getElem?_eq_getElem haddress, ?_⟩
  rw [h.listing]
  exact (h.rows _ (Array.mem_toList_iff.mpr (Array.getElem_mem haddress))).2

/-- **Loading.**  Whatever is loaded, and however that ends, the program that is left is sound. -/
lemma load_sound (lines : List String) : (Program.load lines).1.Sound := by
  obtain ⟨_, _, hsound⟩ := addLines_induction (P := SoundTo (lines.map dropLineEnd)) 1
    (lines.map dropLineEnd) { lines := lines.map dropLineEnd }
    ⟨rfl, by simp, by simp, by simp⟩
    fun _ _ _ _ hline hop h => h.addOp hline hop
  exact hsound.sound

lemma Sound.address_le {p : Program} (h : p.Sound) {label : String} {address : Nat}
    (haddress : p.address? label = some address) : address ≤ p.size :=
  h.labels label address (Assoc.mem_of_get? haddress)

end Program

/-! ## Commands -/

/-- What a machine can be told to do. -/
inductive Command where
  | load (lines : List String)
  | step

/-- The listing of a command to load. -/
def Command.listing? : Command → Option (List String)
  | .load lines => some lines
  | .step => none

/-- The listing of the last command to load. -/
def latest? (commands : List Command) : Option (List String) :=
  (commands.filterMap Command.listing?).getLast?

/-- What is left of the listing that was loaded last, or the empty program. -/
def programOf : Option (List String) → Program
  | none => {}
  | some lines => (Program.load lines).1

lemma programOf_sound (latest : Option (List String)) : (programOf latest).Sound := by
  cases latest with
  | none =>
      refine ⟨fun address haddress => ?_, by simp [programOf], by simp [programOf]⟩
      exact absurd haddress (Nat.not_lt_zero _)
  | some lines => exact Program.load_sound lines

lemma latest?_append (commands : List Command) (c : Command) :
    latest? (commands ++ [c]) = c.listing?.or (latest? commands) := by
  rw [latest?, latest?, List.filterMap_append]
  cases c with
  | load lines => simp [Command.listing?]
  | step => simp [Command.listing?]

namespace Machine

/-- What a command makes of a machine, whatever it comes to. -/
def obey (m : Machine) : Command → Machine
  | .load lines => (m.load lines).1
  | .step => m.step.machine

/-- What commands make of a machine. -/
def obeyAll (m : Machine) (commands : List Command) : Machine :=
  commands.foldl obey m

/-- A machine with the program of the listing that was loaded last, which it is inside of if there
was no flaw in the listing. -/
structure InOrder (m : Machine) (latest : Option (List String)) : Prop where
  unfaulted : m.fault = none
  program : m.program = programOf latest
  inside : (∀ lines, latest = some lines → (Program.load lines).2 = none) → m.pc ≤ m.program.size

/-- A machine that goes on has been on. -/
lemma on_of_running {m : Machine} (hfault : m.fault = none) (h : m.step.outcome = .running) :
    m.On := by
  refine ⟨?_, hfault⟩
  by_contra hhalted
  rw [step_halted (by simpa using hhalted)] at h
  cases h

section InOrder

variable {m : Machine} {latest : Option (List String)}

/-- **One step.**  An instruction leads to the next one, or to where a label leads. -/
lemma InOrder.step (h : m.InOrder latest) : m.step.machine.InOrder latest := by
  by_cases hrunning : m.step.outcome = .running
  · obtain ⟨row, hgoes⟩ := step_goes (on_of_running h.unfaulted hrunning) hrunning
    refine ⟨hgoes.on.unfaulted, hgoes.program.trans h.program, fun _ => ?_⟩
    obtain ⟨way, -, ⟨-, hpc⟩ | ⟨label, -, haddress⟩⟩ := hgoes.desk
    · obtain ⟨hlt, -⟩ := Array.getElem?_eq_some_iff.mp hgoes.fetched
      rw [hpc, hgoes.program]
      exact hlt
    · have hsound := programOf_sound latest
      rw [← h.program] at hsound
      rw [hgoes.program]
      exact hsound.address_le haddress
  · obtain ⟨_, hmachine⟩ | ⟨-, _, _, _, hmachine⟩ := step_ends hrunning <;> rw [hmachine] <;>
      exact ⟨h.unfaulted, h.program, h.inside⟩

/-- **One load.**  A flaw leaves the machine where it is, in a program that may be shorter. -/
lemma InOrder.load (h : m.InOrder latest) (lines : List String) :
    (m.load lines).1.InOrder (some lines) := by
  rw [Machine.load]
  cases hload : Program.load lines with
  | mk program flaw =>
      cases flaw with
      | none => exact ⟨rfl, by simp [programOf, hload], fun _ => Nat.zero_le _⟩
      | some e =>
          refine ⟨h.unfaulted, by simp [programOf, hload], fun hflawless => ?_⟩
          have hnone := hflawless lines rfl
          rw [hload] at hnone
          cases hnone

end InOrder

/-- **All commands.**  A new machine is in order, and stays so. -/
lemma obeyAll_inOrder (floor : Floor) (inbox : Inbox) (maxSteps : Int) (commands : List Command) :
    (obeyAll { floor, inbox, maxSteps } commands).InOrder (latest? commands) := by
  induction commands using List.reverseRecOn with
  | nil => exact ⟨rfl, rfl, fun _ => Nat.zero_le _⟩
  | append_singleton commands c ih =>
      rw [obeyAll, List.foldl_concat, latest?_append]
      cases c with
      | load lines => exact ih.load lines
      | step => exact ih.step

/-! ## What a step comes to -/

/-- The ways in which a step with its transcript can come out, each with its reason. -/
inductive ComesTo (m : Machine) : Except RunError Bool → Prop
  /-- The step has a result, which says whether the machine goes on. -/
  | result : ComesTo m (.ok (!m.step.machine.halted))
  /-- It comes to a fault, at the line of the instruction at hand. -/
  | fault {f : Fault} {row : Row} : m.program.fetch? m.pc = some row → f.pc = m.pc →
      f.line = row.number → ComesTo m (.error (.fault f))
  /-- The next slip cannot be read. -/
  | slip {e : InboxError} {later : List Slip} : m.inbox.pending = .spoiled e :: later →
      ComesTo m (.error (.inbox e))
  /-- Something happens that cannot be written. -/
  | event {event : MachineEvent} : event ∈ m.step.events → event.fits = false →
      ComesTo m (.error (.numeral .unwritable))
  /-- It comes to a fault that cannot be worded. -/
  | wording {f : Fault} : m.step.outcome = .fault f → f.fits = false →
      ComesTo m (.error (.numeral .unwritable))

/-- A transcript that is broken stays so. -/
lemma foldl_see_of_broken {t : Transcript} (ht : t.broken.isSome = true) (traced : Bool)
    (events : List MachineEvent) : events.foldl (Transcript.see traced) t = t := by
  induction events with
  | nil => rfl
  | cons event events ih =>
      rw [List.foldl_cons]
      unfold Transcript.see
      rw [if_pos ht]
      exact ih

/-- An event that can be written does not break a transcript, and any other does. -/
lemma see_broken {t : Transcript} (ht : t.broken = none) (traced : Bool) (event : MachineEvent) :
    (t.see traced event).broken = if event.fits then none else some .unwritable := by
  unfold Transcript.see
  rw [if_neg (by simp [ht])]
  cases hfits : event.fits with
  | false => rfl
  | true => cases event <;> cases traced <;> exact ht

/-- A transcript is broken by the first event that cannot be written. -/
lemma foldl_see_broken {t : Transcript} (ht : t.broken = none) (traced : Bool)
    (events : List MachineEvent) :
    (events.foldl (Transcript.see traced) t).broken
      = if events.all (·.fits) then none else some .unwritable := by
  induction events generalizing t with
  | nil => exact ht
  | cons event events ih =>
      have hsee := see_broken ht traced event
      rw [List.foldl_cons, List.all_cons]
      cases hfits : event.fits with
      | true =>
          rw [hfits] at hsee
          rw [ih hsee, Bool.true_and]
      | false =>
          rw [hfits] at hsee
          rw [foldl_see_of_broken (by simp [hsee]), hsee]
          rfl

/-- **One step and its transcript.**  Whatever the program is and wherever the machine is in it, a
step comes out in one of these ways. -/
lemma stepTraced_comesTo {m : Machine} (hfault : m.fault = none) (traced : Bool) :
    m.ComesTo (m.stepTraced traced).result := by
  rw [stepTraced]
  dsimp only
  rw [foldl_see_broken rfl]
  by_cases hfits : m.step.events.all (·.fits) = true
  · rw [if_pos hfits]
    cases houtcome : m.step.outcome with
    | running =>
        obtain ⟨row, hgoes⟩ := step_goes (on_of_running hfault houtcome) houtcome
        have hresult := ComesTo.result (m := m)
        rw [hgoes.on.running] at hresult
        exact hresult
    | stopped =>
        have hresult := ComesTo.result (m := m)
        rw [step_stopped houtcome] at hresult
        exact hresult
    | failed e =>
        obtain ⟨row, later, -, -, hpending, -⟩ := step_failed houtcome
        exact .slip hpending
    | fault f =>
        obtain ⟨row, -, hrow, hpc, hline, -⟩ := step_fault houtcome
        dsimp only
        cases hworded : f.fits with
        | true => exact .fault hrow hpc hline
        | false => exact .wording houtcome hworded
  · rw [if_neg hfits]
    obtain ⟨event, hmem, hevent⟩ : ∃ event ∈ m.step.events, event.fits = false := by
      simpa using hfits
    exact .event hmem hevent

/-- **Machines at any time.**  After any loads, flawed or not, and any steps, the program is what
the last load has left, and it is sound: each address has an instruction with its line and the number
of that line, the numbers increase, and labels lead to an instruction or to the end.  If there was no
flaw in what was loaded last then the machine is inside of its program.  Whatever was loaded, the
next step has a result, or comes to a fault at the line of an instruction or to a slip that cannot be
read, unless an integer has too many digits to be written. -/
theorem obeyAll_sound (floor : Floor) (inbox : Inbox) (maxSteps : Int) (commands : List Command) :
    let m := obeyAll { floor, inbox, maxSteps } commands
    m.program = programOf (latest? commands) ∧ m.program.Sound ∧
    ((∀ lines, latest? commands = some lines → (Program.load lines).2 = none) →
      m.pc ≤ m.program.size) ∧
    ∀ traced, m.ComesTo (m.stepTraced traced).result := by
  intro m
  have horder : m.InOrder (latest? commands) := obeyAll_inOrder floor inbox maxSteps commands
  have hsound := programOf_sound (latest? commands)
  rw [← horder.program] at hsound
  exact ⟨horder.program, hsound, horder.inside, stepTraced_comesTo horder.unfaulted⟩

/-- A listing with a flaw leaves a machine outside of a program that is sound, where it halts; one
without a flaw brings it inside again. -/
theorem obeyAll_sound_flawed :
    let start : Machine := { floor := ⟨0, #[], rfl⟩, inbox := .ofValues [3], maxSteps := 9 }
    let flawed : List Command :=
      [.load ["INBOX", "OUTBOX"], .step, .step, .load ["a:", "INBOX", "JUMP"]]
    let outside := start.obeyAll flawed
    let inside := start.obeyAll (flawed ++ [.step, .load ["a:", "JUMP a"], .step])
    (outside.program.size = 1 ∧ outside.pc = 2 ∧ outside.program.Sound ∧
      (outside.stepTraced false).result = .ok false) ∧
    inside.pc ≤ inside.program.size ∧ inside.jumps = 1 := by
  intro start flawed outside inside
  have houtside : outside.program.size = 1 ∧ outside.pc = 2 ∧
      (outside.stepTraced false).result = .ok false := by decide +kernel
  have hlatest : latest? (flawed ++ [.step, .load ["a:", "JUMP a"], .step])
      = some ["a:", "JUMP a"] := by rfl
  have hflawless : (Program.load ["a:", "JUMP a"]).2 = none := by decide +kernel
  obtain ⟨-, hsound, -, -⟩ := obeyAll_sound start.floor start.inbox start.maxSteps flawed
  obtain ⟨-, -, hinside, -⟩ := obeyAll_sound start.floor start.inbox start.maxSteps
    (flawed ++ [.step, .load ["a:", "JUMP a"], .step])
  refine ⟨⟨houtside.1, houtside.2.1, hsound, houtside.2.2⟩, hinside fun lines hlines => ?_,
    by decide +kernel⟩
  rw [hlatest, Option.some.injEq] at hlines
  rw [← hlines, hflawless]

end Machine

end Mailroom
