import Mailroom.Proofs.Places

/-!
# Reading a listing and loading it

A listing is read into the operations that its lines hold, and it is loaded for a run.  Loading goes
its own way: it takes the line ends off first, tells labels and blank lines before it reads a line
as an instruction, and keeps what it has when a line is flawed.  Both come to the same on every
listing.

- `Loaded.mem_labels`: the labels of a loaded program are those of the listing, each with the number
  of instructions in front of its first line.
- `load_refused`: a load that a flawed line ends leaves what the lines in front of it give.
- `load_agrees`: both ways of reading, with all that they give.
-/

namespace Mailroom

open Text

/-! ## Listings without a flaw -/

/-- No label is entered twice. -/
lemma load_labels_nodup (lines : List String) :
    ((Program.load lines).1.labels.map (·.1)).Nodup := by
  obtain ⟨_, _, hkeys⟩ := addLines_induction (P := fun _ p => (p.labels.map (·.1)).Nodup) 1
    (lines.map Program.dropLineEnd) { lines := lines.map Program.dropLineEnd } List.nodup_nil
    fun _ p _ op _ _ hkeys => by
      cases op with
      | blank => exact hkeys
      | instr _ => exact hkeys
      | label name => exact Assoc.nodup_putNew hkeys name p.size
  exact hkeys

/-- A label stands for the number of instructions in front of its first line. -/
lemma Loaded.mem_labels {p : Program} {ops : List Op} (h : Loaded p ops)
    (hkeys : (p.labels.map (·.1)).Nodup) (name : String) (address : Nat) :
    (name, address) ∈ p.labels ↔ Op.label name ∈ ops ∧
      address = (instrs (ops.takeWhile (· ≠ .label name))).length := by
  have hentry : (name, address) ∈ p.labels ↔ p.address? name = some address :=
    ⟨Assoc.get?_of_mem hkeys, Assoc.mem_of_get?⟩
  rw [hentry, h.address, ← mem_labelNames]
  cases hafter : after name ops with
  | none => simp [after_eq_none_iff.mp hafter]
  | some rest =>
      have hmem : name ∈ labelNames ops := by
        by_contra hmem
        rw [after_eq_none_iff.mpr hmem] at hafter
        cases hafter
      have hlength : (instrs ops).length - (instrs rest).length
          = (instrs (ops.takeWhile (· ≠ .label name))).length := by
        conv_lhs => rw [← after_eq_some hafter]
        simp [instrs]
      rw [Option.map_some, hlength, Option.some.injEq]
      exact ⟨fun heq => ⟨hmem, heq.symm⟩, fun heq => heq.2.symm⟩

/-! ## Listings with a flaw -/

/-- The lines that a program keeps play no part in what lines add to it. -/
lemma addLines_withLines (p : Program) (kept : List String) (number : Nat) (lines : List String) :
    ({ p with lines := kept } : Program).addLines number lines
      = ({ (p.addLines number lines).1 with lines := kept }, (p.addLines number lines).2) := by
  induction lines generalizing number p with
  | nil => rfl
  | cons line lines ih =>
      rw [Program.addLines, Program.addLines, addLine_eq, addLine_eq]
      cases parseLine (some number) line with
      | error e => rfl
      | ok op =>
          dsimp only [Except.map]
          rw [← ih]
          cases op <;> rfl

lemma addLines_load (kept lines : List String) :
    ({ lines := kept } : Program).addLines 1 (lines.map Program.dropLineEnd)
      = ({ (Program.load lines).1 with lines := kept }, (Program.load lines).2) :=
  addLines_withLines { lines := lines.map Program.dropLineEnd } kept 1 _

/-- **A refused listing.**  Loading stops at the line that reading stops at, with an error of the
same wording, and leaves what the lines in front give. -/
lemma load_refused {lines : List String} {e : LineError} (h : parseProgram lines = .error e) :
    ∃ k front, k < lines.length ∧ e.number = some ((k + 1 : Nat) : Int) ∧
      Program.load (lines.take k) = (front, none) ∧
      Program.load lines
        = ({ front with lines := lines.map Program.dropLineEnd }, some e.dropLineEnd) := by
  have hlines : parseFrom 1 (lines.map Program.dropLineEnd) = .error e.dropLineEnd := by
    rw [parseFrom_dropLineEnd, show parseFrom 1 lines = .error e from h]
    rfl
  obtain ⟨k, ops, hk, hnumber, hparse, hadd⟩ :=
    addLines_error hlines { lines := lines.map Program.dropLineEnd }
  rw [← List.map_take] at hparse hadd
  obtain ⟨front, hload, -⟩ := load_ok_of_parse (parseFrom_dropLineEnd_eq_ok.mp hparse)
  refine ⟨k, front, by simpa using hk, ?_, hload, ?_⟩
  · rw [Nat.add_comm]
    exact hnumber
  · rw [Program.load, hadd, addLines_load, hload]

/-- **Reading and loading agree.**  Every listing is either read and loaded or refused by both.  If
it is loaded, then the instructions by address are those that have been read, in order, and the
labels are those that have been read, each once, with the number of instructions in front of its
first line.  If it is refused, then both give the same message about the same line, and the
instructions and labels that are left are those that the lines in front of this line give. -/
theorem load_agrees (lines : List String) :
    (∃ ops p, parseProgram lines = .ok ops ∧ Program.load lines = (p, none) ∧
      p.rows.toList.map (·.instr) = instrs ops ∧
      (p.labels.map (·.1)).Nodup ∧
      ∀ name address, (name, address) ∈ p.labels ↔
        .label name ∈ ops ∧ address = (instrs (ops.takeWhile (· ≠ .label name))).length) ∨
    (∃ e e' p k front, parseProgram lines = .error e ∧ Program.load lines = (p, some e') ∧
      e'.message = e.message ∧ e'.number = e.number ∧
      k < lines.length ∧ e.number = some ((k + 1 : Nat) : Int) ∧
      Program.load (lines.take k) = (front, none) ∧
      p.rows = front.rows ∧ p.labels = front.labels) := by
  cases hread : parseProgram lines with
  | ok ops =>
      obtain ⟨p, hload, hholds⟩ := load_ok_of_parse hread
      have hkeys := load_labels_nodup lines
      rw [hload] at hkeys
      exact .inl ⟨ops, p, rfl, hload, hholds.rows, hkeys, hholds.mem_labels hkeys⟩
  | error e =>
      obtain ⟨k, front, hk, hnumber, hfront, hload⟩ := load_refused hread
      exact .inr ⟨e, e.dropLineEnd, _, k, front, rfl, hload, e.message_dropLineEnd, rfl, hk,
        hnumber, hfront, rfl, rfl⟩

end Mailroom
