import Mailroom.Proofs.ListingText
import Mailroom.Proofs.Tables

/-!
# Places in a listing

A place in a listing is what is left of it from there on.  Labels take no address, so two places
with nothing but labels between them are one place to a machine: `upcoming` finds the instruction
that comes next, whatever labels stand in front of it.  A jump leads behind the first line with its
label, `after`.

`Loaded` ties a loaded program to the list of operations it was loaded from.  A listing that can be
read is loaded as what it holds (`load_ok_of_parse`); lines that cannot add what is in front of the
first flaw (`addLines_error`).  So a listing that `render` has written is loaded as what it was
written from (`load_render`), and is refused when some operation is not legible
(`load_render_error`).
-/

namespace Mailroom

open Text Source

/-! ## Instructions and labels of a listing -/

/-- The instructions of a listing in order. -/
def instrs : List Op → List Instr
  | [] => []
  | .instr i :: rest => i :: instrs rest
  | _ :: rest => instrs rest

/-- The labels of a listing in order. -/
def labelNames : List Op → List String
  | [] => []
  | .label name :: rest => name :: labelNames rest
  | _ :: rest => labelNames rest

/-- The instruction that comes next, and what is left behind it. -/
def upcoming : List Op → Option (Instr × List Op)
  | [] => none
  | .instr i :: rest => some (i, rest)
  | _ :: rest => upcoming rest

/-- What is left behind the first line with a label. -/
def after (name : String) : List Op → Option (List Op)
  | [] => none
  | .label other :: rest => if other = name then some rest else after name rest
  | _ :: rest => after name rest

@[simp] lemma upcoming_nil : upcoming [] = none := rfl
@[simp] lemma upcoming_instr (i : Instr) (rest : List Op) :
    upcoming (.instr i :: rest) = some (i, rest) := rfl
@[simp] lemma upcoming_label (name : String) (rest : List Op) :
    upcoming (.label name :: rest) = upcoming rest := rfl
@[simp] lemma upcoming_blank (rest : List Op) : upcoming (.blank :: rest) = upcoming rest := rfl

@[simp] lemma after_instr (name : String) (i : Instr) (rest : List Op) :
    after name (.instr i :: rest) = after name rest := rfl
@[simp] lemma after_blank (name : String) (rest : List Op) :
    after name (.blank :: rest) = after name rest := rfl
lemma after_label (name other : String) (rest : List Op) :
    after name (.label other :: rest) = if other = name then some rest else after name rest := rfl

@[simp] lemma instrs_append (front rest : List Op) :
    instrs (front ++ rest) = instrs front ++ instrs rest := by
  induction front with
  | nil => rfl
  | cons op front ih => cases op <;> simp [instrs, ih]

@[simp] lemma labelNames_append (front rest : List Op) :
    labelNames (front ++ rest) = labelNames front ++ labelNames rest := by
  induction front with
  | nil => rfl
  | cons op front ih => cases op <;> simp [labelNames, ih]

lemma mem_labelNames {name : String} {ops : List Op} :
    name ∈ labelNames ops ↔ Op.label name ∈ ops := by
  induction ops with
  | nil => simp [labelNames]
  | cons op ops ih => cases op <;> simp [labelNames, ih, eq_comm]

lemma mem_instrs {i : Instr} {ops : List Op} : i ∈ instrs ops ↔ Op.instr i ∈ ops := by
  induction ops with
  | nil => simp [instrs]
  | cons op ops ih => cases op <;> simp [instrs, ih, eq_comm]

lemma labelNames_sublist {front ops : List Op} (h : front.Sublist ops) :
    (labelNames front).Sublist (labelNames ops) := by
  induction h with
  | slnil => exact List.Sublist.refl _
  | cons op _ ih =>
      cases op with
      | label name => exact ih.cons name
      | _ => exact ih
  | cons_cons op _ ih =>
      cases op with
      | label name => exact ih.cons_cons name
      | _ => exact ih

/-- No instruction comes next exactly where no instruction is left. -/
lemma upcoming_eq_none {rest : List Op} (h : upcoming rest = none) : instrs rest = [] := by
  induction rest with
  | nil => rfl
  | cons op rest ih =>
      cases op with
      | blank => exact ih h
      | label _ => exact ih h
      | instr _ => exact absurd h (by simp)

lemma upcoming_eq_some {rest later : List Op} {i : Instr} (h : upcoming rest = some (i, later)) :
    instrs rest = i :: instrs later ∧ .instr i :: later <:+ rest := by
  induction rest with
  | nil => exact absurd h (by simp)
  | cons op rest ih =>
      cases op with
      | blank =>
          obtain ⟨h1, h2⟩ := ih h
          exact ⟨h1, h2.trans (List.suffix_cons _ _)⟩
      | label _ =>
          obtain ⟨h1, h2⟩ := ih h
          exact ⟨h1, h2.trans (List.suffix_cons _ _)⟩
      | instr j =>
          rw [upcoming_instr, Option.some.injEq, Prod.mk.injEq] at h
          obtain ⟨rfl, rfl⟩ := h
          exact ⟨rfl, List.suffix_refl _⟩

/-- A place behind a label has the label in front of it, for the first time. -/
lemma after_eq_some {name : String} {ops rest : List Op} (h : after name ops = some rest) :
    ops.takeWhile (· ≠ .label name) ++ .label name :: rest = ops := by
  induction ops with
  | nil => exact absurd h (by simp [after])
  | cons op ops ih =>
      cases op with
      | blank => simpa using ih h
      | instr _ => simpa using ih h
      | label other =>
          rw [after_label] at h
          by_cases heq : other = name
          · rw [if_pos heq] at h
            cases h
            simp [heq]
          · rw [if_neg heq] at h
            simpa [heq] using ih h

lemma after_suffix {name : String} {ops rest : List Op} (h : after name ops = some rest) :
    .label name :: rest <:+ ops :=
  ⟨_, after_eq_some h⟩

lemma after_eq_none_iff {name : String} {ops : List Op} :
    after name ops = none ↔ name ∉ labelNames ops := by
  induction ops with
  | nil => simp [after, labelNames]
  | cons op ops ih =>
      cases op with
      | blank => exact ih
      | instr _ => exact ih
      | label other =>
          by_cases heq : other = name
          · simp [after, labelNames, heq]
          · simp [after, labelNames, heq, ih, Ne.symm heq]

/-- A label that stands nowhere else is found where it stands. -/
lemma after_append {name : String} {front rest : List Op} (h : name ∉ labelNames front) :
    after name (front ++ .label name :: rest) = some rest := by
  induction front with
  | nil => simp [after]
  | cons op front ih =>
      cases op with
      | blank => exact ih h
      | instr _ => exact ih h
      | label other =>
          simp only [labelNames, List.mem_cons, not_or] at h
          rw [List.cons_append, after, if_neg (Ne.symm h.1)]
          exact ih h.2

/-- In a listing without repeated labels a jump leads behind the one line with its label. -/
lemma after_of_nodup {name : String} {ops rest : List Op} (hnodup : (labelNames ops).Nodup)
    (h : .label name :: rest <:+ ops) : after name ops = some rest := by
  obtain ⟨front, rfl⟩ := h
  refine after_append fun hmem => ?_
  rw [labelNames_append, List.nodup_append] at hnodup
  exact hnodup.2.2 name hmem name (by simp [labelNames]) rfl

/-! ## Loading -/

/-- What a line adds that holds an operation. -/
def Program.addOp (p : Program) (number : Nat) (line : String) : Op → Program
  | .blank => p
  | .label name => { p with labels := p.labels.putNew name p.size }
  | .instr i => { p with rows := p.rows.push ⟨line, number, i⟩ }

/-- **One line.**  Telling labels and blank lines first comes to the same as reading the line. -/
lemma addLine_eq (p : Program) (number : Nat) (line : String) :
    p.addLine number line = (parseLine (some number) line).map (p.addOp number line) := by
  have hmark := stripComment_unmarked line.toList
  have htight := stripComment_tight line.toList
  rw [Program.addLine, parseLine, labelName?]
  generalize stripComment line.toList = cs at hmark htight
  have hname := labelName?_eq hmark htight
  cases hlabel : labelOf? cs with
  | some name =>
      have hne : cs ≠ [] := by
        rintro rfl
        simp [labelOf?] at hlabel
      rw [parseStripped_label (words_ne_nil htight hne) (hname.trans hlabel)]
      rfl
  | none =>
      dsimp only
      cases cs with
      | nil => rfl
      | cons c cs =>
          rw [parseStripped, hname, hlabel]
          cases hwords : words (c :: cs) with
          | nil => exact absurd hwords (words_ne_nil htight (by simp))
          | cons word operands =>
              dsimp only
              by_cases hlast : (c :: cs).getLast? = some ':'
              · rw [if_pos hlast]
                rfl
              · rw [if_neg hlast]
                cases parseInstr word operands <;> rfl

lemma parseFrom_cons {number : Nat} {line : String} {lines : List String} {ops : List Op}
    (h : parseFrom number (line :: lines) = .ok ops) :
    ∃ op rest, parseLine (some number) line = .ok op ∧
      parseFrom (number + 1) lines = .ok rest ∧ ops = op :: rest := by
  rw [parseFrom] at h
  cases hline : parseLine (some number) line with
  | error e =>
      rw [hline] at h
      cases h
  | ok op =>
      rw [hline] at h
      cases hrest : parseFrom (number + 1) lines with
      | error e =>
          rw [hrest] at h
          cases h
      | ok rest =>
          rw [hrest] at h
          cases h
          exact ⟨op, rest, rfl, rfl, rfl⟩

/-- An error names the line that it was found in. -/
lemma parseLine_error {number : Option Int} {line : String} {e : LineError}
    (h : parseLine number line = .error e) : e = ⟨e.flaw, number, line⟩ := by
  rw [parseLine] at h
  split at h
  · cases h
  · cases h
    rfl

/-- A program that holds what a list of operations says: its instructions by address, and its
labels with the addresses of the places behind them. -/
structure Loaded (p : Program) (code : List Op) : Prop where
  rows : p.rows.toList.map (·.instr) = instrs code
  address : ∀ name, p.address? name
    = (after name code).map fun rest => (instrs code).length - (instrs rest).length

/-- The instruction at an address. -/
lemma Loaded.fetch {p : Program} {code : List Op} (h : Loaded p code) (pc : Nat) :
    (p.fetch? pc).map (·.instr) = (instrs code)[pc]? := by
  rw [← h.rows, List.getElem?_map, Array.getElem?_toList]
  rfl

lemma instrs_length_le {rest ops : List Op} (h : rest <:+ ops) :
    (instrs rest).length ≤ (instrs ops).length := by
  obtain ⟨front, rfl⟩ := h
  simp

/-- What lines add to a program that can be read. -/
lemma addLines_ok {number : Nat} {lines : List String} {ops : List Op}
    (h : parseFrom number lines = .ok ops) (p : Program) :
    ∃ p', p.addLines number lines = (p', none) ∧
      p'.rows.toList.map (·.instr) = p.rows.toList.map (·.instr) ++ instrs ops ∧
      ∀ name, p'.address? name = (p.address? name).or
        ((after name ops).map fun rest => p.size + ((instrs ops).length - (instrs rest).length)) := by
  induction lines generalizing number ops p with
  | nil =>
      cases h
      exact ⟨p, rfl, by simp [instrs], fun name => by simp [after]⟩
  | cons line lines ih =>
      obtain ⟨op, ops, hline, hrest, rfl⟩ := parseFrom_cons h
      rw [Program.addLines, addLine_eq, hline]
      obtain ⟨p', h1, h2, h3⟩ := ih hrest (p.addOp number line op)
      cases op with
      | blank => exact ⟨p', h1, h2, h3⟩
      | label key =>
          refine ⟨p', h1, h2, fun name => ?_⟩
          rw [h3, Program.addOp, Program.address?, Program.address?, Assoc.get?_putNew]
          by_cases hk : key = name
          · simp [after_label, hk, instrs]
          · rw [if_neg hk, Option.or_none, after_label, if_neg hk]
            rfl
      | instr i =>
          refine ⟨p', h1, ?_, fun name => ?_⟩
          · rw [h2]
            simp [instrs, Program.addOp]
          · rw [h3, after_instr]
            cases hafter : after name ops with
            | none => rfl
            | some rest =>
                have hle := instrs_length_le ((List.suffix_cons _ _).trans (after_suffix hafter))
                simp only [Option.map_some, Program.addOp, Program.size, Array.size_push, instrs,
                  List.length_cons]
                rw [show p.rows.size + 1 + ((instrs ops).length - (instrs rest).length)
                  = p.rows.size + ((instrs ops).length + 1 - (instrs rest).length) by omega]
                rfl

/-- Lines that cannot be read add what is in front of the first flaw. -/
lemma addLines_error {number : Nat} {lines : List String} {e : LineError}
    (h : parseFrom number lines = .error e) (p : Program) :
    ∃ k ops, k < lines.length ∧ e.number = some ((number + k : Nat) : Int) ∧
      parseFrom number (lines.take k) = .ok ops ∧
      p.addLines number lines = ((p.addLines number (lines.take k)).1, some e) := by
  induction lines generalizing number p with
  | nil => cases h
  | cons line lines ih =>
      rw [parseFrom] at h
      cases hline : parseLine (some number) line with
      | error e' =>
          rw [hline] at h
          cases h
          refine ⟨0, [], by simp, ?_, rfl, ?_⟩
          · rw [parseLine_error hline]
            rfl
          · rw [Program.addLines, addLine_eq, hline]
            rfl
      | ok op =>
          rw [hline] at h
          cases hrest : parseFrom (number + 1) lines with
          | ok ops =>
              rw [hrest] at h
              cases h
          | error e' =>
              rw [hrest] at h
              cases h
              obtain ⟨k, ops, hk, hnumber, hfront, hadd⟩ := ih hrest (p.addOp number line op)
              refine ⟨k + 1, op :: ops, by simpa using hk, ?_, ?_, ?_⟩
              · rw [hnumber, show number + 1 + k = number + (k + 1) by omega]
              · rw [List.take_succ_cons, parseFrom, hline, hfront]
                rfl
              · rw [List.take_succ_cons, Program.addLines, Program.addLines, addLine_eq, hline]
                exact hadd

/-- **A load, step by step.**  What every line that can be read keeps up, loading keeps up, however
it ends. -/
lemma addLines_induction {P : Nat → Program → Prop} (number : Nat) (lines : List String)
    (p : Program) (hstart : P 0 p)
    (hline : ∀ k p line op, lines[k]? = some line →
      parseLine (some ((number + k : Nat) : Int)) line = .ok op →
      P k p → P (k + 1) (p.addOp (number + k) line op)) :
    ∃ k ≤ lines.length, P k (p.addLines number lines).1 := by
  induction lines generalizing number p P with
  | nil => exact ⟨0, Nat.le_refl _, hstart⟩
  | cons line lines ih =>
      rw [Program.addLines, addLine_eq]
      cases hparse : parseLine (some (number : Int)) line with
      | error e => exact ⟨0, Nat.zero_le _, hstart⟩
      | ok op =>
          have hfirst := hline 0 p line op rfl hparse hstart
          have hlater : ∀ k p line op, lines[k]? = some line →
              parseLine (some ((number + 1 + k : Nat) : Int)) line = .ok op →
              P (k + 1) p → P (k + 1 + 1) (p.addOp (number + 1 + k) line op) := by
            intro k p line op hmem hop hP
            rw [show number + 1 + k = number + (k + 1) by omega] at hop ⊢
            exact hline (k + 1) p line op hmem hop hP
          obtain ⟨k, hk, hrest⟩ := ih (P := fun k => P (k + 1)) (number + 1) _ hfirst hlater
          exact ⟨k + 1, Nat.succ_le_succ hk, hrest⟩

/-- **Loading.**  A listing that can be read is loaded as what it holds. -/
lemma load_ok_of_parse {lines : List String} {ops : List Op} (h : parseProgram lines = .ok ops) :
    ∃ p, Program.load lines = (p, none) ∧ Loaded p ops := by
  obtain ⟨p, h1, h2, h3⟩ := addLines_ok (parseFrom_dropLineEnd_eq_ok.mpr h)
    { lines := lines.map Program.dropLineEnd }
  refine ⟨p, h1, by simpa using h2, fun name => ?_⟩
  rw [h3]
  simp [Program.address?, Program.size, Assoc.get?]

/-- What has been written is loaded as what it was written from. -/
lemma load_render {ops : List Op} (hops : ∀ op ∈ ops, op.Spelled)
    (hlegible : ∀ op ∈ ops, op.legible = true) :
    ∃ p, Program.load (render ops) = (p, none) ∧ Loaded p ops :=
  load_ok_of_parse (parseFrom_render hops hlegible 1)

/-- A listing with a line that cannot be read is refused. -/
lemma load_render_error {ops : List Op} (hops : ∀ op ∈ ops, op.Spelled)
    (hlegible : ∃ op ∈ ops, op.legible = false) :
    ∃ p e, Program.load (render ops) = (p, some e) := by
  obtain ⟨e, he⟩ := parseFrom_render_error hops hlegible 1
  have hlines : parseFrom 1 ((render ops).map Program.dropLineEnd) = .error e.dropLineEnd := by
    rw [parseFrom_dropLineEnd, he]
    rfl
  obtain ⟨k, front, -, -, -, hadd⟩ :=
    addLines_error hlines { lines := (render ops).map Program.dropLineEnd }
  exact ⟨_, _, hadd⟩

end Mailroom
