import Mathlib
import Mailroom.Proofs.CanonicalLines
import Mailroom.Proofs.Readers
import Mailroom.Proofs.Sessions

/-!
# Listings that are printed with addresses

A printed listing has a row for each instruction, with its address in front and its comment behind
it, and a row for each label.  Labels are put in front of the instruction that they stand for.
Nothing that a machine needs is lost: without the addresses the rows can be loaded, and give the
same instructions and the same labels.

- `rowAddress?`, `withoutAddress`: the address in front of a row, and the row without it.
- `stripComment_content`: what the row of an instruction holds behind its address.
- `enter`: the labels that operations make known; `enter_relist`: those of a printed listing.
- `Program.Labelled`: labels as loading enters them, with addresses that do not fall.
- `rowsFrom_addresses`, `rowsFrom_labels`, `rowsFrom_place`: which rows there are, and where.
- `printout_faithful`: all of it, for the listings that can be loaded.
-/

namespace Mailroom

open Text

/-! ## Rows and their addresses -/

/-- The digits in front of a row and what stands behind them.  The row of a label starts at the
margin and has neither. -/
def columns? (row : String) : Option (List Char × List Char) :=
  match row.toList with
  | ' ' :: ' ' :: cs => some (cs.takeWhile Char.isDigit, cs.dropWhile Char.isDigit)
  | _ => none

/-- The address in front of a row. -/
def rowAddress? (row : String) : Option Nat :=
  (columns? row).map fun columns => Nat.ofDigitChars 10 columns.1 0

/-- A row without the column of its address, if it has one. -/
def withoutAddress (row : String) : String :=
  match columns? row with
  | some (_, rest) => String.ofList (rest.drop 2)
  | none => row

/-- A comment behind a line is no part of what it holds. -/
lemma stripComment_append_comment {blanks : List Char} (hblanks : ∀ c ∈ blanks, isBlank c = true)
    (hne : blanks ≠ []) (cs tail : List Char) :
    stripComment (cs ++ (blanks ++ '-' :: '-' :: tail)) = stripComment cs := by
  have hseam : ∀ c ∈ (cs ++ blanks).getLast?, c ∉ ['-', '-'] := by
    intro c hc hdash
    rw [List.getLast?_append_of_ne_nil _ hne] at hc
    have hblank := hblanks c (List.mem_of_mem_getLast? hc)
    obtain rfl : c = '-' := by simpa using hdash
    revert hblank
    decide
  have hcut := before_append_mark (by simp) hseam tail
  rw [List.append_assoc] at hcut
  rw [← stripComment_append_blanks hblanks cs, stripComment, stripComment, ← hcut]
  rfl

/-- What the row of an instruction shows behind its address. -/
def content (row : Row) : List Char :=
  dropEndWhile isBlank
    (padEnd 16 ' ' row.instr.text.toList ++ ' ' :: (Program.note row.line).toList)

/-- Behind its address, a row holds the spelling of its instruction. -/
lemma stripComment_content (row : Row) :
    stripComment (content row) = stripComment row.instr.text.toList := by
  obtain ⟨tail, hsplit, htail⟩ := exists_dropEndWhile_append isBlank
    (padEnd 16 ' ' row.instr.text.toList ++ ' ' :: (Program.note row.line).toList)
  set fill := List.replicate (16 - row.instr.text.toList.length) ' ' with hfill
  have hblanks : ∀ c ∈ fill ++ [' '], isBlank c = true := by
    intro c hc
    obtain rfl : c = ' ' := by
      rcases List.mem_append.mp hc with hc | hc
      · exact List.eq_of_mem_replicate hc
      · exact List.mem_singleton.mp hc
    decide
  rw [content, ← stripComment_append_blanks htail, ← hsplit, padEnd, ← hfill, List.append_assoc,
    List.append_cons]
  cases hnote : after? ['-', '-'] row.line.toList with
  | none =>
      rw [Program.note, hnote]
      simpa using stripComment_append_blanks hblanks row.instr.text.toList
  | some comment =>
      have hdashes : (Program.note row.line).toList = '-' :: '-' :: ' ' :: trim comment := by
        rw [Program.note, hnote]
        simp
      rw [hdashes]
      exact stripComment_append_comment hblanks (by simp) _ _

/-- An instruction that can be read from its canonical spelling. -/
def Instr.Legible (i : Instr) : Prop :=
  ∀ number, parseLine number i.text = .ok (.instr i)

lemma Instr.Legible.parse_content {row : Row} (h : row.instr.Legible) :
    parseStripped (stripComment (content row)) = .ok (.instr row.instr) := by
  rw [stripComment_content]
  exact parseLine_eq_ok.mp (h none)

lemma columns?_instrRow {row : Row} (h : row.instr.Legible) (address : Nat) :
    columns? (Program.instrRow address row)
      = some (padStart 2 '0' (Nat.toDigits 10 address), ' ' :: ' ' :: content row) := by
  have hne : content row ≠ [] := by
    intro hnil
    have hread := h.parse_content
    rw [hnil] at hread
    cases hread
  have hdigits : ∀ c ∈ padStart 2 '0' (Nat.toDigits 10 address), c.isDigit = true := by
    intro c hc
    rcases List.mem_append.mp hc with hc | hc
    · rw [List.eq_of_mem_replicate hc]
      decide
    · exact Numeral.isDigit_toDigits hc
  have hrow : (Program.instrRow address row).toList
      = ' ' :: ' ' :: (padStart 2 '0' (Nat.toDigits 10 address) ++ ' ' :: ' ' :: content row) := by
    have htail := dropEndWhile_append_of_ne_nil hne
      (' ' :: ' ' :: (padStart 2 '0' (Nat.toDigits 10 address) ++ [' ', ' ']))
    simpa [Program.instrRow, Program.addressText, content] using htail
  rw [columns?, hrow]
  simp only
  rw [List.takeWhile_append_of_pos hdigits, List.dropWhile_append_of_pos hdigits]
  simp

lemma rowAddress?_instrRow {row : Row} (h : row.instr.Legible) (address : Nat) :
    rowAddress? (Program.instrRow address row) = some address := by
  rw [rowAddress?, columns?_instrRow h, Option.map_some, padStart, Nat.ofDigitChars_append,
    Nat.ofDigitChars_replicate_zero, Nat.mul_zero, Nat.ofDigitChars_ten_toDigits]

lemma parseLine_withoutAddress {row : Row} (h : row.instr.Legible) (address : Nat)
    (number : Option Int) :
    parseLine number (withoutAddress (Program.instrRow address row)) = .ok (.instr row.instr) := by
  rw [parseLine_eq_ok, withoutAddress, columns?_instrRow h]
  simpa using h.parse_content

lemma labelText_injective : Function.Injective labelText := by
  intro name name' h
  have hchars := congrArg String.toList h
  rw [labelText, labelText, String.toList_append, String.toList_append] at hchars
  exact String.toList_inj.mp (List.append_cancel_right hchars)

/-- The row of a label has no address. -/
lemma columns?_labelText {name : String} (h : LabelName name.toList) :
    columns? (labelText name) = none := by
  obtain ⟨c, cs, hname⟩ := List.exists_cons_of_ne_nil h.ne_nil
  have hc : c ≠ ' ' := by
    rintro rfl
    have hblank := h.tight.head ' ' (by simp [hname])
    revert hblank
    decide
  rw [columns?, labelText, String.toList_append, hname]
  simp [hc]

/-! ## Labels in order -/

/-- Labels with ordered addresses can be gathered address by address. -/
lemma filter_lt_append_filter_eq {labels : Assoc String Nat} (h : labels.Pairwise (·.2 ≤ ·.2))
    (address : Nat) :
    labels.filter (·.2 < address) ++ labels.filter (·.2 = address)
      = labels.filter (·.2 < address + 1) := by
  induction labels with
  | nil => rfl
  | cons entry labels ih =>
      obtain ⟨hfirst, hrest⟩ := List.pairwise_cons.mp h
      rcases Nat.lt_trichotomy entry.2 address with hlt | heq | hgt
      · rw [List.filter_cons_of_pos (by simpa using hlt),
          List.filter_cons_of_neg (by simpa using hlt.ne),
          List.filter_cons_of_pos (by simpa using hlt.le), List.cons_append, ih hrest]
      · -- no smaller address comes behind this one
        have hnone : labels.filter (·.2 < address) = [] := by
          rw [List.filter_eq_nil_iff]
          intro other hother
          have := hfirst other hother
          simp only [decide_eq_true_eq]
          omega
        rw [hnone, List.nil_append] at ih
        rw [List.filter_cons_of_neg (by simpa using heq.ge), hnone,
          List.filter_cons_of_pos (by simpa using heq),
          List.filter_cons_of_pos (by simpa using heq.le), List.nil_append, ih hrest]
      · rw [List.filter_cons_of_neg (by simpa using hgt.le),
          List.filter_cons_of_neg (by simpa using hgt.ne'),
          List.filter_cons_of_neg (by simpa using hgt), ih hrest]

/-- The labels that operations make known, behind so many instructions. -/
def enter (labels : Assoc String Nat) (count : Nat) : List Op → Assoc String Nat
  | [] => labels
  | .blank :: ops => enter labels count ops
  | .label name :: ops => enter (labels.putNew name count) count ops
  | .instr _ :: ops => enter labels (count + 1) ops

/-- **Loading labels.**  A program that is loaded knows the labels of what has been read. -/
lemma addLines_labels {number : Nat} {lines : List String} {ops : List Op}
    (h : parseFrom number lines = .ok ops) (p : Program) :
    (p.addLines number lines).1.labels = enter p.labels p.size ops := by
  induction lines generalizing number ops p with
  | nil =>
      cases h
      rfl
  | cons line lines ih =>
      obtain ⟨op, ops, hline, hrest, rfl⟩ := parseFrom_cons h
      rw [Program.addLines, addLine_eq, hline]
      dsimp only [Except.map]
      rw [ih hrest]
      cases op with
      | blank => rfl
      | label name => rfl
      | instr i => rw [enter, Program.addOp, Program.size, Array.size_push, Program.size]

lemma load_labels {lines : List String} {ops : List Op} (h : parseProgram lines = .ok ops) :
    (Program.load lines).1.labels = enter [] 0 ops :=
  addLines_labels (parseFrom_dropLineEnd_eq_ok.mpr h) _

/-- Labels that are new are entered in order, all with the address that has been reached. -/
lemma enter_labels {labels entries : Assoc String Nat} {address : Nat}
    (hkeys : (List.map (·.1) (labels ++ entries)).Nodup)
    (hsame : ∀ entry ∈ entries, entry.2 = address) (ops : List Op) :
    enter labels address (entries.map (Op.label ·.1) ++ ops)
      = enter (labels ++ entries) address ops := by
  induction entries generalizing labels with
  | nil => rw [List.append_nil, List.map_nil, List.nil_append]
  | cons entry entries ih =>
      obtain ⟨name, place⟩ := entry
      obtain rfl : place = address := hsame _ List.mem_cons_self
      rw [List.map_cons, List.cons_append, enter,
        Assoc.putNew_of_notMem (Assoc.notMem_of_nodup hkeys),
        ih (by simpa using hkeys) fun entry hentry => hsame entry (List.mem_cons_of_mem _ hentry),
        List.append_assoc]
      rfl

/-- The operations that the rows from an address on hold. -/
def relist (labels : Assoc String Nat) (address : Nat) : List Instr → List Op
  | [] => (labels.filter (·.2 = address)).map (Op.label ·.1)
  | i :: rest =>
    (labels.filter (·.2 = address)).map (Op.label ·.1)
      ++ .instr i :: relist labels (address + 1) rest

lemma instrs_labels (entries : Assoc String Nat) : instrs (entries.map (Op.label ·.1)) = [] := by
  induction entries with
  | nil => rfl
  | cons entry entries ih => exact ih

@[simp] lemma instrs_relist (labels : Assoc String Nat) (address : Nat) (is : List Instr) :
    instrs (relist labels address is) = is := by
  induction is generalizing address with
  | nil => exact instrs_labels _
  | cons i is ih => rw [relist, instrs_append, instrs_labels, List.nil_append, instrs, ih]

/-- **Labels in front of their instructions.**  They are known with the addresses that they had. -/
lemma enter_relist {labels : Assoc String Nat} (hkeys : (labels.map (·.1)).Nodup)
    (hsorted : labels.Pairwise (·.2 ≤ ·.2)) (address : Nat) (is : List Instr) :
    enter (labels.filter (·.2 < address)) address (relist labels address is)
      = labels.filter (·.2 < address + is.length + 1) := by
  -- what is known so far are the labels of smaller addresses
  have hgather : ∀ address (ops : List Op),
      enter (labels.filter (·.2 < address)) address
          ((labels.filter (·.2 = address)).map (Op.label ·.1) ++ ops)
        = enter (labels.filter (·.2 < address + 1)) address ops := by
    intro address ops
    rw [enter_labels, filter_lt_append_filter_eq hsorted]
    · rw [filter_lt_append_filter_eq hsorted]
      exact hkeys.sublist (List.filter_sublist.map _)
    · intro entry hentry
      simpa using (List.mem_filter.mp hentry).2
  induction is generalizing address with
  | nil =>
      have hlast := hgather address []
      rw [List.append_nil] at hlast
      exact hlast
  | cons i is ih =>
      rw [relist, hgather, enter, ih, List.length_cons]
      congr 2
      funext entry
      rw [show address + 1 + is.length + 1 = address + (is.length + 1) + 1 by omega]

/-! ## Programs that are loaded -/

/-- A program with its labels as loading enters them: with names that lines can define, none of them
twice, and addresses that do not fall. -/
structure Program.Labelled (p : Program) : Prop where
  keys : (p.labels.map (·.1)).Nodup
  sorted : p.labels.Pairwise (·.2 ≤ ·.2)
  le : ∀ entry ∈ p.labels, entry.2 ≤ p.size
  names : ∀ entry ∈ p.labels, LabelName entry.1.toList

namespace Program

/-- **One line.**  A label is entered behind those that are known, with the largest address. -/
lemma Labelled.addOp {p : Program} (h : p.Labelled) {number : Nat} {line : String} {op : Op}
    (hop : parseLine (some (number : Int)) line = .ok op) : (p.addOp number line op).Labelled := by
  cases op with
  | blank => exact h
  | instr i =>
      refine ⟨h.keys, h.sorted, fun entry hentry => ?_, h.names⟩
      rw [Program.addOp, Program.size, Array.size_push]
      exact (h.le entry hentry).trans (Nat.le_succ _)
  | label name =>
      refine ⟨Assoc.nodup_putNew h.keys name p.size, ?_, fun entry hentry => ?_,
        fun entry hentry => ?_⟩
      · rw [Program.addOp, Assoc.putNew]
        split
        · exact h.sorted
        · refine List.pairwise_append.mpr ⟨h.sorted, List.pairwise_singleton _ _, ?_⟩
          intro entry hentry other hother
          rw [List.mem_singleton.mp hother]
          exact h.le entry hentry
      · rcases Assoc.mem_putNew hentry with hold | rfl
        · exact h.le entry hold
        · exact Nat.le_refl _
      · rcases Assoc.mem_putNew hentry with hold | rfl
        · exact h.names entry hold
        · exact (Op.read_of_parseLine hop (by rintro ⟨⟩)).spelled

lemma load_labelled (lines : List String) : (load lines).1.Labelled := by
  obtain ⟨_, _, hlabelled⟩ := addLines_induction (P := fun _ => Labelled) 1
    (lines.map dropLineEnd) { lines := lines.map dropLineEnd }
    ⟨List.nodup_nil, List.Pairwise.nil, by simp, by simp⟩
    fun _ _ _ _ _ hop h => h.addOp hop
  exact hlabelled

lemma Labelled.filter_lt {p : Program} (h : p.Labelled) :
    p.labels.filter (·.2 < 0 + p.rows.toList.length + 1) = p.labels := by
  rw [List.filter_eq_self]
  intro entry hentry
  have hle := h.le entry hentry
  rw [size] at hle
  simpa using Nat.lt_succ_of_le hle

/-- Instructions that have been loaded can be read from their spellings, within the limit on
digits. -/
lemma load_legible (lines : List String) {row : Row} (hrow : row ∈ (load lines).1.rows.toList)
    (hfits : row.instr.fits = true) : row.instr.Legible := by
  obtain ⟨address, haddress, hget⟩ := List.mem_iff_getElem.mp hrow
  obtain ⟨found, hfetch, hstands⟩ := (load_sound lines).rows address haddress
  have hsame : found = row := by
    rw [fetch?, ← Array.getElem?_toList, List.getElem?_eq_getElem haddress, hget] at hfetch
    exact (Option.some.inj hfetch).symm
  subst hsame
  have hread := Op.read_of_parseLine hstands.instr (by rintro ⟨⟩)
  have hlegible : (Op.instr found.instr).legible = true := by
    refine hread.legible ?_
    rintro i ⟨⟩
    exact hfits
  have hfront : ∀ c ∈ "".toList, isBlank c = true := by simp
  intro number
  have htext := parseLine_text hread.spelled hlegible number hfront
  rwa [String.empty_append] at htext

/-! ## The rows of a program -/

section Rows

variable {p : Program} (hlabels : p.Labelled)
include hlabels

lemma labelRows_columns {address : Nat} {row : String} (hrow : row ∈ p.labelRows address) :
    columns? row = none := by
  obtain ⟨entry, hentry, rfl⟩ := List.mem_map.mp hrow
  exact columns?_labelText (hlabels.names entry (List.mem_filter.mp hentry).1)

lemma labelRows_addresses {address : Nat} {rows : List String} (h : rows ⊆ p.labelRows address) :
    rows.filterMap rowAddress? = [] := by
  rw [List.filterMap_eq_nil_iff]
  intro row hrow
  rw [rowAddress?, labelRows_columns hlabels (h hrow), Option.map_none]

lemma labelRows_place {name : String} {address : Nat} (hentry : (name, address) ∈ p.labels) :
    ∃ front back, p.labelRows address = front ++ labelText name :: back ∧
      front.filterMap rowAddress? = [] := by
  have hmem : labelText name ∈ p.labelRows address :=
    List.mem_map.mpr ⟨(name, address), List.mem_filter.mpr ⟨hentry, by simp⟩, rfl⟩
  obtain ⟨front, back, hsplit⟩ := List.append_of_mem hmem
  have hfront : front ⊆ p.labelRows address := by
    rw [hsplit]
    exact List.subset_append_left _ _
  exact ⟨front, back, hsplit, labelRows_addresses hlabels hfront⟩

/-- The instructions have their addresses in order. -/
lemma rowsFrom_addresses {rows : List Row} (hrows : ∀ row ∈ rows, row.instr.Legible)
    (address : Nat) :
    (p.rowsFrom address rows).filterMap rowAddress? = List.range' address rows.length := by
  induction rows generalizing address with
  | nil => exact labelRows_addresses hlabels (List.Subset.refl _)
  | cons row rows ih =>
      rw [rowsFrom, List.filterMap_append, labelRows_addresses hlabels (List.Subset.refl _),
        List.nil_append,
        List.filterMap_cons_some (rowAddress?_instrRow (hrows row List.mem_cons_self) address),
        ih fun row hrow => hrows row (List.mem_cons_of_mem _ hrow), List.length_cons,
        List.range'_succ]

/-- The other rows are those of the labels, each once. -/
lemma rowsFrom_labels {rows : List Row} (hrows : ∀ row ∈ rows, row.instr.Legible)
    (address : Nat) :
    (p.labels.filter (·.2 < address)).map (labelText ·.1)
        ++ (p.rowsFrom address rows).filter (rowAddress? · = none)
      = (p.labels.filter (·.2 < address + rows.length + 1)).map (labelText ·.1) := by
  have hgather : ∀ address,
      (p.labels.filter (·.2 < address)).map (labelText ·.1)
          ++ (p.labelRows address).filter (rowAddress? · = none)
        = (p.labels.filter (·.2 < address + 1)).map (labelText ·.1) := by
    intro address
    have hall : (p.labelRows address).filter (rowAddress? · = none) = p.labelRows address := by
      rw [List.filter_eq_self]
      intro row hrow
      rw [rowAddress?, labelRows_columns hlabels hrow]
      rfl
    rw [hall, ← filter_lt_append_filter_eq hlabels.sorted, List.map_append]
    rfl
  induction rows generalizing address with
  | nil => exact hgather address
  | cons row rows ih =>
      have hrow := rowAddress?_instrRow (hrows row List.mem_cons_self) address
      rw [rowsFrom, List.filter_append, List.filter_cons_of_neg (by simp [hrow]),
        ← List.append_assoc, hgather, ih fun row hrow => hrows row (List.mem_cons_of_mem _ hrow),
        List.length_cons,
        show address + 1 + rows.length + 1 = address + (rows.length + 1) + 1 by omega]

/-- The row of a label comes behind those of all smaller addresses, and in front of the others. -/
lemma rowsFrom_place {rows : List Row} (hrows : ∀ row ∈ rows, row.instr.Legible) {name : String}
    {place : Nat} (hentry : (name, place) ∈ p.labels) {address : Nat} (hge : address ≤ place)
    (hle : place ≤ address + rows.length) :
    ∃ front back, p.rowsFrom address rows = front ++ labelText name :: back ∧
      front.filterMap rowAddress? = List.range' address (place - address) := by
  induction rows generalizing address with
  | nil =>
      obtain rfl : address = place := by simpa using Nat.le_antisymm hge hle
      rw [Nat.sub_self]
      exact labelRows_place hlabels hentry
  | cons row rows ih =>
      rw [rowsFrom]
      by_cases hplace : address = place
      · subst hplace
        obtain ⟨front, back, hsplit, hfront⟩ := labelRows_place hlabels hentry
        refine ⟨front, back ++ instrRow address row :: p.rowsFrom (address + 1) rows, ?_, ?_⟩
        · rw [hsplit, List.append_assoc, List.cons_append]
        · rw [hfront, Nat.sub_self, List.range'_zero]
      · have hge' : address + 1 ≤ place := by omega
        have hle' : place ≤ address + 1 + rows.length := by
          rw [List.length_cons] at hle
          omega
        obtain ⟨front, back, hsplit, hfront⟩ :=
          ih (fun row hrow => hrows row (List.mem_cons_of_mem _ hrow)) hge' hle'
        refine ⟨p.labelRows address ++ instrRow address row :: front, back, ?_, ?_⟩
        · rw [hsplit, List.append_assoc, List.cons_append]
        · rw [List.filterMap_append, labelRows_addresses hlabels (List.Subset.refl _),
            List.nil_append,
            List.filterMap_cons_some (rowAddress?_instrRow (hrows row List.mem_cons_self) address),
            hfront, ← List.range'_succ, show place - (address + 1) + 1 = place - address by omega]

/-- Without its address, each row holds what it was printed for. -/
lemma rowsFrom_holds {rows : List Row} (hrows : ∀ row ∈ rows, row.instr.Legible) (address : Nat) :
    List.Forall₂ (fun row op => ∀ number, parseLine number (withoutAddress row) = .ok op)
      (p.rowsFrom address rows) (relist p.labels address (rows.map (·.instr))) := by
  have hlabel : ∀ address,
      List.Forall₂ (fun row op => ∀ number, parseLine number (withoutAddress row) = .ok op)
        (p.labelRows address) ((p.labels.filter (·.2 = address)).map (Op.label ·.1)) := by
    intro address
    rw [labelRows, List.forall₂_map_left_iff, List.forall₂_map_right_iff, List.forall₂_same]
    intro entry hentry number
    have hname := hlabels.names entry (List.mem_filter.mp hentry).1
    rw [withoutAddress, columns?_labelText hname]
    exact parseLine_labelText hname
  induction rows generalizing address with
  | nil => exact hlabel address
  | cons row rows ih =>
      refine List.rel_append (hlabel address) (.cons ?_ (ih (fun row hrow => ?_) (address + 1)))
      · exact parseLine_withoutAddress (hrows row List.mem_cons_self) address
      · exact hrows row (List.mem_cons_of_mem _ hrow)

end Rows

lemma parseFrom_of_forall₂ {lines : List String} {ops : List Op}
    (h : List.Forall₂ (fun line op => ∀ number, parseLine number line = .ok op) lines ops)
    (number : Nat) : parseFrom number lines = .ok ops := by
  induction h generalizing number with
  | nil => rfl
  | cons hline _ ih =>
      rw [parseFrom, hline, ih]
      rfl

/-- **Loading a printed listing.**  Without the addresses its rows give the instructions and the
labels that it was printed from. -/
lemma load_printout {p : Program} (hlabels : p.Labelled)
    (hrows : ∀ row ∈ p.rows.toList, row.instr.Legible) :
    ∃ p', load (p.printout.map withoutAddress) = (p', none) ∧
      p'.rows.toList.map (·.instr) = p.rows.toList.map (·.instr) ∧ p'.labels = p.labels := by
  have hparse : parseProgram (p.printout.map withoutAddress)
      = .ok (relist p.labels 0 (p.rows.toList.map (·.instr))) :=
    parseFrom_of_forall₂ (List.forall₂_map_left_iff.mpr (rowsFrom_holds hlabels hrows 0)) 1
  obtain ⟨p', hload, hloaded⟩ := load_ok_of_parse hparse
  refine ⟨p', hload, ?_, ?_⟩
  · rw [hloaded.rows, instrs_relist]
  · have hentered := load_labels hparse
    have hnone : p.labels.filter (·.2 < 0) = [] := by simp
    have hrelist := enter_relist hlabels.keys hlabels.sorted 0 (p.rows.toList.map (·.instr))
    rw [hnone, List.length_map, hlabels.filter_lt] at hrelist
    rw [hload, hrelist] at hentered
    exact hentered

end Program

/-- **Printed listings are faithful.**  A listing that can be loaded is printed, if the addresses of
tiles keep within the limit on digits.  Its instructions are shown with their addresses, in order.
The other rows are those of its labels, each once, and each in front of the row of the address that
it stands for.  Loading the rows without their addresses gives the same instructions and the same
labels. -/
theorem printout_faithful {lines : List String} {p : Program}
    (hload : Program.load lines = (p, none))
    (hfits : ∀ row ∈ p.rows.toList, ∀ op t, row.instr = .tile op t →
      (Nat.toDigits 10 t.address).length ≤ Numeral.digitLimit) :
    ∃ rows, printout lines = .ok rows ∧
      rows.filterMap rowAddress? = List.range p.size ∧
      (rows.filter (rowAddress? · = none) = p.labels.map (labelText ·.1) ∧
        (p.labels.map (labelText ·.1)).Nodup) ∧
      (∀ name address, (name, address) ∈ p.labels →
        ∃ front back, rows = front ++ labelText name :: back ∧
          front.filterMap rowAddress? = List.range address) ∧
      ∃ p', Program.load (rows.map withoutAddress) = (p', none) ∧
        p'.rows.toList.map (·.instr) = p.rows.toList.map (·.instr) ∧ p'.labels = p.labels := by
  have hlabels : p.Labelled := by
    have h := Program.load_labelled lines
    rwa [hload] at h
  have hwritable : ∀ row ∈ p.rows.toList, row.instr.fits = true := by
    intro row hrow
    cases hinstr : row.instr with
    | tile op t => exact Numeral.fits_iff_length.mpr (hfits row hrow op t hinstr)
    | _ => rfl
  have hrows : ∀ row ∈ p.rows.toList, row.instr.Legible := by
    intro row hrow
    refine Program.load_legible lines ?_ (hwritable row hrow)
    rwa [hload]
  have hnone : p.labels.filter (·.2 < 0) = [] := by simp
  refine ⟨p.printout, ?_, ?_, ⟨?_, ?_⟩, fun name address hentry => ?_,
    Program.load_printout hlabels hrows⟩
  · have hall : p.rows.all (·.instr.fits) = true := by
      rw [← Array.all_toList, List.all_eq_true]
      exact hwritable
    rw [printout, hload]
    simp only [hall, if_true]
  · rw [Program.printout, Program.rowsFrom_addresses hlabels hrows, List.range_eq_range']
    rfl
  · have hlisted := Program.rowsFrom_labels hlabels hrows 0
    rw [hnone, List.map_nil, List.nil_append] at hlisted
    rw [Program.printout, hlisted, hlabels.filter_lt]
  · have hnames := hlabels.keys.map labelText_injective
    rwa [List.map_map] at hnames
  · have hle : address ≤ 0 + p.rows.toList.length := by
      rw [Nat.zero_add]
      exact hlabels.le (name, address) hentry
    rw [List.range_eq_range']
    exact Program.rowsFrom_place hlabels hrows hentry (Nat.zero_le _) hle

/-- Lines with comments of all kinds, labels in one place, a label twice and labels at the end. -/
def crowded : List String :=
  ["start:", "  inbox -- take ; it # now", "again : # once more", "start:", "bumpup [0x1F]",
    "jumpz start -- \r\n", "done:", "out of here:\n"]

theorem printout_faithful_crowded :
    let rows := ["start:", "  00  INBOX            -- take ; it # now", "again:",
      "  01  BUMPUP [31]", "  02  JUMPZ start      --", "done:", "out of here:"]
    let labels := [("start", 0), ("again", 1), ("done", 3), ("out of here", 3)]
    (∃ p, Program.load crowded = (p, none) ∧ p.labels = labels) ∧ printout crowded = .ok rows ∧
    ∃ p', Program.load (rows.map withoutAddress) = (p', none) ∧
      p'.rows.toList.map (·.instr)
        = [.inbox, .tile .bumpUp ⟨31, true⟩, .jump .ifZero "start"] ∧ p'.labels = labels := by
  intro rows labels
  have hload : Program.load crowded = ((Program.load crowded).1, none) :=
    Prod.ext rfl (by decide +kernel)
  have hlabels : (Program.load crowded).1.labels = labels := by decide +kernel
  have hinstrs : (Program.load crowded).1.rows.toList.map (·.instr)
      = [.inbox, .tile .bumpUp ⟨31, true⟩, .jump .ifZero "start"] := by decide +kernel
  have hfits : ∀ row ∈ (Program.load crowded).1.rows.toList, row.instr.fits = true := by
    decide +kernel
  have hprinted : printout crowded = .ok rows := by decide +kernel
  obtain ⟨rows', hrows', -, -, -, p', hload', hinstrs', hlabels'⟩ :=
    printout_faithful hload fun row hrow op t hinstr =>
      Numeral.fits_iff_length.mp (by simpa [hinstr, Instr.fits] using hfits row hrow)
  obtain rfl : rows' = rows := Except.ok.inj (hrows'.symm.trans hprinted)
  exact ⟨⟨_, hload, hlabels⟩, hprinted, p', hload', hinstrs'.trans hinstrs, hlabels'.trans hlabels⟩

end Mailroom
