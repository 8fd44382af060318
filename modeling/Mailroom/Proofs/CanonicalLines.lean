import Mathlib
import Mailroom.Proofs.Safety

/-!
# Listings and operations are inverse to each other

The syntax of lines is loose: there are comments, words in small letters, other words for the same
instruction, numerals with tags and underscores, and blanks wherever one likes.  Whatever is read
from such a line has a canonical spelling, from which it is read again, whatever blanks are put in
front of it.  And the lines of a compiled listing are read as the operations that they were set
from, so that no label, target or address means something else once the listing is loaded.

- `parseLine_text`: what can be read back from a rendered line can be read back from its spelling.
- `lower_readable`: so are the operations of a compiled listing.
- `listing_inverse`: both directions.
-/

namespace Mailroom

open Text Source Peephole

/-! ## Canonical spellings -/

lemma parseLine_eq_ok {number : Option Int} {line : String} {op : Op} :
    parseLine number line = .ok op ↔ parseStripped (stripComment line.toList) = .ok op := by
  rw [parseLine]
  cases parseStripped (stripComment line.toList) <;> simp

/-- A rendered line is a canonical spelling, moved to the right or not. -/
lemma renderOp_eq (op : Op) :
    ∃ front : String, (∀ c ∈ front.toList, isBlank c = true) ∧ renderOp op = front ++ op.text := by
  cases op with
  | label name => exact ⟨"", by simp, by simp [renderOp, Op.text]⟩
  | blank => exact ⟨"    ", forall_mem_of_all (by decide), rfl⟩
  | instr i => exact ⟨"    ", forall_mem_of_all (by decide), rfl⟩

/-- An operation that can be read back from a rendered line can be read back from its spelling with
any blanks in front. -/
lemma parseLine_text {op : Op} (h : op.Spelled) (hlegible : op.legible = true)
    (number : Option Int) {front : String} (hfront : ∀ c ∈ front.toList, isBlank c = true) :
    parseLine number (front ++ op.text) = .ok op := by
  obtain ⟨front', hfront', heq⟩ := renderOp_eq op
  have hline := (parseLine_renderOp h number).1 hlegible
  rw [heq, parseLine_eq_ok, String.toList_append, stripComment_blanks hfront'] at hline
  rw [parseLine_eq_ok, String.toList_append, stripComment_blanks hfront]
  exact hline

lemma Op.read_of_parseLine {number : Option Int} {line : String} {op : Op}
    (h : parseLine number line = .ok op) (hop : op ≠ .blank) : op.Read :=
  ⟨hop, line, parseLine_eq_ok.mpr (parseLine_eq_ok.mp h)⟩

/-! ## Compiled listings -/

lemma Op.fits_of_writable {op : Op} (h : op.writable = true) :
    ∀ i, op = .instr i → i.fits = true := by
  rintro i rfl
  cases i with
  | tile top t => exact Numeral.fits_iff_length.mpr (by simpa [Op.writable] using h)
  | _ => rfl

section Compiled

variable {size : Int} {symbols : Symbols} {program : List Stmt} {final : Lowering}

/-- Jumps of a compiled listing lead to names without blanks. -/
lemma lower_target_nonblank (h : lower size symbols program = (none, final)) {kind : JumpKind}
    {target : String} (hop : ComesFrom final.ops (.instr (.jump kind target))) :
    ∀ c ∈ target.toList, isBlank c = false := by
  have hlabel : target ∈ labelNames final.ops := by
    rcases hop with hmem | ⟨kind', old, label, heq, -, hlabel⟩
    · exact stmt_jumps (lower_code h) _ hmem
    · cases heq
      exact hlabel
  obtain ⟨stem, hstem, n, rfl⟩ := lower_label h hlabel
  exact labelAt_nonblank hstem n

/-- The operations of a compiled listing can be read back if they can be written. -/
lemma lower_readable (h : lower size symbols program = (none, final)) {op : Op}
    (hop : ComesFrom final.ops op) (hwritable : op.writable = true) :
    op.Spelled ∧ op.legible = true := by
  have hspelled := hop.spelled (lower_spelled h)
  refine ⟨hspelled, ?_⟩
  cases op with
  | blank => rfl
  | label name => rfl
  | instr i =>
      cases i with
      | jump kind target => simpa [Op.legible] using lower_target_nonblank h hop
      | inbox => rfl
      | outbox => rfl
      | tile top t =>
          have hlegible : Op.legible (.instr (.tile top t)) = Instr.fits (.tile top t) := rfl
          rw [hlegible]
          exact Op.fits_of_writable hwritable _ rfl

end Compiled

/-- **Spellings and operations are inverse to each other.**  What is read from a line is read from
its canonical spelling too, behind any blanks, if its address keeps within the limit on digits.  The
lines of a compiled listing are read as the operations that they were set from. -/
theorem listing_inverse :
    (∀ number line op, parseLine number line = .ok op → op ≠ .blank →
      (∀ i, op = .instr i → i.fits = true) →
        ∀ number' (front : String), (∀ c ∈ front.toList, isBlank c = true) →
          parseLine number' (front ++ op.text) = .ok op) ∧
    ∀ options text listing, (compile options text).outcome = .ok listing →
      ∃ ops, ops = (if options.optimize then peephole (compile options text).emitted
          else (compile options text).emitted) ∧
        listing = render ops ∧ parseProgram listing = .ok ops := by
  constructor
  · intro number line op hline hop hfits number' front hfront
    have hread := Op.read_of_parseLine hline hop
    exact parseLine_text hread.spelled (hread.legible hfits) number' hfront
  · intro options text listing hcompile
    obtain ⟨program, final, -, -, hlower, hemitted, hrender⟩ := compile_render hcompile
    obtain ⟨rfl, hwritable⟩ := render?_ok hrender
    rw [hemitted]
    refine ⟨_, rfl, rfl, ?_⟩
    have hreadable : ∀ op ∈ (if options.optimize then peephole final.ops else final.ops),
        op.Spelled ∧ op.legible = true := by
      intro op hop
      refine lower_readable hlower ?_ (hwritable op hop)
      split at hop
      · exact comesFrom_peephole hop
      · exact .inl hop
    exact parseFrom_render (fun op hop => (hreadable op hop).1)
      (fun op hop => (hreadable op hop).2) 1

/-- A line with another word, a tagged numeral in brackets and a comment, and a small listing. -/
theorem listing_inverse_brackets : ∃ op ops,
    op = .instr (.tile .bumpDown ⟨31, true⟩) ∧ op.text = "BUMPDN [31]" ∧
      parseLine (some 3) "  bump-  [0x_1F] ; one less" = .ok op ∧
      parseLine none ("\t " ++ op.text) = .ok op ∧
      (compile ⟨1, true⟩ "int *p = input(); output(*p);".toList).outcome = .ok (render ops) ∧
      parseProgram (render ops) = .ok ops := by
  have hline : parseLine (some 3) "  bump-  [0x_1F] ; one less"
      = .ok (.instr (.tile .bumpDown ⟨31, true⟩)) := by decide +kernel
  have hcompile : (compile ⟨1, true⟩ "int *p = input(); output(*p);".toList).outcome
      = .ok ["    INBOX", "    COPYTO 0", "    COPYFROM [0]", "    OUTBOX"] := by cbv
  obtain ⟨ops, -, hlisting, hparse⟩ := listing_inverse.2 _ _ _ hcompile
  rw [hlisting] at hcompile hparse
  refine ⟨_, ops, rfl, by decide +kernel, hline, ?_, hcompile, hparse⟩
  refine listing_inverse.1 _ _ _ hline (by simp) ?_ none "\t " (forall_mem_of_all (by decide))
  rintro i ⟨⟩
  decide +kernel

end Mailroom
