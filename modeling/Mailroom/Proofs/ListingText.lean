import Mailroom.Listing.Program
import Mailroom.Proofs.Text
import Mailroom.Source.Compile

/-!
# Listings that are read back as they were written

A listing is written by `render` and read by `Program.load`.  What a line can hold at all is
narrower than the type `Op`: a label has no colon and no comment in its name, and the operand of a
jump is a single word.  `Op.Spelled` says so, every line that is read gives such an operation
(`spelled_of_parseLine`), and every such operation is read back from its own line, unless the
address of its tile has too many digits (`parseLine_renderOp`).

The difference between the two kinds of names matters: a label may have a blank inside, the operand
of a jump may not.

Line ends are no part of what a line holds: with them or without them, lines are read as the same
operations (`parseFrom_dropLineEnd`), or refused with the same words
(`LineError.message_dropLineEnd`).
-/

namespace Mailroom

open Text Source

/-! ## Comments -/

/-- A text in which no comment starts. -/
structure Unmarked (cs : List Char) : Prop where
  dashes : ¬ ['-', '-'] <:+: cs
  hash : '#' ∉ cs
  semicolon : ';' ∉ cs

lemma singleton_isInfix {c : Char} {cs : List Char} : [c] <:+: cs ↔ c ∈ cs := by
  constructor
  · intro h
    exact h.subset (by simp)
  · intro h
    obtain ⟨s, t, rfl⟩ := List.append_of_mem h
    exact ⟨s, t, by simp⟩

lemma Unmarked.of_isInfix {cs ds : List Char} (h : Unmarked ds) (hcs : cs <:+: ds) : Unmarked cs where
  dashes := fun hd => h.dashes (hd.trans hcs)
  hash := fun hc => h.hash (hcs.subset hc)
  semicolon := fun hc => h.semicolon (hcs.subset hc)

/-- Two dashes side by side lie in one of two texts, unless they lie on the seam. -/
lemma dashes_infix_append {cs ds : List Char}
    (hseam : cs.getLast? ≠ some '-' ∨ ds.head? ≠ some '-') (h : ['-', '-'] <:+: cs ++ ds) :
    ['-', '-'] <:+: cs ∨ ['-', '-'] <:+: ds := by
  induction cs with
  | nil => exact Or.inr h
  | cons c cs ih =>
      rw [List.cons_append, List.infix_cons_iff] at h
      rcases h with h | h
      · left
        cases cs with
        | nil =>
            rw [List.nil_append, List.cons_prefix_cons] at h
            obtain ⟨rfl, t, rfl⟩ := h
            simp at hseam
        | cons d cs =>
            rw [List.cons_append, List.cons_prefix_cons, List.cons_prefix_cons] at h
            obtain ⟨rfl, rfl, -⟩ := h
            exact ⟨[], cs, rfl⟩
      · have hseam' : cs.getLast? ≠ some '-' ∨ ds.head? ≠ some '-' := by
          cases cs with
          | nil => exact Or.inl (by simp)
          | cons d cs => simpa using hseam
        rcases ih hseam' h with h | h
        · exact Or.inl (h.trans (List.suffix_cons c cs).isInfix)
        · exact Or.inr h

lemma Unmarked.append {cs ds : List Char} (hcs : Unmarked cs) (hds : Unmarked ds)
    (hseam : cs.getLast? ≠ some '-' ∨ ds.head? ≠ some '-') : Unmarked (cs ++ ds) where
  dashes := fun h => (dashes_infix_append hseam h).elim hcs.dashes hds.dashes
  hash := by simp [hcs.hash, hds.hash]
  semicolon := by simp [hcs.semicolon, hds.semicolon]

/-- Texts without any character that could be part of a mark. -/
lemma Unmarked.of_forall {cs : List Char} (h : ∀ c ∈ cs, c ≠ '-' ∧ c ≠ '#' ∧ c ≠ ';') :
    Unmarked cs where
  dashes := fun hd => (h '-' (hd.subset (by simp))).1 rfl
  hash := fun hc => (h '#' hc).2.1 rfl
  semicolon := fun hc => (h ';' hc).2.2 rfl

/-- Blanks in front of a line are no part of what it holds. -/
lemma stripComment_blanks {front : List Char} (hfront : ∀ c ∈ front, isBlank c = true)
    (cs : List Char) : stripComment (front ++ cs) = stripComment cs := by
  have hmark : ∀ mark : List Char, mark ≠ [] → (∀ c ∈ mark, isBlank c = false) → ∀ l,
      before mark (front ++ l) = front ++ before mark l := by
    intro mark hne hblank
    refine before_append_front hne fun c hc hmem => ?_
    exact absurd (hfront c hmem) (by simp [hblank c hc])
  rw [stripComment, hmark ['-', '-'] (by simp) (forall_mem_of_all (by decide)),
    hmark ['#'] (by simp) (forall_mem_of_all (by decide)),
    hmark [';'] (by simp) (forall_mem_of_all (by decide)), trim_blanks_append hfront, stripComment]

lemma stripComment_eq_self {cs : List Char} (hmark : Unmarked cs) (h : Tight cs) :
    stripComment cs = cs := by
  rw [stripComment, before_eq_self hmark.dashes,
    before_eq_self (singleton_isInfix.not.mpr hmark.hash),
    before_eq_self (singleton_isInfix.not.mpr hmark.semicolon), trim_eq_self h]

lemma stripComment_tight (line : List Char) : Tight (stripComment line) :=
  trim_tight _

/-- What is left of a line has no comment. -/
lemma stripComment_unmarked (line : List Char) : Unmarked (stripComment line) := by
  set l1 := before ['-', '-'] line with h1
  set l2 := before ['#'] l1 with h2
  set l3 := before [';'] l2 with h3
  have hstrip : stripComment line <:+: l3 := trim_isInfix l3
  have h32 : l3 <:+: l2 := (before_isPrefix _ _).isInfix
  have h21 : l2 <:+: l1 := (before_isPrefix _ _).isInfix
  have hl3 : Unmarked l3 := by
    refine ⟨fun h => ?_, fun h => ?_, fun h => ?_⟩
    · exact not_infix_before (by simp) line (h.trans (h32.trans h21))
    · exact not_infix_before (by simp) l1 (singleton_isInfix.mpr (h32.subset h))
    · exact not_infix_before (by simp) l2 (singleton_isInfix.mpr h)
  exact hl3.of_isInfix hstrip

/-- A text that has been stripped holds the label that it ends with. -/
lemma labelName?_eq {cs : List Char} (hmark : Unmarked cs) (h : Tight cs) :
    labelName? cs = labelOf? cs := by
  rw [labelName?, stripComment_eq_self hmark h]

/-! ## Line ends -/

/-- Blanks behind a line are no part of what it holds. -/
lemma stripComment_append_blanks {tail : List Char} (htail : ∀ c ∈ tail, isBlank c = true)
    (cs : List Char) : stripComment (cs ++ tail) = stripComment cs := by
  -- cutting off a comment leaves the blanks or takes them with it
  have hcut : ∀ mark : List Char, mark ≠ [] → (∀ c ∈ mark, isBlank c = false) →
      ∀ {l l'}, (l' = l ∨ l' = l ++ tail) →
        (before mark l' = before mark l ∨ before mark l' = before mark l ++ tail) := by
    rintro mark hne hmark l l' (rfl | rfl)
    · exact .inl rfl
    · refine before_append_tail hne (fun c hc hmem => ?_) l
      exact absurd (htail c hmem) (by simp [hmark c hc])
  rw [stripComment, stripComment]
  rcases hcut [';'] (by simp) (forall_mem_of_all (by decide))
    (hcut ['#'] (by simp) (forall_mem_of_all (by decide))
      (hcut ['-', '-'] (by simp) (forall_mem_of_all (by decide)) (.inr rfl))) with h | h
  · rw [h]
  · rw [h, trim_append_of_blank htail]

lemma isBlank_of_lineEnd {c : Char} (h : c = '\n' ∨ c = '\r') : isBlank c = true := by
  rcases h with rfl | rfl <;> decide

lemma dropLineEnd_split (line : String) :
    ∃ tail, line.toList = (Program.dropLineEnd line).toList ++ tail ∧
      ∀ c ∈ tail, c = '\n' ∨ c = '\r' := by
  obtain ⟨tail, hsplit, htail⟩ :=
    exists_dropEndWhile_append (fun c => c == '\n' || c == '\r') line.toList
  refine ⟨tail, ?_, fun c hc => by simpa using htail c hc⟩
  rw [Program.dropLineEnd, String.toList_ofList]
  exact hsplit

lemma stripComment_dropLineEnd (line : String) :
    stripComment (Program.dropLineEnd line).toList = stripComment line.toList := by
  obtain ⟨tail, hsplit, htail⟩ := dropLineEnd_split line
  rw [hsplit, stripComment_append_blanks fun c hc => isBlank_of_lineEnd (htail c hc)]

/-- An error about a line without its line ends. -/
def LineError.dropLineEnd (e : LineError) : LineError :=
  { e with line := Program.dropLineEnd e.line }

/-- Line ends are not shown in the wording of an error. -/
lemma LineError.message_dropLineEnd (e : LineError) : e.dropLineEnd.message = e.message := by
  obtain ⟨tail, hsplit, htail⟩ := dropLineEnd_split e.line
  have hshown : trim (Program.dropLineEnd e.line).toList = trim e.line.toList := by
    rw [hsplit, trim_append_of_blank fun c hc => isBlank_of_lineEnd (htail c hc)]
  rw [LineError.message, LineError.message, LineError.dropLineEnd]
  dsimp only
  rw [hshown]

/-- A line is read in the same way with and without its line ends. -/
lemma parseLine_dropLineEnd (number : Option Int) (line : String) :
    parseLine number (Program.dropLineEnd line)
      = (parseLine number line).mapError LineError.dropLineEnd := by
  rw [parseLine, parseLine, stripComment_dropLineEnd]
  cases parseStripped (stripComment line.toList) <;> rfl

lemma parseFrom_dropLineEnd (number : Nat) (lines : List String) :
    parseFrom number (lines.map Program.dropLineEnd)
      = (parseFrom number lines).mapError LineError.dropLineEnd := by
  induction lines generalizing number with
  | nil => rfl
  | cons line lines ih =>
      rw [List.map_cons, parseFrom, parseFrom, parseLine_dropLineEnd]
      cases parseLine (some number) line with
      | error e => rfl
      | ok op =>
          dsimp only [Except.mapError]
          rw [ih]
          cases parseFrom (number + 1) lines <;> rfl

lemma parseFrom_dropLineEnd_eq_ok {number : Nat} {lines : List String} {ops : List Op} :
    parseFrom number (lines.map Program.dropLineEnd) = .ok ops ↔ parseFrom number lines = .ok ops := by
  rw [parseFrom_dropLineEnd]
  cases parseFrom number lines with
  | ok _ => exact Iff.rfl
  | error _ => exact iff_of_false (by rintro ⟨⟩) (by rintro ⟨⟩)

/-! ## What a line can hold -/

/-- A name that a line can define as a label. -/
structure LabelName (name : List Char) : Prop where
  ne_nil : name ≠ []
  tight : Tight name
  unmarked : Unmarked name
  colon : ':' ∉ name

/-- A name that can be written behind a jump. -/
structure TargetName (name : List Char) : Prop where
  ne_nil : name ≠ []
  tight : Tight name
  unmarked : Unmarked name
  last : name.getLast? ≠ some ':'

lemma LabelName.target {name : List Char} (h : LabelName name) : TargetName name where
  ne_nil := h.ne_nil
  tight := h.tight
  unmarked := h.unmarked
  last := fun hl => h.colon (List.mem_of_mem_getLast? hl)

/-- Characters that mean nothing of their own in a listing. -/
def isPlain (c : Char) : Bool :=
  !isBlank c && c ∉ ['-', '#', ';', ':']

lemma labelName_of_plain {name : List Char} (hne : name ≠ []) (hplain : name.all isPlain = true) :
    LabelName name := by
  have h : ∀ c ∈ name, isBlank c = false ∧ c ≠ '-' ∧ c ≠ '#' ∧ c ≠ ';' ∧ c ≠ ':' := by
    intro c hc
    simpa [isPlain] using List.all_eq_true.mp hplain c hc
  exact ⟨hne, tight_of_nonblank fun c hc => (h c hc).1,
    .of_forall fun c hc => ⟨(h c hc).2.1, (h c hc).2.2.1, (h c hc).2.2.2.1⟩,
    fun hc => (h _ hc).2.2.2.2 rfl⟩

/-- Operations that stand on a line of their own. -/
def Op.Spelled : Op → Prop
  | .blank => False
  | .label name => LabelName name.toList
  | .instr (.jump _ target) => TargetName target.toList
  | .instr _ => True

/-- Whether an operation can be read from the line it stands on.  A label may have blanks inside,
but a jump cannot lead to it then; and there is a limit on digits. -/
def Op.legible : Op → Bool
  | .instr (.jump _ target) => target.toList.all (!isBlank ·)
  | .instr i => i.fits
  | _ => true

lemma labelName_of_labelOf? {cs name : List Char} (hmark : Unmarked cs)
    (h : labelOf? cs = some name) : LabelName name := by
  rw [labelOf?] at h
  split at h
  · rename_i hc
    simp only at h
    split at h
    · exact absurd h (by simp)
    · rename_i hne
      cases h
      have hinf : trim cs.dropLast <:+: cs.dropLast := trim_isInfix _
      refine ⟨by simpa using hne, trim_tight _, ?_, fun hm => hc.2 (hinf.subset hm)⟩
      exact hmark.of_isInfix (hinf.trans ( List.dropLast_prefix cs).isInfix)
  · exact absurd h (by simp)

lemma parseInstr_jump {word : List Char} {operands : List (List Char)} {kind : JumpKind}
    {label : String} (h : parseInstr word operands = .ok (.jump kind label)) :
    ∃ operand, operands = [operand] ∧ label = String.ofList operand := by
  rw [parseInstr.eq_def] at h
  split at h
  case h_8 operand _ =>
    cases h
    exact ⟨operand, rfl, rfl⟩
  case h_6 =>
    split at h <;> cases h
  all_goals cases h

/-- What is read from a line can be written on one.  Jumps lead to a single word. -/
lemma spelled_of_parseLine {number : Option Int} {line : String} {op : Op}
    (h : parseLine number line = .ok op) (hop : op ≠ .blank) :
    op.Spelled ∧ ∀ kind target, op = .instr (.jump kind target) → op.legible = true := by
  have hmark := stripComment_unmarked line.toList
  have htight := stripComment_tight line.toList
  rw [parseLine] at h
  generalize stripComment line.toList = cs at h hmark htight
  have hop' : parseStripped cs = .ok op := by
    split at h
    · rename_i op' heq
      cases h
      exact heq
    · cases h
  rw [parseStripped] at hop'
  split at hop'
  · cases hop'
    exact absurd rfl hop
  · rename_i word operands hwords
    split at hop'
    · rename_i name hname
      cases hop'
      refine ⟨?_, fun _ _ h => nomatch h⟩
      rw [labelName?_eq hmark htight] at hname
      rw [Op.Spelled, String.toList_ofList]
      exact labelName_of_labelOf? hmark hname
    · split at hop'
      · cases hop'
      · rename_i hlast
        cases hi : parseInstr word operands with
        | error flaw => rw [hi] at hop'; cases hop'
        | ok i =>
            rw [hi] at hop'
            cases hop'
            cases i with
            | jump kind label =>
                obtain ⟨operand, rfl, rfl⟩ := parseInstr_jump hi
                have hmem : operand ∈ words cs := by rw [hwords]; simp
                obtain ⟨hne, hblank, hinf⟩ := mem_words hmem
                have hend := getLast?_words htight
                rw [hwords, List.getLast?_cons_cons, List.getLast?_singleton,
                  Option.bind_some] at hend
                rw [Op.Spelled, Op.legible, String.toList_ofList]
                refine ⟨⟨hne, tight_of_nonblank hblank, hmark.of_isInfix hinf, ?_⟩, fun _ _ _ => ?_⟩
                · rw [hend]
                  exact hlast
                · simpa using hblank
            | _ => exact ⟨trivial, fun _ _ h => nomatch h⟩

/-! ## What a written line holds -/

lemma labelOf?_label {name : List Char} (h : LabelName name) :
    labelOf? (name ++ [':']) = some name := by
  have hcond : (name ++ [':']).getLast? = some ':' ∧ ':' ∉ (name ++ [':']).dropLast := by
    simpa using h.colon
  rw [labelOf?, if_pos hcond]
  simp only [List.dropLast_concat, trim_eq_self h.tight]
  rw [if_neg (by simpa using h.ne_nil)]

lemma labelOf?_eq_none {cs : List Char} (h : cs.getLast? ≠ some ':') : labelOf? cs = none := by
  rw [labelOf?, if_neg fun hc => h hc.1]

lemma tight_append_colon {name : List Char} (h : LabelName name) : Tight (name ++ [':']) where
  head := by
    intro c hc
    rw [List.head?_append_of_ne_nil _ h.ne_nil] at hc
    exact h.tight.head c hc
  last := by
    intro c hc
    rw [List.getLast?_concat, Option.mem_some_iff] at hc
    subst hc
    decide

lemma words_ne_nil {cs : List Char} (h : Tight cs) (hcs : cs ≠ []) : words cs ≠ [] := by
  intro hw
  have hlast := getLast?_words h
  rw [hw, List.getLast?_nil, Option.bind_none] at hlast
  exact hcs (List.getLast?_eq_none_iff.mp hlast.symm)

lemma parseStripped_label {cs name : List Char} (hwords : words cs ≠ [])
    (h : labelName? cs = some name) : parseStripped cs = .ok (.label (String.ofList name)) := by
  rw [parseStripped]
  split
  · exact absurd ‹_› hwords
  · rw [h]

lemma parseStripped_instr {cs word : List Char} {operands : List (List Char)}
    (hmark : Unmarked cs) (h : Tight cs) (hwords : words cs = word :: operands)
    (hlast : cs.getLast? ≠ some ':') :
    parseStripped cs = (parseInstr word operands).map .instr := by
  rw [parseStripped, hwords, labelName?_eq hmark h, labelOf?_eq_none hlast]
  simp only [if_neg hlast]

/-- A label is read back from its line. -/
lemma parseLine_labelText {number : Option Int} {name : String} (h : LabelName name.toList) :
    parseLine number (labelText name) = .ok (.label name) := by
  have htext : (labelText name).toList = name.toList ++ [':'] := by
    rw [labelText, String.toList_append]
    rfl
  have hmark : Unmarked (name.toList ++ [':']) :=
    h.unmarked.append (Unmarked.of_forall (forall_mem_of_all (by decide))) (Or.inr (by decide))
  have htight := tight_append_colon h
  have hstrip : stripComment (labelText name).toList = name.toList ++ [':'] := by
    rw [htext]
    exact stripComment_eq_self hmark htight
  have hname : labelName? (name.toList ++ [':']) = some name.toList := by
    rw [labelName?_eq hmark htight, labelOf?_label h]
  rw [parseLine, hstrip, parseStripped_label (words_ne_nil htight (by simp)) hname,
    String.ofList_toList]

/-! ### Instructions -/

lemma mnemonic?_tile (op : TileOp) : mnemonic? op.mnemonic.toList = some (.tile op) := by
  cases op <;> decide

lemma mnemonic?_jump (kind : JumpKind) : mnemonic? kind.mnemonic.toList = some (.jump kind) := by
  cases kind <;> decide

/-- What the words for instructions are made of. -/
lemma mnemonic_plain (i : Instr) :
    i.mnemonic.toList ≠ [] ∧
      ∀ c ∈ i.mnemonic.toList, isBlank c = false ∧ c ≠ '-' ∧ c ≠ '#' ∧ c ≠ ';' := by
  have hall : i.mnemonic.toList ≠ [] ∧ i.mnemonic.toList.all
      (fun c => isBlank c = false ∧ c ≠ '-' ∧ c ≠ '#' ∧ c ≠ ';') = true := by
    cases i with
    | inbox => decide
    | outbox => decide
    | tile op _ => cases op <;> (rw [Instr.mnemonic]; decide)
    | jump kind _ => cases kind <;> (rw [Instr.mnemonic]; decide)
  exact ⟨hall.1, forall_mem_of_all hall.2⟩

/-- A line with an instruction and operands, and what is to be read from it. -/
lemma parseLine_spelled {number : Option Int} {i : Instr} {operand : String}
    (h : TargetName operand.toList) :
    parseLine number ("    " ++ spelled i.mnemonic operand)
      = match parseInstr i.mnemonic.toList (words operand.toList) with
        | .ok i => .ok (.instr i)
        | .error flaw => .error ⟨flaw, number, "    " ++ spelled i.mnemonic operand⟩ := by
  obtain ⟨hm, hm'⟩ := mnemonic_plain i
  set word := i.mnemonic.toList with hword
  set cs := word ++ ' ' :: operand.toList with hcs
  have htext : ("    " ++ spelled i.mnemonic operand).toList = [' ', ' ', ' ', ' '] ++ cs := by
    rw [String.toList_append, spelled, String.toList_append, String.toList_append,
      List.append_assoc]
    rfl
  have hend : cs.getLast? = operand.toList.getLast? := by
    rw [hcs, List.getLast?_append_of_ne_nil _ (by simp), List.getLast?_cons_of_ne_nil h.ne_nil]
  have htight : Tight cs := by
    constructor
    · intro c hc
      rw [hcs, List.head?_append_of_ne_nil _ hm] at hc
      exact (hm' c (List.mem_of_mem_head? hc)).1
    · intro c hc
      rw [hend] at hc
      exact h.tight.last c hc
  have hwordmark : Unmarked word := Unmarked.of_forall fun c hc => (hm' c hc).2
  have hspace : Unmarked [' '] := Unmarked.of_forall (forall_mem_of_all (by decide))
  have hblankmark : Unmarked (' ' :: operand.toList) :=
    hspace.append h.unmarked (Or.inl (by decide))
  have hcsmark : Unmarked cs := hwordmark.append hblankmark (Or.inr (by simp))
  have hstrip : stripComment ("    " ++ spelled i.mnemonic operand).toList = cs := by
    rw [htext, stripComment_blanks (forall_mem_of_all (by decide))]
    exact stripComment_eq_self hcsmark htight
  have hwords : words cs = word :: words operand.toList :=
    words_append (fun c hc => (hm' c hc).1) hm (by decide) _
  rw [parseLine, hstrip, parseStripped_instr hcsmark htight hwords (by rw [hend]; exact h.last)]
  cases parseInstr word (words operand.toList) <;> rfl

/-- A tile operand as characters. -/
lemma toList_tileText (address : Nat) (indirect : Bool) :
    (tileText address indirect).toList
      = if indirect then '[' :: (Nat.toDigits 10 address ++ [']']) else Nat.toDigits 10 address := by
  cases indirect with
  | false => exact String.toList_ofList
  | true =>
      have hdigits : (Numeral.text address).toList = Nat.toDigits 10 address := String.toList_ofList
      rw [tileText, if_pos rfl, if_pos rfl, String.toList_append, String.toList_append, hdigits]
      rfl

lemma isDigit_plain {c : Char} (h : c.isDigit = true) :
    isBlank c = false ∧ c ≠ '-' ∧ c ≠ '#' ∧ c ≠ ';' ∧ c ≠ ':' ∧ c ≠ '[' := by
  obtain ⟨h1, h2⟩ := Numeral.isDigit_iff.mp h
  refine ⟨isBlank_of_ascii (by omega) (by omega), ?_, ?_, ?_, ?_, ?_⟩ <;>
    (rintro rfl; revert h; decide)

/-- What tile operands are made of. -/
lemma tileText_plain (address : Nat) (indirect : Bool) :
    (tileText address indirect).toList ≠ [] ∧
      ∀ c ∈ (tileText address indirect).toList,
        isBlank c = false ∧ c ≠ '-' ∧ c ≠ '#' ∧ c ≠ ';' ∧ c ≠ ':' := by
  have hdigit : ∀ c ∈ Nat.toDigits 10 address,
      isBlank c = false ∧ c ≠ '-' ∧ c ≠ '#' ∧ c ≠ ';' ∧ c ≠ ':' := by
    intro c hc
    obtain ⟨h1, h2, h3, h4, h5, -⟩ := isDigit_plain (Numeral.isDigit_toDigits hc)
    exact ⟨h1, h2, h3, h4, h5⟩
  rw [toList_tileText]
  cases indirect with
  | false => exact ⟨Nat.toDigits_ne_nil, hdigit⟩
  | true =>
      refine ⟨by simp, fun c hc => ?_⟩
      simp only [if_true, List.mem_cons, List.mem_append, List.not_mem_nil, or_false] at hc
      rcases hc with rfl | hc | rfl
      · decide
      · exact hdigit c hc
      · decide

/-- A tile operand is read back, within the limit on digits. -/
lemma parseTile_tileText (t : Tile) :
    parseTile (tileText t.address t.indirect).toList
      = if Numeral.fits t.address then .ok t
        else .error (.numeral (.tooManyDigits (Nat.toDigits 10 t.address).length)) := by
  have hread := Numeral.read_toDigits .tagged t.address
  have htight : Tight (Nat.toDigits 10 t.address) := by
    constructor <;> intro c hc
    · exact (isDigit_plain (Numeral.isDigit_toDigits (List.mem_of_mem_head? hc))).1
    · exact (isDigit_plain (Numeral.isDigit_toDigits (List.mem_of_mem_getLast? hc))).1
  obtain ⟨address, indirect⟩ := t
  rw [toList_tileText]
  cases indirect with
  | false =>
      have hhead : ¬ ((Nat.toDigits 10 address).head? = some '['
          ∧ (Nat.toDigits 10 address).getLast? = some ']') := by
        rintro ⟨h, -⟩
        exact (isDigit_plain (Numeral.isDigit_toDigits (List.mem_of_mem_head? h))).2.2.2.2.2 rfl
      simp only [parseTile, Bool.false_eq_true, if_false, hhead, hread]
      by_cases hfits : Numeral.fits address = true
      · simp [hfits]
      · simp [hfits]
  | true =>
      have hlast : ('[' :: (Nat.toDigits 10 address ++ [']'])).getLast? = some ']' := by
        rw [← List.cons_append, List.getLast?_concat]
      simp only [parseTile, if_true, List.head?_cons, hlast, and_self, List.tail_cons,
        List.dropLast_concat, trim_eq_self htight, hread]
      by_cases hfits : Numeral.fits address = true
      · simp [hfits]
      · simp [hfits]

/-- The line of an instruction on a tile. -/
lemma parseLine_tile {number : Option Int} (op : TileOp) (t : Tile) :
    parseLine number (renderOp (.instr (.tile op t)))
      = match parseTile (tileText t.address t.indirect).toList with
        | .ok t => .ok (.instr (.tile op t))
        | .error e => .error ⟨.badTile e, number, renderOp (.instr (.tile op t))⟩ := by
  obtain ⟨hne, hplain⟩ := tileText_plain t.address t.indirect
  have hblank : ∀ c ∈ (tileText t.address t.indirect).toList, isBlank c = false :=
    fun c hc => (hplain c hc).1
  have hmark : Unmarked (tileText t.address t.indirect).toList :=
    Unmarked.of_forall fun c hc => ⟨(hplain c hc).2.1, (hplain c hc).2.2.1, (hplain c hc).2.2.2.1⟩
  have hlast : (tileText t.address t.indirect).toList.getLast? ≠ some ':' :=
    fun hl => (hplain ':' (List.mem_of_mem_getLast? hl)).2.2.2.2 rfl
  refine (parseLine_spelled (i := .tile op t) ⟨hne, tight_of_nonblank hblank, hmark, hlast⟩).trans ?_
  rw [Instr.mnemonic, words_single hblank hne, parseInstr.eq_def, mnemonic?_tile]
  dsimp only
  cases parseTile (tileText t.address t.indirect).toList <;> rfl

/-- **Lines are read back.**  An operation that is legible is read from its own line, and from the
line of any other nothing can be read. -/
lemma parseLine_renderOp {op : Op} (h : op.Spelled) (number : Option Int) :
    (op.legible = true → parseLine number (renderOp op) = .ok op) ∧
      (op.legible = false → ∃ e, parseLine number (renderOp op) = .error e) := by
  match op, h with
  | .label name, h => exact ⟨fun _ => parseLine_labelText h, fun hf => Bool.noConfusion hf⟩
  | .instr .inbox, _ => exact ⟨fun _ => by rw [parseLine]; rfl, fun hf => Bool.noConfusion hf⟩
  | .instr .outbox, _ => exact ⟨fun _ => by rw [parseLine]; rfl, fun hf => Bool.noConfusion hf⟩
  | .instr (.jump kind label), h =>
      have hline : parseLine number ("    " ++ spelled (Instr.jump kind label).mnemonic label) = _ :=
        parseLine_spelled h
      rw [Instr.mnemonic, parseInstr.eq_def, mnemonic?_jump] at hline
      constructor
      · intro hlegible
        have hblank : ∀ c ∈ label.toList, isBlank c = false := by simpa [Op.legible] using hlegible
        rw [words_single hblank h.ne_nil] at hline
        refine hline.trans ?_
        simp only [String.ofList_toList]
      · intro hlegible
        obtain ⟨b, hmem, hb⟩ : ∃ b ∈ label.toList, isBlank b = true := by
          simpa [Op.legible] using hlegible
        obtain ⟨v, w, rest, hwords⟩ := words_of_blank h.tight hmem hb
        rw [hwords] at hline
        exact ⟨_, hline⟩
  | .instr (.tile op t), _ =>
      have hlegible : Op.legible (.instr (.tile op t)) = Numeral.fits t.address := rfl
      rw [hlegible, parseLine_tile, parseTile_tileText]
      cases Numeral.fits t.address with
      | true => exact ⟨fun _ => rfl, fun hf => Bool.noConfusion hf⟩
      | false => exact ⟨fun hf => Bool.noConfusion hf, fun _ => ⟨_, rfl⟩⟩

/-- **Listings are read back.**  What has been written is read as what it was written from. -/
lemma parseFrom_render {ops : List Op} (hops : ∀ op ∈ ops, op.Spelled)
    (hlegible : ∀ op ∈ ops, op.legible = true) (number : Nat) :
    parseFrom number (render ops) = .ok ops := by
  induction ops generalizing number with
  | nil => rfl
  | cons op ops ih =>
      rw [List.forall_mem_cons] at hops hlegible
      have hline := (parseLine_renderOp hops.1 (some number)).1 hlegible.1
      have hrest : parseFrom (number + 1) (ops.map renderOp) = .ok ops :=
        ih hops.2 hlegible.2 (number + 1)
      rw [render, List.map_cons, parseFrom, hline, hrest]
      rfl

/-- A listing with a line that cannot be read is refused. -/
lemma parseFrom_render_error {ops : List Op} (hops : ∀ op ∈ ops, op.Spelled)
    (hlegible : ∃ op ∈ ops, op.legible = false) (number : Nat) :
    ∃ e, parseFrom number (render ops) = .error e := by
  induction ops generalizing number with
  | nil =>
      obtain ⟨op, hop, -⟩ := hlegible
      cases hop
  | cons op ops ih =>
      rw [List.forall_mem_cons] at hops
      have hline := parseLine_renderOp hops.1 (some number)
      rw [render, List.map_cons, parseFrom]
      cases hop : op.legible with
      | false =>
          obtain ⟨e, he⟩ := hline.2 hop
          exact ⟨e, by rw [he]⟩
      | true =>
          have hrest : ∃ op ∈ ops, op.legible = false := by simpa [hop] using hlegible
          obtain ⟨e, he⟩ := ih hops.2 hrest (number + 1)
          rw [render] at he
          exact ⟨e, by rw [hline.1 hop, he]; rfl⟩

end Mailroom
