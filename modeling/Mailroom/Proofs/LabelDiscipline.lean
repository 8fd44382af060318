import Mathlib
import Mailroom.Proofs.Lines
import Mailroom.Proofs.Passes

/-!
# Labels that stand once

A label names one place, and a jump leads to a place, if every label of a listing stands there once
and every jump leads to one of them.  Lowering hands out its labels from one counter, and a jump to
a label may come long before the label; but all that are handed out for a part of a program are set
within its code.  The passes that shorten a listing leave out labels and make jumps lead elsewhere,
and the two go together.

- `WellLabelled`: every label stands once, and every jump leads to a label.
- `lower_places`: as many labels stand in a compiled listing as have been handed out.
- `WellLabelled.of_after`: passes that leave the places behind labels where they are.
- `wellLabelled_mergeLabels`: the pass that renames labels.
- `labels_sound`: compiled listings are well labelled, and every pass keeps that up.
-/

namespace Mailroom

open Source Peephole

/-- Every label stands once, and every jump leads to a label. -/
structure WellLabelled (ops : List Op) : Prop where
  once : ∀ name, .label name ∈ ops → ops.count (.label name) = 1
  found : ∀ kind name, .instr (.jump kind name) ∈ ops → .label name ∈ ops

/-! ## Labels as a list -/

lemma count_label (name : String) (ops : List Op) :
    ops.count (.label name) = (labelNames ops).count name := by
  induction ops with
  | nil => rfl
  | cons op ops ih =>
      cases op with
      | label other => simp only [labelNames, List.count_cons, ih, beq_iff_eq, Op.label.injEq]
      | blank => simpa [labelNames] using ih
      | instr i => simpa [labelNames] using ih

lemma nodup_iff_once (ops : List Op) :
    (labelNames ops).Nodup ↔ ∀ name, .label name ∈ ops → ops.count (.label name) = 1 := by
  simp only [List.nodup_iff_count_eq_one, mem_labelNames, count_label]

lemma mem_jumpTargets {name : String} {ops : List Op} :
    name ∈ ops.filterMap jumpTarget? ↔ ∃ kind, .instr (.jump kind name) ∈ ops := by
  rw [List.mem_filterMap]
  constructor
  · rintro ⟨op, hop, htarget⟩
    rw [jumpTarget?.eq_def] at htarget
    split at htarget
    · cases htarget
      exact ⟨_, hop⟩
    · cases htarget
  · rintro ⟨kind, hop⟩
    exact ⟨_, hop, rfl⟩

lemma wellLabelled_iff {ops : List Op} : WellLabelled ops ↔
    (labelNames ops).Nodup ∧ ops.filterMap jumpTarget? ⊆ labelNames ops := by
  constructor
  · refine fun h => ⟨(nodup_iff_once ops).mpr h.once, fun name hname => ?_⟩
    obtain ⟨kind, hop⟩ := mem_jumpTargets.mp hname
    exact mem_labelNames.mpr (h.found kind name hop)
  · rintro ⟨hnodup, hfound⟩
    exact ⟨(nodup_iff_once ops).mp hnodup,
      fun kind name hop => mem_labelNames.mp (hfound (mem_jumpTargets.mpr ⟨kind, hop⟩))⟩

instance (ops : List Op) : Decidable (WellLabelled ops) :=
  decidable_of_iff _ wellLabelled_iff.symm

/-! ## Compiled listings -/

section Lowering

variable {t : Target} {tiles : Assoc String Nat} {used : List Nat} {frag : List Op}

lemma jumpOps_places (sign : Comparison) (target : String) (n : Nat) :
    n + (labelNames (jumpOps sign target (labelAt "skip" (n + 1)))).length
      = if jumpSkips sign then n + 1 else n := by
  cases sign <;> rfl

/-- All labels that are handed out for a condition stand in its code. -/
lemma cond_places {part : CondPart} {target : String} {wanted : Bool} {n m : Nat}
    (hcode : CondCode t tiles used part target wanted n frag m) :
    n + (labelNames frag).length = m := by
  induction hcode with
  | jump => rfl
  | fall => rfl
  | @compare op left right line target wanted n sign code hdifference =>
      rw [labelNames_append, difference_labels hdifference]
      exact jumpOps_places sign target n
  | anyOf _ _ _ ihf iho =>
      rw [labelNames_append, List.length_append]
      omega
  | allOf _ _ _ ihf iho =>
      simp only [labelNames_append, List.length_append, labelNames, List.length_cons,
        List.length_nil]
      omega
  | anyLast _ ih => exact ih
  | anyMore _ _ ihf iho =>
      rw [labelNames_append, List.length_append]
      omega
  | allLast _ ih => exact ih
  | allMore _ _ ihf iho =>
      rw [labelNames_append, List.length_append]
      omega

/-- **Placing.**  All labels that are handed out for statements stand in their code. -/
lemma stmt_places {part : Part} {k k' : Stock} (hcode : StmtCode t part k frag k') :
    k.labels + (labelNames frag).length = k'.labels := by
  induction hcode with
  | constant => rfl
  | declare => rfl
  | define _ _ _ hvalue =>
      rw [labelNames_append, value_labels hvalue]
      rfl
  | expr heffect =>
      rw [effect_labels heffect]
      rfl
  | ifTrue _ ih => exact ih
  | ifFalse => rfl
  | ifThen _ hcond _ ih =>
      have hcond := cond_places hcond
      simp only [labelNames_append, List.length_append, labelNames, List.length_cons,
        List.length_nil] at ih ⊢
      omega
  | elseTrue _ ih => exact ih
  | elseFalse _ ih => exact ih
  | ifElse _ hcond _ _ ihb iho =>
      have hcond := cond_places hcond
      simp only [labelNames_append, List.length_append, labelNames, jumpTo, List.length_cons,
        List.length_nil, Stock.label] at ihb iho ⊢
      omega
  | forever _ ih =>
      simp only [labelNames_append, List.length_append, labelNames, jumpTo, List.length_cons,
        List.length_nil, Stock.label] at ih ⊢
      omega
  | never => rfl
  | whileDo _ hcond _ ih =>
      have hcond := cond_places hcond
      simp only [labelNames_append, List.length_append, labelNames, jumpTo, List.length_cons,
        List.length_nil] at ih ⊢
      omega
  | block _ ih => exact ih
  | done => rfl
  | next _ _ ihs ihr =>
      rw [labelNames_append, List.length_append]
      omega

end Lowering

/-- As many labels stand in a compiled listing as have been handed out. -/
lemma lower_places {size : Int} {symbols : Symbols} {program : List Stmt} {final : Lowering}
    (h : lower size symbols program = (none, final)) :
    (labelNames final.ops).length = final.labels := by
  have hplaces := stmt_places (lower_code h)
  rwa [Nat.zero_add] at hplaces

/-- **Compiled listings are well labelled.** -/
lemma lower_wellLabelled {size : Int} {symbols : Symbols} {program : List Stmt} {final : Lowering}
    (h : lower size symbols program = (none, final)) : WellLabelled final.ops := by
  have hcode := lower_code h
  refine ⟨(nodup_iff_once _).mp (stmt_labelled hcode).2.nodup, fun kind name hop => ?_⟩
  exact mem_labelNames.mp (stmt_jumps hcode _ hop)

/-! ## Passes over a listing -/

section Passes

variable {ops kept : List Op}

/-- The same labels stand in a listing if the places behind them do. -/
lemma mem_labelNames_of_after {name : String} {f : List Op → List Op}
    (h : after name kept = (after name ops).map f) :
    name ∈ labelNames kept ↔ name ∈ labelNames ops := by
  rw [← not_iff_not, ← after_eq_none_iff, ← after_eq_none_iff, h, Option.map_eq_none_iff]

/-- A pass that leaves out no label to which a jump leads. -/
lemma WellLabelled.of_after (h : WellLabelled ops) (hsub : kept.Sublist ops)
    (hafter : ∀ kind name, .instr (.jump kind name) ∈ kept →
      ∃ f : List Op → List Op, after name kept = (after name ops).map f) : WellLabelled kept := by
  have hnodup := (nodup_iff_once ops).mpr h.once
  refine ⟨(nodup_iff_once kept).mp (hnodup.sublist (labelNames_sublist hsub)),
    fun kind name hop => ?_⟩
  obtain ⟨f, hf⟩ := hafter kind name hop
  rw [← mem_labelNames, mem_labelNames_of_after hf, mem_labelNames]
  exact h.found kind name (hsub.subset hop)

/-- A pass that leaves out instructions only, so that the places behind labels stay. -/
structure KeepsPlaces (pass : List Op → List Op) : Prop where
  sublist : ∀ ops, (pass ops).Sublist ops
  place : ∀ name ops, ∃ f : List Op → List Op, after name (pass ops) = (after name ops).map f

lemma KeepsPlaces.wellLabelled {pass : List Op → List Op} (hpass : KeepsPlaces pass)
    (h : WellLabelled ops) : WellLabelled (pass ops) :=
  h.of_after (hpass.sublist ops) fun _ name _ => hpass.place name ops

lemma KeepsPlaces.labelNames_eq {pass : List Op → List Op} (hpass : KeepsPlaces pass)
    (h : WellLabelled ops) : labelNames (pass ops) = labelNames ops := by
  have hnodup := (nodup_iff_once ops).mpr h.once
  refine (labelNames_sublist (hpass.sublist ops)).eq_of_length_le
    (hnodup.subperm fun name hname => ?_).length_le
  obtain ⟨f, hf⟩ := hpass.place name ops
  exact (mem_labelNames_of_after hf).mpr hname

lemma dropUnreachable_keepsPlaces : KeepsPlaces dropUnreachable where
  sublist := dropUnreachableFrom_sublist false
  place name ops := ⟨_, after_dropUnreachableFrom false name ops⟩

lemma dropJumpToNext_keepsPlaces : KeepsPlaces dropJumpToNext where
  sublist := dropJumpToNext_sublist
  place name ops := ⟨_, after_dropJumpToNext name ops⟩

lemma dropRedundantLoads_keepsPlaces : KeepsPlaces dropRedundantLoads where
  sublist := dropRedundantLoadsFrom_sublist []
  place name ops := ⟨_, after_dropRedundantLoadsFrom [] name ops⟩

lemma instrs_firstLabels (first : Option String) (ops : List Op) :
    instrs (firstLabels first ops) = instrs ops := by
  induction ops generalizing first with
  | nil => rfl
  | cons op ops ih =>
      cases op with
      | blank => exact ih none
      | instr i => exact congrArg (i :: ·) (ih none)
      | label name => cases first <;> exact ih _

lemma instrs_map_retarget (renames : Assoc String String) (ops : List Op) :
    instrs (ops.map (retarget renames)) = (instrs ops).map (·.redirect (standIn renames)) := by
  induction ops with
  | nil => rfl
  | cons op ops ih =>
      cases op with
      | blank => exact ih
      | label name => exact ih
      | instr i => cases i <;> exact congrArg (_ :: ·) ih

/-- Where labels are merged, the instructions stay, and jumps lead to the label that stands for
theirs. -/
lemma instrs_mergeLabels (ops : List Op) : instrs (mergeLabels ops)
    = (instrs ops).map (·.redirect (standIn (Assoc.ofPairs (labelRenames none ops)))) := by
  rw [mergeLabels, instrs_map_retarget, instrs_firstLabels]

/-- The label that stands for a label is kept. -/
lemma standIn_mem_firstLabels (hnodup : (labelNames ops).Nodup) {name : String}
    (h : name ∈ labelNames ops) :
    standIn (Assoc.ofPairs (labelRenames none ops)) name ∈ labelNames (firstLabels none ops) := by
  have hplace : ∀ {label : String} {rest : List Op},
      after label (firstLabels none ops) = some rest →
        label ∈ labelNames (firstLabels none ops) := by
    intro label rest hafter
    by_contra hnot
    rw [after_eq_none_iff.mpr hnot] at hafter
    cases hafter
  cases hafter : after name ops with
  | none => exact absurd h (after_eq_none_iff.mp hafter)
  | some q =>
      rw [standIn]
      rcases after_firstLabels none hnodup hafter with
        ⟨hnot, hkept⟩ | ⟨kept, hmem, hkept | ⟨hfirst, -⟩⟩
      · rw [Assoc.get?_ofPairs_none hnot]
        exact hplace hkept
      · rw [Assoc.get?_ofPairs_some (hnodup.sublist (labelRenames_keys none ops)) hmem]
        exact hplace hkept
      · cases hfirst

lemma wellLabelled_mergeLabels (h : WellLabelled ops) : WellLabelled (mergeLabels ops) := by
  obtain ⟨hnodup, hfound⟩ := wellLabelled_iff.mp h
  have hlabels : labelNames (mergeLabels ops) = labelNames (firstLabels none ops) :=
    labelNames_map_retarget _ _
  rw [wellLabelled_iff, hlabels]
  refine ⟨hnodup.sublist (labelNames_sublist (firstLabels_sublist none ops)), fun name hname => ?_⟩
  obtain ⟨kind, hop⟩ := mem_jumpTargets.mp hname
  rw [← mem_instrs, instrs_mergeLabels, List.mem_map] at hop
  obtain ⟨i, hi, hjump⟩ := hop
  cases i with
  | jump kind' old =>
      cases hjump
      exact standIn_mem_firstLabels hnodup
        (hfound (mem_jumpTargets.mpr ⟨kind, mem_instrs.mp hi⟩))
  | _ => cases hjump

lemma instrs_dropUnusedLabels (ops : List Op) : instrs (dropUnusedLabels ops) = instrs ops := by
  rw [dropUnusedLabels_eq]
  generalize ops.filterMap jumpTarget? = used
  induction ops with
  | nil => rfl
  | cons op ops ih =>
      cases op with
      | blank => exact ih
      | instr i => exact congrArg (i :: ·) ih
      | label name =>
          rw [List.filter_cons]
          split <;> exact ih

lemma wellLabelled_dropUnusedLabels (h : WellLabelled ops) :
    WellLabelled (dropUnusedLabels ops) := by
  rw [dropUnusedLabels_eq]
  refine h.of_after List.filter_sublist fun kind name hop => ⟨_, after_filter ?_ ops⟩
  exact mem_jumpTargets.mpr ⟨kind, List.mem_of_mem_filter hop⟩

/-- All passes together, as often as they are made. -/
lemma wellLabelled_peephole (h : WellLabelled ops) : WellLabelled (peephole ops) := by
  have hsweep : ∀ {ops}, WellLabelled ops → WellLabelled (sweep ops) := by
    intro ops h
    have hreached := dropUnreachable_keepsPlaces.wellLabelled h
    have hleading := dropJumpToNext_keepsPlaces.wellLabelled hreached
    have hmerged := wellLabelled_mergeLabels hleading
    exact dropRedundantLoads_keepsPlaces.wellLabelled (wellLabelled_dropUnusedLabels hmerged)
  fun_induction peephole ops with
  | case1 ops _ ih => exact ih (hsweep h)
  | case2 ops _ => exact hsweep h

end Passes

/-- **Labels are well formed.**  Whatever the program, if there is code for it, every label that has
been handed out stands there once and every jump leads to one of them.  From a listing in which
labels stand once and jumps lead to labels, each pass makes one of this kind again: three of them
leave all labels in their order, and the two that leave out labels leave all instructions, with
other labels for the jumps where labels are merged.  So is what all passes together make of it. -/
theorem labels_sound :
    (∀ (size : Int) (symbols : Symbols) (program : List Stmt) (final : Lowering),
      lower size symbols program = (none, final) →
        WellLabelled final.ops ∧ (labelNames final.ops).length = final.labels) ∧
    ∀ ops, WellLabelled ops →
      (WellLabelled (dropUnreachable ops) ∧ labelNames (dropUnreachable ops) = labelNames ops) ∧
      (WellLabelled (dropJumpToNext ops) ∧ labelNames (dropJumpToNext ops) = labelNames ops) ∧
      (WellLabelled (mergeLabels ops) ∧ ∃ standIn : String → String,
        instrs (mergeLabels ops) = (instrs ops).map (·.redirect standIn)) ∧
      (WellLabelled (dropUnusedLabels ops) ∧ instrs (dropUnusedLabels ops) = instrs ops) ∧
      (WellLabelled (dropRedundantLoads ops) ∧
        labelNames (dropRedundantLoads ops) = labelNames ops) ∧
      WellLabelled (peephole ops) := by
  refine ⟨fun _ _ _ _ h => ⟨lower_wellLabelled h, lower_places h⟩, fun ops h => ?_⟩
  have hreached := dropUnreachable_keepsPlaces
  have hleading := dropJumpToNext_keepsPlaces
  have hneeded := dropRedundantLoads_keepsPlaces
  exact ⟨⟨hreached.wellLabelled h, hreached.labelNames_eq h⟩,
    ⟨hleading.wellLabelled h, hleading.labelNames_eq h⟩,
    ⟨wellLabelled_mergeLabels h, _, instrs_mergeLabels ops⟩,
    ⟨wellLabelled_dropUnusedLabels h, instrs_dropUnusedLabels ops⟩,
    ⟨hneeded.wellLabelled h, hneeded.labelNames_eq h⟩, wellLabelled_peephole h⟩

/-- A branch with a loop in it, so that labels of all kinds stand together. -/
def branching : List Stmt :=
  let x : Expr := .var ⟨"x", false, 2⟩
  [.decl ⟨"x", false, false, some (.call "input" 1), 1⟩,
    .ifElse (.compare .lt x (.num 0 2) 2) (.expr (.callWith "output" x 2) 2)
      (.whileDo (.logical .or (.compare .eq x (.num 0 3) 3) (.last (.compare .le x (.num 0 3) 3)) 3)
        (.expr (.bump ⟨"x", false, 3⟩ .down true 3) 3) 3) 2]

/-- The code of that program. -/
def branchingCode : Lowering :=
  (lower 1 (check 1 branching).symbols branching).2

/-- Three pairs of labels stand together in the code, each with jumps to both. -/
theorem labels_sound_branching :
    lower 1 (check 1 branching).symbols branching = (none, branchingCode) ∧
    labelNames branchingCode.ops
      = ["skip2", "else1", "loop4", "skip7", "skip6", "end5", "endif3"] ∧
    WellLabelled branchingCode.ops ∧
    labelNames (mergeLabels branchingCode.ops) = ["skip2", "else1", "skip7", "end5"] ∧
    WellLabelled (mergeLabels branchingCode.ops) ∧ WellLabelled (peephole branchingCode.ops) := by
  have hnone : (lower 1 (check 1 branching).symbols branching).1 = none := by decide +kernel
  have hcode : lower 1 (check 1 branching).symbols branching = (none, branchingCode) := by
    rw [branchingCode, ← hnone]
  have hlabels : labelNames branchingCode.ops
        = ["skip2", "else1", "loop4", "skip7", "skip6", "end5", "endif3"] ∧
      labelNames (mergeLabels branchingCode.ops) = ["skip2", "else1", "skip7", "end5"] := by
    decide +kernel
  have hlabelled := (labels_sound.1 _ _ _ _ hcode).1
  obtain ⟨-, -, ⟨hmerged, -⟩, -, -, hshort⟩ := labels_sound.2 _ hlabelled
  exact ⟨hcode, hlabels.1, hlabelled, hlabels.2, hmerged, hshort⟩

end Mailroom
