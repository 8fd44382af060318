import Mailroom.Proofs.Refinement
import Mailroom.Source.Peephole

/-!
# Shorter listings do the same

Each pass over a listing is a `Rewriting`: where the pass leaves an instruction out, the instruction
changes nothing or is never reached.  For every pass there are two equations, one for the
instruction that comes next and one for the places behind labels.

- `dropUnreachable`: what follows a jump that is always taken is never reached.
- `dropJumpToNext`: the jump leads over labels only.
- `mergeLabels`: a label and the one that stands for it lead to the same instruction.
- `dropUnusedLabels`: jumps lead to the labels that are kept.
- `dropRedundantLoads`: the tiles in `same` hold what the hand holds.

Sweeps of all passes are put together in `refines_peephole`.
-/

namespace Mailroom.Peephole

open Source

/-! ## Unreachable instructions -/

/-- Whether an instruction never leads to the next one. -/
def diverts : Instr → Bool
  | .jump .always _ => true
  | _ => false

lemma dropUnreachableFrom_instr (i : Instr) (rest : List Op) :
    dropUnreachableFrom false (.instr i :: rest)
      = .instr i :: dropUnreachableFrom (diverts i) rest := by
  cases i with
  | jump kind label => cases kind <;> rfl
  | _ => rfl

lemma upcoming_dropUnreachableFrom (r : List Op) :
    upcoming (dropUnreachableFrom false r)
      = (upcoming r).map fun (i, later) => (i, dropUnreachableFrom (diverts i) later) := by
  induction r with
  | nil => rfl
  | cons op r ih =>
      cases op with
      | blank => exact ih
      | label name => exact ih
      | instr i =>
          rw [dropUnreachableFrom_instr]
          rfl

lemma after_dropUnreachableFrom (dead : Bool) (label : String) (r : List Op) :
    after label (dropUnreachableFrom dead r)
      = (after label r).map (dropUnreachableFrom false) := by
  induction r generalizing dead with
  | nil => rfl
  | cons op r ih =>
      cases op with
      | blank => cases dead <;> exact ih _
      | label name =>
          rw [dropUnreachableFrom, after_label, after_label]
          split
          · rfl
          · exact ih false
      | instr i =>
          have hinstr : dropUnreachableFrom dead (.instr i :: r)
              = if dead then dropUnreachableFrom true r
                else .instr i :: dropUnreachableFrom (diverts i) r := by
            cases i with
            | jump kind label => cases kind <;> cases dead <;> rfl
            | _ => cases dead <;> rfl
          rw [hinstr]
          cases dead <;> exact ih _

lemma dropUnreachableFrom_sublist (dead : Bool) (r : List Op) :
    (dropUnreachableFrom dead r).Sublist r := by
  induction r generalizing dead with
  | nil => exact List.Sublist.refl _
  | cons op r ih =>
      have hdead : ∀ live dead', (if dead then dropUnreachableFrom live r
          else op :: dropUnreachableFrom dead' r).Sublist (op :: r) := by
        intro live dead'
        cases dead
        · exact (ih _).cons_cons op
        · exact (ih _).cons op
      cases op with
      | blank => exact hdead _ _
      | label name => exact (ih _).cons_cons _
      | instr i =>
          cases i with
          | jump kind label => cases kind <;> exact hdead _ _
          | _ => exact hdead _ _

lemma perform_diverts {d d' : Desk} {i : Instr} (hi : diverts i = true) :
    d.perform i ≠ .ok (d', none) := by
  cases i with
  | jump kind label =>
      cases kind with
      | always => simp [Desk.perform, Desk.takes]
      | _ => exact Bool.noConfusion hi
  | _ => exact Bool.noConfusion hi

lemma refines_dropUnreachable (ops : List Op) : Refines ops (dropUnreachable ops) := by
  have hr : Rewriting ops (dropUnreachable ops) id fun r r' _ => r' = dropUnreachableFrom false r := by
    refine ⟨fun _ => rfl, ?_, ?_, ?_⟩
    · rintro r r' d rfl hup
      rw [upcoming_dropUnreachableFrom, hup]
      rfl
    · rintro r r' d i later - rfl hup
      left
      rw [upcoming_dropUnreachableFrom, hup, Instr.redirect_id]
      refine ⟨_, rfl, fun d' hperform => ?_⟩
      cases hi : diverts i with
      | true => exact absurd hperform (perform_diverts hi)
      | false => rfl
    · intro kind label _
      have hafter := after_dropUnreachableFrom false label ops
      cases h : after label ops with
      | none => exact .inl ⟨rfl, rfl, by rw [dropUnreachable, hafter, h]; rfl⟩
      | some q =>
          refine .inr ⟨q, _, rfl, ?_, fun _ => rfl⟩
          rw [dropUnreachable, id, hafter, h]
          rfl
  exact hr.refines

/-! ## Jumps to what follows -/

lemma after_dropJumpToNext (label : String) (r : List Op) :
    after label (dropJumpToNext r) = (after label r).map dropJumpToNext := by
  induction r with
  | nil => rfl
  | cons op r ih =>
      cases op with
      | blank => exact ih
      | label name =>
          rw [dropJumpToNext, after_label, after_label]
          · split
            · rfl
            · exact ih
          · exact fun _ h => nomatch h
      | instr i =>
          have hinstr : after label (dropJumpToNext (.instr i :: r)) = after label (dropJumpToNext r) := by
            cases i with
            | jump kind target =>
                cases kind with
                | always =>
                    rw [dropJumpToNext]
                    split <;> rfl
                | _ => rfl
            | _ => rfl
          rw [hinstr, ih]
          rfl

lemma dropJumpToNext_sublist (r : List Op) : (dropJumpToNext r).Sublist r := by
  induction r with
  | nil => exact List.Sublist.refl _
  | cons op r ih =>
      cases op with
      | blank => exact ih.cons_cons _
      | label name => exact ih.cons_cons _
      | instr i =>
          cases i with
          | jump kind target =>
              cases kind with
              | always =>
                  rw [dropJumpToNext]
                  split
                  · exact ih.cons _
                  · exact ih.cons_cons _
              | _ => exact ih.cons_cons _
          | _ => exact ih.cons_cons _

/-- The instruction that comes next is kept, or it is a jump to what follows. -/
lemma upcoming_dropJumpToNext {r later : List Op} {i : Instr}
    (hup : upcoming r = some (i, later)) :
    upcoming (dropJumpToNext r) = some (i, dropJumpToNext later) ∨
      ∃ label, i = .jump .always label ∧ label ∈ leadingLabels later ∧
        upcoming (dropJumpToNext r) = upcoming (dropJumpToNext later) := by
  induction r with
  | nil => cases hup
  | cons op r ih =>
      cases op with
      | blank => exact ih hup
      | label name => exact ih hup
      | instr j =>
          rw [upcoming_instr, Option.some.injEq, Prod.mk.injEq] at hup
          obtain ⟨rfl, rfl⟩ := hup
          cases j with
          | jump kind target =>
              cases kind with
              | always =>
                  by_cases hmem : target ∈ leadingLabels r
                  · exact .inr ⟨target, rfl, hmem, by rw [dropJumpToNext, if_pos hmem]⟩
                  · exact .inl (by rw [dropJumpToNext, if_neg hmem]; rfl)
              | _ => exact .inl rfl
          | _ => exact .inl rfl

lemma upcoming_dropJumpToNext_none {r : List Op} (hup : upcoming r = none) :
    upcoming (dropJumpToNext r) = none := by
  induction r with
  | nil => rfl
  | cons op r ih =>
      cases op with
      | blank => exact ih hup
      | label name => exact ih hup
      | instr j => cases hup

/-- Only labels stand between a place and the labels it starts with. -/
lemma leadingLabels_place {label : String} {r : List Op} (h : label ∈ leadingLabels r) :
    ∃ q, .label label :: q <:+ r ∧ upcoming (dropJumpToNext q) = upcoming (dropJumpToNext r) := by
  induction r with
  | nil => cases h
  | cons op r ih =>
      cases op with
      | blank => cases h
      | instr i => cases h
      | label name =>
          rw [leadingLabels, List.mem_cons] at h
          rcases h with rfl | h
          · exact ⟨r, List.suffix_refl _, rfl⟩
          · obtain ⟨q, hq, hup⟩ := ih h
            exact ⟨q, hq.trans (List.suffix_cons _ _), hup⟩

lemma refines_dropJumpToNext {ops : List Op} (hnodup : (labelNames ops).Nodup) :
    Refines ops (dropJumpToNext ops) := by
  -- the jumps that are left out lead over labels, so places go together up to labels
  have hr : Rewriting ops (dropJumpToNext ops) id
      fun r r' _ => upcoming r' = upcoming (dropJumpToNext r) := by
    refine ⟨fun _ => rfl, ?_, ?_, ?_⟩
    · intro r r' d hat hup
      rw [hat, upcoming_dropJumpToNext_none hup]
    · intro r r' d i later hsuffix hat hup
      obtain ⟨-, hlater⟩ := upcoming_eq_some hup
      rcases upcoming_dropJumpToNext hup with hkept | ⟨label, rfl, hmem, hdropped⟩
      · left
        rw [hat, hkept, Instr.redirect_id]
        exact ⟨_, rfl, fun _ _ => rfl⟩
      · right
        obtain ⟨q, hq, hupq⟩ := leadingLabels_place hmem
        have hplace := hq.trans ((List.suffix_cons _ _).trans (hlater.trans hsuffix))
        refine ⟨q, ⟨by simp, .inr ⟨label, rfl, after_of_nodup hnodup hplace⟩⟩, ?_, ?_⟩
        · have h1 := hq.length_le
          have h2 := hlater.length_le
          simp only [List.length_cons] at h1 h2
          omega
        · rw [hat, hdropped, hupq]
    · intro kind label _
      have hafter := after_dropJumpToNext label ops
      cases h : after label ops with
      | none => exact .inl ⟨rfl, rfl, by rw [hafter, h]; rfl⟩
      | some q =>
          refine .inr ⟨q, dropJumpToNext q, rfl, ?_, fun _ => rfl⟩
          rw [id, hafter, h]
          rfl
  exact hr.refines

/-! ## Labels that stand together -/

lemma upcoming_firstLabels (first : Option String) (r : List Op) :
    upcoming (firstLabels first r)
      = (upcoming r).map fun (i, later) => (i, firstLabels none later) := by
  induction r generalizing first with
  | nil => rfl
  | cons op r ih =>
      cases op with
      | blank => exact ih none
      | instr i => rfl
      | label name => cases first <;> exact ih _

/-- The name of the label that stands for a label. -/
def standIn (renames : Assoc String String) (label : String) : String :=
  (renames.get? label).getD label

lemma upcoming_map_retarget (renames : Assoc String String) (r : List Op) :
    upcoming (r.map (retarget renames))
      = (upcoming r).map fun (i, later) =>
          (i.redirect (standIn renames), later.map (retarget renames)) := by
  induction r with
  | nil => rfl
  | cons op r ih =>
      cases op with
      | blank => exact ih
      | label name => exact ih
      | instr i => cases i <;> rfl

lemma after_map_retarget (renames : Assoc String String) (label : String) (r : List Op) :
    after label (r.map (retarget renames)) = (after label r).map (·.map (retarget renames)) := by
  induction r with
  | nil => rfl
  | cons op r ih =>
      cases op with
      | blank => exact ih
      | label name =>
          rw [List.map_cons, retarget, after_label, after_label]
          · split
            · rfl
            · exact ih
          · exact fun _ _ h => nomatch h
      | instr i => cases i <;> exact ih

lemma labelNames_map_retarget (renames : Assoc String String) (r : List Op) :
    labelNames (r.map (retarget renames)) = labelNames r := by
  induction r with
  | nil => rfl
  | cons op r ih =>
      cases op with
      | blank => exact ih
      | label name => exact congrArg (name :: ·) ih
      | instr i => cases i <;> exact ih

lemma firstLabels_sublist (first : Option String) (r : List Op) :
    (firstLabels first r).Sublist r := by
  induction r generalizing first with
  | nil => exact List.Sublist.refl _
  | cons op r ih =>
      cases op with
      | blank => exact (ih none).cons_cons _
      | instr i => exact (ih none).cons_cons _
      | label name =>
          cases first with
          | some kept => exact (ih _).cons _
          | none => exact (ih _).cons_cons _

lemma labelRenames_keys (first : Option String) (r : List Op) :
    ((labelRenames first r).map (·.1)).Sublist (labelNames r) := by
  induction r generalizing first with
  | nil => exact List.Sublist.refl _
  | cons op r ih =>
      cases op with
      | blank => exact ih none
      | instr i => exact ih none
      | label name =>
          cases first with
          | some kept => exact (ih _).cons_cons name
          | none => exact (ih _).cons name

/-- A label is kept, or the label that stands for it is kept and leads to the same place.  That
label may stand in front of the whole listing. -/
lemma after_firstLabels (first : Option String) {r q : List Op} {label : String}
    (hnodup : (labelNames r).Nodup) (h : after label r = some q) :
    (label ∉ (labelRenames first r).map (·.1) ∧
        after label (firstLabels first r) = some (firstLabels (some label) q)) ∨
      ∃ kept, (label, kept) ∈ labelRenames first r ∧
        (after kept (firstLabels first r) = some (firstLabels (some kept) q) ∨
          first = some kept ∧ firstLabels first r = firstLabels first q) := by
  induction r generalizing first with
  | nil => cases h
  | cons op r ih =>
      cases op with
      | blank | instr i =>
          rcases ih none hnodup h with hkept | ⟨kept, hmem, hplace | ⟨hfirst, -⟩⟩
          · exact .inl hkept
          · exact .inr ⟨kept, hmem, .inl hplace⟩
          · cases hfirst
      | label name =>
          rw [labelNames, List.nodup_cons] at hnodup
          rw [after_label] at h
          cases first with
          | some k =>
              simp only [firstLabels, labelRenames]
              split at h
              · rename_i heq
                cases h
                exact .inr ⟨k, by simp [heq], .inr ⟨rfl, rfl⟩⟩
              · rename_i hne
                rcases ih (some k) hnodup.2 h with ⟨hnot, hkept⟩ | ⟨kept, hmem, hplace⟩
                · left
                  simp only [List.map_cons, List.mem_cons, not_or]
                  exact ⟨⟨Ne.symm hne, hnot⟩, hkept⟩
                · exact .inr ⟨kept, List.mem_cons_of_mem _ hmem, hplace⟩
          | none =>
              simp only [firstLabels, labelRenames, after_label]
              split at h
              · rename_i heq
                cases h
                subst heq
                left
                rw [if_pos rfl]
                exact ⟨fun hmem => hnodup.1 ((labelRenames_keys _ _).subset hmem), rfl⟩
              · rename_i hne
                rcases ih (some name) hnodup.2 h with
                  ⟨hnot, hkept⟩ | ⟨kept, hmem, hplace | ⟨hfirst, hsame⟩⟩
                · rw [if_neg hne]
                  exact .inl ⟨hnot, hkept⟩
                · refine .inr ⟨kept, hmem, .inl ?_⟩
                  -- the label that is kept stands further on, so it is not the one in front
                  have hkept : kept ∈ labelNames r := by
                    refine (labelNames_sublist (firstLabels_sublist (some name) r)).subset ?_
                    by_contra hnot
                    rw [after_eq_none_iff.mpr hnot] at hplace
                    cases hplace
                  rw [if_neg (by rintro rfl; exact hnodup.1 hkept)]
                  exact hplace
                · cases hfirst
                  refine .inr ⟨name, hmem, .inl ?_⟩
                  rw [if_pos rfl, hsame]

lemma refines_mergeLabels {ops : List Op} (hnodup : (labelNames ops).Nodup) :
    Refines ops (mergeLabels ops) := by
  set renames := Assoc.ofPairs (labelRenames none ops) with hrenames
  have hmerge : mergeLabels ops = (firstLabels none ops).map (retarget renames) := rfl
  have hkeys := labelRenames_keys none ops
  have hr : Rewriting ops (mergeLabels ops) (standIn renames)
      fun r r' _ => ∃ first, r' = (firstLabels first r).map (retarget renames) := by
    refine ⟨fun _ => ⟨none, rfl⟩, ?_, ?_, ?_⟩
    · rintro r r' d ⟨first, rfl⟩ hup
      rw [upcoming_map_retarget, upcoming_firstLabels, hup]
      rfl
    · rintro r r' d i later - ⟨first, rfl⟩ hup
      left
      rw [upcoming_map_retarget, upcoming_firstLabels, hup]
      exact ⟨_, rfl, fun _ _ => ⟨none, rfl⟩⟩
    · intro kind label _
      cases h : after label ops with
      | none =>
          have hnot := after_eq_none_iff.mp h
          refine .inl ⟨rfl, ?_, ?_⟩
          · rw [standIn, Assoc.get?_ofPairs_none fun hmem => hnot (hkeys.subset hmem)]
            rfl
          · rw [hmerge, after_eq_none_iff, labelNames_map_retarget]
            exact fun hmem => hnot ((labelNames_sublist (firstLabels_sublist none ops)).subset hmem)
      | some q =>
          right
          rcases after_firstLabels none hnodup h with
            ⟨hnot, hkept⟩ | ⟨kept, hmem, hplace | ⟨hfirst, -⟩⟩
          · refine ⟨q, _, rfl, ?_, fun _ => ⟨some label, rfl⟩⟩
            rw [standIn, Assoc.get?_ofPairs_none hnot, hmerge, after_map_retarget, Option.getD_none, hkept]
            rfl
          · refine ⟨q, _, rfl, ?_, fun _ => ⟨some kept, rfl⟩⟩
            rw [standIn, Assoc.get?_ofPairs_some (hnodup.sublist hkeys) hmem, hmerge, after_map_retarget,
              Option.getD_some, hplace]
            rfl
          · cases hfirst
  exact hr.refines

/-! ## Labels that are not used -/

/-- Whether `dropUnusedLabels` keeps an operation. -/
def keptOp (used : List String) : Op → Bool
  | .label name => used.contains name
  | _ => true

lemma dropUnusedLabels_eq (ops : List Op) :
    dropUnusedLabels ops = ops.filter (keptOp (ops.filterMap jumpTarget?)) := by
  rw [dropUnusedLabels]
  congr 1

lemma upcoming_filter (used : List String) (r : List Op) :
    upcoming (r.filter (keptOp used))
      = (upcoming r).map fun (i, later) => (i, later.filter (keptOp used)) := by
  induction r with
  | nil => rfl
  | cons op r ih =>
      cases op with
      | blank => exact ih
      | instr i => rfl
      | label name =>
          rw [List.filter_cons]
          split <;> exact ih

lemma after_filter {used : List String} {label : String} (hused : label ∈ used) (r : List Op) :
    after label (r.filter (keptOp used)) = (after label r).map (·.filter (keptOp used)) := by
  induction r with
  | nil => rfl
  | cons op r ih =>
      cases op with
      | blank => exact ih
      | instr i => exact ih
      | label name =>
          rw [List.filter_cons, after_label]
          split
          · rw [after_label]
            split
            · rfl
            · exact ih
          · rename_i hdropped
            have hne : name ≠ label := by
              rintro rfl
              exact hdropped (List.contains_iff_mem.mpr hused)
            rw [if_neg hne]
            exact ih

lemma refines_dropUnusedLabels (ops : List Op) : Refines ops (dropUnusedLabels ops) := by
  rw [dropUnusedLabels_eq]
  set used := ops.filterMap jumpTarget? with hused
  have hr : Rewriting ops (ops.filter (keptOp used)) id
      fun r r' _ => r' = r.filter (keptOp used) := by
    refine ⟨fun _ => rfl, ?_, ?_, ?_⟩
    · rintro r r' d rfl hup
      rw [upcoming_filter, hup]
      rfl
    · rintro r r' d i later - rfl hup
      left
      rw [upcoming_filter, hup, Instr.redirect_id]
      exact ⟨_, rfl, fun _ _ => rfl⟩
    · intro kind label hjump
      have hmem : label ∈ used := List.mem_filterMap.mpr ⟨_, hjump, rfl⟩
      have hafter := after_filter hmem ops
      cases h : after label ops with
      | none => exact .inl ⟨rfl, rfl, by rw [hafter, h]; rfl⟩
      | some q =>
          refine .inr ⟨q, _, rfl, ?_, fun _ => rfl⟩
          rw [id, hafter, h]
          rfl
  exact hr.refines

/-! ## Loads of what the hand holds -/

/-- A tile holds what the hand holds. -/
structure Holds (d : Desk) (address : Nat) : Prop where
  has : d.floor.Has address
  hand : d.hand = some (d.floor.item address)

/-- Whether an operation loads a given tile. -/
def loads? : Op → Option Nat
  | .instr (.tile .copyFrom ⟨address, false⟩) => some address
  | _ => none

lemma loads?_eq_some {op : Op} {address : Nat} (h : loads? op = some address) :
    op = .instr (.tile .copyFrom ⟨address, false⟩) := by
  unfold loads? at h
  split at h
  · cases h
    rfl
  · cases h

lemma dropRedundantLoadsFrom_cons {op : Op} (hop : loads? op = none) (same : List Nat)
    (r : List Op) :
    dropRedundantLoadsFrom same (op :: r)
      = op :: dropRedundantLoadsFrom (dropRedundantLoadsFrom.after same op) r := by
  rw [dropRedundantLoadsFrom]
  rintro address rfl
  cases hop

lemma dropRedundantLoadsFrom_load (same : List Nat) (address : Nat) (r : List Op) :
    dropRedundantLoadsFrom same (.instr (.tile .copyFrom ⟨address, false⟩) :: r)
      = if address ∈ same then dropRedundantLoadsFrom same r
        else .instr (.tile .copyFrom ⟨address, false⟩) :: dropRedundantLoadsFrom [address] r := by
  rw [dropRedundantLoadsFrom]

/-- A load of a tile that holds what the hand holds changes nothing. -/
lemma perform_load_held {d : Desk} {address : Nat} (h : Holds d address) :
    d.perform (.tile .copyFrom ⟨address, false⟩) = .ok (d, none) := by
  have hreach := d.reach_direct address
  rw [if_pos h.has] at hreach
  simp only [Desk.perform, Desk.useTile, hreach, bind, Except.bind, pure, Except.pure, ← h.hand]

/-- A tile that is written from the hand holds what the hand holds, and so do those that did. -/
lemma holds_put {d : Desk} {address v : Int} (hhas : d.floor.Has address) (hhand : d.hand = some v)
    {other : Nat} (h : Holds d other ∨ (other : Int) = address) :
    Holds { d with floor := d.floor.put address v } other := by
  have hitem := Floor.item_put v hhas (Int.natCast_nonneg other)
  rcases h with h | h
  · refine ⟨h.has, ?_⟩
    have hv := h.hand
    rw [hhand, Option.some.injEq] at hv
    simp only [hitem, hhand, ← hv, ite_self]
  · refine ⟨?_, ?_⟩
    · rw [h]
      exact hhas
    · simp only [hitem, hhand, if_pos h]

/-- The tiles that are listed after an instruction hold what the hand holds. -/
lemma holds_after {d d' : Desk} {i : Instr} {same : List Nat} (hsame : ∀ a ∈ same, Holds d a)
    (hperform : d.perform i = .ok (d', none)) :
    ∀ a ∈ dropRedundantLoadsFrom.after same (.instr i), Holds d' a := by
  intro a ha
  cases i with
  | inbox => cases ha
  | outbox => cases ha
  | jump kind label =>
      obtain rfl := Desk.perform_jump hperform
      cases kind with
      | always => cases ha
      | ifZero => exact hsame a ha
      | ifNegative => exact hsame a ha
  | tile op t =>
      have huse := Desk.perform_tile hperform
      obtain ⟨address, indirect⟩ := t
      cases op with
      | copyFrom => cases ha
      | add => cases ha
      | sub => cases ha
      | copyTo =>
          obtain ⟨v, x, hhand, hreach, rfl⟩ := Desk.useTile_copyTo huse
          refine holds_put (Desk.reach_has hreach) hhand ?_
          cases indirect with
          | true => exact .inl (hsame a ha)
          | false =>
              rw [Desk.reach_direct] at hreach
              rcases List.mem_cons.mp ha with rfl | ha
              · split at hreach <;> cases hreach
                exact .inr rfl
              · exact .inl (hsame a ha)
      | bumpUp | bumpDown =>
          cases indirect with
          | true => cases ha
          | false =>
              obtain ⟨v, x, hreach, rfl⟩ := Desk.useTile_bump (by simp) huse
              rw [List.mem_singleton.mp ha]
              have hhas := Desk.reach_has hreach
              rw [Desk.reach_direct] at hreach
              split at hreach <;> cases hreach
              exact holds_put (d := { d with hand := some v }) hhas rfl (.inr rfl)

lemma after_dropRedundantLoadsFrom (same : List Nat) (label : String) (r : List Op) :
    after label (dropRedundantLoadsFrom same r) = (after label r).map (dropRedundantLoadsFrom []) := by
  induction r generalizing same with
  | nil => rfl
  | cons op r ih =>
      cases hop : loads? op with
      | some address =>
          obtain rfl := loads?_eq_some hop
          rw [dropRedundantLoadsFrom_load]
          split <;> exact ih _
      | none =>
          rw [dropRedundantLoadsFrom_cons hop]
          cases op with
          | blank => exact ih _
          | instr i => exact ih _
          | label name =>
              rw [after_label, after_label]
              split
              · rfl
              · exact ih _

lemma dropRedundantLoadsFrom_sublist (same : List Nat) (r : List Op) :
    (dropRedundantLoadsFrom same r).Sublist r := by
  induction r generalizing same with
  | nil => exact List.Sublist.refl _
  | cons op r ih =>
      cases hop : loads? op with
      | some address =>
          obtain rfl := loads?_eq_some hop
          rw [dropRedundantLoadsFrom_load]
          split
          · exact (ih _).cons _
          · exact (ih _).cons_cons _
      | none =>
          rw [dropRedundantLoadsFrom_cons hop]
          exact (ih _).cons_cons _

lemma upcoming_dropRedundantLoadsFrom_none {same : List Nat} {r : List Op}
    (hup : upcoming r = none) : upcoming (dropRedundantLoadsFrom same r) = none := by
  induction r generalizing same with
  | nil => rfl
  | cons op r ih =>
      cases op with
      | instr i => cases hup
      | blank => exact ih hup
      | label name => exact ih hup

/-- The instruction that comes next is kept, or it loads what the hand holds. -/
lemma upcoming_dropRedundantLoadsFrom {d : Desk} {same : List Nat} {r later : List Op} {i : Instr}
    (hsame : ∀ a ∈ same, Holds d a) (hup : upcoming r = some (i, later)) :
    (∃ same', upcoming (dropRedundantLoadsFrom same r)
          = some (i, dropRedundantLoadsFrom same' later) ∧
        ∀ d', d.perform i = .ok (d', none) → ∀ a ∈ same', Holds d' a) ∨
      (i ≠ .inbox ∧ d.perform i = .ok (d, none) ∧ ∃ same', (∀ a ∈ same', Holds d a) ∧
        upcoming (dropRedundantLoadsFrom same r)
          = upcoming (dropRedundantLoadsFrom same' later)) := by
  induction r generalizing same with
  | nil => cases hup
  | cons op r ih =>
      cases op with
      | blank => exact ih (List.forall_mem_nil _) hup
      | label name => exact ih (List.forall_mem_nil _) hup
      | instr j =>
          rw [upcoming_instr, Option.some.injEq, Prod.mk.injEq] at hup
          obtain ⟨rfl, rfl⟩ := hup
          cases hop : loads? (.instr j) with
          | none =>
              rw [dropRedundantLoadsFrom_cons hop]
              exact .inl ⟨_, rfl, fun d' hperform => holds_after hsame hperform⟩
          | some address =>
              cases loads?_eq_some hop
              rw [dropRedundantLoadsFrom_load]
              split
              · rename_i hmem
                exact .inr ⟨by simp, perform_load_held (hsame _ hmem), same, hsame, rfl⟩
              · refine .inl ⟨_, rfl, fun d' hperform a ha => ?_⟩
                rw [List.mem_singleton.mp ha]
                have huse := Desk.perform_tile hperform
                simp only [Desk.useTile, Desk.reach_direct] at huse
                split at huse
                · rename_i hhas
                  cases huse
                  exact ⟨hhas, rfl⟩
                · cases huse

lemma refines_dropRedundantLoads (ops : List Op) : Refines ops (dropRedundantLoads ops) := by
  have hr : Rewriting ops (dropRedundantLoads ops) id fun r r' d =>
      ∃ same, upcoming r' = upcoming (dropRedundantLoadsFrom same r) ∧ ∀ a ∈ same, Holds d a := by
    refine ⟨fun _ => ⟨[], rfl, List.forall_mem_nil _⟩, ?_, ?_, ?_⟩
    · rintro r r' d ⟨same, hat, -⟩ hup
      rw [hat, upcoming_dropRedundantLoadsFrom_none hup]
    · rintro r r' d i later - ⟨same, hat, hsame⟩ hup
      rw [hat]
      rcases upcoming_dropRedundantLoadsFrom hsame hup with
        ⟨same', hkept, hholds⟩ | ⟨hi, hperform, same', hholds, hdropped⟩
      · left
        rw [hkept, Instr.redirect_id]
        exact ⟨_, rfl, fun d' hperform => ⟨same', rfl, hholds d' hperform⟩⟩
      · right
        refine ⟨later, ⟨hi, .inl ⟨hperform, rfl⟩⟩, ?_, same', hdropped, hholds⟩
        exact Nat.lt_of_succ_le (upcoming_eq_some hup).2.length_le
    · intro kind label _
      have hafter := after_dropRedundantLoadsFrom [] label ops
      cases h : after label ops with
      | none => exact .inl ⟨rfl, rfl, by rw [dropRedundantLoads, hafter, h]; rfl⟩
      | some q =>
          refine .inr ⟨q, dropRedundantLoadsFrom [] q, rfl, ?_, fun _ => ⟨[], rfl, List.forall_mem_nil _⟩⟩
          rw [dropRedundantLoads, id, hafter, h]
          rfl
  exact hr.refines

/-! ## All passes -/

/-- No pass makes up a label. -/
lemma labelNames_sweep (ops : List Op) : (labelNames (sweep ops)).Sublist (labelNames ops) := by
  have h1 := dropUnreachableFrom_sublist false ops
  have h2 := (dropJumpToNext_sublist _).trans h1
  have h3 := (firstLabels_sublist none _).trans h2
  have h4 : (sweep ops).Sublist (mergeLabels (dropJumpToNext (dropUnreachable ops))) := by
    refine (dropRedundantLoadsFrom_sublist [] _).trans ?_
    rw [dropUnusedLabels_eq]
    exact List.filter_sublist
  refine (labelNames_sublist h4).trans ?_
  rw [mergeLabels, labelNames_map_retarget]
  exact labelNames_sublist h3

lemma refines_sweep {ops : List Op} (hnodup : (labelNames ops).Nodup) : Refines ops (sweep ops) := by
  have hsub1 := dropUnreachableFrom_sublist false ops
  have hsub2 := (dropJumpToNext_sublist _).trans hsub1
  have h1 := refines_dropUnreachable ops
  have h2 := refines_dropJumpToNext (hnodup.sublist (labelNames_sublist hsub1))
  have h3 := refines_mergeLabels (hnodup.sublist (labelNames_sublist hsub2))
  exact (((h1.trans h2).trans h3).trans (refines_dropUnusedLabels _)).trans
    (refines_dropRedundantLoads _)

/-- **Shorter listings do the same.** -/
theorem refines_peephole {ops : List Op} (hnodup : (labelNames ops).Nodup) :
    Refines ops (peephole ops) := by
  fun_induction peephole ops with
  | case1 ops _ ih =>
      exact (refines_sweep hnodup).trans (ih (hnodup.sublist (labelNames_sweep ops)))
  | case2 ops _ => exact refines_sweep hnodup

/-- An operation comes from a listing: it stands there, or it is a jump from there to another of its
labels. -/
def ComesFrom (ops : List Op) (op : Op) : Prop :=
  op ∈ ops ∨ ∃ kind old label, op = .instr (.jump kind label) ∧
    .instr (.jump kind old) ∈ ops ∧ label ∈ labelNames ops

lemma comesFrom_trans {ops mid : List Op} (hmid : ∀ op ∈ mid, ComesFrom ops op)
    (hlabels : labelNames mid ⊆ labelNames ops) {op : Op} (h : ComesFrom mid op) :
    ComesFrom ops op := by
  rcases h with h | ⟨kind, old, label, rfl, hold, hlabel⟩
  · exact hmid op h
  · right
    rcases hmid _ hold with hold | ⟨kind', old', label', heq, hold, -⟩
    · exact ⟨kind, old, label, rfl, hold, hlabels hlabel⟩
    · cases heq
      exact ⟨kind, old', label, rfl, hold, hlabels hlabel⟩

lemma labelRenames_values {first : Option String} {r : List Op} {label kept : String}
    (h : (label, kept) ∈ labelRenames first r) : kept ∈ first.toList ++ labelNames r := by
  induction r generalizing first with
  | nil => cases h
  | cons op r ih =>
      cases op with
      | blank => exact List.mem_append_right _ (by simpa [labelNames] using ih h)
      | instr i => exact List.mem_append_right _ (by simpa [labelNames] using ih h)
      | label name =>
          cases first with
          | some k =>
              rcases List.mem_cons.mp h with heq | h
              · cases heq
                simp
              · have hkept := ih h
                simp only [Option.toList_some, List.cons_append, List.nil_append,
                  List.mem_cons] at hkept ⊢
                exact hkept.imp_right fun hmem => List.mem_cons_of_mem _ hmem
          | none => simpa [labelNames] using ih h

lemma comesFrom_mergeLabels {ops : List Op} {op : Op} (h : op ∈ mergeLabels ops) :
    ComesFrom ops op := by
  rw [mergeLabels, List.mem_map] at h
  obtain ⟨old, hold, rfl⟩ := h
  have hold := (firstLabels_sublist none ops).subset hold
  cases old with
  | blank => exact .inl hold
  | label name => exact .inl hold
  | instr i =>
      cases i with
      | jump kind label =>
          rw [retarget]
          cases hget : (Assoc.ofPairs (labelRenames none ops)).get? label with
          | none => exact .inl hold
          | some kept =>
              rcases Assoc.mem_of_get?_foldl_put _ _ hget with hmem | hnone
              · exact .inr ⟨kind, label, kept, rfl, hold, by simpa using labelRenames_values hmem⟩
              · cases hnone
      | _ => exact .inl hold

lemma comesFrom_sweep {ops : List Op} {op : Op} (h : op ∈ sweep ops) : ComesFrom ops op := by
  have hsub := (dropJumpToNext_sublist _).trans (dropUnreachableFrom_sublist false ops)
  have hmerged : op ∈ mergeLabels (dropJumpToNext (dropUnreachable ops)) := by
    have hop := (dropRedundantLoadsFrom_sublist [] _).subset h
    rw [dropUnusedLabels_eq] at hop
    exact List.mem_of_mem_filter hop
  exact comesFrom_trans (fun op hop => .inl (hsub.subset hop)) (labelNames_sublist hsub).subset
    (comesFrom_mergeLabels hmerged)

/-- Nothing is made up on the way. -/
lemma comesFrom_peephole {ops : List Op} {op : Op} (h : op ∈ peephole ops) : ComesFrom ops op := by
  fun_induction peephole ops with
  | case1 ops _ ih =>
      exact comesFrom_trans (fun _ => comesFrom_sweep) (labelNames_sweep ops).subset (ih h)
  | case2 ops _ => exact comesFrom_sweep h

end Mailroom.Peephole
