import Mathlib.Data.List.Chain
import Mailroom.Proofs.Passes

/-!
# Listings at rest

Every pass over a listing makes it shorter or leaves it as it is.  Therefore the sweeps come to an
end, and what they end with is left as it is by each pass on its own.  What such a listing cannot
contain is said here without the passes, for every listing and whatever its labels are.

- `Normal`: a listing in which nothing is left to be tidied.
- `Slims`: a pass that shortens or does nothing; `slims_of_mem_passes`: all of them do.
- `sweep_rests`: a sweep that does not shorten leaves all passes with nothing to do.
- `normal_of_fixed`: where they have nothing to do, a listing is normal.
- `peephole_normal`: after how many sweeps they come to rest, and with what.
-/

namespace Mailroom.Peephole

/-! ## Normal listings -/

/-- A jump that is always taken. -/
def leap (name : String) : Op :=
  .instr (.jump .always name)

/-- A load of a given tile. -/
def load (address : Nat) : Op :=
  .instr (.tile .copyFrom ⟨address, false⟩)

/-- The tiles that are known to hold what the hand holds, after a listing that starts when `same`
are. -/
def known (same : List Nat) : List Op → List Nat
  | [] => same
  | op :: rest =>
    match loads? op with
    | some address => known (if address ∈ same then same else [address]) rest
    | none => known (dropRedundantLoadsFrom.after same op) rest

/-- A listing in which nothing is left to be tidied. -/
structure Normal (ops : List Op) : Prop where
  /-- Only a label follows a jump that is always taken. -/
  reached : ops.IsChain fun op next => ∀ name, op = leap name → ∃ label, next = .label label
  /-- No such jump leads to what follows it. -/
  leading : ops.IsChain fun op next => ∀ name, op = leap name → next ≠ .label name
  /-- No two labels stand together. -/
  apart : ops.IsChain fun op next => ∀ label, op = .label label → ∀ name, next ≠ .label name
  /-- A jump leads to every label. -/
  used : ∀ name, .label name ∈ ops → ∃ kind, .instr (.jump kind name) ∈ ops
  /-- No tile is loaded that is known to hold what the hand holds. -/
  needed : ∀ front address back, ops = front ++ load address :: back → address ∉ known [] front

/-! ## Passes shorten or do nothing -/

/-- A pass that makes every listing shorter or leaves it as it is. -/
def Slims (pass : List Op → List Op) : Prop :=
  ∀ ops, pass ops = ops ∨ (pass ops).length < ops.length

lemma slims_of_sublist {pass : List Op → List Op} (h : ∀ ops, (pass ops).Sublist ops) :
    Slims pass := by
  intro ops
  rcases Nat.lt_or_eq_of_le (h ops).length_le with hlt | heq
  · exact .inr hlt
  · exact .inl ((h ops).eq_of_length heq)

/-- For every label that is left out there is one that stands for it. -/
lemma length_firstLabels (first : Option String) (ops : List Op) :
    (firstLabels first ops).length + (labelRenames first ops).length = ops.length := by
  induction ops generalizing first with
  | nil => rfl
  | cons op ops ih =>
      have hnone := ih none
      cases op with
      | blank =>
          simp only [firstLabels, labelRenames, List.length_cons]
          omega
      | instr i =>
          simp only [firstLabels, labelRenames, List.length_cons]
          omega
      | label name =>
          cases first with
          | none =>
              have hkept := ih (some name)
              simp only [firstLabels, labelRenames, List.length_cons]
              omega
          | some kept =>
              have hleft := ih (some kept)
              simp only [firstLabels, labelRenames, List.length_cons]
              omega

lemma retarget_nil (op : Op) : retarget [] op = op := by
  cases op with
  | instr i => cases i <;> rfl
  | _ => rfl

/-- Where no label is left out, no jump is changed. -/
lemma mergeLabels_slims : Slims mergeLabels := by
  intro ops
  have hlength := length_firstLabels none ops
  rw [mergeLabels, List.length_map]
  rcases slims_of_sublist (firstLabels_sublist none) ops with heq | hlt
  · have hrenames : labelRenames none ops = [] := by
      rw [heq] at hlength
      exact List.eq_nil_of_length_eq_zero (by omega)
    left
    rw [hrenames, heq]
    exact List.map_id'' retarget_nil ops
  · exact .inr hlt

/-- The passes in the order in which they are made. -/
def passes : List (List Op → List Op) :=
  [dropUnreachable, dropJumpToNext, mergeLabels, dropUnusedLabels, dropRedundantLoads]

lemma sweep_eq_foldl (ops : List Op) : sweep ops = passes.foldl (fun ops pass => pass ops) ops :=
  rfl

lemma slims_of_mem_passes {pass : List Op → List Op} (h : pass ∈ passes) : Slims pass := by
  have hunused : ∀ ops, (dropUnusedLabels ops).Sublist ops := by
    intro ops
    rw [dropUnusedLabels_eq]
    exact List.filter_sublist
  simp only [passes, List.mem_cons, List.not_mem_nil, or_false] at h
  rcases h with rfl | rfl | rfl | rfl | rfl
  · exact slims_of_sublist (dropUnreachableFrom_sublist false)
  · exact slims_of_sublist dropJumpToNext_sublist
  · exact mergeLabels_slims
  · exact slims_of_sublist hunused
  · exact slims_of_sublist (dropRedundantLoadsFrom_sublist [])

/-- **One after the other.**  Passes together shorten a listing, or each of them leaves it alone. -/
lemma foldl_slims {part : List (List Op → List Op)} (h : ∀ pass ∈ part, Slims pass)
    (ops : List Op) :
    (∀ pass ∈ part, pass ops = ops) ∧ part.foldl (fun ops pass => pass ops) ops = ops ∨
      (part.foldl (fun ops pass => pass ops) ops).length < ops.length := by
  induction part generalizing ops with
  | nil => exact .inl ⟨fun _ hmem => absurd hmem List.not_mem_nil, rfl⟩
  | cons pass part ih =>
      have hlater := ih (fun p hp => h p (List.mem_cons_of_mem _ hp)) (pass ops)
      rw [List.foldl_cons]
      rcases h pass List.mem_cons_self ops with heq | hlt
      · rw [heq] at hlater ⊢
        refine hlater.imp_left fun ⟨hfixed, hall⟩ => ⟨?_, hall⟩
        exact List.forall_mem_cons.mpr ⟨heq, hfixed⟩
      · right
        rcases hlater with ⟨-, hall⟩ | hshorter
        · rwa [hall]
        · exact hshorter.trans hlt

lemma sweep_rests (ops : List Op) :
    (∀ pass ∈ passes, pass ops = ops) ∧ sweep ops = ops ∨ (sweep ops).length < ops.length := by
  rw [sweep_eq_foldl]
  exact foldl_slims (fun _ => slims_of_mem_passes) ops

/-! ## Where passes have nothing to do -/

section Fixed

variable {ops : List Op}

/-- A pass that leaves out the first operation changes the listing. -/
lemma not_fixed_of_sublist {op : Op} {kept : List Op} (h : kept.Sublist ops) : kept ≠ op :: ops := by
  rintro rfl
  exact absurd h.length_le (by simp)

lemma dropUnreachableFrom_dead {op : Op} (hop : ∀ label, op ≠ .label label) (ops : List Op) :
    dropUnreachableFrom true (op :: ops) = dropUnreachableFrom true ops := by
  cases op with
  | blank => rfl
  | label name => exact absurd rfl (hop name)
  | instr i =>
      cases i with
      | jump kind name => cases kind <;> rfl
      | _ => rfl

/-- What follows a jump that is always taken is kept only if it is a label. -/
lemma reached_of_fixed {dead : Bool} (h : dropUnreachableFrom dead ops = ops) :
    (dead = true → ∀ op ∈ ops.head?, ∃ label, op = .label label) ∧
      ops.IsChain fun op next => ∀ name, op = leap name → ∃ label, next = .label label := by
  induction ops generalizing dead with
  | nil => exact ⟨fun _ op hop => absurd hop (by simp), .nil⟩
  | cons op ops ih =>
      have hhead : dead = true → ∃ label, op = .label label := by
        rintro rfl
        by_contra hop
        push Not at hop
        rw [dropUnreachableFrom_dead hop] at h
        exact not_fixed_of_sublist (dropUnreachableFrom_sublist true ops) h
      refine ⟨fun hdead next hnext => ?_, ?_⟩
      · cases hnext
        exact hhead hdead
      · cases op with
        | label name =>
            have htail := ih (List.cons.inj h).2
            exact htail.2.cons fun _ _ _ hleap => by cases hleap
        | blank =>
            have hlive : dead = false := by simpa using hhead
            subst hlive
            have htail := ih (List.cons.inj h).2
            exact htail.2.cons fun _ _ _ hleap => by cases hleap
        | instr i =>
            have hlive : dead = false := by simpa using hhead
            subst hlive
            rw [dropUnreachableFrom_instr] at h
            have htail := ih (List.cons.inj h).2
            refine htail.2.cons fun next hnext name hleap => ?_
            cases hleap
            exact htail.1 rfl next hnext

/-- A jump to the label behind it is not kept. -/
lemma leading_of_fixed (h : dropJumpToNext ops = ops) :
    ops.IsChain fun op next => ∀ name, op = leap name → next ≠ .label name := by
  induction ops with
  | nil => exact .nil
  | cons op ops ih =>
      by_cases hop : ∃ name, op = leap name
      · obtain ⟨name, rfl⟩ := hop
        rw [leap, dropJumpToNext] at h
        split at h
        · exact absurd h (not_fixed_of_sublist (dropJumpToNext_sublist ops))
        · rename_i hleads
          refine (ih (List.cons.inj h).2).cons fun next hnext name' hleap => ?_
          cases hleap
          rintro rfl
          cases ops with
          | nil => cases hnext
          | cons first ops =>
              cases hnext
              exact hleads List.mem_cons_self
      · push Not at hop
        have hkept : dropJumpToNext (op :: ops) = op :: dropJumpToNext ops := by
          rw [dropJumpToNext]
          exact hop
        rw [hkept] at h
        exact (ih (List.cons.inj h).2).cons fun _ _ name hleap => absurd hleap (hop name)

/-- A label behind another one is not kept. -/
lemma apart_of_fixed {first : Option String} (h : firstLabels first ops = ops) :
    (first.isSome = true → ∀ op ∈ ops.head?, ∀ name, op ≠ .label name) ∧
      ops.IsChain fun op next => ∀ label, op = .label label → ∀ name, next ≠ .label name := by
  induction ops generalizing first with
  | nil => exact ⟨fun _ op hop => absurd hop (by simp), .nil⟩
  | cons op ops ih =>
      cases op with
      | label name =>
          cases first with
          | some kept =>
              exact absurd h (not_fixed_of_sublist (firstLabels_sublist (some kept) ops))
          | none =>
              have htail := ih (List.cons.inj h).2
              exact ⟨fun hfirst => absurd hfirst Bool.false_ne_true,
                htail.2.cons fun next hnext _ _ => htail.1 rfl next hnext⟩
      | blank =>
          have htail := ih (List.cons.inj h).2
          refine ⟨fun _ op hop => ?_, htail.2.cons fun _ _ _ hlabel => by cases hlabel⟩
          cases hop
          simp
      | instr i =>
          have htail := ih (List.cons.inj h).2
          refine ⟨fun _ op hop => ?_, htail.2.cons fun _ _ _ hlabel => by cases hlabel⟩
          cases hop
          simp

/-- A label is kept only if a jump leads to it. -/
lemma used_of_fixed (h : dropUnusedLabels ops = ops) {name : String} (hname : .label name ∈ ops) :
    ∃ kind, .instr (.jump kind name) ∈ ops := by
  rw [dropUnusedLabels_eq, List.filter_eq_self] at h
  have hused : name ∈ ops.filterMap jumpTarget? := by simpa [keptOp] using h _ hname
  obtain ⟨op, hop, htarget⟩ := List.mem_filterMap.mp hused
  rw [jumpTarget?.eq_def] at htarget
  split at htarget
  · cases htarget
    exact ⟨_, hop⟩
  · cases htarget

/-- A load is kept only if the tile is not known to hold what the hand holds. -/
lemma needed_of_fixed {same : List Nat} (h : dropRedundantLoadsFrom same ops = ops)
    {front back : List Op} {address : Nat} (hops : ops = front ++ load address :: back) :
    address ∉ known same front := by
  subst hops
  induction front generalizing same with
  | nil =>
      intro hsame
      rw [known] at hsame
      rw [List.nil_append, load, dropRedundantLoadsFrom_load, if_pos hsame] at h
      exact not_fixed_of_sublist (dropRedundantLoadsFrom_sublist same back) h
  | cons op front ih =>
      rw [List.cons_append] at h
      cases hop : loads? op with
      | none =>
          rw [dropRedundantLoadsFrom_cons hop] at h
          rw [known, hop]
          exact ih (List.cons.inj h).2
      | some held =>
          rw [known, hop]
          obtain rfl := loads?_eq_some hop
          rw [dropRedundantLoadsFrom_load] at h
          split at h
          · exact absurd h (not_fixed_of_sublist (dropRedundantLoadsFrom_sublist same _))
          · rename_i hnew
            simp only [if_neg hnew]
            exact ih (List.cons.inj h).2

/-- **A listing at rest.**  It is normal if no pass has anything to do. -/
lemma normal_of_fixed (h : ∀ pass ∈ passes, pass ops = ops) : Normal ops := by
  simp only [passes, List.forall_mem_cons] at h
  obtain ⟨hunreachable, hnext, hlabels, hunused, hloads, -⟩ := h
  have hlength := congrArg List.length hlabels
  rw [mergeLabels, List.length_map] at hlength
  have hfirst : firstLabels none ops = ops := (firstLabels_sublist none ops).eq_of_length hlength
  exact ⟨(reached_of_fixed hunreachable).2, leading_of_fixed hnext, (apart_of_fixed hfirst).2,
    fun _ => used_of_fixed hunused, fun _ _ _ => needed_of_fixed hloads⟩

end Fixed

/-! ## Sweeps come to rest -/

/-- Nothing is left to do for any pass. -/
lemma peephole_fixed (ops : List Op) : ∀ pass ∈ passes, pass (peephole ops) = peephole ops := by
  fun_induction peephole ops with
  | case1 ops _ ih => exact ih
  | case2 ops hlength =>
      obtain ⟨hfixed, hsweep⟩ := (sweep_rests ops).resolve_right hlength
      rwa [hsweep]

lemma length_peephole_le (ops : List Op) : (peephole ops).length ≤ ops.length := by
  fun_induction peephole ops with
  | case1 ops hlength ih => exact ih.trans hlength.le
  | case2 ops hlength =>
      obtain ⟨-, hsweep⟩ := (sweep_rests ops).resolve_right hlength
      rw [hsweep]

/-- How many sweeps change something, and that the next one does not. -/
lemma peephole_eq_iterate (ops : List Op) :
    ∃ n ≤ ops.length, peephole ops = sweep^[n] ops ∧ sweep^[n + 1] ops = sweep^[n] ops ∧
      ∀ m < n, sweep^[m + 1] ops ≠ sweep^[m] ops := by
  fun_induction peephole ops with
  | case1 ops hlength ih =>
      obtain ⟨n, hn, heq, hrest, hbefore⟩ := ih
      refine ⟨n + 1, by omega, heq, hrest, fun m hm => ?_⟩
      cases m with
      | zero =>
          intro hsame
          exact absurd (congrArg List.length hsame) hlength.ne
      | succ m => exact hbefore m (by omega)
  | case2 ops hlength =>
      obtain ⟨-, hsweep⟩ := (sweep_rests ops).resolve_right hlength
      exact ⟨0, Nat.zero_le _, hsweep, hsweep, fun m hm => absurd hm (Nat.not_lt_zero m)⟩

lemma peephole_of_fixed {ops : List Op} (h : sweep ops = ops) : peephole ops = ops := by
  rw [peephole, if_neg (by rw [h]; exact Nat.lt_irrefl _), h]

/-- **Sweeps come to rest.**  Whatever a listing holds, sweeping it until a sweep changes nothing
comes to an end, and no more sweeps change something than the listing has lines.  Each pass by itself
leaves what comes of it as it is, and so do all of them again.  It is a normal listing, and not longer
than the one that it comes from. -/
theorem peephole_normal (ops : List Op) :
    (∃ n ≤ ops.length, peephole ops = sweep^[n] ops ∧ sweep^[n + 1] ops = sweep^[n] ops ∧
        ∀ m < n, sweep^[m + 1] ops ≠ sweep^[m] ops) ∧
      dropUnreachable (peephole ops) = peephole ops ∧
      dropJumpToNext (peephole ops) = peephole ops ∧
      mergeLabels (peephole ops) = peephole ops ∧
      dropUnusedLabels (peephole ops) = peephole ops ∧
      dropRedundantLoads (peephole ops) = peephole ops ∧
      peephole (peephole ops) = peephole ops ∧ Normal (peephole ops) ∧
      (peephole ops).length ≤ ops.length := by
  have hfixed := peephole_fixed ops
  have hnormal := normal_of_fixed hfixed
  simp only [passes, List.forall_mem_cons] at hfixed
  obtain ⟨hunreachable, hnext, hlabels, hunused, hloads, -⟩ := hfixed
  have hidempotent : peephole (peephole ops) = peephole ops := by
    apply peephole_of_fixed
    rw [sweep, hunreachable, hnext, hlabels, hunused, hloads]
  exact ⟨peephole_eq_iterate ops, hunreachable, hnext, hlabels, hunused, hloads, hidempotent,
    hnormal, length_peephole_le ops⟩

/-- A label that is there twice: once the labels in front are merged, the jump leads to what
follows it. -/
theorem peephole_normal_label_twice :
    let ops : List Op := [.label "a", .label "b", .instr .inbox, .instr (.tile .copyTo ⟨0, false⟩),
      load 0, .instr .outbox, leap "b", .instr .inbox, .label "a"]
    peephole ops = [.instr .inbox, .instr (.tile .copyTo ⟨0, false⟩), .instr .outbox] ∧
      Normal (peephole ops) ∧ (peephole ops).length ≤ 9 := by
  intro ops
  have hresult : peephole ops
      = [.instr .inbox, .instr (.tile .copyTo ⟨0, false⟩), .instr .outbox] := by
    rw [peephole, if_pos (by decide +kernel), peephole, if_pos (by decide +kernel), peephole,
      if_neg (by decide +kernel)]
    decide +kernel
  obtain ⟨-, -, -, -, -, -, -, hnormal, hlength⟩ := peephole_normal ops
  exact ⟨hresult, hnormal, hlength⟩

end Mailroom.Peephole
