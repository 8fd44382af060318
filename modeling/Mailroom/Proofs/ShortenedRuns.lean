import Mathlib
import Mailroom.Proofs.Passes

/-!
# Runs of shortened listings

What `peephole` leaves of a listing is written out, loaded and run.  Such a run ends as a run of the
whole listing does, unless the limit ends the latter: with the same error or fault, the same hand,
floor, inbox and outbox, and in no more instructions (`run_peephole`).

One thing can go wrong on the way.  A label may have blanks inside, a jump leads to a single word
only, and merging labels can make a jump lead to such a label.  The shortened listing is then
refused.  It can be loaded exactly when no jump is left that leads to a label with blanks, so always
when the labels have none to begin with.
-/

namespace Mailroom

open Text Source Peephole

/-- An operation that some line of a listing holds. -/
def Op.Read (op : Op) : Prop :=
  op ≠ .blank ∧ ∃ line, parseLine none line = .ok op

/-- A run that ends as another one does, in no more instructions. -/
structure EndsAlike (r r' : Option InboxError × Machine) : Prop where
  error : r'.1 = r.1
  halted : r'.2.halted = r.2.halted
  cause : r'.2.fault.map (·.cause) = r.2.fault.map (·.cause)
  desk : r'.2.desk = r.2.desk
  steps : r'.2.steps ≤ r.2.steps

/-- Halts are limits when the faults they end with are. -/
lemma Closes.isLimit {r : Option InboxError × Machine} {h : Halt} {c : Config} (hr : Closes r h c)
    (hlimit : ∀ most, r.2.fault.map (·.cause) ≠ some (.stepLimit most)) : h.isLimit = false := by
  have hcause := hr.cause
  match h with
  | .ended => rfl
  | .dry => rfl
  | .failed e => rfl
  | .fault (.stepLimit most) => exact absurd hcause (hlimit most)
  | .fault (.emptyHand mnemonic) => rfl
  | .fault (.unknownLabel label) => rfl
  | .fault (.offFloor e) => rfl

lemma Closes.endsAlike {r r' : Option InboxError × Machine} {h : Halt} {c c' : Config}
    (hr : Closes r h c) (hr' : Closes r' h c') (hdesk : c'.desk = c.desk)
    (hsteps : c'.steps ≤ c.steps) : EndsAlike r r' where
  error := hr'.error.trans hr.error.symm
  halted := by rw [hr'.halted, hr.halted, hr'.error, hr.error]
  cause := hr'.cause.trans hr.cause.symm
  desk := by rw [hr'.desk, hr.desk, hdesk]
  steps := by
    rw [hr'.steps, hr.steps]
    omega

/-- Machines at the start of listings, one of which refines the other, end alike. -/
lemma Refines.endsAlike {src tgt : List Op} (h : Refines src tgt) {m m' : Machine} {desk : Desk}
    (hm : Shows m src (.start src desk)) (hm' : Shows m' tgt (.start tgt desk))
    (hmost : m'.maxSteps = m.maxSteps)
    (hlimit : ∀ most, m.run.2.fault.map (·.cause) ≠ some (.stepLimit most)) :
    EndsAlike m.run m'.run := by
  obtain ⟨halt, last, hfinishes, hcloses⟩ := run_finishes hm
  obtain ⟨halt', last', hfinishes', hcloses'⟩ := run_finishes hm'
  obtain ⟨last'', hfinishes'', hdesk, hsteps⟩ :=
    h.forward desk m.maxSteps halt last (hcloses.isLimit hlimit) hfinishes
  rw [hmost] at hfinishes'
  obtain ⟨rfl, rfl⟩ := hfinishes''.unique hfinishes'
  exact hcloses.endsAlike hcloses' hdesk hsteps

lemma Op.Read.spelled {op : Op} (h : op.Read) : op.Spelled := by
  obtain ⟨hne, line, hline⟩ := h
  exact (spelled_of_parseLine hline hne).1

/-- Operations that have been read can be written and read again, within the limit on digits. -/
lemma Op.Read.legible {op : Op} (h : op.Read) (hfits : ∀ i, op = .instr i → i.fits = true) :
    op.legible = true := by
  obtain ⟨hne, line, hline⟩ := h
  have hjump := (spelled_of_parseLine hline hne).2
  match op with
  | .blank => rfl
  | .label name => rfl
  | .instr .inbox => rfl
  | .instr .outbox => rfl
  | .instr (.tile op t) => exact hfits (.tile op t) rfl
  | .instr (.jump kind target) => exact hjump kind target rfl

/-- What comes from lines that can be written can be written. -/
lemma Peephole.ComesFrom.spelled {ops : List Op} (hops : ∀ op ∈ ops, op.Spelled) {op : Op}
    (h : ComesFrom ops op) : op.Spelled := by
  rcases h with hmem | ⟨kind, old, label, rfl, -, hlabel⟩
  · exact hops op hmem
  · have hname : (Op.label label).Spelled := hops _ (mem_labelNames.mp hlabel)
    exact LabelName.target hname

/-- What comes from legible lines is legible, but for jumps to labels with blanks. -/
lemma Peephole.ComesFrom.legible {ops : List Op} (hlegible : ∀ op ∈ ops, op.legible = true) {op : Op}
    (h : ComesFrom ops op)
    (hblank : ∀ kind label, op = .instr (.jump kind label) → label ∈ labelNames ops →
      ∀ c ∈ label.toList, isBlank c = false) : op.legible = true := by
  rcases h with hmem | ⟨kind, old, label, rfl, -, hlabel⟩
  · exact hlegible op hmem
  · simpa [Op.legible] using hblank kind label rfl hlabel

/-- **Shortened listings end alike.**  A listing of operations that lines can hold, without a label
that is defined twice, is loaded; and if what `peephole` leaves of it is loaded as well, the two end
alike, unless the limit ends the run of the whole listing.  What is left can be loaded exactly when
no jump leads to a label with blanks. -/
theorem run_peephole {ops : List Op} (hread : ∀ op ∈ ops, op.Read)
    (hfits : ∀ i, .instr i ∈ ops → i.fits = true) (hnodup : (labelNames ops).Nodup) (m : Machine) :
    ∃ whole, m.load (render ops) = (whole, none) ∧
      (∀ short, m.load (render (peephole ops)) = (short, none) →
        (∀ most, whole.run.2.fault.map (·.cause) ≠ some (.stepLimit most)) →
        EndsAlike whole.run short.run) ∧
      ((m.load (render (peephole ops))).2 = none ↔
        ∀ kind label, .instr (.jump kind label) ∈ peephole ops →
          ∀ c ∈ label.toList, isBlank c = false) ∧
      ((∀ label ∈ labelNames ops, ∀ c ∈ label.toList, isBlank c = false) →
        (m.load (render (peephole ops))).2 = none) := by
  have hspelled : ∀ op ∈ ops, op.Spelled := fun op hop => (hread op hop).spelled
  have hlegible : ∀ op ∈ ops, op.legible = true :=
    fun op hop => (hread op hop).legible fun i hi => hfits i (hi ▸ hop)
  have hspelled' : ∀ op ∈ peephole ops, op.Spelled :=
    fun op hop => (comesFrom_peephole hop).spelled hspelled
  have hloads := load_iff_legible hspelled' m
  obtain ⟨whole, hwhole, hmost, hshows⟩ := load_shows hspelled hlegible m
  refine ⟨whole, hwhole, ?_, ?_, ?_⟩
  · intro short hshort hlimit
    have hall := hloads.mp (by rw [hshort])
    obtain ⟨short', hshort', hmost', hshows'⟩ := load_shows hspelled' hall m
    rw [hshort] at hshort'
    cases hshort'
    exact (refines_peephole hnodup).endsAlike hshows hshows' (hmost'.trans hmost.symm) hlimit
  · rw [hloads]
    constructor
    · intro hall kind label hjump
      simpa [Op.legible] using hall _ hjump
    · intro hblank op hop
      refine (comesFrom_peephole hop).legible hlegible ?_
      rintro kind label rfl -
      exact hblank kind label hop
  · intro hblank
    refine hloads.mpr fun op hop => ?_
    exact (comesFrom_peephole hop).legible hlegible fun _ label _ => hblank label

/-- A loop behind two labels: one of them is left, and both listings halt with the same outbox. -/
theorem run_peephole_two_labels :
    let ops : List Op :=
      [.label "a", .label "x", .instr .inbox, .instr .outbox, .instr (.jump .always "x")]
    let m : Machine := { floor := ⟨0, #[], rfl⟩, inbox := .ofValues [1], maxSteps := 10 }
    peephole ops = [.label "a", .instr .inbox, .instr .outbox, .instr (.jump .always "a")] ∧
      EndsAlike (m.load (render ops)).1.run (m.load (render (peephole ops))).1.run := by
  intro ops m
  have hread : ∀ op ∈ ops, op.Read := by
    intro op hop
    simp only [ops, List.mem_cons, List.not_mem_nil, or_false] at hop
    rcases hop with rfl | rfl | rfl | rfl | rfl
    · exact ⟨by simp, "a:", by cbv⟩
    · exact ⟨by simp, "x:", by cbv⟩
    · exact ⟨by simp, "INBOX", by cbv⟩
    · exact ⟨by simp, "OUTBOX", by cbv⟩
    · exact ⟨by simp, "JUMP x", by cbv⟩
  have hfits : ∀ i, .instr i ∈ ops → i.fits = true := by
    intro i hi
    simp only [ops, List.mem_cons, List.not_mem_nil, or_false, reduceCtorEq, false_or,
      Op.instr.injEq] at hi
    rcases hi with rfl | rfl | rfl <;> rfl
  have hlabels : ∀ label ∈ labelNames ops, label.toList.all (isBlank · = false) = true := by decide
  have hfault : (m.load (render ops)).1.run.2.fault = none := by cbv
  obtain ⟨whole, hwhole, halike, -, hloads⟩ := run_peephole hread hfits (by decide) m
  refine ⟨by cbv, ?_⟩
  have hshort : m.load (render (peephole ops)) = ((m.load (render (peephole ops))).1, none) :=
    Prod.ext rfl (hloads fun label hlabel => forall_mem_of_all (hlabels label hlabel))
  rw [hwhole] at hfault ⊢
  exact halike _ hshort fun most hlimit => by simp [hfault] at hlimit

/-- A jump that leads behind two labels, the first of them with a blank: the listing is loaded, and
what is left of it is refused. -/
theorem peephole_blank_label_refused :
    let ops : List Op :=
      [.label "a b", .label "x", .instr .inbox, .instr .outbox, .instr (.jump .always "x")]
    (Program.load (render ops)).2 = none ∧
      render (peephole ops) = ["a b:", "    INBOX", "    OUTBOX", "    JUMP a b"] ∧
      (Program.load (render (peephole ops))).2
        = some ⟨.needsLabel "JUMP", some 4, "    JUMP a b"⟩ := by
  cbv

end Mailroom
