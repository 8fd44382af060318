import Mathlib
import Mailroom.Keyboard.Display
import Mailroom.Proofs.Requests

/-!
# What a display writes

Whatever a display shows, it gives some labels their colours.  On a faithful panel this always
succeeds, and a key that has a light then has the colour of the payload, or the one it had before.

- `Display.Recolors`: what is left of a panel after that.
- `Display.setTogether_recolors`, `Display.setColor_recolors`: labels together, and one alone.
- `Display.showValue_recolors`, `Display.showStage_recolors`, `Display.showRunning_recolors` and
  those that turn keys off: what each part of a display writes and remembers.
- `Display.get?_valuePayload`, `Display.get?_stagePayload`: the colours in it.
-/

namespace Mailroom.Display

open Text

/-- Labels that are written as a panel writes them, each of them once. -/
structure Plain (payload : Payload) : Prop where
  distinct : (payload.map (·.1)).Nodup
  lowered : ∀ key ∈ payload.map (·.1), lowered key = key

instance (payload : Payload) : Decidable (Plain payload) :=
  decidable_of_iff ((payload.map (·.1)).Nodup ∧ ∀ key ∈ payload.map (·.1), lowered key = key)
    ⟨fun h => ⟨h.1, h.2⟩, fun h => ⟨h.distinct, h.lowered⟩⟩

/-- What is left of a faithful panel after labels have been given colours. -/
structure Recolors (p : Panel) (labels : LabelMap) (keys : Set String) (payload : Payload)
    (q : Panel) : Prop where
  faithful : q.Faithful labels keys
  colored : ∀ key ∈ keys, ∀ i, labels.get? key = some i →
    q.keyboard.color i = (payload.get? key).getD (p.keyboard.color i)

section Payloads

variable {p : Panel} {labels : LabelMap} {keys : Set String} {payload : Payload}

lemma Plain.put (h : Plain payload) {key : String} (hkey : Text.lowered key = key) (c : Color) :
    Plain (payload.put key c) := by
  refine ⟨Assoc.nodup_put h.distinct key c, fun key' hmem => ?_⟩
  rcases Assoc.mem_keys_put hmem with rfl | hold
  · exact hkey
  · exact h.lowered key' hold

lemma Plain.ofPairs_wanted (h : Plain payload) :
    Assoc.ofPairs (wanted payload) = wanted payload := by
  refine Assoc.ofPairs_of_nodup ?_
  rw [wanted, List.map_map]
  exact h.distinct

lemma Plain.keysOf_wanted (h : Plain payload) :
    Panel.keysOf (Assoc.ofPairs (wanted payload)) = payload.map (·.1) := by
  rw [h.ofPairs_wanted, Panel.keysOf, wanted, List.map_map]
  exact List.map_congr_left fun entry hentry => h.lowered entry.1 (List.mem_map_of_mem hentry)

lemma Plain.mem_wanted (h : Plain payload) {key : String} {c : Color}
    (hget : payload.get? key = some c) : (key, .ok c) ∈ Assoc.ofPairs (wanted payload) := by
  rw [h.ofPairs_wanted, wanted]
  exact List.mem_map.mpr ⟨(key, c), Assoc.mem_of_get? hget, rfl⟩

lemma resolve_wanted (labels : LabelMap) (payload : Payload) :
    ∃ all, Panel.resolve labels (wanted payload) = .ok all := by
  induction payload with
  | nil => exact ⟨[], rfl⟩
  | cons entry payload ih =>
      obtain ⟨all, hall⟩ := ih
      obtain ⟨label, c⟩ := entry
      rw [wanted] at hall ⊢
      rw [List.map_cons]
      cases hlight : labels.get? (lowered label) with
      | none => exact ⟨all, (Panel.resolve_unlit hlight _).trans hall⟩
      | some i =>
          refine ⟨⟨lowered label, i, c⟩ :: all, (Panel.resolve_lit hlight c).trans ?_⟩
          rw [hall]
          rfl

lemma Recolors.refl (h : p.Faithful labels keys) : Recolors p labels keys [] p :=
  ⟨h, fun _ _ _ _ => rfl⟩

/-- **Together.** -/
lemma setTogether_recolors (h : p.Faithful labels keys) (hplain : Plain payload)
    (hkeys : ∀ key ∈ payload.map (·.1), key ∈ keys) :
    ∃ q, Panel.setTogether (wanted payload) p = .ok true q ∧ Recolors p labels keys payload q := by
  have hnamed : ∀ key ∈ Panel.keysOf (Assoc.ofPairs (wanted payload)), key ∈ keys := by
    rw [hplain.keysOf_wanted]
    exact hkeys
  have hdistinct : (Panel.Request.together (wanted payload)).Distinct := by
    rw [Panel.Request.Distinct, Panel.Request.named, hplain.keysOf_wanted]
    exact hplain.distinct
  obtain ⟨hends, hfaithful⟩ := Panel.setTogether_ends h hnamed hdistinct
  obtain ⟨q, hq⟩ : ∃ q, Panel.setTogether (wanted payload) p = .ok true q := by
    obtain ⟨all, hall⟩ := resolve_wanted labels payload
    rw [← hplain.ofPairs_wanted] at hall
    obtain ⟨q, hq, -⟩ := Panel.setTogether_writes h.toReady hall
    exact ⟨q, hq⟩
  rw [hq] at hends hfaithful
  refine ⟨q, hq, hfaithful, fun key hkey i hi => ?_⟩
  -- a key outside of the payload has a light of its own, which no key in the payload changes
  cases hget : payload.get? key with
  | some c =>
      have hlower : lowered key = key :=
        hplain.lowered key (List.mem_map_of_mem (f := (·.1)) (Assoc.mem_of_get? hget))
      have hshows := hends.shows h.fits hnamed hdistinct rfl (hplain.mem_wanted hget)
        (hlower.symm ▸ hi)
      exact (Except.ok.inj hshows).symm
  | none =>
      have hnot : key ∉ Panel.keysOf (Assoc.ofPairs (wanted payload)) := by
        rw [hplain.keysOf_wanted]
        intro hmem
        obtain ⟨⟨_, c⟩, hentry, rfl⟩ := List.mem_map.mp hmem
        rw [Assoc.get?_of_mem hplain.distinct hentry] at hget
        cases hget
      exact (congrFun hends.lights i).trans
        (Panel.Request.painted_of_notMem h.fits hnamed hkey hnot hi _)

/-- **Alone.** -/
lemma setColor_recolors (h : p.Faithful labels keys) {label : String}
    (hlower : lowered label = label) (hkey : label ∈ keys) (c : Color) (verbose : Bool) :
    ∃ done q, Panel.setColor label (.ok c) verbose p = .ok done q ∧
      Recolors p labels keys [(label, c)] q := by
  have hkeys : ∀ key ∈ Panel.keysOf [(label, (.ok c : Except ColorError Color))], key ∈ keys := by
    simpa [Panel.keysOf, hlower] using hkey
  obtain ⟨hends, hfaithful⟩ := Panel.setColor_ends h (hlower.symm ▸ hkey) (.ok c) verbose
  cases hlight : labels.get? label with
  | none =>
      have hq := Panel.setColor_unlit h.toReady (hlower.symm ▸ hlight) (.ok c) verbose
      refine ⟨false, p, hq, h, fun key _ i hi => ?_⟩
      have hne : label ≠ key := by
        rintro rfl
        rw [hlight] at hi
        cases hi
      simp [Assoc.get?, hne]
  | some i =>
      obtain ⟨q, hq, -⟩ := Panel.setColor_writes h.toReady (hlower.symm ▸ hlight)
        (h.fits.has label hkey i hlight) c verbose
      rw [hq] at hends hfaithful
      refine ⟨true, q, hq, hfaithful, fun key hkey' j hj => ?_⟩
      by_cases hsame : label = key
      · subst hsame
        have hshows := hends.shows h.fits hkeys (List.nodup_singleton _) rfl
          (List.mem_singleton.mpr rfl) (hlower.symm ▸ hj)
        rw [Assoc.get?, if_pos rfl]
        exact (Except.ok.inj hshows).symm
      · have hnot : key ∉ Panel.keysOf [(label, (.ok c : Except ColorError Color))] := by
          simpa [Panel.keysOf, hlower] using Ne.symm hsame
        rw [Assoc.get?, if_neg hsame]
        exact (congrFun hends.lights j).trans
          (Panel.Request.painted_of_notMem h.fits hkeys hkey' hnot hj _)

end Payloads

/-! ## The labels of a display -/

/-- The labels of the keys for values. -/
def valueLabels : List String :=
  digitLabels ++ [overflowLabel]

/-- The label of the key for a value. -/
def valueLabel (v : Int) : String :=
  if isDigit v then digitLabel v else overflowLabel

/-- The labels of the keys for stages. -/
def stageLabels : List String :=
  Stage.all.map stageLabel

lemma digitLabel_mem {v : Int} (h : isDigit v = true) : digitLabel v ∈ digitLabels := by
  obtain ⟨hlow, hhigh⟩ : 0 ≤ v ∧ v ≤ 9 := by simpa [isDigit] using h
  interval_cases v <;> decide

lemma valueLabel_mem (v : Int) : valueLabel v ∈ valueLabels := by
  rw [valueLabel, valueLabels]
  split
  · exact List.mem_append_left _ (digitLabel_mem ‹_›)
  · simp

lemma stageLabel_mem (stage : Stage) : stageLabel stage ∈ stageLabels := by
  cases stage <;> decide

lemma stageLabel_injective : Function.Injective stageLabel := by
  intro stage stage' h
  cases stage <;> cases stage' <;> first | rfl | exact absurd h (by decide)

lemma plain_valuesOff : Plain valuesOff := by
  decide +kernel

lemma plain_stagesOff : Plain stagesOff := by
  decide +kernel

lemma lowered_of_mem_valueLabels {key : String} (h : key ∈ valueLabels) : lowered key = key :=
  plain_valuesOff.lowered key (by simpa [valuesOff, valueLabels, Function.comp_def] using h)

lemma lowered_of_mem_stageLabels {key : String} (h : key ∈ stageLabels) : lowered key = key :=
  plain_stagesOff.lowered key (by simpa [stagesOff, stageLabels, Function.comp_def] using h)

lemma get?_valuesOff (key : String) :
    valuesOff.get? key = if key ∈ valueLabels then some .darkGray else none :=
  Assoc.get?_map_pair valueLabels (fun _ => Color.darkGray) key

lemma get?_stagesOff (key : String) :
    stagesOff.get? key = if key ∈ stageLabels then some .black else none := by
  have hmap : stagesOff = stageLabels.map fun key => (key, Color.black) := by
    rw [stagesOff, stageLabels, List.map_map]
    rfl
  rw [hmap, Assoc.get?_map_pair]

lemma valuePayload_eq (last : Option Int) (v : Int) :
    valuePayload last v = valuesOff.put (valueLabel v)
      (if isDigit v then if last = some v then .orange else .pink else .plainRed) := by
  rw [valuePayload, valueLabel]
  split <;> rfl

lemma get?_valuePayload (last : Option Int) (v : Int) (key : String) :
    (valuePayload last v).get? key =
      if key = valueLabel v then
        some (if isDigit v then if last = some v then .orange else .pink else .plainRed)
      else if key ∈ valueLabels then some .darkGray else none := by
  rw [valuePayload_eq, Assoc.get?_put, get?_valuesOff]
  simp only [eq_comm]

lemma get?_stagePayload (stage : Stage) (key : String) :
    (stagesOff.put (stageLabel stage) .cyan).get? key =
      if key = stageLabel stage then some .cyan
      else if key ∈ stageLabels then some .black else none := by
  rw [Assoc.get?_put, get?_stagesOff]
  simp only [eq_comm]

lemma get?_stagePayload_label (stage other : Stage) :
    (stagesOff.put (stageLabel stage) .cyan).get? (stageLabel other)
      = some (if stage = other then .cyan else .black) := by
  rw [get?_stagePayload, if_pos (stageLabel_mem other)]
  by_cases heq : stage = other
  · rw [if_pos (by rw [heq]), if_pos heq]
  · rw [if_neg fun h => heq (stageLabel_injective h).symm, if_neg heq]

lemma mem_stageLabels_of_payload {stage : Stage} {key : String}
    (h : key ∈ (stagesOff.put (stageLabel stage) .cyan).map (·.1)) : key ∈ stageLabels := by
  rcases Assoc.mem_keys_put h with rfl | hold
  · exact stageLabel_mem stage
  · exact hold

lemma plain_valuePayload (last : Option Int) (v : Int) : Plain (valuePayload last v) := by
  rw [valuePayload_eq]
  exact plain_valuesOff.put (lowered_of_mem_valueLabels (valueLabel_mem v)) _

lemma plain_stagePayload (stage : Stage) : Plain (stagesOff.put (stageLabel stage) .cyan) :=
  plain_stagesOff.put (lowered_of_mem_stageLabels (stageLabel_mem stage)) _

/-! ## What each part writes -/

section Parts

variable {d : Display} {labels : LabelMap}

lemma onPanel_ok {α : Type} {step : PanelM α} {a : α} {q : Panel} (h : step d.panel = .ok a q) :
    onPanel step d = .ok a { d with panel := q } := by
  rw [onPanel, h]

lemma apply_recolors (h : d.panel.Faithful labels Set.univ) {payload : Payload}
    (hplain : Plain payload) :
    ∃ q, apply payload d = .ok () { d with panel := q } ∧
      Recolors d.panel labels Set.univ payload q := by
  obtain ⟨q, hq, hrecolors⟩ := setTogether_recolors h hplain fun _ _ => Set.mem_univ _
  refine ⟨q, ?_, hrecolors⟩
  rw [apply, bind_of_ok (onPanel_ok hq)]
  rfl

lemma showValue_recolors (h : d.panel.Faithful labels Set.univ) (v : Int) :
    ∃ q, showValue v d = .ok () { d with
        panel := q, lastDigit := if isDigit v then some v else none } ∧
      Recolors d.panel labels Set.univ (valuePayload d.lastDigit v) q := by
  rw [showValue, get_bind, modify_bind]
  exact apply_recolors (d := { d with lastDigit := if isDigit v then some v else none }) h
    (plain_valuePayload d.lastDigit v)

lemma clearValues_recolors (h : d.panel.Faithful labels Set.univ) :
    ∃ q, clearValues d = .ok () { d with panel := q, lastDigit := none } ∧
      Recolors d.panel labels Set.univ valuesOff q := by
  rw [clearValues, modify_bind]
  exact apply_recolors (d := { d with lastDigit := none }) h plain_valuesOff

lemma clearStages_ok {q : Panel} (hq : Panel.setTogether (wanted stagesOff) d.panel = .ok true q) :
    clearStages d = .ok () { d with panel := q, stage := none } := by
  rw [clearStages, bind_of_ok (onPanel_ok hq)]
  rfl

lemma clearStages_recolors (h : d.panel.Faithful labels Set.univ) :
    ∃ q, clearStages d = .ok () { d with panel := q, stage := none } ∧
      Recolors d.panel labels Set.univ stagesOff q := by
  obtain ⟨q, hq, hrecolors⟩ := setTogether_recolors h plain_stagesOff fun _ _ => Set.mem_univ _
  exact ⟨q, clearStages_ok hq, hrecolors⟩

/-- A stage that is remembered is not shown again. -/
lemma showStage_same {stage : Stage} (hsame : d.stage = some stage) :
    showStage stage d = .ok () d := by
  rw [showStage, get_bind, if_pos hsame]
  rfl

lemma showStage_ok {stage : Stage} (hnew : d.stage ≠ some stage) {q : Panel}
    (hq : Panel.setTogether (wanted (stagesOff.put (stageLabel stage) .cyan)) d.panel
      = .ok true q) :
    showStage stage d = .ok () { d with panel := q, stage := some stage } := by
  rw [showStage, get_bind, if_neg hnew, bind_of_ok (onPanel_ok hq)]
  rfl

lemma showStage_recolors (h : d.panel.Faithful labels Set.univ) {stage : Stage}
    (hnew : d.stage ≠ some stage) :
    ∃ q, showStage stage d = .ok () { d with panel := q, stage := some stage } ∧
      Recolors d.panel labels Set.univ (stagesOff.put (stageLabel stage) .cyan) q := by
  obtain ⟨q, hq, hrecolors⟩ := setTogether_recolors h (plain_stagePayload stage) fun _ _ =>
    Set.mem_univ _
  exact ⟨q, showStage_ok hnew hq, hrecolors⟩

lemma showRunning_recolors (h : d.panel.Faithful labels Set.univ) (running : Bool) :
    ∃ q, showRunning running d = .ok () { d with panel := q } ∧
      Recolors d.panel labels Set.univ
        [(runningLabel, if running then .plainGreen else .black)] q := by
  have hconnected : d.panel.isConnected = true := by
    simp [Panel.isConnected, h.attached, h.known, h.works.connected]
  have hlower : lowered runningLabel = runningLabel := by decide +kernel
  obtain ⟨done, q, hq, hrecolors⟩ := setColor_recolors h hlower (Set.mem_univ _)
    (if running then .plainGreen else .black) false
  refine ⟨q, ?_, hrecolors⟩
  rw [showRunning, get_bind, if_pos hconnected, bind_of_ok (onPanel_ok hq)]
  rfl

end Parts

end Mailroom.Display
