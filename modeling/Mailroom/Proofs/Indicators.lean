import Mathlib
import Mailroom.Proofs.Payloads

/-!
# Three indicators on one keyboard

Number keys, arrow keys and the key for a running machine are told what to show in any order.  Each
of them remembers something of its own, and all of them write through one panel, which leaves out
what it has written before.  None of this is seen: each key shows what its own indicator was told
last.

- `Signal`: what a display can be told; `showAll`: what it does about it.
- `Signal.perform_effect`: what one signal writes, and what is remembered then.
- `Shown`: keys that show the last signals; `Shown.step`, `Shown.run`: they go on doing so.
- `signals_undisturbed`: all keys after any signals.
-/

namespace Mailroom.Display

/-- What a display can be told. -/
inductive Signal where
  | value (v : Int)
  | clearValues
  | stage (name : String)
  | clearStages
  | running (on : Bool)

namespace Signal

/-- What a display does about a signal. -/
def perform : Signal → DisplayM Unit
  | .value v => showValue v
  | .clearValues => Display.clearValues
  | .stage name => showStageNamed name
  | .clearStages => Display.clearStages
  | .running on => showRunning on

/-- A signal for the number keys: a value, or none when they turn off. -/
def value? : Signal → Option (Option Int)
  | .value v => some (some v)
  | .clearValues => some none
  | _ => none

/-- A signal for the arrow keys: a stage, or none when they turn off.  A name that belongs to no
stage is no signal. -/
def stage? : Signal → Option (Option Stage)
  | .stage name => (Stage.ofName? name).map some
  | .clearStages => some none
  | _ => none

/-- A signal for the key for a running machine. -/
def running? : Signal → Option Bool
  | .running on => some on
  | _ => none

/-- What a display writes about a signal. -/
def payload (d : Display) : Signal → Payload
  | .value v => valuePayload d.lastDigit v
  | .clearValues => valuesOff
  | .stage name =>
    match Stage.ofName? name with
    | none => []
    | some reached =>
      if d.stage = some reached then [] else stagesOff.put (stageLabel reached) .cyan
  | .clearStages => stagesOff
  | .running on => [(runningLabel, if on then .plainGreen else .black)]

/-- The labels of the keys that a signal is for. -/
def keys : Signal → List String
  | .value _ => valueLabels
  | .clearValues => valueLabels
  | .stage _ => stageLabels
  | .clearStages => stageLabels
  | .running _ => [runningLabel]

/-- What a signal does to a display. -/
structure Effect (s : Signal) (labels : LabelMap) (d d' : Display) : Prop where
  recolors : Recolors d.panel labels Set.univ (s.payload d) d'.panel
  lastDigit : d'.lastDigit = s.value?.elim d.lastDigit fun call => call.filter isDigit
  stage : d'.stage = s.stage?.getD d.stage

end Signal

/-- Follows signals one after the other. -/
def showAll : List Signal → DisplayM Unit
  | [] => pure ()
  | s :: rest => do
    s.perform
    showAll rest

/-! ## One signal -/

section One

variable {d : Display} {labels : LabelMap}

/-- **One signal.**  A display always does what it is told. -/
lemma Signal.perform_effect (h : d.panel.Faithful labels Set.univ) (s : Signal) :
    ∃ d', s.perform d = .ok () d' ∧ s.Effect labels d d' := by
  cases s with
  | value v =>
      obtain ⟨q, hq, hrecolors⟩ := showValue_recolors h v
      refine ⟨_, hq, hrecolors, ?_, rfl⟩
      simp [value?, Option.filter]
  | clearValues =>
      obtain ⟨q, hq, hrecolors⟩ := clearValues_recolors h
      exact ⟨_, hq, hrecolors, rfl, rfl⟩
  | stage name =>
      cases hname : Stage.ofName? name with
      | none =>
          refine ⟨d, ?_, ⟨?_, rfl, ?_⟩⟩
          · simp only [perform, showStageNamed, hname]
            rfl
          · simp only [payload, hname]
            exact .refl h
          · simp [stage?, hname]
      | some stage =>
          have hperform : perform (.stage name) d = showStage stage d := by
            simp only [perform, showStageNamed, hname]
          by_cases hsame : d.stage = some stage
          · refine ⟨d, hperform.trans (showStage_same hsame), ⟨?_, rfl, ?_⟩⟩
            · simp only [payload, hname, if_pos hsame]
              exact .refl h
            · simp [stage?, hname, hsame]
          · obtain ⟨q, hq, hrecolors⟩ := showStage_recolors h hsame
            refine ⟨_, hperform.trans hq, ⟨?_, rfl, ?_⟩⟩
            · simp only [payload, hname, if_neg hsame]
              exact hrecolors
            · simp [stage?, hname]
  | clearStages =>
      obtain ⟨q, hq, hrecolors⟩ := clearStages_recolors h
      exact ⟨_, hq, hrecolors, rfl, rfl⟩
  | running on =>
      obtain ⟨q, hq, hrecolors⟩ := showRunning_recolors h on
      exact ⟨_, hq, hrecolors, rfl, rfl⟩

end One

/-! ## What the keys show -/

/-- The colour of the key for a value, where `earlier` are the signals for number keys before it. -/
def valueColor (earlier : List (Option Int)) (v : Int) : Color :=
  if isDigit v then if earlier.getLast? = some (some v) then .orange else .pink else .plainRed

/-- The colour of a number key after the last signal for them. -/
def numberColor (earlier : List (Option Int)) (last : Option Int) (key : String) : Color :=
  last.elim .darkGray fun v => if key = valueLabel v then valueColor earlier v else .darkGray

/-- The stage of the last signal for the arrow keys. -/
def lastStage (signals : List Signal) : Option Stage :=
  (signals.filterMap Signal.stage?).getLast?.join

/-- Keys that show the last signals, and memories that agree with them. -/
structure Shown (labels : LabelMap) (signals : List Signal) (d : Display) : Prop where
  faithful : d.panel.Faithful labels Set.univ
  lastDigit : ∀ v, isDigit v = true →
    (d.lastDigit = some v ↔ (signals.filterMap Signal.value?).getLast? = some (some v))
  stage : d.stage = lastStage signals
  values : ∀ earlier last, signals.filterMap Signal.value? = earlier ++ [last] →
    ∀ key ∈ valueLabels, ∀ i, labels.get? key = some i →
      d.panel.keyboard.color i = numberColor earlier last key
  stages : ∀ stage i, labels.get? (stageLabel stage) = some i →
    d.panel.keyboard.color i = if lastStage signals = some stage then .cyan else .black
  running : ∀ i, labels.get? runningLabel = some i → d.panel.keyboard.color i =
    if (signals.filterMap Signal.running?).getLast? = some true then .plainGreen else .black

section Step

variable {d d' : Display} {labels : LabelMap} {signals : List Signal} {s : Signal}

lemma getLast?_filterMap_concat {α β : Type} (f : α → Option β) (front : List α) (a : α) :
    ((front ++ [a]).filterMap f).getLast? = (f a).or (front.filterMap f).getLast? := by
  cases h : f a <;> simp [List.filterMap_append, h]

lemma lastStage_concat (signals : List Signal) (s : Signal) :
    lastStage (signals ++ [s]) = s.stage?.getD (lastStage signals) := by
  rw [lastStage, getLast?_filterMap_concat]
  cases h : s.stage? <;> simp [lastStage]

/-- The indicators have no key in common. -/
lemma labels_apart :
    (∀ key ∈ valueLabels, key ∉ stageLabels ∧ key ≠ runningLabel) ∧ runningLabel ∉ stageLabels := by
  decide

/-- **Frame.**  A signal is written to the keys that it is for, and to no others. -/
lemma Signal.payload_of_notMem {key : String} (h : key ∉ s.keys) :
    (s.payload d).get? key = none := by
  cases s with
  | value v =>
      rw [keys] at h
      have hne : key ≠ valueLabel v := fun heq => h (heq ▸ valueLabel_mem v)
      rw [payload, get?_valuePayload, if_neg hne, if_neg h]
  | clearValues =>
      rw [keys] at h
      rw [payload, get?_valuesOff, if_neg h]
  | stage name =>
      rw [keys] at h
      simp only [payload]
      split
      · rfl
      · rename_i reached _
        have hne : key ≠ stageLabel reached := fun heq => h (heq ▸ stageLabel_mem reached)
        split
        · rfl
        · rw [get?_stagePayload, if_neg hne, if_neg h]
  | clearStages =>
      rw [keys] at h
      rw [payload, get?_stagesOff, if_neg h]
  | running on =>
      rw [keys, List.mem_singleton] at h
      rw [payload, Assoc.get?, if_neg (Ne.symm h)]
      rfl

lemma Signal.Effect.kept (h : s.Effect labels d d') {key : String} (hkey : key ∉ s.keys) {i : Int}
    (hi : labels.get? key = some i) : d'.panel.keyboard.color i = d.panel.keyboard.color i := by
  rw [h.recolors.colored key (Set.mem_univ _) i hi, payload_of_notMem hkey]
  rfl

/-! ### Number keys -/

lemma Signal.notMem_keys_of_value (hs : s.value? = none) {key : String} (hkey : key ∈ valueLabels) :
    key ∉ s.keys := by
  obtain ⟨hstage, hrunning⟩ := labels_apart.1 key hkey
  cases s with
  | value v => cases hs
  | clearValues => cases hs
  | stage name => exact hstage
  | clearStages => exact hstage
  | running on => exact fun hmem => hrunning (List.mem_singleton.mp hmem)

lemma Signal.payload_of_value {earlier : List (Option Int)} {last : Option Int}
    (hs : s.value? = some last)
    (hmemory : ∀ v, isDigit v = true → (d.lastDigit = some v ↔ earlier.getLast? = some (some v)))
    {key : String} (hkey : key ∈ valueLabels) :
    (s.payload d).get? key = some (numberColor earlier last key) := by
  cases s with
  | value v =>
      obtain rfl : some v = last := Option.some.inj hs
      rw [payload, get?_valuePayload, if_pos hkey, numberColor, Option.elim_some, valueColor]
      by_cases hv : isDigit v = true
      · simp only [hv, hmemory v hv, if_true]
        split <;> rfl
      · simp only [hv]
        split <;> rfl
  | clearValues =>
      obtain rfl : none = last := Option.some.inj hs
      rw [payload, get?_valuesOff, if_pos hkey]
      rfl
  | stage name => cases hs
  | clearStages => cases hs
  | running on => cases hs

lemma Shown.lastDigit_step (h : Shown labels signals d) (he : s.Effect labels d d') (v : Int)
    (hv : isDigit v = true) : d'.lastDigit = some v ↔
      ((signals ++ [s]).filterMap Signal.value?).getLast? = some (some v) := by
  rw [he.lastDigit, getLast?_filterMap_concat]
  cases hs : s.value? with
  | none => simpa using h.lastDigit v hv
  | some last =>
      simp only [Option.elim_some, Option.some_or, Option.some.injEq, Option.filter_eq_some_iff]
      exact ⟨fun hlast => hlast.1, fun hlast => ⟨hlast, hv⟩⟩

lemma Shown.values_step (h : Shown labels signals d) (he : s.Effect labels d d')
    (earlier : List (Option Int)) (last : Option Int)
    (hlast : (signals ++ [s]).filterMap Signal.value? = earlier ++ [last]) {key : String}
    (hkey : key ∈ valueLabels) {i : Int} (hi : labels.get? key = some i) :
    d'.panel.keyboard.color i = numberColor earlier last key := by
  cases hs : s.value? with
  | none =>
      rw [he.kept (Signal.notMem_keys_of_value hs hkey) hi]
      exact h.values earlier last (by simpa [List.filterMap_append, hs] using hlast) key hkey i hi
  | some call =>
      obtain ⟨rfl, rfl⟩ : signals.filterMap Signal.value? = earlier ∧ call = last := by
        simpa [List.filterMap_append, hs] using hlast
      rw [he.recolors.colored key (Set.mem_univ _) i hi,
        Signal.payload_of_value hs h.lastDigit hkey]
      rfl

/-! ### Arrow keys -/

lemma Signal.payload_of_not_stage (hs : s.stage? = none) (reached : Stage) :
    (s.payload d).get? (stageLabel reached) = none := by
  have hmem := stageLabel_mem reached
  cases s with
  | value v => exact payload_of_notMem fun hvalue => (labels_apart.1 _ hvalue).1 hmem
  | clearValues => exact payload_of_notMem fun hvalue => (labels_apart.1 _ hvalue).1 hmem
  | stage name =>
      have hname : Stage.ofName? name = none := by simpa [stage?] using hs
      simp only [payload, hname]
      rfl
  | clearStages => cases hs
  | running on =>
      exact payload_of_notMem fun hrunning =>
        labels_apart.2 (List.mem_singleton.mp hrunning ▸ hmem)

/-- The arrow keys are left alone only if the stage is remembered. -/
lemma Signal.payload_of_stage {last : Option Stage} (hs : s.stage? = some last) :
    (d.stage = last ∧ s.payload d = []) ∨ ∀ reached, (s.payload d).get? (stageLabel reached)
      = some (if last = some reached then .cyan else .black) := by
  cases s with
  | value v => cases hs
  | clearValues => cases hs
  | stage name =>
      obtain ⟨reached, hname, rfl⟩ := Option.map_eq_some_iff.mp hs
      simp only [payload, hname]
      by_cases hsame : d.stage = some reached
      · exact .inl ⟨hsame, if_pos hsame⟩
      · refine .inr fun other => ?_
        rw [if_neg hsame, get?_stagePayload_label]
        simp only [Option.some.injEq]
  | clearStages =>
      obtain rfl : none = last := Option.some.inj hs
      refine .inr fun reached => ?_
      rw [payload, get?_stagesOff, if_pos (stageLabel_mem reached), if_neg (by simp)]
  | running on => cases hs

lemma Shown.stages_step (h : Shown labels signals d) (he : s.Effect labels d d') (reached : Stage)
    (i : Int) (hi : labels.get? (stageLabel reached) = some i) : d'.panel.keyboard.color i =
      if lastStage (signals ++ [s]) = some reached then .cyan else .black := by
  rw [lastStage_concat, he.recolors.colored _ (Set.mem_univ _) i hi]
  cases hs : s.stage? with
  | none =>
      rw [Signal.payload_of_not_stage hs]
      exact h.stages reached i hi
  | some last =>
      -- a stage that is not written is remembered, and then its key is lit already
      rcases Signal.payload_of_stage (d := d) hs with ⟨hsame, hnone⟩ | hall
      · rw [hnone, Option.getD_some, ← hsame, h.stage]
        exact h.stages reached i hi
      · rw [hall reached]
        rfl

/-! ### The key for a running machine -/

lemma Shown.running_step (h : Shown labels signals d) (he : s.Effect labels d d') (i : Int)
    (hi : labels.get? runningLabel = some i) : d'.panel.keyboard.color i =
      if ((signals ++ [s]).filterMap Signal.running?).getLast? = some true then .plainGreen
      else .black := by
  rw [getLast?_filterMap_concat]
  have hstage := labels_apart.2
  have hvalue : runningLabel ∉ valueLabels := fun hmem => (labels_apart.1 _ hmem).2 rfl
  cases s with
  | value v => exact (he.kept hvalue hi).trans (h.running i hi)
  | clearValues => exact (he.kept hvalue hi).trans (h.running i hi)
  | stage name => exact (he.kept hstage hi).trans (h.running i hi)
  | clearStages => exact (he.kept hstage hi).trans (h.running i hi)
  | running on =>
      rw [he.recolors.colored _ (Set.mem_univ _) i hi]
      cases on <;> rfl

/-- **One signal.**  The keys go on showing the last signals. -/
lemma Shown.step (h : Shown labels signals d) (he : s.Effect labels d d') :
    Shown labels (signals ++ [s]) d' where
  faithful := he.recolors.faithful
  lastDigit := h.lastDigit_step he
  stage := by rw [he.stage, h.stage, lastStage_concat]
  values := fun earlier last hlast _ hkey _ hi => h.values_step he earlier last hlast hkey hi
  stages := h.stages_step he
  running := h.running_step he

/-- **Any signals.** -/
lemma Shown.run (h : Shown labels signals d) (rest : List Signal) :
    ∃ d', showAll rest d = .ok () d' ∧ Shown labels (signals ++ rest) d' := by
  induction rest generalizing signals d with
  | nil => exact ⟨d, rfl, by simpa using h⟩
  | cons s rest ih =>
      obtain ⟨d₁, hperform, he⟩ := s.perform_effect h.faithful
      obtain ⟨d', hrest, hshown⟩ := ih (h.step he)
      refine ⟨d', ?_, by simpa using hshown⟩
      rw [showAll, bind_of_ok hperform, hrest]

end Step

/-! ## From the start -/

section Start

variable {p : Panel} {d : Display} {labels : LabelMap}

/-- Black keys show that there have been no signals. -/
lemma Shown.start (h : d.panel.Faithful labels Set.univ) (hdigit : d.lastDigit = none)
    (hstage : d.stage = none)
    (hblack : ∀ key i, labels.get? key = some i → d.panel.keyboard.color i = .black) :
    Shown labels [] d where
  faithful := h
  lastDigit := by simp [hdigit]
  stage := hstage
  values := by simp
  stages := fun reached i hi => hblack _ i hi
  running := fun i hi => hblack _ i hi

lemma valueColor_ne (earlier : List (Option Int)) (v : Int) : valueColor earlier v ≠ .darkGray := by
  rw [valueColor]
  split
  · split <;> decide
  · decide

/-- **Indicators that do not disturb one another.**  On a keyboard that has just been connected and
turned black, whose labels have lights of their own, a display that remembers nothing follows any
signals, and of the keys that have a light:
after a value, the number key of that value, or the one for what is no digit, is lit, in a colour of
its own if the same digit was shown just before, and the others are off; after the number keys were
turned off all of them are; the arrow key of the last stage since the arrow keys were turned off is
lit and the other two are off; and the last key shows whether a machine was last said to run. -/
theorem signals_undisturbed (hwilling : p.keyboard.Willing)
    {map : Option (Except MapError (List LedRow))} (hconnect : Panel.connect map p = .ok () d.panel)
    (hlabels : d.panel.labels = some labels) (hfits : labels.Fits d.panel.keyboard Set.univ)
    (hdigit : d.lastDigit = none) (hstage : d.stage = none) (verbose : Bool)
    (signals : List Signal) :
    ∃ d₀ d', onPanel (Panel.clear verbose) d = .ok true d₀ ∧ showAll signals d₀ = .ok () d' ∧
      (∀ earlier v, signals.filterMap Signal.value? = earlier ++ [some v] →
        valueLabel v ∈ valueLabels ∧ ∀ key ∈ valueLabels, ∀ i, labels.get? key = some i →
          (d'.panel.keyboard.color i ≠ .darkGray ↔ key = valueLabel v) ∧
          (key = valueLabel v → d'.panel.keyboard.color i = valueColor earlier v)) ∧
      (∀ earlier, signals.filterMap Signal.value? = earlier ++ [none] →
        ∀ key ∈ valueLabels, ∀ i, labels.get? key = some i →
          d'.panel.keyboard.color i = .darkGray) ∧
      (∀ stage i, labels.get? (stageLabel stage) = some i →
        d'.panel.keyboard.color i = if lastStage signals = some stage then .cyan else .black) ∧
      (∀ i, labels.get? runningLabel = some i → d'.panel.keyboard.color i =
        if (signals.filterMap Signal.running?).getLast? = some true then .plainGreen
        else .black) := by
  have hfaithful := (Panel.connect_ok hconnect).faithful hwilling hlabels hfits
  obtain ⟨q, hclear, hblackened, hblack⟩ := Panel.clear_black hfaithful verbose
  -- what the display remembers agrees with black keys, and with no signals at all
  have hstart : Shown labels [] { d with panel := q } :=
    .start hblackened hdigit hstage fun key => hblack key (Set.mem_univ _)
  obtain ⟨d', hrun, hshown⟩ := hstart.run signals
  rw [List.nil_append] at hshown
  refine ⟨_, d', onPanel_ok hclear, hrun, fun earlier v hlast => ⟨valueLabel_mem v, ?_⟩,
    fun earlier hlast => hshown.values earlier none hlast, hshown.stages, hshown.running⟩
  intro key hkey i hi
  have hcolor := hshown.values earlier (some v) hlast key hkey i hi
  rw [hcolor, numberColor, Option.elim_some]
  by_cases hv : key = valueLabel v
  · simp [hv, valueColor_ne]
  · simp [hv]

/-- A digit that is shown twice, with a stage in between that is shown twice as well. -/
theorem signals_undisturbed_small :
    ∃ d₀ d', onPanel (Panel.clear false) ⟨stateOf (Panel.connect none Panel.small), none, none, 0⟩
        = .ok true d₀ ∧
      showAll [.value 12, .stage "EXTRACTING_TENS", .running true, .value 1, .stage "EMITTING",
        .stage "PAUSED", .stage "EMITTING", .value 1] d₀ = .ok () d' ∧
      d'.panel.keyboard.color 1 = .orange ∧ d'.panel.keyboard.color 2 = .darkGray ∧
      d'.panel.keyboard.color 3 = .darkGray ∧ d'.panel.keyboard.color 5 = .black ∧
      d'.panel.keyboard.color 6 = .cyan ∧ d'.panel.keyboard.color 0 = .plainGreen := by
  have hwilling : Panel.small.keyboard.Willing := ⟨rfl, rfl⟩
  obtain ⟨d₀, d', hclear, hrun, hvalues, -, hstages, hrunning⟩ := signals_undisturbed
    (d := ⟨stateOf (Panel.connect none Panel.small), none, none, 0⟩) hwilling
    Panel.small_connect.1 Panel.small_connect.2 (Panel.smallLabels_fits rfl) rfl rfl false
    [.value 12, .stage "EXTRACTING_TENS", .running true, .value 1, .stage "EMITTING",
      .stage "PAUSED", .stage "EMITTING", .value 1]
  obtain ⟨-, hkeys⟩ := hvalues [some 12, some 1] 1 rfl
  refine ⟨d₀, d', hclear, hrun, ?_, ?_, ?_, ?_, ?_, ?_⟩
  · exact (hkeys "1" (by decide) 1 rfl).2 (by decide)
  · exact not_not.mp (mt (hkeys "2" (by decide) 2 rfl).1.mp (by decide))
  · exact not_not.mp (mt (hkeys "backspace" (by decide) 3 rfl).1.mp (by decide))
  · exact hstages .extractingTens 5 rfl
  · exact hstages .emitting 6 rfl
  · exact hrunning 0 rfl

end Start

end Mailroom.Display
