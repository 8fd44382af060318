import Mathlib
import Mailroom.Proofs.Payloads

/-!
# A stage that is remembered

The arrow keys are not written again for the stage that a display remembers.  The display goes on
remembering it when keyboards come and go and when all lights turn black, so the keys may be dark
when that stage comes once more.  This is the only way: a stage is shown whenever the display has
remembered another one, or none, at any time since then.

- `Command`: what happens to a display besides values; `obeyAll`: what is left of it.
- `Panel.Orderly`: what holds of its panel whatever happens, also without a keyboard.
- `Current.step`, `Current.run`: a stage that is remembered is shown as long as nothing but stages
  comes.
- `stage_shown_since_reset`: hence when a stage is shown, and when it is not.
- `stage_dark_after_clear`: a stage that is not.
-/

namespace Mailroom

open Text

/-! ## Panels whatever happens -/

namespace Keyboard

variable {k : Keyboard}

lemma Works.willing (h : k.Works) : k.Willing := by
  cases k with
  | memory k => exact h.2
  | served k => trivial

lemma Willing.connect (h : k.Willing) : k.connect.keyboard.Willing := by
  cases k with
  | memory k =>
      simp only [Keyboard.connect, Reply.quiet, MemoryKeyboard.connect]
      split <;> exact h
  | served k => trivial

lemma Willing.disconnect (h : k.Willing) : k.disconnect.keyboard.Willing := by
  cases k with
  | memory k => exact h
  | served k => trivial

end Keyboard

namespace Panel

/-- A panel that is ready if it knows its labels, and faithful if these have lights of their own. -/
structure Orderly (p : Panel) (keys : Set String) : Prop where
  willing : p.keyboard.Willing
  ready : ∀ labels, p.attached = true → p.labels = some labels → p.Ready labels
  faithful : ∀ labels, p.Ready labels → labels.Fits p.keyboard keys → p.Faithful labels keys

section Orderly

variable {p q : Panel} {labels : LabelMap} {keys : Set String}

/-- A panel that does not know its labels need not be anything else. -/
lemma orderly_of_unknown (hwilling : p.keyboard.Willing)
    (hunknown : p.attached = true → p.labels = none) : p.Orderly keys := by
  have hnone : ∀ labels, p.attached = true → p.labels ≠ some labels := by
    intro labels hattached hknown
    rw [hunknown hattached] at hknown
    cases hknown
  exact ⟨hwilling, fun labels hattached hknown => absurd hknown (hnone labels hattached),
    fun labels hready => absurd hready.known (hnone labels hready.attached)⟩

lemma Ready.orderly (h : p.Ready labels)
    (hfaithful : labels.Fits p.keyboard keys → p.Faithful labels keys) : p.Orderly keys := by
  refine ⟨h.works.willing, fun labels' _ hknown => ?_, fun labels' hready hfits => ?_⟩
  · rw [h.known] at hknown
    cases hknown
    exact h
  · obtain rfl : labels = labels' := Option.some.inj (h.known.symm.trans hready.known)
    exact hfaithful hfits

/-- A panel is ready, or it refuses and nothing happens. -/
lemma Orderly.ready_or (h : p.Orderly keys) :
    (∃ labels, p.Ready labels) ∨ requireLabels p = .error .notConnected p := by
  rw [requireLabels, get_bind]
  cases hattached : p.attached with
  | false => exact .inr rfl
  | true =>
      cases hlabels : p.labels with
      | none => exact .inr rfl
      | some labels => exact .inl ⟨labels, h.ready labels hattached hlabels⟩

lemma connect_orderly (hwilling : p.keyboard.Willing)
    (map : Option (Except MapError (List LedRow))) : (stateOf (connect map p)).Orderly keys := by
  rcases connect_cases map p with ⟨q, hq, hconnects⟩ | ⟨e, q, hq, hmisses⟩
  · rw [hq]
    obtain ⟨labels, hlabels⟩ := hconnects.known
    exact (hconnects.ready hwilling hlabels).orderly fun hfits =>
      hconnects.faithful hwilling hlabels hfits
  · rw [hq]
    refine orderly_of_unknown ?_ fun _ => hmisses.unknown
    rw [stateOf, hmisses.keyboard]
    exact hwilling.connect

lemma disconnect_orderly (hwilling : p.keyboard.Willing) :
    (stateOf (disconnect p)).Orderly keys := by
  rw [disconnect]
  dsimp only
  cases hattached : p.attached with
  | false => exact orderly_of_unknown hwilling fun _ => rfl
  | true =>
      cases hresult : p.keyboard.disconnect.result with
      | ok done =>
          rw [if_pos rfl, ask_ok hresult]
          exact orderly_of_unknown hwilling.disconnect fun _ => rfl
      | error e =>
          rw [if_pos rfl, ask_error hresult]
          exact orderly_of_unknown hwilling.disconnect fun _ => rfl

lemma clear_orderly (h : p.Orderly keys) (verbose : Bool) :
    (stateOf (clear verbose p)).Orderly keys := by
  rcases h.ready_or with ⟨labels, hready⟩ | hrefused
  · have hends := clear_ends hready verbose
    refine hends.ready.orderly fun hfits => ?_
    exact (h.faithful labels hready (hfits.congr hends.limit.symm)).clear verbose
  · rw [clear, bind_of_error hrefused]
    exact h

/-- Once all lights have turned black, so have the keys that have lights of their own. -/
lemma Orderly.clear_black (h : p.Orderly keys) {verbose : Bool}
    (hready : (stateOf (clear verbose p)).Ready labels)
    (hfits : labels.Fits (stateOf (clear verbose p)).keyboard keys) {key : String}
    (hkey : key ∈ keys) {i : Int} (hi : labels.get? key = some i) :
    (stateOf (clear verbose p)).keyboard.color i = .black := by
  rcases h.ready_or with ⟨labels', hbefore⟩ | hrefused
  · have hends := clear_ends hbefore verbose
    obtain rfl : labels' = labels := Option.some.inj (hends.ready.known.symm.trans hready.known)
    have hfaithful := h.faithful labels' hbefore (hfits.congr hends.limit.symm)
    obtain ⟨q, hq, -, hblack⟩ := Panel.clear_black hfaithful verbose
    rw [hq]
    exact hblack key hkey i hi
  · rw [clear, bind_of_error hrefused] at hready
    have hlabels := requireLabels_ready hready
    rw [stateOf, hrefused] at hlabels
    cases hlabels

end Orderly

end Panel

namespace Display

/-! ## What happens to a display -/

/-- The keys for stages. -/
def stageKeys : Set String :=
  { key | key ∈ stageLabels }

/-- The key for a stage is lit, and the other two are off. -/
def Shows (labels : LabelMap) (stage : Stage) (p : Panel) : Prop :=
  ∀ other i, labels.get? (stageLabel other) = some i →
    p.keyboard.color i = if stage = other then .cyan else .black

/-- What can happen to a display besides values: a keyboard comes, maybe another one than before,
or goes; all lights turn black; a stage is named; the arrow keys turn off. -/
inductive Command where
  | connect (other : Option Keyboard) (map : Option (Except MapError (List LedRow)))
  | disconnect
  | clear (verbose : Bool)
  | stage (name : String)
  | clearStages

namespace Command

/-- What a display does then. -/
def perform : Command → DisplayM Unit
  | .connect other map => do
    modify fun d => { d with panel := { d.panel with keyboard := other.getD d.panel.keyboard } }
    onPanel (Panel.connect map)
  | .disconnect => onPanel Panel.disconnect
  | .clear verbose => do
    let _ ← onPanel (Panel.clear verbose)
  | .stage name => showStageNamed name
  | .clearStages => Display.clearStages

/-- A keyboard that comes is willing. -/
def Willing : Command → Prop
  | .connect (some k) _ => k.Willing
  | _ => True

/-- What changes the lights behind the back of a display that remembers a stage. -/
def Resets : Command → Prop
  | .connect _ _ => True
  | .disconnect => True
  | .clear _ => True
  | .stage _ => False
  | .clearStages => False

end Command

/-- What is left of a display, whatever each command comes to. -/
def obeyAll (commands : List Command) (d : Display) : Display :=
  commands.foldl (fun d c => stateOf (c.perform d)) d

lemma obeyAll_append (front back : List Command) (d : Display) :
    obeyAll (front ++ back) d = obeyAll back (obeyAll front d) :=
  List.foldl_append

/-! ## Stages on an orderly panel -/

section Stages

variable {d : Display} {p : Panel} {labels : LabelMap} {payload : Payload}

lemma setTogether_orderly {keys : Set String} (h : p.Orderly keys) (hready : p.Ready labels)
    (hplain : Plain payload) (hkeys : ∀ key ∈ payload.map (·.1), key ∈ keys) :
    ∃ q, Panel.setTogether (wanted payload) p = .ok true q ∧ q.Orderly keys ∧ q.Ready labels ∧
      q.keyboard.lightLimit? = p.keyboard.lightLimit? ∧
      (labels.Fits p.keyboard keys → Recolors p labels keys payload q) := by
  obtain ⟨all, hall⟩ := resolve_wanted labels payload
  rw [← hplain.ofPairs_wanted] at hall
  obtain ⟨q, hq, hwrites⟩ := Panel.setTogether_writes hready hall
  -- writing succeeds in any case, but only lights of their own are sure to have the colours
  have hrecolors : labels.Fits p.keyboard keys → Recolors p labels keys payload q := by
    intro hfits
    obtain ⟨q', hq', hrecolors⟩ :=
      setTogether_recolors (h.faithful labels hready hfits) hplain hkeys
    rw [hq] at hq'
    cases hq'
    exact hrecolors
  have hready' := hwrites.ready hready
  have horderly : q.Orderly keys := hready'.orderly fun hfits =>
    (hrecolors (hfits.congr hwrites.limit.symm)).faithful
  exact ⟨q, hq, horderly, hready', hwrites.limit, hrecolors⟩

/-- What is left of a panel after a new stage has been shown. -/
structure Turns (labels : LabelMap) (stage : Stage) (p q : Panel) : Prop where
  orderly : q.Orderly stageKeys
  ready : q.Ready labels
  limit : q.keyboard.lightLimit? = p.keyboard.lightLimit?
  shows : labels.Fits p.keyboard stageKeys → Shows labels stage q

/-- **A new stage.**  It is shown and remembered. -/
lemma showStage_turns (h : d.panel.Orderly stageKeys) (hready : d.panel.Ready labels)
    {stage : Stage} (hnew : d.stage ≠ some stage) :
    ∃ q, showStage stage d = .ok () { d with panel := q, stage := some stage } ∧
      Turns labels stage d.panel q := by
  obtain ⟨q, hq, horderly, hready', hlimit, hrecolors⟩ := setTogether_orderly h hready
    (plain_stagePayload stage) fun _ hkey => mem_stageLabels_of_payload hkey
  refine ⟨q, showStage_ok hnew hq, horderly, hready', hlimit, fun hfits other i hi => ?_⟩
  rw [(hrecolors hfits).colored _ (stageLabel_mem other) i hi, get?_stagePayload_label]
  rfl

/-- Naming a stage does nothing, or it is new and shown. -/
lemma showStage_cases (h : d.panel.Orderly stageKeys) (stage : Stage) :
    stateOf (showStage stage d) = d ∨ ∃ q labels,
      showStage stage d = .ok () { d with panel := q, stage := some stage } ∧
        Turns labels stage d.panel q := by
  by_cases hsame : d.stage = some stage
  · rw [showStage_same hsame]
    exact .inl rfl
  · rcases h.ready_or with ⟨labels, hready⟩ | hrefused
    · obtain ⟨q, hq, hturns⟩ := showStage_turns h hready hsame
      exact .inr ⟨q, labels, hq, hturns⟩
    · left
      have herror : onPanel (Panel.setTogether
          (wanted (stagesOff.put (stageLabel stage) .cyan))) d = .error .notConnected d := by
        rw [onPanel, Panel.setTogether, bind_of_error hrefused]
      rw [showStage, get_bind, if_neg hsame, bind_of_error herror]
      rfl

lemma showStage_keeps (h : d.panel.Orderly stageKeys) (stage : Stage) :
    (stateOf (showStage stage d)).panel.Orderly stageKeys := by
  rcases showStage_cases h stage with hkept | ⟨q, labels, hq, hturns⟩
  · rw [hkept]
    exact h
  · rw [hq]
    exact hturns.orderly

lemma clearStages_orderly (h : d.panel.Orderly stageKeys) :
    (stateOf (clearStages d)).panel.Orderly stageKeys ∧
      (stateOf (clearStages d) = d ∨ (stateOf (clearStages d)).stage = none) := by
  rcases h.ready_or with ⟨labels, hready⟩ | hrefused
  · obtain ⟨q, hq, horderly, -⟩ := setTogether_orderly h hready plain_stagesOff fun _ hkey => hkey
    rw [clearStages_ok hq]
    exact ⟨horderly, .inr rfl⟩
  · have herror : onPanel (Panel.setTogether (wanted stagesOff)) d = .error .notConnected d := by
      rw [onPanel, Panel.setTogether, bind_of_error hrefused]
    rw [clearStages, bind_of_error herror]
    exact ⟨h, .inl rfl⟩

end Stages

/-! ## A stage that is remembered -/

/-- A display that shows a stage if it remembers it. -/
structure Current (stage : Stage) (d : Display) : Prop where
  orderly : d.panel.Orderly stageKeys
  shows : d.stage = some stage → ∀ labels, d.panel.Ready labels →
    labels.Fits d.panel.keyboard stageKeys → Shows labels stage d.panel

section Current

variable {d : Display} {labels : LabelMap} {stage : Stage} {c : Command}

lemma showStage_current (h : Current stage d) (other : Stage) :
    Current stage (stateOf (showStage other d)) := by
  rcases showStage_cases h.orderly other with hkept | ⟨q, labels, hq, hturns⟩
  · rw [hkept]
    exact h
  · rw [hq]
    refine ⟨hturns.orderly, fun hstage labels' hready hfits => ?_⟩
    obtain rfl : other = stage := Option.some.inj hstage
    obtain rfl : labels = labels' := Option.some.inj (hturns.ready.known.symm.trans hready.known)
    exact hturns.shows (hfits.congr hturns.limit.symm)

/-- **Stages.**  As long as nothing but stages comes, the one that is remembered is shown. -/
lemma Current.step (h : Current stage d) (hreset : ¬ c.Resets) :
    Current stage (stateOf (c.perform d)) := by
  cases c with
  | connect other map => exact absurd trivial hreset
  | disconnect => exact absurd trivial hreset
  | clear verbose => exact absurd trivial hreset
  | stage name =>
      rw [Command.perform, showStageNamed]
      cases Stage.ofName? name with
      | none => exact h
      | some other => exact showStage_current h other
  | clearStages =>
      obtain ⟨horderly, hkept | hnone⟩ := clearStages_orderly h.orderly
      · rw [Command.perform, hkept]
        exact h
      · refine ⟨horderly, fun hstage => ?_⟩
        rw [Command.perform, hnone] at hstage
        cases hstage

lemma Current.run (h : Current stage d) {since : List Command}
    (hsince : ∀ c ∈ since, ¬ c.Resets) : Current stage (obeyAll since d) := by
  induction since generalizing d with
  | nil => exact h
  | cons c since ih =>
      exact ih (h.step (hsince c List.mem_cons_self)) fun c' hc' =>
        hsince c' (List.mem_cons_of_mem _ hc')

lemma Command.clear_panel (verbose : Bool) (d : Display) :
    stateOf (perform (.clear verbose) d)
      = { d with panel := stateOf (Panel.clear verbose d.panel) } := by
  rw [perform]
  cases hclear : Panel.clear verbose d.panel with
  | ok done q =>
      rw [bind_of_ok (onPanel_ok hclear)]
      rfl
  | error e q =>
      have herror : onPanel (Panel.clear verbose) d = .error e { d with panel := q } := by
        rw [onPanel, hclear]
      rw [bind_of_error herror]
      rfl

lemma obeyAll_clear (verbose : Bool) (d : Display) : obeyAll [.clear verbose] d
    = { d with panel := stateOf (Panel.clear verbose d.panel) } :=
  Command.clear_panel verbose d

/-- **Anything.**  Whatever happens, a panel stays orderly. -/
lemma Command.perform_orderly (h : d.panel.Orderly stageKeys) (hc : c.Willing) :
    (stateOf (c.perform d)).panel.Orderly stageKeys := by
  cases c with
  | connect other map =>
      have hwilling : (other.getD d.panel.keyboard).Willing := by
        cases other with
        | none => exact h.willing
        | some k => exact hc
      rw [perform, modify_bind, stateOf_onPanel]
      exact Panel.connect_orderly hwilling map
  | disconnect =>
      rw [perform, stateOf_onPanel]
      exact Panel.disconnect_orderly h.willing
  | clear verbose =>
      rw [clear_panel]
      exact Panel.clear_orderly h verbose
  | stage name =>
      rw [perform, showStageNamed]
      cases Stage.ofName? name with
      | none => exact h
      | some stage => exact showStage_keeps h stage
  | clearStages => exact (clearStages_orderly h).1

lemma obeyAll_orderly (h : d.panel.Orderly stageKeys) {commands : List Command}
    (hcommands : ∀ c ∈ commands, c.Willing) : (obeyAll commands d).panel.Orderly stageKeys := by
  induction commands generalizing d with
  | nil => exact h
  | cons c commands ih =>
      exact ih (Command.perform_orderly h (hcommands c List.mem_cons_self)) fun c' hc' =>
        hcommands c' (List.mem_cons_of_mem _ hc')

lemma ofName?_name (stage : Stage) : Stage.ofName? stage.name = some stage := by
  cases stage <;> decide

/-- **When a stage is shown.**  Let anything happen to a display without a keyboard, with willing
keyboards, until it has one on which the arrow keys have lights of their own.  A stage that is named
then is taken without trouble.  If the display remembers it, nothing changes.  The key of the stage
is lit and the other two are off, if the display did not remember the stage at some time since the
last keyboard came or went or all lights turned black.  If it did, and they have just turned black,
all three are black. -/
theorem stage_shown_since_reset (hwilling : d.panel.keyboard.Willing)
    (hstart : d.panel.attached = false) (commands : List Command)
    (hcommands : ∀ c ∈ commands, c.Willing)
    (hconnected : (obeyAll commands d).panel.isConnected = true)
    (hlabels : (obeyAll commands d).panel.labels = some labels)
    (hfits : labels.Fits (obeyAll commands d).panel.keyboard stageKeys) (stage : Stage) :
    ∃ d', showStageNamed stage.name (obeyAll commands d) = .ok () d' ∧
      ((obeyAll commands d).stage = some stage → d' = obeyAll commands d) ∧
      (∀ before since, commands = before ++ since → (∀ c ∈ since, ¬ c.Resets) →
        (obeyAll before d).stage ≠ some stage → Shows labels stage d'.panel) ∧
      (∀ before verbose, commands = before ++ [.clear verbose] →
        (obeyAll before d).stage = some stage → ∀ other i,
          labels.get? (stageLabel other) = some i → d'.panel.keyboard.color i = .black) := by
  have hbegin : d.panel.Orderly stageKeys :=
    Panel.orderly_of_unknown hwilling fun hattached => absurd hattached (by simp [hstart])
  have horderly := obeyAll_orderly hbegin hcommands
  have hattached : (obeyAll commands d).panel.attached = true := by
    simp only [Panel.isConnected, Bool.and_eq_true] at hconnected
    exact hconnected.1.1
  have hready := horderly.ready labels hattached hlabels
  have hnamed : showStageNamed stage.name (obeyAll commands d)
      = showStage stage (obeyAll commands d) := by
    rw [showStageNamed, ofName?_name]
  rw [hnamed]
  by_cases hsame : (obeyAll commands d).stage = some stage
  · refine ⟨_, showStage_same hsame, fun _ => rfl, ?_, ?_⟩
    · rintro before since rfl hsince hbefore
      -- it was not remembered then, so it has been shown since, and nothing has come between
      have hcurrent : Current stage (obeyAll before d) :=
        ⟨obeyAll_orderly hbegin fun c hc => hcommands c (List.mem_append_left _ hc),
          fun hstage => absurd hstage hbefore⟩
      rw [obeyAll_append] at hsame hready hfits ⊢
      exact (hcurrent.run hsince).shows hsame labels hready hfits
    · rintro before verbose rfl - other i hi
      have hbefore : (obeyAll before d).panel.Orderly stageKeys :=
        obeyAll_orderly hbegin fun c hc => hcommands c (List.mem_append_left _ hc)
      rw [obeyAll_append, obeyAll_clear] at hready hfits ⊢
      exact hbefore.clear_black hready hfits (stageLabel_mem other) hi
  · obtain ⟨q, hq, hturns⟩ := showStage_turns horderly hready hsame
    refine ⟨_, hq, fun hstage => absurd hstage hsame, fun _ _ _ _ _ => hturns.shows hfits, ?_⟩
    rintro before verbose rfl hbefore
    rw [obeyAll_append, obeyAll_clear] at hsame
    exact absurd hbefore hsame

/-- A stage is shown, all lights turn black, and another stage is shown. -/
def darkBetween : List Command :=
  [.connect none none, .stage "EMITTING", .clear false, .stage "EXTRACTING_TENS"]

/-- The first stage is then shown again, and once more when it is named twice. -/
theorem stage_shown_since_reset_small :
    ∃ d', showStageNamed "EMITTING" (obeyAll (darkBetween ++ [.stage "EMITTING"])
        { panel := Panel.small }) = .ok () d' ∧
      Shows Panel.smallLabels .emitting d'.panel := by
  have hwilling : Panel.small.keyboard.Willing := ⟨rfl, rfl⟩
  have hcommands : ∀ c ∈ darkBetween ++ [.stage "EMITTING"], c.Willing := by
    simp [darkBetween, Command.Willing]
  obtain ⟨hconnected, hlabels, hlimit, hbefore⟩ :
      (obeyAll (darkBetween ++ [.stage "EMITTING"])
        { panel := Panel.small }).panel.isConnected = true ∧
      (obeyAll (darkBetween ++ [.stage "EMITTING"])
        { panel := Panel.small }).panel.labels = some Panel.smallLabels ∧
      (obeyAll (darkBetween ++ [.stage "EMITTING"])
        { panel := Panel.small }).panel.keyboard.lightLimit? = none ∧
      (obeyAll darkBetween { panel := Panel.small }).stage ≠ some .emitting := by
    decide +kernel
  obtain ⟨d', hd', -, hshows, -⟩ := stage_shown_since_reset (d := { panel := Panel.small }) hwilling
    rfl _ hcommands hconnected hlabels
    ((Panel.smallLabels_fits hlimit).mono (Set.subset_univ _)) .emitting
  exact ⟨d', hd', hshows darkBetween [.stage "EMITTING"] rfl (by simp [Command.Resets]) hbefore⟩

/-- **A stage that is not shown.**  The keyboard is connected and the arrow keys have lights of
their own, but the stage was shown before all lights turned black, and is not shown again. -/
theorem stage_dark_after_clear :
    (fun d : Display => d.panel.isConnected = true ∧ d.panel.labels = some Panel.smallLabels ∧
      Panel.smallLabels.Fits d.panel.keyboard stageKeys ∧
      showStageNamed "EMITTING" d = .ok () d ∧ ¬ Shows Panel.smallLabels .emitting d.panel)
    (obeyAll [.connect none none, .stage "EMITTING", .clear false] { panel := Panel.small }) := by
  generalize hd : obeyAll [.connect none none, .stage "EMITTING", .clear false]
    { panel := Panel.small } = d
  obtain ⟨hconnected, hlabels, hlimit, hstage, hdark⟩ : d.panel.isConnected = true ∧
      d.panel.labels = some Panel.smallLabels ∧ d.panel.keyboard.lightLimit? = none ∧
      d.stage = some .emitting ∧ d.panel.keyboard.color 6 = .black := by
    rw [← hd]
    decide +kernel
  refine ⟨hconnected, hlabels, (Panel.smallLabels_fits hlimit).mono (Set.subset_univ _),
    showStage_same hstage, fun hshows => ?_⟩
  have hlit := hshows .emitting 6 rfl
  rw [hdark] at hlit
  exact absurd hlit (by decide)

end Current

end Display

end Mailroom
