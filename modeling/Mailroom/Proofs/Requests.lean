import Mathlib
import Mailroom.Proofs.ShownColors

/-!
# What is asked of a panel

Three things can be asked of a panel: a colour for one label, colours for several, and that all
lights turn black.  What each of them comes to, and what the lights look like then, is said without
a memory for colours (`answer`, `lightsAfter`).  A panel with such a memory and one without both
come to just that, so nobody can tell them apart.

- `Request.perform`: what a panel does, and `Request.write`: what one does that writes every colour.
- `perform_ends`, `write_ends`: what comes of it.
- `Mirrors.run`: hence the lights look the same after any requests.
- `memory_unnoticed`: colours that are remembered, colours that were asked for, and all lights.
-/

namespace Mailroom.Panel

open Text

/-- What can be asked of a panel. -/
inductive Request where
  | single (label : String) (color : Except ColorError Color) (verbose : Bool)
  | together (wanted : List (String × Except ColorError Color))
  | clear (verbose : Bool)

/-! ## Panels that write every colour -/

/-- Gives a label a colour, whatever it was given before. -/
def writeColor (label : String) (color : Except ColorError Color) : PanelM Bool := do
  let labels ← requireLabels
  match labels.get? (lowered label) with
  | none => return false
  | some index => ask (Keyboard.setColor index (← requireColor color))

/-- Gives labels their colours together, whatever they were given before. -/
def writeTogether (wanted : List (String × Except ColorError Color)) : PanelM Bool := do
  let labels ← requireLabels
  match resolve labels (Assoc.ofPairs wanted) with
  | .error e => throw (.color e)
  | .ok [] => return true
  | .ok changes => ask (Keyboard.setMany (lightsOf changes))

namespace Request

/-- What a panel does about a request. -/
def perform : Request → PanelM Bool
  | .single label color verbose => setColor label color verbose
  | .together wanted => setTogether wanted
  | .clear verbose => Panel.clear verbose

/-- What a panel does about a request that has no memory for colours. -/
def write : Request → PanelM Bool
  | .single label color _ => writeColor label color
  | .together wanted => writeTogether wanted
  | .clear verbose => Panel.clear verbose

/-- The labels that a request names, with the colours that it asks for. -/
def named : Request → List (String × Except ColorError Color)
  | .single label color _ => [(label, color)]
  | .together wanted => Assoc.ofPairs wanted
  | .clear _ => []

/-- No two labels that a request names are the same but for the size of letters. -/
def Distinct (r : Request) : Prop :=
  (keysOf r.named).Nodup

instance (r : Request) : Decidable r.Distinct :=
  inferInstanceAs (Decidable (keysOf r.named).Nodup)

/-- What a request comes to. -/
def answer (labels : LabelMap) : Request → Except PanelError Bool
  | .single label color _ =>
    match labels.get? (lowered label), color with
    | none, _ => .ok false
    | some _, .ok _ => .ok true
    | some _, .error e => .error (.color e)
  | .together wanted =>
    match resolve labels (Assoc.ofPairs wanted) with
    | .ok _ => .ok true
    | .error e => .error (.color e)
  | .clear _ => .ok true

/-- The colours of lights after all changes that labels ask for. -/
def painted (labels : LabelMap) (lights : Int → Color)
    (named : List (String × Except ColorError Color)) : Int → Color :=
  match resolve labels named with
  | .ok all => repaint lights (lightsOf all)
  | .error _ => lights

/-- The colours of the lights after a request, on a keyboard with that many lights. -/
def lightsAfter (labels : LabelMap) (limit : Option Int) (lights : Int → Color) :
    Request → Int → Color
  | .single label color _ => painted labels lights [(label, color)]
  | .together wanted => painted labels lights (Assoc.ofPairs wanted)
  | .clear _ => fun i => if 0 ≤ i ∧ i < limit.getD (lightCount labels) then .black else lights i

lemma painted_ok {labels : LabelMap} {named : List (String × Except ColorError Color)}
    {all : List LightChange} (h : resolve labels named = .ok all) (lights : Int → Color) :
    painted labels lights named = repaint lights (lightsOf all) := by
  rw [painted, h]

lemma painted_error {labels : LabelMap} {named : List (String × Except ColorError Color)}
    {e : ColorError} (h : resolve labels named = .error e) (lights : Int → Color) :
    painted labels lights named = lights := by
  rw [painted, h]

/-- Labels that are not named keep their colours. -/
lemma painted_of_notMem {labels : LabelMap} {named : List (String × Except ColorError Color)}
    {k : Keyboard} {keys : Set String} (hfits : labels.Fits k keys)
    (hkeys : ∀ key ∈ keysOf named, key ∈ keys) {key : String} (hkey : key ∈ keys)
    (hnot : key ∉ keysOf named) {i : Int} (hi : labels.get? key = some i) (lights : Int → Color) :
    painted labels lights named i = lights i := by
  cases hresolve : resolve labels named with
  | error e => rw [painted_error hresolve]
  | ok all =>
      rw [painted_ok hresolve]
      refine repaint_of_notMem fun hmem => hnot ?_
      obtain ⟨⟨_, c⟩, hpair, rfl⟩ := List.mem_map.mp hmem
      obtain ⟨change, hin, heq⟩ := List.mem_map.mp hpair
      cases heq
      obtain ⟨hindex, hnamed⟩ := of_mem_resolve hresolve hin
      rw [hfits.apart _ hkey _ (hkeys _ hnamed) _ hi hindex]
      exact hnamed

end Request

/-! ## One request -/

/-- A request that is over: what it came to, and what the lights look like. -/
structure Ends (p : Panel) (labels : LabelMap) (r : Request)
    (result : EStateM.Result PanelError Panel Bool) : Prop where
  outcome : outcomeOf result = r.answer labels
  ready : (stateOf result).Ready labels
  limit : (stateOf result).keyboard.lightLimit? = p.keyboard.lightLimit?
  lights : (stateOf result).keyboard.lights
    = r.lightsAfter labels p.keyboard.lightLimit? p.keyboard.lights

section One

variable {p q : Panel} {labels : LabelMap} {keys : Set String}

lemma clear_ends (h : p.Ready labels) (verbose : Bool) :
    p.Ends labels (.clear verbose) (clear verbose p) := by
  have hobeys := Keyboard.clear_obeys h.works (lightCount labels) verbose
  rw [clear_eq h]
  exact ⟨rfl, ⟨h.attached, h.known, hobeys.works⟩, hobeys.limit,
    Keyboard.lights_clear h.works (lightCount labels) verbose⟩

lemma setColor_ends (h : p.Faithful labels keys) {label : String} (hkey : lowered label ∈ keys)
    (color : Except ColorError Color) (verbose : Bool) :
    p.Ends labels (.single label color verbose) (setColor label color verbose p) ∧
      (stateOf (setColor label color verbose p)).Faithful labels keys := by
  cases hlight : labels.get? (lowered label) with
  | none =>
      have hresolve : resolve labels [(label, color)] = .ok [] := resolve_unlit hlight color
      rw [setColor_unlit h.toReady hlight]
      refine ⟨⟨?_, h.toReady, rfl, ?_⟩, h⟩
      · simp [outcomeOf, Request.answer, hlight]
      · rw [Request.lightsAfter, Request.painted_ok hresolve]
        rfl
  | some i =>
      cases color with
      | error e =>
          have hresolve : resolve labels [(label, .error e)] = .error e := resolve_error hlight e
          rw [setColor_error h.toReady hlight]
          refine ⟨⟨?_, h.toReady, rfl, ?_⟩, h⟩
          · simp [outcomeOf, Request.answer, hlight]
          · rw [Request.lightsAfter, Request.painted_error hresolve]
            rfl
      | ok c =>
          have hresolve : resolve labels [(label, .ok c)] = .ok [⟨lowered label, i, c⟩] :=
            resolve_lit hlight c
          have hkeys : ∀ key ∈ keysOf [(label, (.ok c : Except ColorError Color))], key ∈ keys := by
            simpa [keysOf] using hkey
          have hdistinct : (keysOf [(label, (.ok c : Except ColorError Color))]).Nodup :=
            List.nodup_singleton _
          obtain ⟨q, hq, hw⟩ := setColor_writes h.toReady hlight
            (h.fits.has _ hkey i hlight) c verbose
          rw [hq]
          refine ⟨⟨?_, hw.ready h.toReady, hw.limit, ?_⟩, h.writes hresolve hkeys hdistinct hw⟩
          · simp [outcomeOf, Request.answer, hlight]
          · rw [Request.lightsAfter, Request.painted_ok hresolve]
            exact h.lights_writes hresolve hkeys hdistinct hw

lemma setTogether_ends (h : p.Faithful labels keys)
    {wanted : List (String × Except ColorError Color)}
    (hkeys : ∀ key ∈ keysOf (Assoc.ofPairs wanted), key ∈ keys)
    (hdistinct : (keysOf (Assoc.ofPairs wanted)).Nodup) :
    p.Ends labels (.together wanted) (setTogether wanted p) ∧
      (stateOf (setTogether wanted p)).Faithful labels keys := by
  cases hresolve : resolve labels (Assoc.ofPairs wanted) with
  | error e =>
      obtain ⟨q, hq, hw⟩ := setTogether_error h.toReady hresolve
      have hlights : q.keyboard.lights = p.keyboard.lights := hw.lights (by simp)
      rw [hq]
      refine ⟨⟨?_, hw.ready h.toReady, hw.limit, ?_⟩, hw.ready h.toReady, h.fits.congr hw.limit, ?_⟩
      · simp [outcomeOf, Request.answer, hresolve]
      · rw [Request.lightsAfter, Request.painted_error hresolve]
        exact hlights
      · simp only [stateOf, hlights, hw.shown]
        exact h.honest
  | ok all =>
      obtain ⟨q, hq, hw⟩ := setTogether_writes h.toReady hresolve
      rw [hq]
      refine ⟨⟨?_, hw.ready h.toReady, hw.limit, ?_⟩, h.writes hresolve hkeys hdistinct hw⟩
      · simp [outcomeOf, Request.answer, hresolve]
      · rw [Request.lightsAfter, Request.painted_ok hresolve]
        exact h.lights_writes hresolve hkeys hdistinct hw

/-- **With a memory.**  A faithful panel does what is asked of it and stays faithful. -/
lemma perform_ends (h : p.Faithful labels keys) (r : Request)
    (hkeys : ∀ key ∈ keysOf r.named, key ∈ keys) (hdistinct : r.Distinct) :
    p.Ends labels r (r.perform p) ∧ (stateOf (r.perform p)).Faithful labels keys := by
  cases r with
  | single label color verbose =>
      exact setColor_ends h (hkeys _ (by simp [Request.named, keysOf])) color verbose
  | together wanted => exact setTogether_ends h hkeys hdistinct
  | clear verbose => exact ⟨clear_ends h.toReady verbose, h.clear verbose⟩

/-- **Without a memory.** -/
lemma write_ends (h : p.Ready labels) (hfits : labels.Fits p.keyboard keys) (r : Request)
    (hkeys : ∀ key ∈ keysOf r.named, key ∈ keys) : p.Ends labels r (r.write p) := by
  cases r with
  | clear verbose => exact clear_ends h verbose
  | single label color verbose =>
      have hkey : lowered label ∈ keys := hkeys _ (by simp [Request.named, keysOf])
      rw [Request.write, writeColor, bind_of_ok (requireLabels_ready h)]
      cases hlight : labels.get? (lowered label) with
      | none =>
          refine ⟨?_, h, rfl, ?_⟩
          · change Except.ok false = _
            simp [Request.answer, hlight]
          · rw [Request.lightsAfter, Request.painted_ok (resolve_unlit hlight color)]
            rfl
      | some i =>
          cases color with
          | error e =>
              refine ⟨?_, h, rfl, ?_⟩
              · change Except.error (PanelError.color e) = _
                simp [Request.answer, hlight]
              · rw [Request.lightsAfter, Request.painted_error (resolve_error hlight e)]
                rfl
          | ok c =>
              have hhas := hfits.has _ hkey i hlight
              have hobeys := Keyboard.setColor_obeys h.works hhas c
              dsimp only
              rw [bind_of_ok (show requireColor (.ok c) p = .ok c p from rfl),
                ask_ok (f := Keyboard.setColor i c) hobeys.done]
              refine ⟨?_, ⟨h.attached, h.known, hobeys.works⟩, hobeys.limit, ?_⟩
              · simp [outcomeOf, Request.answer, hlight]
              · rw [Request.lightsAfter, Request.painted_ok (resolve_lit hlight c)]
                exact Keyboard.lights_setColor h.works hhas c
  | together wanted =>
      rw [Request.write, writeTogether, bind_of_ok (requireLabels_ready h)]
      cases hresolve : resolve labels (Assoc.ofPairs wanted) with
      | error e =>
          refine ⟨?_, h, rfl, ?_⟩
          · rw [Request.answer, hresolve]
            rfl
          · rw [Request.lightsAfter, Request.painted_error hresolve]
            rfl
      | ok all =>
          cases all with
          | nil =>
              refine ⟨?_, h, rfl, ?_⟩
              · rw [Request.answer, hresolve]
                rfl
              · rw [Request.lightsAfter, Request.painted_ok hresolve]
                rfl
          | cons first rest =>
              have hobeys := Keyboard.setMany_obeys h.works (lightsOf (first :: rest))
              dsimp only
              rw [ask_ok (f := Keyboard.setMany (lightsOf (first :: rest))) hobeys.done]
              refine ⟨?_, ⟨h.attached, h.known, hobeys.works⟩, hobeys.limit, ?_⟩
              · rw [Request.answer, hresolve]
                rfl
              · rw [Request.lightsAfter, Request.painted_ok hresolve]
                refine Keyboard.lights_setMany h.works fun change hchange => ?_
                obtain ⟨c, hc, rfl⟩ := List.mem_map.mp hchange
                obtain ⟨hindex, hkey⟩ := of_mem_resolve hresolve hc
                exact hfits.has _ (hkeys _ hkey) _ hindex

/-- **Colours that were asked for.**  After a request that succeeds, each label that it names and
that has a light shows the colour that it was to have. -/
lemma Ends.shows {result : EStateM.Result PanelError Panel Bool} {r : Request}
    (h : p.Ends labels r result) (hfits : labels.Fits p.keyboard keys)
    (hkeys : ∀ key ∈ keysOf r.named, key ∈ keys) (hdistinct : r.Distinct)
    (hdone : outcomeOf result = .ok true) {label : String} {color : Except ColorError Color}
    (hmem : (label, color) ∈ r.named) {i : Int} (hi : labels.get? (lowered label) = some i) :
    color = .ok ((stateOf result).keyboard.lights i) := by
  rw [h.lights]
  have hlit : ∀ {all : List LightChange}, resolve labels r.named = .ok all →
      color = .ok (repaint p.keyboard.lights (lightsOf all) i) := by
    intro all hresolve
    obtain ⟨c, rfl, hin⟩ := mem_resolve hresolve hmem hi
    have hpair : (i, c) ∈ lightsOf all := List.mem_map.mpr ⟨_, hin, rfl⟩
    rw [repaint_of_mem (nodup_lightsOf hfits hresolve hkeys hdistinct) hpair]
  rw [h.outcome] at hdone
  cases r with
  | clear verbose => cases hmem
  | single label' color' verbose =>
      obtain ⟨rfl, rfl⟩ : label = label' ∧ color = color' := by
        simpa [Request.named] using hmem
      cases color with
      | error e => simp [Request.answer, hi] at hdone
      | ok c =>
          have hresolve : resolve labels [(label, .ok c)] = .ok [⟨lowered label, i, c⟩] :=
            resolve_lit hi c
          rw [Request.lightsAfter, Request.painted_ok hresolve]
          exact hlit hresolve
  | together wanted =>
      cases hresolve : resolve labels (Assoc.ofPairs wanted) with
      | error e => simp [Request.answer, hresolve] at hdone
      | ok all =>
          rw [Request.lightsAfter, Request.painted_ok hresolve]
          exact hlit hresolve

lemma le_foldl_max (indices : List Int) (first : Int) :
    first ≤ indices.foldl max first ∧ ∀ i ∈ indices, i ≤ indices.foldl max first := by
  induction indices generalizing first with
  | nil => simp
  | cons j indices ih =>
      obtain ⟨hfirst, hrest⟩ := ih (max first j)
      refine ⟨by simp only [List.foldl_cons]; omega, fun i hi => ?_⟩
      rcases List.mem_cons.mp hi with rfl | hmem
      · simp only [List.foldl_cons]
        omega
      · exact hrest i hmem

/-- The lights of all labels are counted. -/
lemma lt_lightCount {key : String} {i : Int} (h : labels.get? key = some i) :
    i < lightCount labels := by
  have hmem : i ∈ labels.map (·.2) := List.mem_map.mpr ⟨_, Assoc.mem_of_get? h, rfl⟩
  rw [lightCount]
  cases hindices : labels.map (·.2) with
  | nil =>
      rw [hindices] at hmem
      cases hmem
  | cons first rest =>
      rw [hindices] at hmem
      obtain ⟨hfirst, hrest⟩ := le_foldl_max rest first
      rcases List.mem_cons.mp hmem with rfl | hin
      · exact Int.lt_add_one_of_le hfirst
      · exact Int.lt_add_one_of_le (hrest i hin)

/-- **Black keys.**  All keys with a light can be turned black. -/
lemma clear_black (h : p.Faithful labels keys) (verbose : Bool) :
    ∃ q, clear verbose p = .ok true q ∧ q.Faithful labels keys ∧
      ∀ key ∈ keys, ∀ i, labels.get? key = some i → q.keyboard.color i = .black := by
  have hends := clear_ends h.toReady verbose
  have hfaithful := h.clear verbose
  rw [clear_eq h.toReady] at hends hfaithful ⊢
  refine ⟨_, rfl, hfaithful, fun key hkey i hi => (congrFun hends.lights i).trans ?_⟩
  obtain ⟨hpos, hlimit⟩ := h.fits.has key hkey i hi
  refine if_pos ⟨hpos, ?_⟩
  cases hcount : p.keyboard.lightLimit? with
  | none => exact lt_lightCount hi
  | some n => exact hlimit n hcount

end One

/-! ## Any requests -/

/-- What requests make of a panel, whatever each of them comes to. -/
def performAll (requests : List Request) (p : Panel) : Panel :=
  requests.foldl (fun p r => stateOf (r.perform p)) p

/-- What requests make of a panel without a memory for colours. -/
def writeAll (requests : List Request) (p : Panel) : Panel :=
  requests.foldl (fun p r => stateOf (r.write p)) p

/-- A faithful panel and one without a memory, with the same lights in the same colours. -/
structure Mirrors (labels : LabelMap) (keys : Set String) (p q : Panel) : Prop where
  faithful : p.Faithful labels keys
  ready : q.Ready labels
  limit : q.keyboard.lightLimit? = p.keyboard.lightLimit?
  lights : q.keyboard.lights = p.keyboard.lights

section Run

variable {p q : Panel} {labels : LabelMap} {keys : Set String}

/-- **One request.**  It comes to the same on both panels, and they look the same afterwards. -/
lemma Mirrors.step (h : Mirrors labels keys p q) (r : Request)
    (hkeys : ∀ key ∈ keysOf r.named, key ∈ keys) (hdistinct : r.Distinct) :
    outcomeOf (r.perform p) = outcomeOf (r.write q) ∧
      Mirrors labels keys (stateOf (r.perform p)) (stateOf (r.write q)) := by
  obtain ⟨hends, hfaithful⟩ := perform_ends h.faithful r hkeys hdistinct
  have hends' := write_ends h.ready (h.faithful.fits.congr h.limit) r hkeys
  refine ⟨hends.outcome.trans hends'.outcome.symm, hfaithful, hends'.ready, ?_, ?_⟩
  · rw [hends'.limit, hends.limit, h.limit]
  · rw [hends'.lights, hends.lights, h.limit, h.lights]

/-- **Any requests.**  The panels look the same after all of them. -/
lemma Mirrors.run (h : Mirrors labels keys p q) (requests : List Request)
    (hrequests : ∀ r ∈ requests, (∀ key ∈ keysOf r.named, key ∈ keys) ∧ r.Distinct) :
    Mirrors labels keys (performAll requests p) (writeAll requests q) := by
  induction requests generalizing p q with
  | nil => exact h
  | cons r rest ih =>
      obtain ⟨hkeys, hdistinct⟩ := hrequests r List.mem_cons_self
      exact ih (h.step r hkeys hdistinct).2 fun r' hr' => hrequests r' (List.mem_cons_of_mem _ hr')

/-- **A memory that nobody notices.**  On a panel that has just been connected to a willing keyboard
and whose labels have lights of their own, after any requests none of which names a label twice:
each colour that is remembered for a label is that of its light; each request that succeeded left
the labels with a light that it named in the colours that it asked for; and every light has the
colour, and every request has had the answer, that it has without a memory. -/
theorem memory_unnoticed (hwilling : p.keyboard.Willing)
    {map : Option (Except MapError (List LedRow))} (hconnect : connect map p = .ok () q)
    (hlabels : q.labels = some labels) (hfits : labels.Fits q.keyboard Set.univ)
    (requests : List Request) (hdistinct : ∀ r ∈ requests, r.Distinct) :
    (∀ key c, (performAll requests q).shown.get? key = some c →
      ∃ i, labels.get? key = some i ∧ (performAll requests q).keyboard.color i = c) ∧
    (∀ before r rest, requests = before ++ r :: rest →
      ∀ q', r.perform (performAll before q) = .ok true q' →
        ∀ label color, (label, color) ∈ r.named → ∀ i, labels.get? (lowered label) = some i →
          color = .ok (q'.keyboard.color i)) ∧
    (∀ i, (performAll requests q).keyboard.color i = (writeAll requests q).keyboard.color i) ∧
    (∀ before r rest, requests = before ++ r :: rest →
      outcomeOf (r.perform (performAll before q)) = outcomeOf (r.write (writeAll before q))) := by
  have hfaithful : q.Faithful labels Set.univ :=
    (connect_ok hconnect).faithful hwilling hlabels hfits
  have hstart : Mirrors labels Set.univ q q := ⟨hfaithful, hfaithful.toReady, rfl, rfl⟩
  have hrun : ∀ before, (∀ r ∈ before, r.Distinct) →
      Mirrors labels Set.univ (performAll before q) (writeAll before q) := by
    intro before hbefore
    exact hstart.run before fun r hr => ⟨fun _ _ => Set.mem_univ _, hbefore r hr⟩
  have hlast := hrun requests hdistinct
  refine ⟨fun key c hget => (hlast.faithful.honest key c hget).2, ?_, ?_, ?_⟩
  · rintro before r rest rfl q' hq' label color hmem i hi
    have hbefore := hrun before fun r' hr' => hdistinct r' (List.mem_append_left _ hr')
    have hr : r.Distinct := hdistinct r (by simp)
    obtain ⟨hends, -⟩ := perform_ends hbefore.faithful r (fun _ _ => Set.mem_univ _) hr
    rw [hq'] at hends
    exact hends.shows hbefore.faithful.fits (fun _ _ => Set.mem_univ _) hr rfl hmem hi
  · exact fun i => (congrFun hlast.lights i).symm
  · rintro before r rest rfl
    have hbefore := hrun before fun r' hr' => hdistinct r' (List.mem_append_left _ hr')
    exact (hbefore.step r (fun _ _ => Set.mem_univ _) (hdistinct r (by simp))).1

end Run

/-! ## A small keyboard -/

/-- A panel for a keyboard with a few of the keys that are used for display. -/
def small : Panel where
  keyboard := .memory
    { names := ["`", "1", "2", "Backspace", "Left Arrow", "Down Arrow", "Right Arrow"] }

/-- The lights of its labels. -/
def smallLabels : LabelMap :=
  [("grave", 0), ("1", 1), ("2", 2), ("backspace", 3), ("down", 5), ("left", 4), ("right", 6)]

lemma small_connect : connect none small = .ok () (stateOf (connect none small)) ∧
    (stateOf (connect none small)).labels = some smallLabels :=
  ⟨rfl, by decide +kernel⟩

lemma smallLabels_fits {k : Keyboard} (hlimit : k.lightLimit? = none) :
    smallLabels.Fits k Set.univ := by
  refine ⟨fun key _ i hi => ⟨?_, by simp [hlimit]⟩, fun key _ key' _ i hi hi' => ?_⟩
  · have hmem := Assoc.mem_of_get? hi
    simp only [smallLabels, List.mem_cons, Prod.mk.injEq, List.not_mem_nil, or_false] at hmem
    omega
  · have hmem := Assoc.mem_of_get? hi
    have hmem' := Assoc.mem_of_get? hi'
    simp only [smallLabels, List.mem_cons, Prod.mk.injEq, List.not_mem_nil, or_false] at hmem hmem'
    rcases hmem with h | h | h | h | h | h | h <;>
      rcases hmem' with h' | h' | h' | h' | h' | h' | h' <;> first | omega | rw [h.1, h'.1]

/-- A colour that is asked for three times in three ways, and once more after all lights have turned
black. -/
theorem memory_unnoticed_small :
    (fun requests : List Request =>
      (∀ r ∈ requests, r.Distinct) ∧
      (performAll requests (stateOf (connect none small))).shown = [("1", ⟨255, 0, 9⟩)] ∧
      ∀ i, (performAll requests (stateOf (connect none small))).keyboard.color i
        = (writeAll requests (stateOf (connect none small))).keyboard.color i)
    [.single "1" (.ok (.ofInts 300 (-4) 9)) true,
      .together [("1", .ok (.ofInts 255 0 9)), ("F13", .ok .pink), ("LEFT", .ok .cyan)],
      .single "1" (.ok (.ofInts 255 0 9)) false, .clear false,
      .together [("1", .ok (.ofInts 256 0 9)), ("2", .error .tooMany)],
      .single "1" (.ok (.ofInts 999 (-1) 9)) false] := by
  have hdistinct : ∀ r ∈ ([.single "1" (.ok (.ofInts 300 (-4) 9)) true,
      .together [("1", .ok (.ofInts 255 0 9)), ("F13", .ok .pink), ("LEFT", .ok .cyan)],
      .single "1" (.ok (.ofInts 255 0 9)) false, .clear false,
      .together [("1", .ok (.ofInts 256 0 9)), ("2", .error .tooMany)],
      .single "1" (.ok (.ofInts 999 (-1) 9)) false] : List Request), r.Distinct := by
    decide +kernel
  have hwilling : small.keyboard.Willing := ⟨rfl, rfl⟩
  exact ⟨hdistinct, by decide +kernel, (memory_unnoticed hwilling small_connect.1
    small_connect.2 (smallLabels_fits rfl) _ hdistinct).2.2.1⟩

end Mailroom.Panel
