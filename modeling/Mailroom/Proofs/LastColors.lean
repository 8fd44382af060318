import Mathlib
import Mailroom.Proofs.Lights

/-!
# The colour that was written last

Colours reach a keyboard behind a server in two ways: one light at a time, or the whole frame in one
call.  A frame that has fallen behind the device would undo single colours with the next such call.
It never does: after a clear, frame and device show at each light the colour that was written last,
in whichever way.

- `Call.shine`: what a call does to the lights of a device.
- `Request`, `askAll`: colours that are written, singly or together, and clears.
- `lastColor`: the colour that was written last, among writes in order.
- `Mirrored`: what holds between requests, with a lemma for each of them.
- `askAll_shows`: after any requests.
-/

namespace Mailroom

/-- The lights of a device after a call: one of them is set, all of them are, or each takes the
colour at its place in a frame. -/
def Call.shine (lights : List Color) : Call → List Color
  | .led index color => lights.set index color
  | .all color => lights.map fun _ => color
  | .frame colors => colors.take lights.length ++ lights.drop colors.length
  | _ => lights

/-- The lights of a device after calls. -/
def shineAll (lights : List Color) (calls : List Call) : List Color :=
  calls.foldl Call.shine lights

lemma length_shine (lights : List Color) (call : Call) :
    (call.shine lights).length = lights.length := by
  cases call with
  | frame colors =>
      simp only [Call.shine, List.length_append, List.length_take, List.length_drop]
      omega
  | _ => simp [Call.shine]

lemma length_shineAll (lights : List Color) (calls : List Call) :
    (shineAll lights calls).length = lights.length := by
  induction calls generalizing lights with
  | nil => rfl
  | cons call calls ih => exact (ih _).trans (length_shine lights call)

lemma shineAll_append (lights : List Color) (calls later : List Call) :
    shineAll lights (calls ++ later) = shineAll (shineAll lights calls) later :=
  List.foldl_append

/-- The colour that was written last to a light, black if there is none. -/
def lastColor (writes : List (Int × Color)) (i : Int) : Color :=
  ((writes.reverse.find? (·.1 = i)).map (·.2)).getD .black

lemma lastColor_concat (writes : List (Int × Color)) (j : Int) (c : Color) (i : Int) :
    lastColor (writes ++ [(j, c)]) i = if j = i then c else lastColor writes i := by
  rw [lastColor, List.reverse_append, List.reverse_singleton, List.singleton_append,
    List.find?_cons]
  by_cases h : j = i <;> simp [h, lastColor]

namespace ServedKeyboard

/-! ## Requests -/

/-- What can be asked of a keyboard that is connected. -/
inductive Request where
  | single (index : Int) (color : Color)
  /-- Indices and colours, as far as there is one of each. -/
  | together (indices : List Int) (colors : List Color)
  | clear (verbose : Bool)
  deriving DecidableEq, Repr

/-- What a keyboard does about a request. -/
def ask (k : ServedKeyboard) : Request → Reply ServedKeyboard Bool
  | .single index color => k.setColor index color
  | .together indices colors => k.setMany (indices.zip colors)
  | .clear verbose => k.clear verbose

/-- A keyboard after requests, one after the other. -/
def askAll (k : ServedKeyboard) (requests : List Request) : ServedKeyboard :=
  requests.foldl (fun k request => (k.ask request).keyboard) k

/-- What has been written since the last clear, where `written` was written before. -/
def Request.writes (written : List (Int × Color)) : Request → List (Int × Color)
  | .single index color => written ++ [(index, color)]
  | .together indices colors => written ++ indices.zip colors
  | .clear _ => []

/-- What has been written since the last of the clears among requests. -/
def writesOf (requests : List Request) : List (Int × Color) :=
  requests.foldl Request.writes []

/-- A write to one of `n` lights. -/
def inside (n : Nat) (write : Int × Color) : Bool :=
  0 ≤ write.1 ∧ write.1 < n

/-- A request without the writes that are for none of `n` lights. -/
def Request.within (n : Nat) : Request → List Request
  | .single index color => if inside n (index, color) then [.single index color] else []
  | .together indices colors =>
    let kept := (indices.zip colors).filter (inside n)
    [.together (kept.map (·.1)) (kept.map (·.2))]
  | .clear verbose => [.clear verbose]

/-! ## Frames -/

/-- A frame after changes. -/
def changed (frame : List Color) (changes : List (Int × Color)) : List Color :=
  changes.foldl (fun frame write => change frame write.1 write.2) frame

section Frames

variable {frame : List Color}

lemma length_changed (frame : List Color) (changes : List (Int × Color)) :
    (changed frame changes).length = frame.length :=
  Keyboard.length_changes changes frame

lemma change_outside {i : Int} {c : Color} (h : ¬ inside frame.length (i, c) = true) :
    change frame i c = frame := by
  have hout : ¬ (0 ≤ i ∧ i < frame.length) := of_decide_eq_false (Bool.eq_false_iff.mpr h)
  rw [change]
  split
  · exact List.set_eq_of_length_le (by omega)
  · rfl

/-- Writes that are for no light may be left out. -/
lemma changed_inside (frame : List Color) (changes : List (Int × Color)) :
    changed frame (changes.filter (inside frame.length)) = changed frame changes := by
  induction changes generalizing frame with
  | nil => rfl
  | cons write changes ih =>
      have hrest := ih (change frame write.1 write.2)
      rw [Keyboard.length_change] at hrest
      rw [List.filter_cons]
      split
      · exact hrest
      · rename_i hout
        have hsame := change_outside hout
        rw [hsame] at hrest
        rw [hrest, changed, changed, List.foldl_cons, hsame]

lemma getD_change {i : Int} (hpos : 0 ≤ i) (hlt : i < frame.length) (j : Int) (c : Color) :
    (change frame j c).getD i.toNat .black = if j = i then c else frame.getD i.toNat .black := by
  have hlt' : i.toNat < frame.length := by omega
  rw [change]
  by_cases hj : j = i
  · subst hj
    simp [hpos, hlt']
  · rw [if_neg hj]
    split
    · rw [List.getD_eq_getElem?_getD, List.getElem?_set_ne (by omega), List.getD_eq_getElem?_getD]
    · rfl

/-- **A frame.**  At a light of it stands what was written last. -/
lemma getD_changed {i : Int} (hpos : 0 ≤ i) (hlt : i < frame.length)
    {written : List (Int × Color)} (h : frame.getD i.toNat .black = lastColor written i)
    (changes : List (Int × Color)) :
    (changed frame changes).getD i.toNat .black = lastColor (written ++ changes) i := by
  induction changes generalizing frame written with
  | nil =>
      rw [List.append_nil]
      exact h
  | cons write changes ih =>
      rw [List.append_cons]
      apply ih
      · rwa [Keyboard.length_change]
      · rw [getD_change hpos hlt, lastColor_concat, h]

end Frames

/-! ## Keyboards that have a device -/

section Keyboards

variable {k : ServedKeyboard} {d : Device}

lemma keyboard_clear (h : k.device = some d) (verbose : Bool) :
    (k.clear verbose).keyboard = { k with frame := blackFrame d }.called (.all .black) := by
  unfold clear
  split
  · rename_i hnone
    cases hnone.symm.trans h
  · rename_i d' hd
    obtain rfl : d = d' := Option.some.inj (h.symm.trans hd)
    rfl

lemma keyboard_setMany (h : k.device = some d) (changes : List (Int × Color)) :
    (k.setMany changes).keyboard
      = { k with frame := changed k.frame changes }.called (.frame (changed k.frame changes)) := by
  unfold setMany
  split
  · rename_i hnone
    cases hnone.symm.trans h
  · rfl

/-- A colour that is for no light changes nothing, and no call is made. -/
lemma keyboard_setColor (h : k.device = some d) (hlength : k.frame.length = d.leds.length)
    (index : Int) (color : Color) :
    (k.setColor index color).keyboard
      = if inside k.frame.length (index, color) then
          { k with frame := change k.frame index color }.called (.led index.toNat color)
        else k := by
  unfold setColor
  split
  · rename_i hnone
    cases hnone.symm.trans h
  · rename_i d' hd
    obtain rfl : d = d' := Option.some.inj (h.symm.trans hd)
    rw [← hlength]
    by_cases hin : 0 ≤ index ∧ index < k.frame.length
    · simp [inside, hin, change]
    · simp [inside, hin]

end Keyboards

/-! ## What holds between requests -/

/-- A keyboard whose frame is what its device shows, whatever it showed before, and has at each
light the colour that was written last. -/
structure Mirrored (d : Device) (written : List (Int × Color)) (k : ServedKeyboard) : Prop where
  device : k.device = some d
  length : k.frame.length = d.leds.length
  shown : ∀ lights : List Color, lights.length = d.leds.length → shineAll lights k.calls = k.frame
  last : ∀ i : Int, 0 ≤ i → i < d.leds.length → k.frame.getD i.toNat .black = lastColor written i

section Mirrored

variable {k : ServedKeyboard} {d : Device} {written : List (Int × Color)}

lemma shineAll_called (k : ServedKeyboard) (call : Call) (lights : List Color) :
    shineAll lights (k.called call).calls = call.shine (shineAll lights k.calls) :=
  shineAll_append lights k.calls [call]

/-- Whatever was asked before, a clear brings frame and device together. -/
lemma mirrored_clear (h : k.device = some d) (verbose : Bool) :
    (k.clear verbose).keyboard.Mirrored d [] := by
  rw [keyboard_clear h]
  refine ⟨h, List.length_replicate, fun lights hlights => ?_, fun i hpos hlt => ?_⟩
  · rw [shineAll_called]
    have hbefore := (length_shineAll lights k.calls).trans hlights
    simp [Call.shine, called, blackFrame, ← hbefore]
  · simp [called, blackFrame, lastColor, List.getD_eq_getElem?_getD]

lemma Mirrored.setColor (h : k.Mirrored d written) (index : Int) (color : Color) :
    (k.setColor index color).keyboard.Mirrored d (written ++ [(index, color)]) := by
  have hlast : ∀ i : Int, 0 ≤ i → i < d.leds.length →
      (change k.frame index color).getD i.toNat .black
        = lastColor (written ++ [(index, color)]) i := by
    intro i hpos hlt
    rw [← h.length] at hlt
    rw [getD_change hpos hlt, lastColor_concat, h.last i hpos (h.length ▸ hlt)]
  rw [keyboard_setColor h.device h.length]
  split
  · rename_i hinside
    have hin : 0 ≤ index ∧ index < k.frame.length := of_decide_eq_true hinside
    refine ⟨h.device, (Keyboard.length_change _ _ _).trans h.length, fun lights hlights => ?_, hlast⟩
    rw [shineAll_called, h.shown lights hlights, Call.shine, called, change, if_pos hin.1]
  · rename_i hout
    rw [change_outside hout] at hlast
    exact ⟨h.device, h.length, h.shown, hlast⟩

lemma Mirrored.setMany (h : k.Mirrored d written) (changes : List (Int × Color)) :
    (k.setMany changes).keyboard.Mirrored d (written ++ changes) := by
  rw [keyboard_setMany h.device]
  have hlength := length_changed k.frame changes
  refine ⟨h.device, hlength.trans h.length, fun lights hlights => ?_, fun i hpos hlt => ?_⟩
  · rw [shineAll_called, h.shown lights hlights]
    simp [Call.shine, called, hlength]
  · exact getD_changed hpos (h.length ▸ hlt) (h.last i hpos hlt) changes

lemma Mirrored.ask (h : k.Mirrored d written) (request : Request) :
    (k.ask request).keyboard.Mirrored d (request.writes written) := by
  cases request with
  | single index color => exact h.setColor index color
  | together indices colors => exact h.setMany (indices.zip colors)
  | clear verbose => exact mirrored_clear h.device verbose

lemma Mirrored.askAll (h : k.Mirrored d written) (requests : List Request) :
    (k.askAll requests).Mirrored d (requests.foldl Request.writes written) := by
  induction requests generalizing k written with
  | nil => exact h
  | cons request requests ih => exact ih (h.ask request)

/-- Without the writes that are for no light, a request comes to the same. -/
lemma Mirrored.askAll_within (h : k.Mirrored d written) (request : Request) :
    k.askAll (request.within d.leds.length) = (k.ask request).keyboard := by
  cases request with
  | single index color =>
      rw [Request.within, ServedKeyboard.ask, keyboard_setColor h.device h.length, h.length]
      split
      · rename_i hinside
        rw [ServedKeyboard.askAll, List.foldl_cons, List.foldl_nil, ServedKeyboard.ask,
          keyboard_setColor h.device h.length, h.length, if_pos hinside]
      · rfl
  | together indices colors =>
      rw [Request.within, ServedKeyboard.askAll, List.foldl_cons, List.foldl_nil,
        ServedKeyboard.ask, ServedKeyboard.ask, ← List.zip_of_prod rfl rfl,
        keyboard_setMany h.device, keyboard_setMany h.device, ← h.length, changed_inside]
  | clear verbose => rfl

lemma Mirrored.askAll_flatMap_within (h : k.Mirrored d written) (requests : List Request) :
    k.askAll (requests.flatMap (Request.within d.leds.length)) = k.askAll requests := by
  induction requests generalizing k written with
  | nil => rfl
  | cons request requests ih =>
      rw [List.flatMap_cons, ServedKeyboard.askAll, List.foldl_append]
      have hfirst := h.askAll_within request
      rw [ServedKeyboard.askAll] at hfirst
      rw [hfirst]
      exact ih (h.ask request)

lemma Mirrored.frame_eq (h : k.Mirrored d written) :
    k.frame = (List.range d.leds.length).map fun i : Nat => lastColor written i := by
  refine List.ext_getElem (by simp [h.length]) fun i hi hi' => ?_
  have hlt : i < d.leds.length := h.length ▸ hi
  have hlast := h.last i (by omega) (by omega)
  rw [List.getElem_map, List.getElem_range, ← hlast]
  simp [hi]

lemma Mirrored.color_eq (h : k.Mirrored d written) (i : Int) :
    k.color i = if 0 ≤ i ∧ i < d.leds.length then lastColor written i else .black := by
  have hlength := h.length
  rw [color]
  split
  · rename_i hpos
    split
    · rename_i hin
      exact h.last i hpos hin.2
    · exact List.getD_eq_default _ _ (by omega)
  · rw [if_neg (by omega)]

end Mirrored

/-- **No colour is lost.**  Once a keyboard that is connected has been cleared, its frame and the
lights of its device show the same after any requests, whatever the lights were before: at each of
them the colour that was written last since the last clear, singly or together, and black if there is
none.  Writes that are for no light might as well not have been made. -/
theorem askAll_shows {k : ServedKeyboard} (h : k.connected = true) (verbose : Bool)
    (requests : List Request) :
    ∃ d, k.device = some d ∧
      let shown := (k.clear verbose).keyboard.askAll requests
      let colors := (List.range d.leds.length).map fun i : Nat => lastColor (writesOf requests) i
      shown.frame = colors ∧
      (∀ lights : List Color, lights.length = d.leds.length →
        shineAll lights shown.calls = colors) ∧
      (∀ i : Int, shown.color i =
        if 0 ≤ i ∧ i < d.leds.length then lastColor (writesOf requests) i else .black) ∧
      (k.clear verbose).keyboard.askAll (requests.flatMap (Request.within d.leds.length))
        = shown := by
  have hparts : k.linked = true ∧ k.device.isSome = true := by simpa [connected] using h
  obtain ⟨d, hdevice⟩ := Option.isSome_iff_exists.mp hparts.2
  have hclear := mirrored_clear hdevice verbose
  have hall := hclear.askAll requests
  refine ⟨d, hdevice, hall.frame_eq, fun lights hlights => ?_, hall.color_eq,
    hclear.askAll_flatMap_within requests⟩
  rw [hall.shown lights hlights, hall.frame_eq]
  rfl

/-- Two lights, one of which gets two colours in one call and the other one a single colour; there is
no third light, and no frame before the clear. -/
theorem askAll_shows_two_lights :
    let d : Device := ⟨"keyboard", none, ["a", "b"], none⟩
    let k : ServedKeyboard :=
      { server := { devices := [d] }, host := "", portNumber := 0, linked := true, device := some d }
    let requests : List Request :=
      [.single 0 .orange, .clear false, .single 1 .pink, .together [0, 2, 0] [.cyan, .pink, .orange],
        .single (-1) .cyan]
    let shown := (k.clear false).keyboard.askAll requests
    k.connected = true ∧ shown.frame = [.orange, .pink] ∧
      shineAll [.cyan, .cyan] shown.calls = [.orange, .pink] ∧ shown.color 2 = .black := by
  intro d k requests shown
  obtain ⟨d', hdevice, hframe, hlights, hcolor, -⟩ :=
    askAll_shows (k := k) rfl false requests
  obtain rfl : d = d' := Option.some.inj hdevice
  exact ⟨rfl, hframe.trans rfl, (hlights [.cyan, .cyan] rfl).trans rfl, (hcolor 2).trans rfl⟩

end ServedKeyboard

end Mailroom
