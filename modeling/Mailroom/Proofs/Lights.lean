import Mathlib
import Mailroom.Keyboard.Basic
import Mailroom.Proofs.Tables

/-!
# Keyboards by their lights

The two kinds of keyboards keep their colours differently, in a table and in a frame.  Seen from
outside both are a colour for each index, and a keyboard that works changes the colours of the
lights that it is asked to change and of no others.

- `repaint`: colours after some changes, one after the other.
- `Keyboard.Works`: a keyboard that is connected and refuses nothing; `Keyboard.connect_works`: one
  that has just been connected does.
- `Keyboard.setColor_obeys`, `Keyboard.setMany_obeys`, `Keyboard.clear_obeys`: it goes on working.
- `Keyboard.lights_setColor`, `Keyboard.lights_setMany`, `Keyboard.lights_clear`: its colours then.
-/

namespace Mailroom

/-! ## Colours that change -/

/-- The colours of lights after changes, one after the other. -/
def repaint (lights : Int → Color) (changes : List (Int × Color)) : Int → Color :=
  changes.foldl (fun lights change => Function.update lights change.1 change.2) lights

section Repaint

variable {lights : Int → Color} {changes : List (Int × Color)}

@[simp] lemma repaint_nil (lights : Int → Color) : repaint lights [] = lights := rfl

@[simp] lemma repaint_cons (lights : Int → Color) (change : Int × Color)
    (changes : List (Int × Color)) :
    repaint lights (change :: changes)
      = repaint (Function.update lights change.1 change.2) changes := rfl

lemma repaint_of_notMem {i : Int} (h : i ∉ changes.map (·.1)) :
    repaint lights changes i = lights i := by
  induction changes generalizing lights with
  | nil => rfl
  | cons change changes ih =>
      simp only [List.map_cons, List.mem_cons, not_or] at h
      rw [repaint_cons, ih h.2, Function.update_of_ne h.1]

lemma repaint_of_mem (hnodup : (changes.map (·.1)).Nodup) {i : Int} {c : Color}
    (h : (i, c) ∈ changes) : repaint lights changes i = c := by
  induction changes generalizing lights with
  | nil => cases h
  | cons change changes ih =>
      rw [List.map_cons, List.nodup_cons] at hnodup
      rcases List.mem_cons.mp h with rfl | hmem
      · rw [repaint_cons, repaint_of_notMem hnodup.1, Function.update_self]
      · exact ih hnodup.2 hmem

/-- **Changes that change nothing.**  Those that give a light the colour that it has may be left
out, as long as no light is given two colours. -/
lemma repaint_sublist {few : List (Int × Color)} (hsub : few.Sublist changes)
    (hnodup : (changes.map (·.1)).Nodup)
    (hskipped : ∀ change ∈ changes, change ∉ few → lights change.1 = change.2) :
    repaint lights few = repaint lights changes := by
  have hfew : (few.map (·.1)).Nodup := hnodup.sublist (hsub.map _)
  funext i
  by_cases hi : i ∈ few.map (·.1)
  · obtain ⟨⟨_, c⟩, hmem, rfl⟩ := List.mem_map.mp hi
    rw [repaint_of_mem hfew hmem, repaint_of_mem hnodup (hsub.subset hmem)]
  · rw [repaint_of_notMem hi]
    by_cases hall : i ∈ changes.map (·.1)
    · obtain ⟨⟨_, c⟩, hmem, rfl⟩ := List.mem_map.mp hall
      rw [repaint_of_mem hnodup hmem]
      exact hskipped _ hmem fun h => hi (List.mem_map.mpr ⟨_, h, rfl⟩)
    · rw [repaint_of_notMem hall]

end Repaint

namespace Keyboard

/-! ## Keyboards that work -/

/-- The colours of all lights. -/
def lights (k : Keyboard) : Int → Color :=
  fun i => k.color i

/-- How many lights there are.  A keyboard that only remembers has as many as it is asked for. -/
def lightLimit? : Keyboard → Option Int
  | .memory _ => none
  | .served k => some (k.device.elim 0 fun d => d.leds.length)

/-- An index that belongs to a light. -/
def HasLight (k : Keyboard) (i : Int) : Prop :=
  0 ≤ i ∧ ∀ n ∈ k.lightLimit?, i < n

/-- A keyboard that will not refuse a colour.  Only those that remember can be made to. -/
def Willing : Keyboard → Prop
  | .memory k => k.refusesColor = false ∧ k.refusesMany = false
  | .served _ => True

/-- A keyboard that is connected, does not refuse and has a colour for each of its lights. -/
def Works : Keyboard → Prop
  | .memory k => k.connected = true ∧ k.refusesColor = false ∧ k.refusesMany = false
  | .served k => k.linked = true ∧ ∃ d, k.device = some d ∧ k.frame.length = d.leds.length

variable {k : Keyboard}

lemma Works.connected (h : k.Works) : k.connected = true := by
  cases k with
  | memory k => exact h.1
  | served k =>
      obtain ⟨hlinked, d, hdevice, -⟩ := h
      simp [Keyboard.connected, ServedKeyboard.connected, hlinked, hdevice]

lemma hasLight_congr {k' : Keyboard} (h : k'.lightLimit? = k.lightLimit?) {i : Int} :
    k'.HasLight i ↔ k.HasLight i := by
  rw [HasLight, HasLight, h]

/-- A keyboard that did what it was asked and can be asked again. -/
structure Obeys (k : Keyboard) (r : Reply Keyboard Bool) : Prop where
  done : r.result = .ok true
  works : r.keyboard.Works
  limit : r.keyboard.lightLimit? = k.lightLimit?

/-! ## Connecting -/

lemma served_take_works {k : ServedKeyboard} (hlinked : k.linked = true) (d : Device)
    (h : (k.take d).result = .ok true) : Works (.served (k.take d).keyboard) := by
  rw [ServedKeyboard.take] at h ⊢
  dsimp only at h ⊢
  -- only a keyboard with a new frame is taken
  have hstarted : Works (.served
      { ({ k with device := some d } : ServedKeyboard).called (.mode "direct") with
        frame := ServedKeyboard.blackFrame d }) := by
    refine ⟨hlinked, d, rfl, ?_⟩
    simp [ServedKeyboard.blackFrame]
  split
  · split
    · exact hstarted
    · exact hstarted
  · split
    · split
      · exact hstarted
      · exact hstarted
    · rename_i t htrouble hkind
      simp [htrouble, hkind] at h

/-- A connection that succeeds ends with taking a device. -/
lemma served_connect_take {k : ServedKeyboard} {r : Reply ServedKeyboard Bool}
    (hr : k.connect = r) (h : r.result = .ok true) :
    ∃ (k' : ServedKeyboard) (d : Device), k'.linked = true ∧ r = k'.take d := by
  rw [ServedKeyboard.connect] at hr
  dsimp only at hr
  split at hr
  · split at hr
    · subst hr
      simp at h
    · subst hr
      simp at h
  · split at hr
    · subst hr
      simp at h
    · refine ⟨_, _, ?_, hr.symm⟩
      split <;> rfl

/-- **Connecting.**  A keyboard that says it is connected works. -/
lemma connect_works (hwilling : k.Willing) (h : k.connect.result = .ok true) :
    k.connect.keyboard.Works := by
  cases k with
  | memory k =>
      simp only [connect, Reply.quiet, MemoryKeyboard.connect] at h ⊢
      split at h
      · simp at h
      · rw [if_neg ‹_›]
        exact ⟨rfl, hwilling⟩
  | served k =>
      obtain ⟨k', d, hlinked, htake⟩ := served_connect_take rfl h
      simp only [connect, Reply.lift, htake] at h ⊢
      exact served_take_works hlinked d h

/-! ## One colour -/

lemma served_lights (k : ServedKeyboard) (i : Int) :
    lights (.served k) i = if 0 ≤ i then k.frame.getD i.toNat .black else .black := rfl

lemma memory_lights (k : MemoryKeyboard) (i : Int) :
    lights (.memory k) i = (k.colors.get? i).getD .black := rfl

lemma setColor_obeys (h : k.Works) {i : Int} (hi : k.HasLight i) (c : Color) :
    k.Obeys (k.setColor i c) := by
  cases k with
  | memory k =>
      obtain ⟨hconnected, hcolor, hmany⟩ := h
      refine ⟨?_, ?_, rfl⟩ <;>
        simp [setColor, Reply.quiet, MemoryKeyboard.setColor, Works, hconnected, hcolor, hmany]
  | served k =>
      obtain ⟨hlinked, d, hdevice, hframe⟩ := h
      obtain ⟨hpos, hlt⟩ := hi
      have hlt : i < d.leds.length := hlt _ (by simp [lightLimit?, hdevice])
      refine ⟨?_, ?_, ?_⟩ <;>
        simp [setColor, Reply.lift, ServedKeyboard.setColor, ServedKeyboard.called, Works,
          lightLimit?, hlinked, hdevice, hframe, hpos, hlt]

/-- A light in a frame that gets a colour. -/
lemma update_frame {frame : List Color} {i : Int} (hpos : 0 ≤ i) (hlt : i < frame.length)
    (c : Color) (j : Int) :
    (if 0 ≤ j then (frame.set i.toNat c).getD j.toNat .black else .black)
      = Function.update (fun j => if 0 ≤ j then frame.getD j.toNat .black else .black) i c j := by
  by_cases hj : j = i
  · subst hj
    rw [Function.update_self, if_pos hpos]
    simp [List.getD_eq_getElem?_getD, show j.toNat < frame.length by omega]
  · rw [Function.update_of_ne hj]
    by_cases hj0 : 0 ≤ j
    · rw [if_pos hj0, if_pos hj0]
      simp [List.getD_eq_getElem?_getD, List.getElem?_set_ne (show i.toNat ≠ j.toNat by omega)]
    · rw [if_neg hj0, if_neg hj0]

lemma lights_setColor (h : k.Works) {i : Int} (hi : k.HasLight i) (c : Color) :
    (k.setColor i c).keyboard.lights = Function.update k.lights i c := by
  funext j
  cases k with
  | memory k =>
      simp only [setColor, Reply.quiet, MemoryKeyboard.setColor, h.2.1, memory_lights]
      rw [if_neg Bool.false_ne_true, Assoc.get?_put, Function.update_apply]
      by_cases hj : j = i
      · simp [hj]
      · simp [hj, Ne.symm hj, memory_lights]
  | served k =>
      obtain ⟨-, d, hdevice, hframe⟩ := h
      obtain ⟨hpos, hlt⟩ := hi
      have hlt : i < d.leds.length := hlt _ (by simp [lightLimit?, hdevice])
      have hlt' : i < k.frame.length := by omega
      simp only [setColor, Reply.lift, ServedKeyboard.setColor, hdevice, hpos, hlt, hlt', and_self,
        if_true]
      exact update_frame hpos hlt' c j

/-! ## Many colours -/

lemma length_change (frame : List Color) (i : Int) (c : Color) :
    (ServedKeyboard.change frame i c).length = frame.length := by
  rw [ServedKeyboard.change]
  split <;> simp

lemma length_changes (changes : List (Int × Color)) (frame : List Color) :
    (changes.foldl (fun frame (i, c) => ServedKeyboard.change frame i c) frame).length
      = frame.length := by
  induction changes generalizing frame with
  | nil => rfl
  | cons change changes ih => rw [List.foldl_cons, ih, length_change]

lemma setMany_obeys (h : k.Works) (changes : List (Int × Color)) :
    k.Obeys (k.setMany changes) := by
  cases k with
  | memory k =>
      obtain ⟨hconnected, hcolor, hmany⟩ := h
      refine ⟨?_, ?_, rfl⟩ <;>
        simp [setMany, Reply.quiet, MemoryKeyboard.setMany, Works, hconnected, hcolor, hmany]
  | served k =>
      obtain ⟨hlinked, d, hdevice, hframe⟩ := h
      have hlength := (length_changes changes k.frame).trans hframe
      refine ⟨?_, ?_, ?_⟩ <;>
        simp [setMany, Reply.lift, ServedKeyboard.setMany, ServedKeyboard.called, Works,
          lightLimit?, hlinked, hdevice, hlength]

lemma repaint_table (changes : List (Int × Color)) (colors : Assoc Int Color) (j : Int) :
    ((changes.foldl (fun colors (i, c) => Assoc.put i c colors) colors).get? j).getD .black
      = repaint (fun j => (colors.get? j).getD .black) changes j := by
  induction changes generalizing colors with
  | nil => rfl
  | cons change changes ih =>
      obtain ⟨i, c⟩ := change
      rw [List.foldl_cons, repaint_cons, ih]
      congr 1
      funext j
      rw [Assoc.get?_put, Function.update_apply]
      by_cases hj : j = i
      · simp [hj]
      · simp [hj, Ne.symm hj]

lemma repaint_frame {changes : List (Int × Color)} {frame : List Color}
    (h : ∀ change ∈ changes, 0 ≤ change.1 ∧ change.1 < frame.length) (j : Int) :
    (if 0 ≤ j then (changes.foldl (fun frame (i, c) => ServedKeyboard.change frame i c) frame).getD
        j.toNat .black else .black)
      = repaint (fun j => if 0 ≤ j then frame.getD j.toNat .black else .black) changes j := by
  induction changes generalizing frame with
  | nil => rfl
  | cons change changes ih =>
      obtain ⟨i, c⟩ := change
      obtain ⟨hpos, hlt⟩ := h (i, c) List.mem_cons_self
      have hrest : ∀ change ∈ changes,
          0 ≤ change.1 ∧ change.1 < (ServedKeyboard.change frame i c).length := by
        intro change hmem
        rw [length_change]
        exact h change (List.mem_cons_of_mem _ hmem)
      rw [List.foldl_cons, repaint_cons, ih hrest]
      congr 1
      funext j
      rw [ServedKeyboard.change, if_pos hpos]
      exact update_frame hpos hlt c j

lemma lights_setMany (h : k.Works) {changes : List (Int × Color)}
    (hlights : ∀ change ∈ changes, k.HasLight change.1) :
    (k.setMany changes).keyboard.lights = repaint k.lights changes := by
  funext j
  cases k with
  | memory k =>
      simp only [setMany, Reply.quiet, MemoryKeyboard.setMany, h.2.2, memory_lights]
      rw [if_neg Bool.false_ne_true]
      exact repaint_table changes k.colors j
  | served k =>
      obtain ⟨-, d, hdevice, hframe⟩ := h
      simp only [setMany, Reply.lift, ServedKeyboard.setMany, hdevice]
      refine repaint_frame (fun change hmem => ?_) j
      obtain ⟨hpos, hlt⟩ := hlights change hmem
      rw [hframe]
      exact ⟨hpos, hlt _ (by simp [lightLimit?, hdevice])⟩

/-! ## No colours -/

lemma clear_obeys (h : k.Works) (total : Int) (verbose : Bool) :
    k.Obeys (k.clear total verbose) := by
  cases k with
  | memory k => exact ⟨rfl, h, rfl⟩
  | served k =>
      obtain ⟨hlinked, d, hdevice, -⟩ := h
      refine ⟨?_, ?_, ?_⟩ <;>
        simp [clear, Reply.lift, ServedKeyboard.clear, ServedKeyboard.called,
          ServedKeyboard.blackFrame, Works, lightLimit?, hlinked, hdevice]

lemma get?_blacken (n : Nat) (colors : Assoc Int Color) (j : Int) :
    ((List.range n).foldl (fun colors (i : Nat) => Assoc.put (i : Int) Color.black colors)
        colors).get? j
      = if 0 ≤ j ∧ j < n then some .black else colors.get? j := by
  induction n with
  | zero => simp
  | succ n ih =>
      rw [List.range_succ, List.foldl_append, List.foldl_cons, List.foldl_nil, Assoc.get?_put, ih]
      by_cases hj : (n : Int) = j
      · rw [if_pos hj, if_pos (by omega)]
      · rw [if_neg hj]
        congr 1
        simp only [eq_iff_iff]
        omega

/-- **No colours.**  All lights turn black, as far as their number is known or given. -/
lemma lights_clear (h : k.Works) (total : Int) (verbose : Bool) :
    (k.clear total verbose).keyboard.lights = fun i =>
      if 0 ≤ i ∧ i < k.lightLimit?.getD total then .black else k.lights i := by
  funext j
  cases k with
  | memory k =>
      change (((List.range total.toNat).foldl
          (fun colors (i : Nat) => Assoc.put (i : Int) Color.black colors) k.colors).get? j).getD
          .black = if 0 ≤ j ∧ j < total then .black else (k.colors.get? j).getD .black
      rw [get?_blacken]
      by_cases hj : 0 ≤ j ∧ j < total
      · rw [if_pos hj, if_pos (by omega)]
        rfl
      · rw [if_neg hj, if_neg (by omega)]
  | served k =>
      obtain ⟨-, d, hdevice, hframe⟩ := h
      simp only [clear, Reply.lift, ServedKeyboard.clear, hdevice, served_lights, lightLimit?,
        Option.elim_some, Option.getD_some, ServedKeyboard.called, ServedKeyboard.blackFrame]
      by_cases hpos : 0 ≤ j
      · by_cases hlt : j < d.leds.length
        · simp [hpos, hlt, List.getD_eq_getElem?_getD]
        · -- there is nothing in the frame behind the last light
          have hbehind : k.frame[j.toNat]? = none := List.getElem?_eq_none (by omega)
          simp [hpos, hlt, List.getD_eq_getElem?_getD, hbehind]
      · simp [hpos]

end Keyboard

end Mailroom
