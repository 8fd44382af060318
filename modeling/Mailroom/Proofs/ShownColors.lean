import Mathlib
import Mailroom.Keyboard.Display
import Mailroom.Proofs.Lights

/-!
# Colours that are not written again

A panel remembers which colour a label was given, and does not write it again.  That can only go
unnoticed if the light of the label still has that colour, so this is what every request has to keep
up (`Panel.Faithful`).  It does as long as no two labels share a light and each label is given one
colour at a time.

- `Panel.resolve`: the changes that labels with colours ask for, whatever was written before.
- `Panel.setTogether_writes`, `Panel.setColor_writes`: a panel writes those among them that are new.
- `Panel.Faithful.writes`: so it stays faithful, and the lights look as if all had been written.
- `Panel.Connects.faithful`, `Panel.Faithful.clear`: a new connection and black lights start over.
-/

namespace Mailroom

open Text

/-! ## Steps -/

/-- The state that a step leaves, however it ends. -/
def stateOf {ε σ α : Type} : EStateM.Result ε σ α → σ
  | .ok _ s => s
  | .error _ s => s

/-- What a step comes to. -/
def outcomeOf {ε σ α : Type} : EStateM.Result ε σ α → Except ε α
  | .ok a _ => .ok a
  | .error e _ => .error e

section Bind

variable {ε σ α β : Type} {x : EStateM ε σ α} {f : α → EStateM ε σ β} {s s' : σ}

lemma bind_of_ok {a : α} (h : x s = .ok a s') : (x >>= f) s = f a s' := by
  change EStateM.bind x f s = _
  rw [EStateM.bind, h]

lemma bind_of_error {e : ε} (h : x s = .error e s') : (x >>= f) s = .error e s' := by
  change EStateM.bind x f s = _
  rw [EStateM.bind, h]

lemma get_bind (f : σ → EStateM ε σ β) (s : σ) : (get >>= f) s = f s s := rfl

lemma modify_bind (g : σ → σ) (f : PUnit → EStateM ε σ β) (s : σ) :
    (modify g >>= f) s = f ⟨⟩ (g s) := rfl

end Bind

/-- Labels, among some keys, that each have a light of their own. -/
structure LabelMap.Fits (labels : LabelMap) (k : Keyboard) (keys : Set String) : Prop where
  has : ∀ key ∈ keys, ∀ i, labels.get? key = some i → k.HasLight i
  apart : ∀ key ∈ keys, ∀ key' ∈ keys, ∀ i, labels.get? key = some i →
    labels.get? key' = some i → key = key'

lemma LabelMap.Fits.congr {labels : LabelMap} {k k' : Keyboard} {keys : Set String}
    (h : labels.Fits k keys) (hlimit : k'.lightLimit? = k.lightLimit?) : labels.Fits k' keys :=
  ⟨fun key hkey i hi => (Keyboard.hasLight_congr hlimit).mpr (h.has key hkey i hi), h.apart⟩

lemma LabelMap.Fits.mono {labels : LabelMap} {k : Keyboard} {keys keys' : Set String}
    (h : labels.Fits k keys) (hsub : keys' ⊆ keys) : labels.Fits k keys' :=
  ⟨fun key hkey => h.has key (hsub hkey),
    fun key hkey key' hkey' => h.apart key (hsub hkey) key' (hsub hkey')⟩

namespace Panel

/-! ## Changes that are asked for -/

/-- The changes that labels with colours ask for, or what is wrong with the first colour that is
none.  A label without a light is passed over, with whatever colour it has. -/
def resolve (labels : LabelMap) :
    List (String × Except ColorError Color) → Except ColorError (List LightChange)
  | [] => .ok []
  | (label, color) :: rest =>
    match labels.get? (lowered label), color with
    | none, _ => resolve labels rest
    | some _, .error e => .error e
    | some index, .ok c => (resolve labels rest).map (⟨lowered label, index, c⟩ :: ·)

/-- The keys of labels with colours. -/
def keysOf (named : List (String × Except ColorError Color)) : List String :=
  named.map fun entry => lowered entry.1

/-- Lights with their colours. -/
def lightsOf (changes : List LightChange) : List (Int × Color) :=
  changes.map fun c => (c.index, c.color)

section Resolve

variable {labels : LabelMap} {named : List (String × Except ColorError Color)}
  {all : List LightChange}

lemma resolve_unlit {label : String} (h : labels.get? (lowered label) = none)
    (color : Except ColorError Color) :
    resolve labels ((label, color) :: named) = resolve labels named := by
  simp [resolve, h]

lemma resolve_error {label : String} {index : Int} (h : labels.get? (lowered label) = some index)
    (e : ColorError) : resolve labels ((label, .error e) :: named) = .error e := by
  simp [resolve, h]

lemma resolve_lit {label : String} {index : Int} (h : labels.get? (lowered label) = some index)
    (c : Color) : resolve labels ((label, .ok c) :: named)
      = (resolve labels named).map (⟨lowered label, index, c⟩ :: ·) := by
  simp [resolve, h]

lemma resolve_keys (h : resolve labels named = .ok all) :
    (all.map (·.key)).Sublist (keysOf named) := by
  fun_induction resolve labels named generalizing all with
  | case1 => cases h; exact .slnil
  | case2 label color rest _ ih => exact (ih h).cons _
  | case3 => cases h
  | case4 label rest index c _ ih =>
      cases hrest : resolve labels rest with
      | error e => rw [hrest] at h; cases h
      | ok changes => rw [hrest] at h; cases h; exact (ih hrest).cons_cons _

/-- Every change is asked for by a label with a light. -/
lemma of_mem_resolve (h : resolve labels named = .ok all) {c : LightChange} (hc : c ∈ all) :
    labels.get? c.key = some c.index ∧ c.key ∈ keysOf named := by
  refine ⟨?_, (resolve_keys h).subset (List.mem_map_of_mem hc)⟩
  fun_induction resolve labels named generalizing all with
  | case1 => cases h; cases hc
  | case2 label color rest _ ih => exact ih h hc
  | case3 => cases h
  | case4 label rest index color hindex ih =>
      cases hrest : resolve labels rest with
      | error e => rw [hrest] at h; cases h
      | ok changes =>
          rw [hrest] at h
          cases h
          rcases List.mem_cons.mp hc with rfl | hmem
          · exact hindex
          · exact ih hrest hmem

/-- Every label with a light asks for a change. -/
lemma mem_resolve (h : resolve labels named = .ok all) {label : String}
    {color : Except ColorError Color} (hmem : (label, color) ∈ named) {i : Int}
    (hi : labels.get? (lowered label) = some i) :
    ∃ c, color = .ok c ∧ ⟨lowered label, i, c⟩ ∈ all := by
  fun_induction resolve labels named generalizing all with
  | case1 => cases hmem
  | case2 label' color' rest hnone ih =>
      rcases List.mem_cons.mp hmem with heq | hrest
      · cases heq
        rw [hnone] at hi
        cases hi
      · exact ih h hrest
  | case3 => cases h
  | case4 label' rest index c hindex ih =>
      cases hresolve : resolve labels rest with
      | error e => rw [hresolve] at h; cases h
      | ok changes =>
          rw [hresolve] at h
          cases h
          rcases List.mem_cons.mp hmem with heq | hrest
          · cases heq
            rw [hindex] at hi
            cases hi
            exact ⟨c, rfl, List.mem_cons_self⟩
          · obtain ⟨c', hc', hin⟩ := ih hresolve hrest
            exact ⟨c', hc', List.mem_cons_of_mem _ hin⟩

/-- No light is asked to change twice. -/
lemma nodup_lightsOf {k : Keyboard} {keys : Set String} (hfits : labels.Fits k keys)
    (h : resolve labels named = .ok all) (hkeys : ∀ key ∈ keysOf named, key ∈ keys)
    (hdistinct : (keysOf named).Nodup) : ((lightsOf all).map (·.1)).Nodup := by
  have hnodup : (all.map (·.key)).Nodup := hdistinct.sublist (resolve_keys h)
  rw [lightsOf, List.map_map]
  refine List.Nodup.map_on ?_ hnodup.of_map
  intro c hc c' hc' hindex
  obtain ⟨hlight, hkey⟩ := of_mem_resolve h hc
  obtain ⟨hlight', hkey'⟩ := of_mem_resolve h hc'
  simp only [Function.comp_apply] at hindex
  have hsame := hfits.apart _ (hkeys _ hkey) _ (hkeys _ hkey') _ hlight (hindex ▸ hlight')
  exact List.inj_on_of_nodup_map hnodup hc hc' hsame

end Resolve

/-! ## Writing -/

/-- A panel with a working keyboard and labels. -/
structure Ready (p : Panel) (labels : LabelMap) : Prop where
  attached : p.attached = true
  known : p.labels = some labels
  works : p.keyboard.Works

/-- What is left of a panel after it has written changes. -/
structure Writes (p : Panel) (changes : List LightChange) (q : Panel) : Prop where
  attached : q.attached = p.attached
  known : q.labels = p.labels
  works : q.keyboard.Works
  limit : q.keyboard.lightLimit? = p.keyboard.lightLimit?
  lights : (∀ c ∈ changes, p.keyboard.HasLight c.index) →
    q.keyboard.lights = repaint p.keyboard.lights (lightsOf changes)
  shown : q.shown = changes.foldl (fun shown c => Assoc.put c.key c.color shown) p.shown

/-- A change of a colour that the label is not known to have. -/
def unshown (p : Panel) (c : LightChange) : Bool :=
  p.shown.get? c.key ≠ some c.color

section Writing

variable {p q : Panel} {labels : LabelMap}

lemma Writes.ready {changes : List LightChange} (h : p.Ready labels) (hw : p.Writes changes q) :
    q.Ready labels :=
  ⟨hw.attached.trans h.attached, hw.known.trans h.known, hw.works⟩

/-- Words change nothing. -/
lemma Ready.writes_nil (h : p.Ready labels) (notes : List String) :
    p.Writes [] { p with notes } :=
  ⟨rfl, rfl, h.works, rfl, fun _ => rfl, rfl⟩

lemma requireLabels_ready (h : p.Ready labels) : requireLabels p = .ok labels p := by
  rw [requireLabels, get_bind, h.attached, h.known]
  rfl

lemma ask_ok {α : Type} {f : Keyboard → Reply Keyboard α} {a : α}
    (h : (f p.keyboard).result = .ok a) :
    ask f p = .ok a { p with
      keyboard := (f p.keyboard).keyboard, notes := p.notes ++ (f p.keyboard).notes } := by
  simp only [ask, h]

lemma settle_eq (p : Panel) : ∃ waits, settle p = .ok () { p with waits } := by
  by_cases hdelay : 0 < p.delay
  · exact ⟨p.waits ++ [p.delay], by simp [settle, modify, modifyGet, MonadStateOf.modifyGet,
      EStateM.modifyGet, hdelay]⟩
  · exact ⟨p.waits, by simp [settle, modify, modifyGet, MonadStateOf.modifyGet,
      EStateM.modifyGet, hdelay]⟩

lemma sayIf_eq (wanted : Bool) (line : String) (p : Panel) :
    ∃ notes, sayIf wanted line p = .ok () { p with notes } := by
  cases wanted with
  | true => exact ⟨p.notes ++ [line], rfl⟩
  | false => exact ⟨p.notes, rfl⟩

/-- **Changes.**  Those that are asked for, without those that are known to be made already. -/
lemma changesFor_eq (labels : LabelMap) (named : List (String × Except ColorError Color))
    (p : Panel) : ∃ notes, changesFor labels named p =
      match resolve labels named with
      | .ok all => .ok (all.filter p.unshown) { p with notes }
      | .error e => .error (.color e) { p with notes } := by
  induction named generalizing p with
  | nil => exact ⟨p.notes, rfl⟩
  | cons entry rest ih =>
      obtain ⟨label, color⟩ := entry
      rw [changesFor, get_bind]
      cases hlight : labels.get? (lowered label) with
      | none =>
          obtain ⟨notes, hsay⟩ := sayIf_eq p.isVerbose
            ("[RGB-ATOMIC] unknown label=\x27" ++ label ++ "\x27") p
          dsimp only
          rw [bind_of_ok hsay, resolve_unlit hlight]
          exact ih _
      | some index =>
          cases color with
          | error e =>
              rw [resolve_error hlight]
              exact ⟨p.notes, rfl⟩
          | ok c =>
              dsimp only
              rw [bind_of_ok (show requireColor (.ok c) p = .ok c p from rfl),
                resolve_lit hlight]
              by_cases hshown : p.shown.get? (lowered label) = some c
              · rw [if_pos hshown]
                obtain ⟨notes, hsay⟩ := sayIf_eq p.isVerbose ("[RGB-ATOMIC] skip-noop idx="
                  ++ Numeral.text index ++ " label=\x27" ++ label ++ "\x27") p
                rw [bind_of_ok hsay]
                obtain ⟨notes', hrest⟩ := ih { p with notes }
                refine ⟨notes', hrest.trans ?_⟩
                cases resolve labels rest with
                | error e => rfl
                | ok all =>
                    dsimp only [Except.map]
                    rw [List.filter_cons_of_neg (by simp [unshown, hshown])]
                    rfl
              · rw [if_neg hshown]
                obtain ⟨notes', hrest⟩ := ih p
                refine ⟨notes', ?_⟩
                cases hresolve : resolve labels rest with
                | error e =>
                    rw [hresolve] at hrest
                    rw [bind_of_error hrest]
                    rfl
                | ok all =>
                    rw [hresolve] at hrest
                    rw [bind_of_ok hrest]
                    dsimp only [Except.map]
                    rw [List.filter_cons_of_pos (by simp [unshown, hshown])]
                    rfl

/-- **Together.**  Of the changes that are asked for, those are written that are new. -/
lemma setTogether_writes (h : p.Ready labels) {wanted : List (String × Except ColorError Color)}
    {all : List LightChange} (hall : resolve labels (Assoc.ofPairs wanted) = .ok all) :
    ∃ q, setTogether wanted p = .ok true q ∧ p.Writes (all.filter p.unshown) q := by
  obtain ⟨notes, hchanges⟩ := changesFor_eq labels (Assoc.ofPairs wanted) p
  rw [hall] at hchanges
  rw [setTogether, bind_of_ok (requireLabels_ready h), bind_of_ok hchanges, get_bind]
  generalize all.filter p.unshown = few
  by_cases hempty : few.isEmpty = true
  · obtain rfl := List.isEmpty_iff.mp hempty
    obtain ⟨notes', hsay⟩ := sayIf_eq ({ p with notes } : Panel).isVerbose
      "[RGB-ATOMIC] no-op (no changes)" { p with notes }
    refine ⟨{ p with notes := notes' }, ?_, h.writes_nil notes'⟩
    rw [if_pos hempty, bind_of_ok hsay]
    rfl
  · have hobeys := Keyboard.setMany_obeys h.works (lightsOf few)
    have hask := ask_ok (p := { p with notes }) (f := Keyboard.setMany (lightsOf few)) hobeys.done
    rw [if_neg hempty, ← lightsOf, bind_of_ok hask, if_pos rfl]
    obtain ⟨waits, hsettle⟩ := settle_eq { p with
      notes := notes ++ (p.keyboard.setMany (lightsOf few)).notes
      keyboard := (p.keyboard.setMany (lightsOf few)).keyboard }
    rw [bind_of_ok hsettle, modify_bind]
    obtain ⟨notes', hsay⟩ := sayIf_eq ({ p with notes } : Panel).isVerbose
      ("[RGB-ATOMIC] applied; changes=" ++ Numeral.natText few.length) { p with
        notes := notes ++ (p.keyboard.setMany (lightsOf few)).notes
        keyboard := (p.keyboard.setMany (lightsOf few)).keyboard
        waits
        shown := few.foldl (fun shown c => Assoc.put c.key c.color shown) p.shown }
    rw [bind_of_ok hsay]
    refine ⟨_, rfl, rfl, rfl, hobeys.works, hobeys.limit, fun hlights => ?_, rfl⟩
    refine Keyboard.lights_setMany h.works fun change hchange => ?_
    obtain ⟨c, hc, rfl⟩ := List.mem_map.mp hchange
    exact hlights c hc

/-- A colour that is none stops everything before anything is written. -/
lemma setTogether_error (h : p.Ready labels) {wanted : List (String × Except ColorError Color)}
    {e : ColorError} (he : resolve labels (Assoc.ofPairs wanted) = .error e) :
    ∃ q, setTogether wanted p = .error (.color e) q ∧ p.Writes [] q := by
  obtain ⟨notes, hchanges⟩ := changesFor_eq labels (Assoc.ofPairs wanted) p
  rw [he] at hchanges
  refine ⟨{ p with notes }, ?_, h.writes_nil notes⟩
  rw [setTogether, bind_of_ok (requireLabels_ready h), bind_of_error hchanges]

/-- **One by one.**  A change that is asked for is written if it is new. -/
lemma setColor_writes (h : p.Ready labels) {label : String} {i : Int}
    (hi : labels.get? (lowered label) = some i) (hlight : p.keyboard.HasLight i) (c : Color)
    (verbose : Bool) :
    ∃ q, setColor label (.ok c) verbose p = .ok true q ∧
      p.Writes ([⟨lowered label, i, c⟩].filter p.unshown) q := by
  rw [setColor, bind_of_ok (requireLabels_ready h)]
  dsimp only
  rw [hi]
  dsimp only
  rw [bind_of_ok (show requireColor (.ok c) p = .ok c p from rfl), get_bind]
  by_cases hshown : p.shown.get? (lowered label) = some c
  · rw [if_pos hshown, List.filter_cons_of_neg (by simp [unshown, hshown])]
    exact ⟨p, rfl, h.writes_nil p.notes⟩
  · rw [if_neg hshown, List.filter_cons_of_pos (by simp [unshown, hshown])]
    have hobeys := Keyboard.setColor_obeys h.works hlight c
    rw [bind_of_ok (ask_ok (f := Keyboard.setColor i c) hobeys.done)]
    obtain ⟨waits, hsettle⟩ := settle_eq { p with
      keyboard := (p.keyboard.setColor i c).keyboard
      notes := p.notes ++ (p.keyboard.setColor i c).notes }
    rw [bind_of_ok hsettle, if_pos rfl]
    obtain ⟨notes, hsay⟩ := sayIf_eq verbose
      ("[DEBUG] " ++ uppered (lowered label) ++ " -> " ++ c.text) { p with
        keyboard := (p.keyboard.setColor i c).keyboard
        notes := p.notes ++ (p.keyboard.setColor i c).notes
        waits
        shown := p.shown.put (lowered label) c }
    rw [modify_bind, bind_of_ok hsay]
    refine ⟨_, rfl, rfl, rfl, hobeys.works, hobeys.limit, fun _ => ?_, rfl⟩
    exact Keyboard.lights_setColor h.works hlight c

lemma setColor_unlit (h : p.Ready labels) {label : String}
    (hi : labels.get? (lowered label) = none) (color : Except ColorError Color) (verbose : Bool) :
    setColor label color verbose p = .ok false p := by
  rw [setColor, bind_of_ok (requireLabels_ready h)]
  dsimp only
  rw [hi]
  rfl

lemma setColor_error (h : p.Ready labels) {label : String} {i : Int}
    (hi : labels.get? (lowered label) = some i) (e : ColorError) (verbose : Bool) :
    setColor label (.error e) verbose p = .error (.color e) p := by
  rw [setColor, bind_of_ok (requireLabels_ready h)]
  dsimp only
  rw [hi]
  rfl

end Writing

/-! ## Faithful panels -/

/-- A panel whose labels have lights of their own, with the colours that they were last given. -/
structure Faithful (p : Panel) (labels : LabelMap) (keys : Set String) : Prop
    extends Ready p labels where
  fits : labels.Fits p.keyboard keys
  honest : ∀ key c, p.shown.get? key = some c →
    key ∈ keys ∧ ∃ i, labels.get? key = some i ∧ p.keyboard.lights i = c

section Faithful

variable {p q : Panel} {labels : LabelMap} {keys : Set String}
  {named : List (String × Except ColorError Color)} {all : List LightChange}

/-- The lights look as if all changes had been written, and not only the new ones. -/
lemma Faithful.lights_writes (h : p.Faithful labels keys) (hall : resolve labels named = .ok all)
    (hkeys : ∀ key ∈ keysOf named, key ∈ keys) (hdistinct : (keysOf named).Nodup)
    (hw : p.Writes (all.filter p.unshown) q) :
    q.keyboard.lights = repaint p.keyboard.lights (lightsOf all) := by
  rw [hw.lights fun c hc => ?_]
  · refine repaint_sublist (List.filter_sublist.map _)
      (nodup_lightsOf h.fits hall hkeys hdistinct) fun change hchange hskipped => ?_
    obtain ⟨c, hc, rfl⟩ := List.mem_map.mp hchange
    have hshown : p.shown.get? c.key = some c.color := by
      by_contra hnot
      refine hskipped (List.mem_map.mpr ⟨c, List.mem_filter.mpr ⟨hc, ?_⟩, rfl⟩)
      simpa [unshown] using hnot
    obtain ⟨-, i, hi, hlight⟩ := h.honest c.key c.color hshown
    obtain ⟨hindex, -⟩ := of_mem_resolve hall hc
    rw [hindex] at hi
    cases hi
    exact hlight
  · obtain ⟨hindex, hkey⟩ := of_mem_resolve hall (List.mem_of_mem_filter hc)
    exact h.fits.has c.key (hkeys _ hkey) c.index hindex

/-- **Writing.**  A panel that writes what is new stays faithful. -/
lemma Faithful.writes (h : p.Faithful labels keys) (hall : resolve labels named = .ok all)
    (hkeys : ∀ key ∈ keysOf named, key ∈ keys) (hdistinct : (keysOf named).Nodup)
    (hw : p.Writes (all.filter p.unshown) q) : q.Faithful labels keys := by
  have hlights := h.lights_writes hall hkeys hdistinct hw
  have hnodup := nodup_lightsOf h.fits hall hkeys hdistinct
  refine ⟨hw.ready h.toReady, h.fits.congr hw.limit, fun key c hshown => ?_⟩
  rw [hw.shown] at hshown
  by_cases hnew : key ∈ (all.filter p.unshown).map (·.key)
  · obtain ⟨change, hmem, rfl⟩ := List.mem_map.mp hnew
    have hkeysNodup : ((all.filter p.unshown).map (·.key)).Nodup :=
      (hdistinct.sublist (resolve_keys hall)).sublist (List.filter_sublist.map _)
    rw [Assoc.get?_foldl_put_of_mem hkeysNodup hmem] at hshown
    cases hshown
    have hin := List.mem_of_mem_filter hmem
    obtain ⟨hindex, hkey⟩ := of_mem_resolve hall hin
    refine ⟨hkeys _ hkey, change.index, hindex, ?_⟩
    rw [hlights]
    exact repaint_of_mem hnodup (List.mem_map.mpr ⟨change, hin, rfl⟩)
  · rw [Assoc.get?_foldl_put hnew] at hshown
    obtain ⟨hkey, i, hi, hlight⟩ := h.honest key c hshown
    refine ⟨hkey, i, hi, ?_⟩
    -- a light that changes belongs to a label that does
    by_cases hchanges : i ∈ (lightsOf all).map (·.1)
    · obtain ⟨⟨_, c'⟩, hpair, rfl⟩ := List.mem_map.mp hchanges
      obtain ⟨change, hin, heq⟩ := List.mem_map.mp hpair
      cases heq
      obtain ⟨hindex, hkey'⟩ := of_mem_resolve hall hin
      obtain rfl := h.fits.apart _ hkey _ (hkeys _ hkey') _ hi hindex
      have hsame : p.shown.get? change.key = some change.color := by
        by_contra hnot
        refine hnew (List.mem_map.mpr ⟨change, List.mem_filter.mpr ⟨hin, ?_⟩, rfl⟩)
        simpa [unshown] using hnot
      rw [hlights, repaint_of_mem hnodup hpair]
      rw [hshown] at hsame
      exact (Option.some.inj hsame).symm
    · rw [hlights, repaint_of_notMem hchanges, hlight]

end Faithful

/-! ## Connecting and starting over -/

section Start

variable {p q : Panel} {labels : LabelMap} {keys : Set String}

lemma ask_error {α : Type} {f : Keyboard → Reply Keyboard α} {e : KeyboardError}
    (h : (f p.keyboard).result = .error e) :
    ask f p = .error (.keyboard e) { p with
      keyboard := (f p.keyboard).keyboard, notes := p.notes ++ (f p.keyboard).notes } := by
  simp only [ask, h]

/-- What is left of a panel after it has been connected: it is known which lights there are, and no
colours are remembered. -/
structure Connects (p q : Panel) : Prop where
  done : p.keyboard.connect.result = .ok true
  keyboard : q.keyboard = p.keyboard.connect.keyboard
  attached : q.attached = true
  known : ∃ labels, q.labels = some labels
  shown : q.shown = []

/-- What is left of a panel that has not been connected, and why: the keyboard is in trouble, it
does not connect, or the map gives no lights. -/
structure Misses (map : Option (Except MapError (List LedRow))) (p : Panel) (e : PanelError)
    (q : Panel) : Prop where
  keyboard : q.keyboard = p.keyboard.connect.keyboard
  unknown : q.labels = none
  cause :
    (∃ trouble, e = .keyboard trouble ∧ q.attached = true ∧
        p.keyboard.connect.result = .error trouble) ∨
      (e = .refused ∧ p.keyboard.connect.result = .ok false) ∨
      ∃ flaw, e = .map flaw ∧ q.attached = true ∧ p.keyboard.connect.result = .ok true ∧
        map = some (.error flaw)

/-- Connecting ends well, or without labels. -/
lemma connect_cases (map : Option (Except MapError (List LedRow))) (p : Panel) :
    (∃ q, connect map p = .ok () q ∧ p.Connects q) ∨
      ∃ e q, connect map p = .error e q ∧ Misses map p e q := by
  rw [connect, modify_bind]
  cases hresult : p.keyboard.connect.result with
  | error trouble =>
      rw [bind_of_error (ask_error (p := { p with attached := true, labels := none })
        (f := Keyboard.connect) hresult)]
      exact .inr ⟨_, _, rfl, rfl, rfl, .inl ⟨trouble, rfl, rfl, hresult⟩⟩
  | ok done =>
      rw [bind_of_ok (ask_ok (p := { p with attached := true, labels := none })
        (f := Keyboard.connect) hresult)]
      cases done with
      | false => exact .inr ⟨_, _, rfl, rfl, rfl, .inr (.inl ⟨rfl, hresult⟩)⟩
      | true =>
          -- the lights are those of the keyboard, or those of a map that can be read
          rcases map with _ | flaw | rows
          · exact .inl ⟨_, rfl, hresult, rfl, rfl, ⟨_, rfl⟩, rfl⟩
          · exact .inr ⟨_, _, rfl, rfl, rfl, .inr (.inr ⟨flaw, rfl, rfl, hresult, rfl⟩)⟩
          · exact .inl ⟨_, rfl, hresult, rfl, rfl, ⟨_, rfl⟩, rfl⟩

section Ends

variable {map : Option (Except MapError (List LedRow))}

lemma connect_ok (h : connect map p = .ok () q) : p.Connects q := by
  rcases connect_cases map p with ⟨q', hq', hconnects⟩ | ⟨e, q', hq', -⟩
  · rw [h] at hq'
    cases hq'
    exact hconnects
  · rw [h] at hq'
    cases hq'

lemma connect_error {e : PanelError} (h : connect map p = .error e q) : Misses map p e q := by
  rcases connect_cases map p with ⟨q', hq', -⟩ | ⟨e', q', hq', hmisses⟩
  · rw [h] at hq'
    cases hq'
  · rw [h] at hq'
    cases hq'
    exact hmisses

/-- A map without lights is found out only when the keyboard has been connected. -/
lemma connect_of_flaw (flaw : MapError) (h : p.keyboard.connect.result = .ok true) :
    ∃ q, connect (some (.error flaw)) p = .error (.map flaw) q := by
  rw [connect, modify_bind, bind_of_ok (ask_ok (p := { p with attached := true, labels := none })
    (f := Keyboard.connect) h)]
  exact ⟨_, rfl⟩

end Ends

lemma Connects.ready (h : p.Connects q) (hwilling : p.keyboard.Willing)
    (hlabels : q.labels = some labels) : q.Ready labels := by
  refine ⟨h.attached, hlabels, ?_⟩
  rw [h.keyboard]
  exact Keyboard.connect_works hwilling h.done

/-- **Connecting.**  A panel that has just been connected is faithful, if only its labels are. -/
lemma Connects.faithful (h : p.Connects q) (hwilling : p.keyboard.Willing)
    (hlabels : q.labels = some labels) (hfits : labels.Fits q.keyboard keys) :
    q.Faithful labels keys := by
  refine ⟨h.ready hwilling hlabels, hfits, fun key c hget => ?_⟩
  rw [h.shown] at hget
  cases hget

lemma clear_eq (h : p.Ready labels) (verbose : Bool) :
    clear verbose p = .ok true { p with
      keyboard := (p.keyboard.clear (lightCount labels) verbose).keyboard
      notes := p.notes ++ (p.keyboard.clear (lightCount labels) verbose).notes
      shown := [] } := by
  have hobeys := Keyboard.clear_obeys h.works (lightCount labels) verbose
  rw [clear, bind_of_ok (requireLabels_ready h),
    bind_of_ok (ask_ok (f := Keyboard.clear (lightCount labels) verbose) hobeys.done)]
  rfl

/-- **Starting over.**  A panel that turns all lights black forgets what it has written. -/
lemma Faithful.clear (h : p.Faithful labels keys) (verbose : Bool) :
    (stateOf (clear verbose p)).Faithful labels keys := by
  have hobeys := Keyboard.clear_obeys h.works (lightCount labels) verbose
  rw [clear_eq h.toReady]
  refine ⟨⟨h.attached, h.known, hobeys.works⟩, h.fits.congr hobeys.limit, fun key c hget => ?_⟩
  cases hget

end Start

end Panel

/-- A step of the panel changes nothing else about a display. -/
lemma Display.stateOf_onPanel {α : Type} (step : PanelM α) (d : Display) :
    stateOf (onPanel step d) = { d with panel := stateOf (step d.panel) } := by
  rw [onPanel]
  cases step d.panel <;> rfl

end Mailroom
