import Mailroom.Proofs.Execution
import Mailroom.Proofs.Fragments
import Mailroom.Proofs.Meaning

/-!
# Instructions that do what a program means

A desk represents a world when the variables in scope lie on their tiles and the floor is the same
wherever the listing keeps nothing of its own.  Instructions implement a step of the meaning when
they lead from a desk that represents the world before to one that represents the world behind, or
to where the run ends as the meaning does.

- `Represents`: desks and worlds.
- `Implements`: instructions and steps, with `Implements.bind` to put them together.
- `locate_reach`, `load_item`, `store_put`: operands and spots.
-/

namespace Mailroom.Source

open Text

/-! ## Desks and worlds -/

/-- What can be seen of a world from outside is on the desk. -/
structure Agrees (l : Layout) (w : World) (d : Desk) : Prop where
  inbox : d.inbox = w.inbox
  sent : d.emitted = w.sent
  size : d.floor.size = w.floor.size
  floor : ∀ a : Int, 0 ≤ a → a.toNat ∉ l.kept → d.floor.item a = w.floor.item a

/-- The desk has all of a world.  The variables lie on the tiles in `tiles`, and the tiles in `held`
hold values that are still needed. -/
structure Represents (t : Target) (l : Layout) (tiles : Assoc String Nat) (held : List (Nat × Int))
    (w : World) (d : Desk) : Prop extends Agrees l w d where
  room : t.size ≤ d.floor.size
  vars : ∀ x v, w.vars x = some (some v) → ∃ k, tiles.get? x = some k ∧ d.floor.item k = v
  scope : ∀ x, (w.vars x).isSome → (tiles.get? x).isSome
  held : ∀ k v, (k, v) ∈ held → d.floor.item k = v

/-- How a layout goes with a target. -/
structure Fits (t : Target) (l : Layout) : Prop where
  constant : ∀ x, l.constant x = (t.symbols.get? x).bind (·.address)
  reserved : ∀ x a, l.constant x = some a → a ∉ l.kept ∧ (a : Int) < t.size
  bound : ∀ k ∈ l.kept, (k : Int) < t.size
  unique : (l.placed.map (·.1)).Nodup

/-- The tiles that have been given out, in terms of a layout. -/
structure Frame (l : Layout) (tiles : Assoc String Nat) (used : List Nat)
    (held : List (Nat × Int)) : Prop where
  placed : ∀ x k, tiles.get? x = some k → l.placed.get? x = some k
  inUse : ∀ x k, tiles.get? x = some k → k ∈ used
  apart : ∀ x y k, tiles.get? x = some k → tiles.get? y = some k → x = y
  kept : ∀ k ∈ used, k ∈ l.kept
  needed : ∀ k v, (k, v) ∈ held → k ∈ used ∧ ∀ x, tiles.get? x ≠ some k

/-- The address of a place. -/
def SpotAt (l : Layout) (tiles : Assoc String Nat) (w : World) (d : Desk) (a : Int) : Spot → Prop
  | .named x => (w.vars x).isSome ∧ ∃ k : Nat, tiles.get? x = some k ∧ a = k
  | .tile a' => a' = a ∧ d.floor.Has a ∧ a.toNat ∉ l.kept

section Places

variable {t : Target} {l : Layout} {tiles : Assoc String Nat} {used : List Nat}
  {held : List (Nat × Int)} {w w' : World} {d : Desk}

lemma Represents.has (h : Represents t l tiles held w d) {k : Nat} (hk : (k : Int) < t.size) :
    d.floor.Has k := by
  have := h.room
  exact ⟨by omega, by omega⟩

lemma Agrees.has_iff (h : Agrees l w d) (a : Int) : w.floor.Has a ↔ d.floor.Has a := by
  unfold Floor.Has
  rw [h.size]

/-- A variable in scope that owns a tile lies there. -/
lemma owner_tile (hfits : Fits t l) (hframe : Frame l tiles used held)
    (hrep : Represents t l tiles held w d) {x : String} {k : Nat} (howner : l.owner k = some x)
    (hscope : (w.vars x).isSome) : tiles.get? x = some k := by
  rw [Layout.owner, Option.map_eq_some_iff] at howner
  obtain ⟨⟨y, k'⟩, hfind, rfl⟩ := howner
  have hmem := List.mem_of_find?_eq_some hfind
  have hk := List.find?_some hfind
  simp only [decide_eq_true_eq] at hk
  subst hk
  have hplaced := Assoc.get?_of_mem hfits.unique hmem
  obtain ⟨k'', hk''⟩ := Option.isSome_iff_exists.mp (hrep.scope y hscope)
  rw [hframe.placed y k'' hk'', Option.some.injEq] at hplaced
  rw [hk'', hplaced]

/-- The way a step fails that changes nothing and has no instruction of its own to fail. -/
def Stop.atSpot : Stop → Prop
  | .offFloor _ | .undefined _ | .outOfScope _ | .stray _ | .illFormed => True
  | _ => False

/-- A pointer on a tile leads to what it points at. -/
lemma pointee_reach (hfits : Fits t l) (hframe : Frame l tiles used held)
    (hrep : Represents t l tiles held w d) {k : Nat} {p : Int} (hhas : d.floor.Has k)
    (hitem : d.floor.item k = p) :
    match l.pointee p w with
    | .ok spot w' => w' = w ∧ ∃ a, d.reach ⟨k, true⟩ = .ok a ∧ SpotAt l tiles w d a spot
    | .error s w' => w' = w ∧ s.atSpot ∧
        ∀ e, s = .offFloor e → d.reach ⟨k, true⟩ = .error (.offFloor e) := by
  have hreach : d.reach ⟨k, true⟩
      = if d.floor.Has p then .ok p else .error (.offFloor ⟨p, d.floor.size⟩) := by
    rw [Desk.reach, Floor.resolve_indirect, if_pos hhas, hitem]
    split <;> rfl
  rw [pointee_apply]
  by_cases hkept : 0 ≤ p ∧ p.toNat ∈ l.kept
  · rw [if_pos hkept]
    obtain ⟨hnonneg, hmem⟩ := hkept
    have hhasp : d.floor.Has p := by
      have hbound := hrep.has (hfits.bound _ hmem)
      rwa [Int.toNat_of_nonneg hnonneg] at hbound
    cases howner : l.owner p.toNat with
    | none => exact ⟨rfl, trivial, by simp⟩
    | some x =>
        dsimp only
        by_cases hscope : (w.vars x).isSome
        · rw [if_pos hscope]
          have htile := owner_tile hfits hframe hrep howner hscope
          refine ⟨rfl, p, ?_, hscope, p.toNat, htile, by omega⟩
          rw [hreach, if_pos hhasp]
        · rw [if_neg hscope]
          exact ⟨rfl, trivial, by simp⟩
  · rw [if_neg hkept, tileSpot_apply]
    by_cases hhasp : d.floor.Has p
    · rw [if_pos ((hrep.has_iff p).mpr hhasp)]
      refine ⟨rfl, p, ?_, rfl, hhasp, fun hmem => hkept ⟨hhasp.1, hmem⟩⟩
      rw [hreach, if_pos hhasp]
    · rw [if_neg ((hrep.has_iff p).not.mpr hhasp)]
      refine ⟨rfl, trivial, ?_⟩
      rintro e ⟨⟩
      rw [hreach, if_neg hhasp, hrep.size]

/-- **Operands and places.**  The operand of a variable leads to the place that the variable stands
for. -/
lemma locate_reach (hfits : Fits t l) (hframe : Frame l tiles used held)
    (hrep : Represents t l tiles held w d) {v : Var} {x : Tile}
    (hx : operand? t tiles v = some x) :
    match l.locate v w with
    | .ok spot w' => w' = w ∧ ∃ a, d.reach x = .ok a ∧ SpotAt l tiles w d a spot
    | .error s w' => w' = w ∧ s.atSpot ∧ ∀ e, s = .offFloor e → d.reach x = .error (.offFloor e) := by
  rw [operand?] at hx
  rw [locate_apply, hfits.constant]
  cases hsym : t.symbols.get? v.name with
  | none =>
      rw [hsym] at hx
      cases hx
  | some sym =>
      rw [hsym] at hx
      dsimp only [Option.bind_some] at hx ⊢
      cases haddress : sym.address with
      | some address =>
          rw [haddress] at hx
          cases hx
          have hconst : l.constant v.name = some address := by
            rw [hfits.constant, hsym]
            exact haddress
          obtain ⟨hkept, hlt⟩ := hfits.reserved _ _ hconst
          have hhas := hrep.has hlt
          dsimp only
          cases v.deref with
          | false => exact ⟨rfl, trivial, by simp⟩
          | true =>
              rw [if_pos rfl, tileSpot_apply, if_pos ((hrep.has_iff _).mpr hhas)]
              refine ⟨rfl, address, ?_, rfl, hhas, by simpa using hkept⟩
              rw [Desk.reach_direct, if_pos hhas]
      | none =>
          rw [haddress] at hx
          obtain ⟨k, hk, rfl⟩ := Option.map_eq_some_iff.mp hx
          have hhas := hrep.has (hfits.bound k (hframe.kept k (hframe.inUse _ k hk)))
          dsimp only
          cases v.deref with
          | false =>
              rw [if_neg Bool.false_ne_true]
              by_cases hscope : (w.vars v.name).isSome
              · rw [if_pos hscope]
                refine ⟨rfl, k, ?_, hscope, k, hk, rfl⟩
                rw [Desk.reach_direct, if_pos hhas]
              · rw [if_neg hscope]
                exact ⟨rfl, trivial, by simp⟩
          | true =>
              rw [if_pos rfl, readVariable_apply]
              rcases hvar : w.vars v.name with _ | _ | p
              · exact ⟨rfl, trivial, by simp⟩
              · exact ⟨rfl, trivial, by simp⟩
              · obtain ⟨k', hk', hitem⟩ := hrep.vars _ _ hvar
                rw [hk, Option.some.injEq] at hk'
                subst hk'
                exact pointee_reach hfits hframe hrep hhas hitem

lemma SpotAt.has (hfits : Fits t l) (hframe : Frame l tiles used held)
    (hrep : Represents t l tiles held w d) {a : Int} {spot : Spot} (h : SpotAt l tiles w d a spot) :
    d.floor.Has a := by
  cases spot with
  | named x =>
      obtain ⟨-, k, hk, rfl⟩ := h
      exact hrep.has (hfits.bound k (hframe.kept k (hframe.inUse _ k hk)))
  | tile a' => exact h.2.1

/-- What lies at a place is read from its address. -/
lemma load_item (hrep : Represents t l tiles held w d) {a : Int} {spot : Spot}
    (h : SpotAt l tiles w d a spot) :
    match load spot w with
    | .ok v w' => w' = w ∧ d.floor.item a = v
    | .error s w' => w' = w ∧ s.atSpot ∧ ∀ e, s ≠ .offFloor e := by
  cases spot with
  | named x =>
      obtain ⟨hscope, k, hk, rfl⟩ := h
      rw [load, readVariable_apply]
      rcases hvar : w.vars x with _ | _ | v
      · exact ⟨rfl, trivial, fun e he => nomatch he⟩
      · exact ⟨rfl, trivial, fun e he => nomatch he⟩
      · obtain ⟨k', hk', hitem⟩ := hrep.vars x v hvar
        rw [hk, Option.some.injEq] at hk'
        subst hk'
        exact ⟨rfl, hitem⟩
  | tile a' =>
      obtain ⟨rfl, hhas, hkept⟩ := h
      exact ⟨rfl, hrep.floor a' hhas.1 hkept⟩

/-- The hand makes no difference to what a desk represents. -/
lemma Represents.withHand (h : Represents t l tiles held w d) (hand : Option Int) :
    Represents t l tiles held w { d with hand } :=
  ⟨⟨h.inbox, h.sent, h.size, h.floor⟩, h.room, h.vars, h.scope, h.held⟩

/-- What is written to the tile of a variable is its value. -/
lemma Represents.define (hfits : Fits t l) (hframe : Frame l tiles used held)
    (hrep : Represents t l tiles held w d) {x : String} {k : Nat} (hk : tiles.get? x = some k)
    (v : Int) :
    Represents t l tiles held (w.set x (some v)) { d with floor := d.floor.put k v } := by
  have hkept := hframe.kept k (hframe.inUse x k hk)
  have hitem : ∀ {b : Int}, 0 ≤ b →
      (d.floor.put k v).item b = if b = k then v else d.floor.item b :=
    fun hb => Floor.item_put v (hrep.has (hfits.bound k hkept)) hb
  have hother : ∀ {k' : Nat}, k' ≠ k → (d.floor.put k v).item k' = d.floor.item k' := by
    intro k' hk'
    rw [hitem (Int.natCast_nonneg k'), if_neg (by omega)]
  refine ⟨⟨hrep.inbox, hrep.sent, hrep.size, ?_⟩, hrep.room, ?_, ?_, ?_⟩
  · intro b hb hb'
    rw [hitem hb, if_neg]
    · exact hrep.floor b hb hb'
    · rintro rfl
      exact hb' hkept
  · intro y u hy
    simp only [World.set] at hy
    split at hy
    · rename_i hyx
      cases hy
      subst hyx
      exact ⟨k, hk, by rw [hitem (Int.natCast_nonneg k), if_pos rfl]⟩
    · rename_i hyx
      obtain ⟨k', hk', hu⟩ := hrep.vars y u hy
      refine ⟨k', hk', ?_⟩
      rw [hother, hu]
      rintro rfl
      exact hyx (hframe.apart y x k' hk' hk)
  · intro y hy
    simp only [World.set] at hy
    split at hy
    · rename_i hyx
      rw [hyx, hk]
      rfl
    · exact hrep.scope y hy
  · intro k' u hu
    have hne : k' ≠ k := by
      rintro rfl
      exact (hframe.needed k' u hu).2 x hk
    rw [hother hne]
    exact hrep.held k' u hu

/-- What is written to an address lies at its place. -/
lemma store_put (hfits : Fits t l) (hframe : Frame l tiles used held)
    (hrep : Represents t l tiles held w d) {a : Int} {spot : Spot} (h : SpotAt l tiles w d a spot)
    (v : Int) :
    ∃ w', store v spot w = .ok () w' ∧
      Represents t l tiles held w' { d with floor := d.floor.put a v } := by
  have hhas := h.has hfits hframe hrep
  rw [store_apply]
  refine ⟨_, rfl, ?_⟩
  cases spot with
  | named x =>
      obtain ⟨-, k, hk, rfl⟩ := h
      exact hrep.define hfits hframe hk v
  | tile a' =>
      obtain ⟨rfl, -, hkept⟩ := h
      have hother : ∀ {k : Nat}, k ∈ l.kept → (d.floor.put a' v).item k = d.floor.item k := by
        intro k hk
        rw [Floor.item_put v hhas (Int.natCast_nonneg k), if_neg]
        rintro rfl
        exact hkept hk
      refine ⟨⟨hrep.inbox, hrep.sent, hrep.size, ?_⟩, hrep.room, ?_, hrep.scope, ?_⟩
      · intro b hb hkept'
        rw [Floor.item_put v hhas hb, Floor.item_put v ((hrep.has_iff a').mpr hhas) hb]
        split
        · rfl
        · exact hrep.floor b hb hkept'
      · intro y u hy
        obtain ⟨k, hk, hu⟩ := hrep.vars y u hy
        refine ⟨k, hk, ?_⟩
        rw [hother (hframe.kept k (hframe.inUse y k hk)), hu]
      · intro k u hu
        rw [hother (hframe.kept k (hframe.needed k u hu).1)]
        exact hrep.held k u hu

/-! ### Values in between -/

/-- A tile that is given out for a value in between. -/
lemma Frame.hold (hframe : Frame l tiles used held) {k : Nat} (hfresh : t.fresh? used = some k)
    (hkept : k ∈ l.kept) (v : Int) : Frame l tiles (k :: used) ((k, v) :: held) where
  placed := hframe.placed
  inUse := fun x k' hk' => List.mem_cons_of_mem _ (hframe.inUse x k' hk')
  apart := hframe.apart
  kept := List.forall_mem_cons.mpr ⟨hkept, hframe.kept⟩
  needed := by
    intro k' u hu
    rcases List.mem_cons.mp hu with heq | hu
    · cases heq
      exact ⟨List.mem_cons_self, fun x hx => (fresh?_spec hfresh).1 (hframe.inUse x k hx)⟩
    · obtain ⟨hin, hvar⟩ := hframe.needed k' u hu
      exact ⟨List.mem_cons_of_mem _ hin, hvar⟩

/-- The tile of a value in between may also be given out before there is a value. -/
lemma Frame.reserve (hframe : Frame l tiles used held) {k : Nat} (hkept : k ∈ l.kept) :
    Frame l tiles (k :: used) held where
  placed := hframe.placed
  inUse := fun x k' hk' => List.mem_cons_of_mem _ (hframe.inUse x k' hk')
  apart := hframe.apart
  kept := List.forall_mem_cons.mpr ⟨hkept, hframe.kept⟩
  needed := fun k' u hu =>
    ⟨List.mem_cons_of_mem _ (hframe.needed k' u hu).1, (hframe.needed k' u hu).2⟩

/-- A value in between is put on a tile of its own. -/
lemma Represents.hold (hfits : Fits t l) (hframe : Frame l tiles used held)
    (hrep : Represents t l tiles held w d) {k : Nat} (hfresh : t.fresh? used = some k)
    (hkept : k ∈ l.kept) (v : Int) :
    Represents t l tiles ((k, v) :: held) w { d with floor := d.floor.put k v } := by
  have hhas := hrep.has (hfits.bound k hkept)
  have hnew := (fresh?_spec hfresh).1
  have hother : ∀ {k' : Nat}, k' ≠ k → (d.floor.put k v).item k' = d.floor.item k' := by
    intro k' hk'
    rw [Floor.item_put v hhas (Int.natCast_nonneg k'), if_neg (by omega)]
  refine ⟨⟨hrep.inbox, hrep.sent, hrep.size, ?_⟩, hrep.room, ?_, hrep.scope, ?_⟩
  · intro b hb hb'
    rw [Floor.item_put v hhas hb, if_neg]
    · exact hrep.floor b hb hb'
    · rintro rfl
      exact hb' hkept
  · intro x u hx
    obtain ⟨k', hk', hu⟩ := hrep.vars x u hx
    refine ⟨k', hk', ?_⟩
    rw [hother, hu]
    rintro rfl
    exact hnew (hframe.inUse x k' hk')
  · intro k' u hu
    rcases List.mem_cons.mp hu with heq | hold
    · cases heq
      rw [Floor.item_put v hhas (Int.natCast_nonneg k), if_pos rfl]
    · rw [hother]
      · exact hrep.held k' u hold
      · rintro rfl
        exact hnew (hframe.needed k' u hold).1

lemma Represents.release {k : Nat} {v : Int} (h : Represents t l tiles ((k, v) :: held) w d) :
    Represents t l tiles held w d :=
  ⟨h.toAgrees, h.room, h.vars, h.scope, fun k' u hu => h.held k' u (List.mem_cons_of_mem _ hu)⟩

end Places

/-! ## Instructions and steps -/

/-- How a run shows that the meaning stops: it ends in the same way, or has carried out at least
some number of instructions when a loop has gone round too often.  Where the meaning leaves open
what happens, so does this. -/
def Stop.Shows (code : List Op) (least : Nat) (c c' : Config) : Stop → Prop
  | .inputOver => c'.advance code = .error .dry
  | .spoiled e => c'.advance code = .error (.failed e)
  | .offFloor e => c'.advance code = .error (.fault (.offFloor e))
  | .outOfFuel => c.steps + least ≤ c'.steps
  | .undefined _ | .outOfScope _ | .stray _ | .illFormed => True

/-- A place in a listing, up to labels. -/
abbrev Point := Option (Instr × List Op)

/-- From `start` the listing takes a step of the meaning, and gets to a place that may depend on the
result. -/
def Reaches {α : Type} (code : List Op) (l : Layout) (least : Nat) (pre : World → Desk → Prop)
    (x : Eval α) (start : Point) (exit : α → Point) (post : α → World → Desk → Prop) : Prop :=
  ∀ (w : World) (c : Config), upcoming c.rest = start → pre w c.desk →
    ∃ c', Leads code c c' ∧
      match x w with
      | .ok a w' => upcoming c'.rest = exit a ∧ post a w' c'.desk
      | .error s w' => Agrees l w' c'.desk ∧ s.Shows code least c c'

/-- The instructions in `frag` take a step of the meaning, wherever they stand in the listing. -/
def Implements {α : Type} (code : List Op) (l : Layout) (least : Nat) (pre : World → Desk → Prop)
    (x : Eval α) (frag : List Op) (post : α → World → Desk → Prop) : Prop :=
  ∀ rest, frag ++ rest <:+ code →
    Reaches code l least pre x (upcoming (frag ++ rest)) (fun _ => upcoming rest) post

section Steps

variable {α β : Type} {code : List Op} {l : Layout} {least : Nat}
  {pre : World → Desk → Prop}

lemma Stop.Shows.of_leads {c c1 c' : Config} {s : Stop} (hleads : Leads code c c1)
    (h : s.Shows code least c1 c') : s.Shows code least c c' := by
  cases s with
  | outOfFuel => exact (Nat.add_le_add_right hleads.steps_le least).trans h
  | _ => exact h

/-- **Sequences.**  Steps are taken one after the other. -/
lemma Reaches.bind {x : Eval α} {f : α → Eval β} {start : Point} {mid : α → Point}
    {exit : β → Point} {between : α → World → Desk → Prop} {post : β → World → Desk → Prop}
    (hx : Reaches code l least pre x start mid between)
    (hf : ∀ a, Reaches code l least (between a) (f a) (mid a) exit post) :
    Reaches code l least pre (x >>= f) start exit post := by
  intro w c hup hpre
  obtain ⟨c1, hleads, h1⟩ := hx w c hup hpre
  rw [bind_apply]
  cases hrun : x w with
  | error s w' =>
      rw [hrun] at h1
      exact ⟨c1, hleads, h1⟩
  | ok a w' =>
      rw [hrun] at h1
      obtain ⟨c2, hleads', h2⟩ := hf a w' c1 h1.1 h1.2
      refine ⟨c2, hleads.trans hleads', ?_⟩
      dsimp only
      cases hrun' : f a w' with
      | error s w'' =>
          rw [hrun'] at h2
          exact ⟨h2.1, h2.2.of_leads hleads⟩
      | ok b w'' =>
          rw [hrun'] at h2
          exact h2

lemma Reaches.mono {x : Eval α} {start : Point} {exit exit' : α → Point}
    {pre' : World → Desk → Prop} {post post' : α → World → Desk → Prop}
    (hx : Reaches code l least pre x start exit post) (hpre : ∀ w d, pre' w d → pre w d)
    (hexit : ∀ a, exit a = exit' a) (hpost : ∀ a w d, post a w d → post' a w d) :
    Reaches code l least pre' x start exit' post' := by
  intro w c hup hpre'
  obtain ⟨c', hleads, h⟩ := hx w c hup (hpre _ _ hpre')
  refine ⟨c', hleads, ?_⟩
  cases hrun : x w with
  | error s w' =>
      rw [hrun] at h
      exact h
  | ok a w' =>
      rw [hrun] at h
      exact ⟨h.1.trans (hexit a), hpost _ _ _ h.2⟩

/-- Nothing is done for a step that does nothing. -/
lemma Reaches.pure {a : α} {start : Point} {exit : α → Point} {post : α → World → Desk → Prop}
    (hexit : start = exit a) (h : ∀ w d, pre w d → post a w d) :
    Reaches code l least pre (Pure.pure a) start exit post :=
  fun w c hup hpre => ⟨c, .refl, hup.trans hexit, h w c.desk hpre⟩

lemma Implements.bind {x : Eval α} {f : α → Eval β} {frag frag' : List Op}
    {between : α → World → Desk → Prop} {post : β → World → Desk → Prop}
    (hx : Implements code l least pre x frag between)
    (hf : ∀ a, Implements code l least (between a) (f a) frag' post) :
    Implements code l least pre (x >>= f) (frag ++ frag') post := by
  intro rest hplace
  rw [List.append_assoc] at hplace ⊢
  exact (hx (frag' ++ rest) hplace).bind fun a =>
    hf a rest ((List.suffix_append _ _).trans hplace)

lemma Implements.mono {x : Eval α} {frag : List Op} {pre' : World → Desk → Prop}
    {post post' : α → World → Desk → Prop} (hx : Implements code l least pre x frag post)
    (hpre : ∀ w d, pre' w d → pre w d) (hpost : ∀ a w d, post a w d → post' a w d) :
    Implements code l least pre' x frag post' :=
  fun rest hplace => (hx rest hplace).mono hpre (fun _ => rfl) hpost

lemma Implements.pure {a : α} {post : α → World → Desk → Prop}
    (h : ∀ w d, pre w d → post a w d) : Implements code l least pre (Pure.pure a) [] post :=
  fun _ _ => Reaches.pure rfl h

/-- A step and what is made of its result. -/
lemma Implements.map {x : Eval α} {frag : List Op} {between : α → World → Desk → Prop}
    {Q : β → World → Desk → Prop} {f : α → β} (hx : Implements code l least pre x frag between)
    (hf : ∀ a w d, between a w d → Q (f a) w d) :
    Implements code l least pre (x >>= fun a => Pure.pure (f a)) frag Q := by
  rw [← List.append_nil frag]
  exact hx.bind fun a => Implements.pure (hf a)

/-- The result of a step, and what was to be made of it. -/
lemma Implements.unmap {x : Eval α} {frag : List Op} {Q : β → World → Desk → Prop} {f : α → β}
    (hx : Implements code l least pre (x >>= fun a => Pure.pure (f a)) frag Q) :
    Implements code l least pre x frag fun a => Q (f a) := by
  intro rest hplace w c hup hpre
  obtain ⟨c', hleads, h⟩ := hx rest hplace w c hup hpre
  refine ⟨c', hleads, ?_⟩
  rw [bind_apply] at h
  cases hrun : x w with
  | error s w' =>
      rw [hrun] at h
      exact h
  | ok a w' =>
      rw [hrun] at h
      exact h

/-- The same step and the same instructions, written in another way. -/
lemma Implements.of_eq {x y : Eval α} {frag frag' : List Op} {post : α → World → Desk → Prop}
    (hx : Implements code l least pre x frag post) (h : y = x) (hfrag : frag' = frag) :
    Implements code l least pre y frag' post := by
  rw [h, hfrag]
  exact hx

/-- One instruction takes a step that it succeeds or fails with. -/
lemma Implements.instr {x : Eval α} {i : Instr} {post : α → World → Desk → Prop}
    (h : ∀ w d, pre w d → match x w with
      | .ok a w' => ∃ d', d.perform i = .ok (d', none) ∧ post a w' d'
      | .error s w' => Agrees l w' d ∧ (s.atSpot ∨ s = .inputOver ∨ ∃ e, s = .spoiled e) ∧
          (∀ e, s = .offFloor e → d.perform i = .error (.fault (.offFloor e))) ∧
          (s = .inputOver → d.perform i = .error .dry) ∧
          ∀ e, s = .spoiled e → d.perform i = .error (.failed e)) :
    Implements code l least pre x [.instr i] post := by
  intro rest hplace w c hup hpre
  rw [List.singleton_append, upcoming_instr] at hup
  have hstep := h w c.desk hpre
  cases hrun : x w with
  | ok a w' =>
      rw [hrun] at hstep
      obtain ⟨d', hperform, hpost⟩ := hstep
      exact ⟨_, .single (Config.advance_of_perform hup hperform), rfl, hpost⟩
  | error s w' =>
      rw [hrun] at hstep
      obtain ⟨hagrees, hkind, hoff, hover, hspoiled⟩ := hstep
      refine ⟨c, .refl, hagrees, ?_⟩
      cases s with
      | inputOver => exact Config.advance_of_perform_error hup (hover rfl)
      | spoiled e => exact Config.advance_of_perform_error hup (hspoiled e rfl)
      | offFloor e => exact Config.advance_of_perform_error hup (hoff e rfl)
      | outOfFuel => rcases hkind with hkind | hkind | ⟨e, hkind⟩ <;> cases hkind
      | _ => trivial

/-- Nothing is said about instructions for something that has no meaning. -/
lemma Implements.illFormed {frag : List Op} {post : α → World → Desk → Prop}
    (h : ∀ w d, pre w d → Agrees l w d) :
    Implements code l least pre (throw .illFormed) frag post :=
  fun _ _ w c _ hpre => ⟨c, .refl, h w c.desk hpre, trivial⟩

/-- An instruction on a tile. -/
lemma Implements.onTile {x : Eval α} {op : TileOp} {tile : Tile} {post : α → World → Desk → Prop}
    (h : ∀ w d, pre w d → match x w with
      | .ok a w' => ∃ d', d.useTile op tile = .ok d' ∧ post a w' d'
      | .error s w' => Agrees l w' d ∧ s.atSpot ∧
          ∀ e, s = .offFloor e → d.useTile op tile = .error (.offFloor e)) :
    Implements code l least pre x [onTile op tile] post := by
  refine Implements.instr fun w d hpre => ?_
  have hstep := h w d hpre
  cases hrun : x w with
  | ok a w' =>
      rw [hrun] at hstep
      obtain ⟨d', huse, hpost⟩ := hstep
      exact ⟨d', by rw [Desk.perform, huse], hpost⟩
  | error s w' =>
      rw [hrun] at hstep
      obtain ⟨hagrees, hspot, hoff⟩ := hstep
      refine ⟨hagrees, .inl hspot, ?_, ?_, ?_⟩
      · intro e he
        rw [Desk.perform, hoff e he]
      · rintro rfl
        cases hspot
      · rintro e rfl
        cases hspot

end Steps

/-! ### Instructions on the tile of a variable -/

lemma useTile_sum {d : Desk} {op : SumOp} {tile : Tile} {a v : Int} (hhand : d.hand = some v)
    (h : d.reach tile = .ok a) :
    d.useTile op.op tile = .ok { d with hand := some (op.apply v (d.floor.item a)) } := by
  cases op <;>
    simp only [SumOp.op, SumOp.apply, Desk.useTile, Desk.need_eq hhand, h, bind, Except.bind, pure,
      Except.pure]

lemma useTile_bump_eq {d : Desk} {direction : Bump} {tile : Tile} {a : Int}
    (h : d.reach tile = .ok a) :
    d.useTile direction.op tile
      = .ok { d with
          floor := d.floor.put a (d.floor.item a + direction.delta)
          hand := some (d.floor.item a + direction.delta) } := by
  cases direction with
  | up => simp only [Bump.op, Bump.delta, Desk.useTile, h, bind, Except.bind, pure, Except.pure]
  | down =>
      simp only [Bump.op, Bump.delta, Desk.useTile, h, bind, Except.bind, pure, Except.pure]
      rfl

section Operands

variable {t : Target} {l : Layout} {tiles : Assoc String Nat} {used : List Nat}
  {held : List (Nat × Int)} {code : List Op} {least : Nat} {v : Var} {x : Tile}

/-- An instruction on the tile of a variable takes a step at the place that the variable stands
for. -/
lemma implements_located {α : Type} (hfits : Fits t l) (hframe : Frame l tiles used held)
    (hx : operand? t tiles v = some x) {op : TileOp} {P : World → Desk → Prop} {f : Spot → Eval α}
    {post : α → World → Desk → Prop}
    (hhand : ∀ w d, P w d → (Instr.tile op x).needsHand = true → ∃ v, d.hand = some v)
    (hf : ∀ w d spot a, Represents t l tiles held w d → P w d → l.locate v w = .ok spot w →
      d.reach x = .ok a → SpotAt l tiles w d a spot → match f spot w with
        | .ok r w' => ∃ d', d.useTile op x = .ok d' ∧ post r w' d'
        | .error s w' => w' = w ∧ s.atSpot ∧ ∀ e, s ≠ .offFloor e) :
    Implements code l least (fun w d => Represents t l tiles held w d ∧ P w d) (l.locate v >>= f)
      [onTile op x] post := by
  refine Implements.onTile fun w d hpre => ?_
  obtain ⟨hrep, hP⟩ := hpre
  have hlocate := locate_reach hfits hframe hrep hx
  rw [bind_apply]
  cases hrun : l.locate v w with
  | error s w' =>
      rw [hrun] at hlocate
      obtain ⟨rfl, hspot, hoff⟩ := hlocate
      exact ⟨hrep.toAgrees, hspot, fun e he => Desk.useTile_eq_error (hhand _ d hP) (hoff e he)⟩
  | ok spot w' =>
      rw [hrun] at hlocate
      obtain ⟨rfl, a, hreach, hat⟩ := hlocate
      have hstep := hf w' d spot a hrep hP hrun hreach hat
      dsimp only
      cases hrun' : f spot w' with
      | error s w'' =>
          rw [hrun'] at hstep
          obtain ⟨rfl, hspot, hoff⟩ := hstep
          exact ⟨hrep.toAgrees, hspot, fun e he => absurd he (hoff e)⟩
      | ok r w'' =>
          rw [hrun'] at hstep
          exact hstep

/-- A step that begins by reading a place. -/
lemma load_bind {α : Type} {w : World} {d : Desk} (hrep : Represents t l tiles held w d) {a : Int}
    {spot : Spot} (hat : SpotAt l tiles w d a spot) {g : Int → Eval α}
    {good : α → World → Prop}
    (hg : load spot w = .ok (d.floor.item a) w → match g (d.floor.item a) w with
      | .ok r w' => good r w'
      | .error s w' => w' = w ∧ s.atSpot ∧ ∀ e, s ≠ .offFloor e) :
    match (load spot >>= g) w with
    | .ok r w' => good r w'
    | .error s w' => w' = w ∧ s.atSpot ∧ ∀ e, s ≠ .offFloor e := by
  have hload := load_item hrep hat
  rw [bind_apply]
  cases hrun : load spot w with
  | error s w' =>
      rw [hrun] at hload
      exact hload
  | ok old w' =>
      rw [hrun] at hload
      obtain ⟨rfl, rfl⟩ := hload
      exact hg hrun

/-- Reading a place leaves its value in the hand. -/
lemma implements_copyFrom (hfits : Fits t l) (hframe : Frame l tiles used held)
    (hx : operand? t tiles v = some x) :
    Implements code l least (Represents t l tiles held)
      (do
        let spot ← l.locate v
        let old ← load spot
        return (spot, old))
      [onTile .copyFrom x]
      fun (spot, old) w d => Represents t l tiles held w d ∧ d.hand = some old ∧
        l.locate v w = .ok spot w ∧ load spot w = .ok old w := by
  refine (implements_located hfits hframe hx (P := fun _ _ => True) ?_ ?_).mono
    (fun _ _ h => ⟨h, trivial⟩) fun _ _ _ h => h
  · intro w d _ h
    cases h
  · intro w d spot a hrep _ hlocate hreach hat
    refine load_bind hrep hat fun hload => ?_
    exact ⟨_, Desk.useTile_copyFrom_eq hreach, hrep.withHand _, rfl, hlocate, hload⟩

/-- Writing what is in the hand. -/
lemma implements_copyTo (hfits : Fits t l) (hframe : Frame l tiles used held)
    (hx : operand? t tiles v = some x) (value : Int) :
    Implements code l least
      (fun w d => Represents t l tiles held w d ∧ d.hand = some value)
      (do
        store value (← l.locate v)
        return value)
      [onTile .copyTo x]
      fun r w d => Represents t l tiles held w d ∧ d.hand = some r := by
  refine implements_located hfits hframe hx (fun w d h _ => ⟨value, h⟩) ?_
  intro w d spot a hrep hhand _ hreach hat
  obtain ⟨w', hstore, hrep'⟩ := store_put hfits hframe hrep hat value
  rw [bind_apply, hstore]
  exact ⟨_, Desk.useTile_copyTo_eq hhand hreach, hrep', hhand⟩

/-- A bump leaves the new value in the hand. -/
lemma implements_bump (hfits : Fits t l) (hframe : Frame l tiles used held)
    (hx : operand? t tiles v = some x) (direction : Bump) :
    Implements code l least (Represents t l tiles held) (l.bumped v direction)
      [onTile direction.op x]
      fun old w d => Represents t l tiles held w d ∧ d.hand = some (old + direction.delta) := by
  refine (implements_located hfits hframe hx (P := fun _ _ => True) ?_ ?_).mono
    (fun _ _ h => ⟨h, trivial⟩) fun _ _ _ h => h
  · intro w d _ h
    cases direction <;> cases h
  · intro w d spot a hrep _ hlocate hreach hat
    refine load_bind hrep hat fun hload => ?_
    obtain ⟨w', hstore, hrep'⟩ :=
      store_put hfits hframe hrep hat (d.floor.item a + direction.delta)
    rw [bind_apply, hstore]
    exact ⟨_, useTile_bump_eq hreach, hrep'.withHand _, rfl⟩

/-- A bump of a place whose value is known. -/
lemma implements_store_bump (hfits : Fits t l) (hframe : Frame l tiles used held)
    (hx : operand? t tiles v = some x) (direction : Bump) (spot : Spot) (old : Int) :
    Implements code l least
      (fun w d => Represents t l tiles held w d ∧ l.locate v w = .ok spot w ∧
        load spot w = .ok old w)
      (store (old + direction.delta) spot) [onTile direction.op x]
      fun _ w d => Represents t l tiles held w d := by
  refine Implements.onTile fun w d hpre => ?_
  obtain ⟨hrep, hlocate, hload⟩ := hpre
  have hreach := locate_reach hfits hframe hrep hx
  rw [hlocate] at hreach
  obtain ⟨-, a, hreach, hat⟩ := hreach
  have hitem := load_item hrep hat
  rw [hload] at hitem
  obtain ⟨w', hstore, hrep'⟩ := store_put hfits hframe hrep hat (old + direction.delta)
  rw [hstore]
  refine ⟨_, useTile_bump_eq hreach, ?_⟩
  rw [hitem.2]
  exact hrep'.withHand _

/-- A sum or difference with what lies at a place. -/
lemma implements_sum (hfits : Fits t l) (hframe : Frame l tiles used held)
    (hx : operand? t tiles v = some x) (op : SumOp) (value : Int) :
    Implements code l least
      (fun w d => Represents t l tiles held w d ∧ d.hand = some value)
      (do
        let b ← load (← l.locate v)
        return op.apply value b)
      [onTile op.op x]
      fun r w d => Represents t l tiles held w d ∧ d.hand = some r := by
  refine implements_located hfits hframe hx (fun w d h _ => ⟨value, h⟩) ?_
  intro w d spot a hrep hhand _ hreach hat
  refine load_bind hrep hat fun hload => ?_
  exact ⟨_, useTile_sum hhand hreach, hrep.withHand _, rfl⟩

end Operands

/-! ### Instructions on tiles for values in between -/

section Cells

variable {t : Target} {l : Layout} {tiles : Assoc String Nat} {used : List Nat}
  {held : List (Nat × Int)} {code : List Op} {least : Nat} {k : Nat}

lemma Represents.reach_cell (hfits : Fits t l) {w : World} {d : Desk}
    (hrep : Represents t l tiles held w d) (hkept : k ∈ l.kept) :
    d.reach ⟨k, false⟩ = .ok (k : Int) := by
  rw [Desk.reach_direct, if_pos (hrep.has (hfits.bound k hkept))]

/-- The value in the hand is put aside. -/
lemma implements_hold (hfits : Fits t l) (hframe : Frame l tiles used held)
    (hfresh : t.fresh? used = some k) (hkept : k ∈ l.kept) (value : Int)
    {P : World → Prop} :
    Implements code l least
      (fun w d => Represents t l tiles held w d ∧ d.hand = some value ∧ P w)
      (pure () : Eval Unit) [onCell .copyTo k]
      fun _ w d => Represents t l tiles ((k, value) :: held) w d ∧ P w := by
  refine Implements.onTile fun w d hpre => ?_
  obtain ⟨hrep, hhand, hP⟩ := hpre
  exact ⟨_, Desk.useTile_copyTo_eq hhand (hrep.reach_cell hfits hkept),
    hrep.hold hfits hframe hfresh hkept value, hP⟩

/-- A value that was put aside is taken up again. -/
lemma implements_resume (hfits : Fits t l) (hkept : k ∈ l.kept) (value : Int) :
    Implements code l least (Represents t l tiles ((k, value) :: held))
      (pure value : Eval Int) [onCell .copyFrom k]
      fun r w d => Represents t l tiles held w d ∧ d.hand = some r := by
  refine Implements.onTile fun w d hrep => ?_
  refine ⟨_, Desk.useTile_copyFrom_eq (hrep.reach_cell hfits hkept), hrep.release.withHand _, ?_⟩
  rw [hrep.held k value List.mem_cons_self]

/-- A sum or difference with a value that was put aside. -/
lemma implements_sum_held (hfits : Fits t l) (hkept : k ∈ l.kept) (op : SumOp) (value other : Int) :
    Implements code l least
      (fun w d => Represents t l tiles ((k, other) :: held) w d ∧ d.hand = some value)
      (pure (op.apply value other) : Eval Int) [onCell op.op k]
      fun r w d => Represents t l tiles held w d ∧ d.hand = some r := by
  refine Implements.onTile fun w d hpre => ?_
  obtain ⟨hrep, hhand⟩ := hpre
  refine ⟨_, useTile_sum hhand (hrep.reach_cell hfits hkept), hrep.release.withHand _, ?_⟩
  rw [hrep.held k other List.mem_cons_self]

end Cells

end Mailroom.Source
