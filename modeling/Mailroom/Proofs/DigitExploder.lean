import Mathlib
import Mailroom.Proofs.Simulation
import Mailroom.Proofs.Splitting
import Mailroom.Source.Bundled

/-!
# The bundled program sends what a splitter sends

The bundled program splits numbers into digits by taking hundreds and tens away one at a time, as a
machine has to that only adds and subtracts.  It is followed through its listing here, with the
number of instructions that it takes between one value and the next.

- `Walks`: instructions that read no value, and how many they are.
- `takeLoop`: the loop that takes a unit away; it stands twice in the listing.
- `splitOps_walks`: what happens between one value and the next.
- `digitExploder_splits`: the program sends what a splitter sends, and fails where it fails.
-/

namespace Mailroom

open Text Source

/-! ## Walks -/

/-- From one place with a desk a run comes to another place with a desk, by so many instructions
that read no value. -/
def Walks (code rest : List Op) (desk : Desk) (cost : Nat) (rest' : List Op) (desk' : Desk) :
    Prop :=
  ∀ c : Config, upcoming c.rest = upcoming rest → c.desk = desk →
    ∃ c', Leads code c c' ∧ upcoming c'.rest = upcoming rest' ∧ c'.desk = desk' ∧
      c'.idle = c.idle + cost ∧ c'.steps = c.steps + cost

namespace Walks

variable {code rest rest' rest'' : List Op} {desk desk' desk'' : Desk} {cost cost' : Nat}
  {hand : Option Int} {v : Int} {floor : Floor} {inbox : Inbox} {out : Array Int} {a : Nat}
  {label : String}

lemma refl : Walks code rest desk 0 rest desk :=
  fun c hup hdesk => ⟨c, .refl, hup, hdesk, rfl, rfl⟩

lemma trans (h : Walks code rest desk cost rest' desk')
    (h' : Walks code rest' desk' cost' rest'' desk'') :
    Walks code rest desk (cost + cost') rest'' desk'' := by
  intro c hup hdesk
  obtain ⟨c1, hleads1, hup1, hdesk1, hidle1, hsteps1⟩ := h c hup hdesk
  obtain ⟨c2, hleads2, hup2, hdesk2, hidle2, hsteps2⟩ := h' c1 hup1 hdesk1
  exact ⟨c2, hleads1.trans hleads2, hup2, hdesk2, by omega, by omega⟩

/-- An instruction that reads no value and leads to no label. -/
lemma instr {i : Instr} (hi : i ≠ .inbox) (hperform : desk.perform i = .ok (desk', none))
    (h : Walks code rest desk' cost rest' desk'') :
    Walks code (.instr i :: rest) desk (cost + 1) rest' desk'' := by
  refine Nat.add_comm cost 1 ▸ trans (fun c hup hdesk => ?_) h
  subst hdesk
  rw [upcoming_instr] at hup
  exact ⟨_, .single (Config.advance_of_perform hup hperform), rfl, rfl, by simp [Config.move, hi],
    rfl⟩

/-- A jump, taken or not. -/
lemma jump {kind : JumpKind} {b : Bool} {q : List Op} (htakes : desk.takes kind label = .ok b)
    (hlabel : after label code = some q)
    (h : Walks code (if b then q else rest) desk cost rest' desk') :
    Walks code (jumpTo kind label :: rest) desk (cost + 1) rest' desk' := by
  refine Nat.add_comm cost 1 ▸ trans (fun c hup hdesk => ?_) h
  subst hdesk
  rw [jumpTo, upcoming_instr] at hup
  exact ⟨_, .single (Config.advance_jump hup htakes hlabel), rfl, rfl, rfl, rfl⟩

lemma always {q : List Op} (hlabel : after label code = some q)
    (h : Walks code q desk cost rest' desk') :
    Walks code (jumpTo .always label :: rest) desk (cost + 1) rest' desk' :=
  jump rfl hlabel h

lemma ifZero {q : List Op} (hlabel : after label code = some q)
    (h : Walks code (if v = 0 then q else rest) ⟨some v, floor, inbox, out⟩ cost rest' desk') :
    Walks code (jumpTo .ifZero label :: rest) ⟨some v, floor, inbox, out⟩ (cost + 1) rest' desk' :=
  jump (Desk.takes_ifZero rfl label) hlabel (by simpa using h)

lemma ifNegative {q : List Op} (hlabel : after label code = some q)
    (h : Walks code (if v < 0 then q else rest) ⟨some v, floor, inbox, out⟩ cost rest' desk') :
    Walks code (jumpTo .ifNegative label :: rest) ⟨some v, floor, inbox, out⟩ (cost + 1) rest'
      desk' :=
  jump (Desk.takes_ifNegative rfl label) hlabel (by simpa using h)

lemma outbox (h : Walks code rest ⟨none, floor, inbox, out.push v⟩ cost rest' desk') :
    Walks code (.instr .outbox :: rest) ⟨some v, floor, inbox, out⟩ (cost + 1) rest' desk' :=
  instr (by simp) rfl h

/-- An instruction on a tile of the floor. -/
lemma cell {op : TileOp} (ha : (a : Int) < desk.floor.size)
    (huse : desk.reach ⟨a, false⟩ = .ok (a : Int) → desk.useTile op ⟨a, false⟩ = .ok desk')
    (h : Walks code rest desk' cost rest' desk'') :
    Walks code (onCell op a :: rest) desk (cost + 1) rest' desk'' := by
  refine instr (by simp) ?_ h
  rw [Desk.perform, huse (by rw [Desk.reach_direct, if_pos ⟨by omega, ha⟩])]

lemma copyFrom (ha : (a : Int) < floor.size)
    (h : Walks code rest ⟨some (floor.item a), floor, inbox, out⟩ cost rest' desk') :
    Walks code (onCell .copyFrom a :: rest) ⟨hand, floor, inbox, out⟩ (cost + 1) rest' desk' :=
  cell ha Desk.useTile_copyFrom_eq h

lemma copyTo (ha : (a : Int) < floor.size)
    (h : Walks code rest ⟨some v, floor.put a v, inbox, out⟩ cost rest' desk') :
    Walks code (onCell .copyTo a :: rest) ⟨some v, floor, inbox, out⟩ (cost + 1) rest' desk' :=
  cell ha (Desk.useTile_copyTo_eq rfl) h

lemma sub (ha : (a : Int) < floor.size)
    (h : Walks code rest ⟨some (v - floor.item a), floor, inbox, out⟩ cost rest' desk') :
    Walks code (onCell .sub a :: rest) ⟨some v, floor, inbox, out⟩ (cost + 1) rest' desk' :=
  cell ha (@useTile_sum _ .minus _ _ _ rfl) h

lemma bumpUp (ha : (a : Int) < floor.size)
    (h : Walks code rest ⟨some (floor.item a + 1), floor.put a (floor.item a + 1), inbox, out⟩ cost
      rest' desk') :
    Walks code (onCell .bumpUp a :: rest) ⟨hand, floor, inbox, out⟩ (cost + 1) rest' desk' :=
  cell ha (@useTile_bump_eq _ .up _ _) h

end Walks

end Mailroom

namespace Mailroom.Source

open Text

/-! ## Taking a unit away -/

/-- Takes a unit from the number on the first tile as often as it can, and counts how often. -/
def takeLoop (loop stop : String) (unit counter : Nat) : List Op :=
  [.label loop, onCell .copyFrom 0, onCell .sub unit, jumpTo .ifNegative stop,
    onCell .copyFrom 0, onCell .sub unit, onCell .copyTo 0, onCell .bumpUp counter,
    jumpTo .always loop, .label stop]

/-- Floors with a number on the first tile, a unit and a count. -/
structure Tallies (floors : Int → Int → Floor → Prop) (unit counter : Nat) (u : Int) : Prop where
  room : ∀ {n c floor}, floors n c floor →
    ((0 : Nat) : Int) < floor.size ∧ (unit : Int) < floor.size ∧ (counter : Int) < floor.size
  items : ∀ {n c floor}, floors n c floor →
    floor.item (0 : Nat) = n ∧ floor.item unit = u ∧ floor.item counter = c
  putNumber : ∀ {n c floor} (n' : Int), floors n c floor → floors n' c (floor.put (0 : Nat) n')
  putCount : ∀ {n c floor} (c' : Int), floors n c floor → floors n c' (floor.put counter c')

section Loops

variable {code rest : List Op} {loop stop : String} {unit counter : Nat} {u n c : Int}
  {floors : Int → Int → Floor → Prop} {floor : Floor} {inbox : Inbox} {out : Array Int}

/-- **One round.**  A unit is taken away and counted. -/
lemma takeLoop_round (htallies : Tallies floors unit counter u)
    (hloop : after loop code = some ((takeLoop loop stop unit counter).tail ++ rest))
    (hstop : after stop code = some rest) (hfloor : floors n c floor) (hle : u ≤ n)
    (hand : Option Int) :
    ∃ hand' floor', floors (n - u) (c + 1) floor' ∧
      Walks code (takeLoop loop stop unit counter ++ rest) ⟨hand, floor, inbox, out⟩ 8
        (takeLoop loop stop unit counter ++ rest) ⟨hand', floor', inbox, out⟩ := by
  obtain ⟨hroom0, hroomUnit, hroomCounter⟩ := htallies.room hfloor
  obtain ⟨hn, hunit, hc⟩ := htallies.items hfloor
  have hfloor1 := htallies.putNumber (n - u) hfloor
  have hc1 := (htallies.items hfloor1).2.2
  have hfloor2 := htallies.putCount (c + 1) hfloor1
  refine ⟨some (c + 1), _, hfloor2, ?_⟩
  refine .copyFrom hroom0 (.sub hroomUnit (.ifNegative hstop ?_))
  rw [hn, hunit, if_neg (by omega)]
  refine .copyFrom hroom0 (.sub hroomUnit (.copyTo hroom0 (.bumpUp hroomCounter ?_)))
  rw [hn, hunit, hc1]
  exact .always hloop .refl

/-- **The loop.**  The unit is taken away as often as it can, and so often is counted. -/
lemma takeLoop_walks (htallies : Tallies floors unit counter u) (hu : 0 < u)
    (hloop : after loop code = some ((takeLoop loop stop unit counter).tail ++ rest))
    (hstop : after stop code = some rest) (q : Nat) (hq : timesTaken u n = q)
    (hfloor : floors n c floor) (hand : Option Int) :
    ∃ hand' floor', floors (n - u * q) (c + q) floor' ∧
      Walks code (takeLoop loop stop unit counter ++ rest) ⟨hand, floor, inbox, out⟩ (8 * q + 3)
        rest ⟨hand', floor', inbox, out⟩ := by
  induction q generalizing n c floor hand with
  | zero =>
      have hlt : n < u := by
        by_contra hle
        have := timesTaken_of_le hu (Int.not_lt.mp hle)
        have := timesTaken_nonneg (n := n - u) hu
        omega
      obtain ⟨hroom0, hroomUnit, -⟩ := htallies.room hfloor
      obtain ⟨hn, hunit, -⟩ := htallies.items hfloor
      refine ⟨some (n - u), floor, by simpa using hfloor, ?_⟩
      refine .copyFrom hroom0 (.sub hroomUnit (.ifNegative hstop ?_))
      rw [hn, hunit, if_pos (by omega)]
      exact .refl
  | succ q ih =>
      have hle : u ≤ n := by
        by_contra hlt
        rw [timesTaken_of_lt (Int.not_le.mp hlt)] at hq
        omega
      obtain ⟨hand1, floor1, hfloor1, hwalks1⟩ :=
        takeLoop_round htallies hloop hstop hfloor hle hand
      obtain ⟨hand2, floor2, hfloor2, hwalks2⟩ :=
        ih (by have := timesTaken_of_le hu hle; omega) hfloor1 hand1
      have hnumber : n - u - u * q = n - u * (q + 1 : Nat) := by
        push_cast
        ring
      have hcount : c + 1 + q = c + (q + 1 : Nat) := by
        push_cast
        ring
      rw [hnumber, hcount] at hfloor2
      refine ⟨hand2, floor2, hfloor2, ?_⟩
      rw [show 8 * (q + 1) + 3 = 8 + (8 * q + 3) by omega]
      exact hwalks1.trans hwalks2

end Loops

/-! ## The listing -/

/-- Clears the two counts. -/
def clearCounts : List Op :=
  [onCell .copyFrom 9, onCell .copyTo 1, onCell .copyTo 2]

/-- Sends the hundreds if there are any. -/
def sendHundreds : List Op :=
  [onCell .copyFrom 2, jumpTo .ifZero "else4", .instr .outbox]

/-- Sends the tens if hundreds or tens are there, and what is left. -/
def sendRest : List Op :=
  [onCell .copyFrom 2, jumpTo .ifZero "skip9", jumpTo .always "skip8", .label "skip9",
    onCell .copyFrom 1, jumpTo .ifZero "else7", .label "skip8", onCell .copyFrom 1, .instr .outbox,
    .label "else7", onCell .copyFrom 0, .instr .outbox, jumpTo .always "loop1"]

/-- From where the number is split. -/
def splitOps : List Op :=
  onCell .copyTo 0 :: (takeLoop "loop2" "end3" 11 2 ++ (sendHundreds ++
    (takeLoop "else4" "end6" 10 1 ++ sendRest)))

/-- From where the number is read. -/
def readOps : List Op :=
  .instr .inbox :: splitOps

/-- The lines of the bundled program. -/
def explodeOps : List Op :=
  .label "loop1" :: (clearCounts ++ readOps)

/-- The name on a line. -/
def nameOn? : Op → Option String
  | .label name | .instr (.jump _ name) => some name
  | _ => none

lemma explodeOps_spelled : ∀ op ∈ explodeOps, op.Spelled := by
  have hplain : ∀ op ∈ explodeOps, op ≠ .blank ∧ ∀ name ∈ nameOn? op,
      name.toList ≠ [] ∧ name.toList.all isPlain = true := by decide
  intro op hop
  match op, hplain op hop with
  | .label name, h =>
      obtain ⟨hne, hname⟩ := h.2 name rfl
      exact labelName_of_plain hne hname
  | .instr (.jump _ name), h =>
      obtain ⟨hne, hname⟩ := h.2 name rfl
      exact (labelName_of_plain hne hname).target
  | .instr .inbox, _ => trivial
  | .instr .outbox, _ => trivial
  | .instr (.tile _ _), _ => trivial
  | .blank, h => exact absurd rfl h.1

lemma explodeOps_legible : ∀ op ∈ explodeOps, op.legible = true := by
  decide +kernel

set_option maxRecDepth 20000 in
/-- The bundled program is compiled to these lines. -/
lemma listing_digitExploder :
    Bundled.digitExploder.listing 100 = .ok (render explodeOps) := by
  -- the text as a list of characters, which a literal is only by its own definition
  rw [Bundled.listing, show Bundled.digitExploder.text = String.ofList _ from rfl,
    String.toList_ofList]
  cbv

/-! ## One value -/

/-- The floor that the program works on. -/
structure Laid (floor : Floor) (n tens hundreds : Int) : Prop where
  size : floor.size = 100
  number : floor.item (0 : Nat) = n
  tens : floor.item (1 : Nat) = tens
  hundreds : floor.item (2 : Nat) = hundreds
  zero : floor.item (9 : Nat) = 0
  ten : floor.item (10 : Nat) = 10
  hundred : floor.item (11 : Nat) = 100

section Values

variable {floor : Floor} {n tens hundreds v : Int} {inbox : Inbox} {out : Array Int}

lemma Laid.room (h : Laid floor n tens hundreds) {a : Nat} (ha : a < 100) :
    (a : Int) < floor.size := by
  rw [h.size]
  omega

/-- What lies on a floor after something has been put on one of the tiles. -/
lemma item_put_of_size (h : floor.size = 100) {a : Nat} (ha : a < 100) (v : Int) (b : Nat) :
    (floor.put a v).item b = if b = a then v else floor.item b := by
  rw [Floor.item_put v ⟨Int.natCast_nonneg a, by omega⟩ (Int.natCast_nonneg b)]
  simp only [Int.natCast_inj]

lemma Laid.putNumber (h : Laid floor n tens hundreds) (v : Int) :
    Laid (floor.put (0 : Nat) v) v tens hundreds := by
  have hput := item_put_of_size h.size (show 0 < 100 by decide) v
  exact ⟨h.size, hput 0, (hput 1).trans h.tens, (hput 2).trans h.hundreds, (hput 9).trans h.zero,
    (hput 10).trans h.ten, (hput 11).trans h.hundred⟩

lemma Laid.putTens (h : Laid floor n tens hundreds) (v : Int) :
    Laid (floor.put (1 : Nat) v) n v hundreds := by
  have hput := item_put_of_size h.size (show 1 < 100 by decide) v
  exact ⟨h.size, (hput 0).trans h.number, hput 1, (hput 2).trans h.hundreds, (hput 9).trans h.zero,
    (hput 10).trans h.ten, (hput 11).trans h.hundred⟩

lemma Laid.putHundreds (h : Laid floor n tens hundreds) (v : Int) :
    Laid (floor.put (2 : Nat) v) n tens v := by
  have hput := item_put_of_size h.size (show 2 < 100 by decide) v
  exact ⟨h.size, (hput 0).trans h.number, (hput 1).trans h.tens, hput 2, (hput 9).trans h.zero,
    (hput 10).trans h.ten, (hput 11).trans h.hundred⟩

/-- The floor that the program finds. -/
lemma floor_digitExploder :
    ∃ floor, Floor.ofPresets 100 Bundled.digitExploder.floor = .ok floor ∧ Laid floor 0 0 0 := by
  have hempty : ∀ a : Nat, (Floor.ofSize 100).item a = 0 := by
    intro a
    rw [Floor.ofSize, Floor.item, Array.getD_eq_getD_getElem?, Array.getElem?_replicate]
    split <;> rfl
  let floor1 := (Floor.ofSize 100).put (9 : Nat) 0
  let floor2 := floor1.put (10 : Nat) 10
  have hput1 := @item_put_of_size (Floor.ofSize 100) rfl 9 (by decide) 0
  have hput2 := @item_put_of_size floor1 rfl 10 (by decide) 10
  have hput3 := @item_put_of_size floor2 rfl 11 (by decide) 100
  have hother : ∀ b : Nat, b ≠ 9 → b ≠ 10 → b ≠ 11 → (floor2.put (11 : Nat) 100).item b = 0 := by
    intro b h9 h10 h11
    rw [hput3, if_neg h11, hput2, if_neg h10, hput1, if_neg h9, hempty]
  refine ⟨floor2.put (11 : Nat) 100, ?_, rfl, ?_, ?_, ?_, ?_, ?_, ?_⟩
  · simp only [Floor.ofPresets, Bundled.digitExploder, Floor.setAll, Floor.set_eq]
    rfl
  · exact hother 0 (by decide) (by decide) (by decide)
  · exact hother 1 (by decide) (by decide) (by decide)
  · exact hother 2 (by decide) (by decide) (by decide)
  · exact (hput3 9).trans ((hput2 9).trans (hput1 9))
  · exact (hput3 10).trans (hput2 10)
  · exact hput3 11

lemma tallies_hundreds (tens : Int) :
    Tallies (fun n hundreds floor => Laid floor n tens hundreds) 11 2 100 where
  room h := ⟨h.room (by decide), h.room (by decide), h.room (by decide)⟩
  items h := ⟨h.number, h.hundred, h.hundreds⟩
  putNumber v h := h.putNumber v
  putCount v h := h.putHundreds v

lemma tallies_tens (hundreds : Int) :
    Tallies (fun n tens floor => Laid floor n tens hundreds) 10 1 10 where
  room h := ⟨h.room (by decide), h.room (by decide), h.room (by decide)⟩
  items h := ⟨h.number, h.ten, h.tens⟩
  putNumber v h := h.putNumber v
  putCount v h := h.putTens v

/-- The hundreds are sent if there are any. -/
lemma sendHundreds_walks (h : Laid floor n tens hundreds) (hand : Option Int) :
    ∃ cost hand', cost ≤ 3 ∧
      Walks explodeOps (sendHundreds ++ (takeLoop "else4" "end6" 10 1 ++ sendRest))
        ⟨hand, floor, inbox, out⟩ cost (takeLoop "else4" "end6" 10 1 ++ sendRest)
        ⟨hand', floor, inbox, if hundreds = 0 then out else out.push hundreds⟩ := by
  have helse : after "else4" explodeOps
      = some ((takeLoop "else4" "end6" 10 1).tail ++ sendRest) := rfl
  by_cases hzero : hundreds = 0
  · refine ⟨2, some 0, by decide, .copyFrom (h.room (by decide)) (.ifZero helse ?_)⟩
    rw [h.hundreds, if_pos hzero, if_pos hzero, hzero]
    exact .refl
  · refine ⟨3, none, by decide, .copyFrom (h.room (by decide)) (.ifZero helse ?_)⟩
    rw [h.hundreds, if_neg hzero, if_neg hzero]
    exact .outbox .refl

/-- The counts are cleared before a value is read. -/
lemma clearCounts_walks (h : Laid floor n tens hundreds) (hand : Option Int) :
    ∃ floor', Laid floor' n 0 0 ∧ Walks explodeOps (clearCounts ++ readOps)
      ⟨hand, floor, inbox, out⟩ 3 readOps ⟨some 0, floor', inbox, out⟩ := by
  have h1 := h.putTens 0
  refine ⟨_, h1.putHundreds 0, .copyFrom (h.room (by decide)) ?_⟩
  rw [h.zero]
  exact .copyTo (h.room (by decide)) (.copyTo (h1.room (by decide)) .refl)

/-- The tens are sent if hundreds or tens are there, then what is left, and the counts are
cleared. -/
lemma sendRest_walks (h : Laid floor n tens hundreds) (hand : Option Int) :
    ∃ cost floor', cost ≤ 12 ∧ Laid floor' n 0 0 ∧
      Walks explodeOps sendRest ⟨hand, floor, inbox, out⟩ cost readOps
        ⟨some 0, floor', inbox,
          (if hundreds = 0 ∧ tens = 0 then out else out.push tens).push n⟩ := by
  have hloop : after "loop1" explodeOps = some (clearCounts ++ readOps) := rfl
  have hskip8 : after "skip8" explodeOps = some (sendRest.drop 7) := rfl
  have hskip9 : after "skip9" explodeOps = some (sendRest.drop 4) := rfl
  have helse : after "else7" explodeOps = some (sendRest.drop 10) := rfl
  have hlast : ∀ {out : Array Int} {hand : Option Int}, ∃ floor', Laid floor' n 0 0 ∧
      Walks explodeOps (sendRest.drop 10) ⟨hand, floor, inbox, out⟩ 6 readOps
        ⟨some 0, floor', inbox, out.push n⟩ := by
    intro out hand
    obtain ⟨floor', hfloor', hwalks⟩ := clearCounts_walks h none
    refine ⟨floor', hfloor', .copyFrom (h.room (by decide)) (.outbox (.always hloop ?_))⟩
    rw [h.number]
    exact hwalks
  have htens : ∀ {out : Array Int} {hand : Option Int}, ∃ floor', Laid floor' n 0 0 ∧
      Walks explodeOps (sendRest.drop 7) ⟨hand, floor, inbox, out⟩ 8 readOps
        ⟨some 0, floor', inbox, (out.push tens).push n⟩ := by
    intro out hand
    obtain ⟨floor', hfloor', hwalks⟩ := @hlast (out.push tens) none
    refine ⟨floor', hfloor', .copyFrom (h.room (by decide)) ?_⟩
    rw [h.tens]
    exact .outbox hwalks
  by_cases hzero : hundreds = 0
  · by_cases hnone : tens = 0
    · obtain ⟨floor', hfloor', hwalks⟩ := @hlast out (some tens)
      refine ⟨10, floor', by decide, hfloor', ?_⟩
      rw [if_pos ⟨hzero, hnone⟩]
      refine .copyFrom (h.room (by decide)) (.ifZero hskip9 ?_)
      rw [h.hundreds, if_pos hzero]
      refine .copyFrom (h.room (by decide)) (.ifZero helse ?_)
      rw [h.tens, if_pos hnone]
      exact hwalks
    · obtain ⟨floor', hfloor', hwalks⟩ := @htens out (some tens)
      refine ⟨12, floor', by decide, hfloor', ?_⟩
      rw [if_neg fun hboth => hnone hboth.2]
      refine .copyFrom (h.room (by decide)) (.ifZero hskip9 ?_)
      rw [h.hundreds, if_pos hzero]
      refine .copyFrom (h.room (by decide)) (.ifZero helse ?_)
      rw [h.tens, if_neg hnone]
      exact hwalks
  · obtain ⟨floor', hfloor', hwalks⟩ := @htens out (some hundreds)
    refine ⟨11, floor', by decide, hfloor', ?_⟩
    rw [if_neg fun hboth => hzero hboth.1]
    refine .copyFrom (h.room (by decide)) (.ifZero hskip9 ?_)
    rw [h.hundreds, if_neg hzero]
    exact .always hskip8 hwalks

/-- What has been sent when the digits of a value have been sent one by one. -/
lemma push_explode (out : Array Int) (v : Int) :
    (if (Split.of v).hundreds = 0 ∧ (Split.of v).tens = 0
      then if (Split.of v).hundreds = 0 then out else out.push (Split.of v).hundreds
      else (if (Split.of v).hundreds = 0 then out else out.push (Split.of v).hundreds).push
        (Split.of v).tens).push (Split.of v).ones
      = out ++ (explode v).toArray := by
  rw [explode_eq, Split.digits, ← Array.toList_inj]
  by_cases hhundreds : (Split.of v).hundreds = 0 <;> by_cases htens : (Split.of v).tens = 0 <;>
    simp [hhundreds, htens]

/-- **One value.**  Between one value read and the next its digits are sent. -/
lemma splitOps_walks (h : Laid floor n 0 0) (v : Int) :
    ∃ (cost : Nat) (n' : Int) (floor' : Floor), (cost : Int) ≤ 94 + 8 * (Split.of v).hundreds ∧
      Laid floor' n' 0 0 ∧ Walks explodeOps splitOps ⟨some v, floor, inbox, out⟩ cost readOps
        ⟨some 0, floor', inbox, out ++ (explode v).toArray⟩ := by
  have hloop2 : after "loop2" explodeOps = some ((takeLoop "loop2" "end3" 11 2).tail ++
      (sendHundreds ++ (takeLoop "else4" "end6" 10 1 ++ sendRest))) := rfl
  have hend3 : after "end3" explodeOps =
      some (sendHundreds ++ (takeLoop "else4" "end6" 10 1 ++ sendRest)) := rfl
  have helse4 : after "else4" explodeOps =
      some ((takeLoop "else4" "end6" 10 1).tail ++ sendRest) := rfl
  have hend6 : after "end6" explodeOps = some sendRest := rfl
  have hundred_pos : 0 < (100 : Int) := by decide
  have ten_pos : 0 < (10 : Int) := by decide
  obtain ⟨q, hq⟩ := Int.eq_ofNat_of_zero_le (timesTaken_nonneg (n := v) hundred_pos)
  obtain ⟨p, hp⟩ := Int.eq_ofNat_of_zero_le (timesTaken_nonneg (n := v - 100 * q) ten_pos)
  have hsplit : Split.of v = ⟨q, p, v - 100 * q - 10 * p⟩ := by
    rw [Split.of_eq, hq, hp]
  have hsmall : p ≤ 9 := by
    have hrest := sub_timesTaken_lt (n := v) hundred_pos
    rw [hq] at hrest
    rw [timesTaken] at hp
    split at hp <;> omega
  obtain ⟨hand1, floor1, hfloor1, hwalks1⟩ :=
    takeLoop_walks (tallies_hundreds 0) hundred_pos hloop2 hend3 q hq (h.putNumber v) (some v)
  obtain ⟨cost2, hand2, hcost2, hwalks2⟩ := sendHundreds_walks hfloor1 hand1
  obtain ⟨hand3, floor3, hfloor3, hwalks3⟩ :=
    takeLoop_walks (tallies_tens _) ten_pos helse4 hend6 p hp hfloor1 hand2
  obtain ⟨cost4, floor4, hcost4, hfloor4, hwalks4⟩ := sendRest_walks hfloor3 hand3
  have hwalks : Walks explodeOps splitOps ⟨some v, floor, inbox, out⟩ _ readOps _ :=
    .copyTo (h.room (show 0 < 100 by decide))
      (hwalks1.trans (hwalks2.trans (hwalks3.trans hwalks4)))
  have hsent := push_explode out v
  rw [hsplit] at hsent ⊢
  simp only [Int.zero_add, hsent] at hwalks
  exact ⟨_, _, floor4, by push_cast; omega, hfloor4, hwalks⟩

end Values

/-! ## Streams -/

/-- How a run ends at what is behind the last value. -/
inductive StopsAt : List Slip → Halt → Prop
  | empty : StopsAt [] .dry
  | spoiled {e : InboxError} {later : List Slip} : StopsAt (.spoiled e :: later) (.failed e)

section Streams

variable {floor : Floor} {n limit : Int} {hand : Option Int} {out : Array Int}
  {behind : List Slip} {halt : Halt}

/-- A limit that is enough for a value is enough for its digits. -/
lemma enough_for (v : Int) (hleast : 100 ≤ limit) (h : 0 ≤ v → 8 * (v / 100) + 100 ≤ limit) :
    94 + 8 * (Split.of v).hundreds < limit := by
  simp only [Split.of_eq, timesTaken]
  split <;> omega

/-- **A stream.**  From where a value is read the digits of all values are sent. -/
lemma readOps_finishes (hstop : StopsAt behind halt) (values : List Int)
    (hlimit : ∀ v ∈ values, 94 + 8 * (Split.of v).hundreds < limit) (hlaid : Laid floor n 0 0)
    (c : Config) (hup : upcoming c.rest = upcoming readOps)
    (hdesk : c.desk = ⟨hand, floor, ⟨values.map .value ++ behind⟩, out⟩)
    (hidle : (c.idle : Int) < limit) :
    ∃ last, Finishes explodeOps limit c halt last ∧
      last.desk.emitted = out ++ (values.flatMap explode).toArray := by
  rw [readOps, upcoming_instr] at hup
  induction values generalizing c floor n hand out with
  | nil =>
      refine ⟨c, .stop ?_, by rw [hdesk]; simp⟩
      rw [Config.turn_of_lt hidle]
      refine Config.advance_of_perform_error hup ?_
      rw [hdesk]
      cases hstop with
      | empty => rfl
      | spoiled => rfl
  | cons v values ih =>
      obtain ⟨hv, hrest⟩ := List.forall_mem_cons.mp hlimit
      -- the value is read, and nothing has been carried out since
      let next := c.move .inbox splitOps ⟨some v, floor, ⟨values.map .value ++ behind⟩, out⟩
      have hread : c.turn explodeOps limit = .ok next := by
        rw [Config.turn_of_lt hidle]
        refine Config.advance_of_perform hup ?_
        rw [hdesk]
        rfl
      obtain ⟨cost, n', floor', hcost, hlaid', hwalks⟩ := splitOps_walks hlaid v
      obtain ⟨c', hleads, hup', hdesk', hidle', hsteps'⟩ := hwalks next rfl rfl
      have hnext : next.idle = 0 := rfl
      obtain ⟨last, hfinishes, hsent⟩ := ih hrest hlaid' c' hup' hdesk' (by omega)
      refine ⟨last, .step hread (hleads.continues (by omega) hfinishes), ?_⟩
      · rw [hsent, List.flatMap_cons]
        simp

/-- The whole run: the digits of all values are sent, and the run ends at what is behind them. -/
lemma explodeOps_finishes (hstop : StopsAt behind halt) (values : List Int) (hleast : 100 ≤ limit)
    (hlimit : ∀ v ∈ values, 0 ≤ v → 8 * (v / 100) + 100 ≤ limit) (hlaid : Laid floor 0 0 0) :
    ∃ last, Finishes explodeOps limit
        (.start explodeOps ⟨none, floor, ⟨values.map .value ++ behind⟩, #[]⟩) halt last ∧
      last.desk.emitted.toList = values.flatMap explode := by
  obtain ⟨floor', hlaid', hwalks⟩ := clearCounts_walks hlaid none
  obtain ⟨c, hleads, hup, hdesk, hidle, hsteps⟩ :=
    hwalks (.start explodeOps ⟨none, floor, ⟨values.map .value ++ behind⟩, #[]⟩) rfl rfl
  have henough := fun v hv => enough_for v hleast (hlimit v hv)
  have hstart : (Config.start explodeOps
      ⟨none, floor, ⟨values.map .value ++ behind⟩, #[]⟩).idle = 0 := rfl
  obtain ⟨last, hfinishes, hsent⟩ :=
    readOps_finishes hstop values henough hlaid' c hup hdesk (by omega)
  refine ⟨last, hleads.continues (by omega) hfinishes, ?_⟩
  rw [hsent]
  simp

end Streams

/-- A machine with the listing of the bundled program. -/
lemma run_explodeOps {m : Machine} {behind : List Slip} {halt : Halt} {values : List Int}
    (hstop : StopsAt behind halt) (hlaid : Laid m.floor 0 0 0)
    (hinbox : m.inbox.pending = values.map .value ++ behind) (hleast : 100 ≤ m.maxSteps)
    (hlimit : ∀ v ∈ values, 0 ≤ v → 8 * (v / 100) + 100 ≤ m.maxSteps) :
    ∃ m' last, m.load (render explodeOps) = (m', none) ∧ Closes m'.run halt last ∧
      m'.run.2.emitted.toList = explodeAll values := by
  obtain ⟨m', hload, hmost, hshows⟩ := load_shows explodeOps_spelled explodeOps_legible m
  obtain ⟨halt', last', hfinishes', hcloses⟩ := run_finishes hshows
  obtain ⟨last, hfinishes, hsent⟩ := explodeOps_finishes hstop values hleast hlimit hlaid
  rw [← hinbox] at hfinishes
  rw [hmost] at hfinishes'
  obtain ⟨rfl, rfl⟩ := hfinishes.unique hfinishes'
  refine ⟨m', last, hload, hcloses, ?_⟩
  have hemitted : m'.run.2.emitted = last.desk.emitted :=
    (congrArg Desk.emitted hcloses.desk).trans (Halt.leave_emitted halt last.desk)
  rw [hemitted, hsent, explodeAll_eq]

/-- **The bundled program is a splitter.**  Let the limit be at least a hundred, and eight for every
hundred of a value on top of that.  On its floor of a hundred tiles the bundled program reads all
values, sends what a splitter sends, and halts.  If the values come from a text with a token that is
no integer behind them, the program and a splitter send the digits of the values in front of it and
fail alike. -/
theorem digitExploder_splits {values : List Int} {limit : Int} (hleast : 100 ≤ limit)
    (hlimit : ∀ v ∈ values, 0 ≤ v → 8 * (v / 100) + 100 ≤ limit) :
    ∃ program listing floor, bundled.lookup "digit_exploder" = some program ∧
      program.listing 100 = .ok listing ∧ Floor.ofPresets 100 program.floor = .ok floor ∧
      (∀ m : Machine, m.floor = floor → m.inbox = .ofValues values → m.maxSteps = limit →
        ∃ m', m.load listing = (m', none) ∧ m'.run.1 = none ∧ m'.run.2.halted = true ∧
          m'.run.2.fault = none ∧ m'.run.2.emitted.toList = explodeAll values) ∧
      ∀ (text : List Char) (line : Nat) (token : String) (later : List Slip),
        (Inbox.ofText text).pending
          = values.map .value ++ .spoiled (.notInteger line token) :: later →
        (∀ m : Machine, m.floor = floor → m.inbox = .ofText text → m.maxSteps = limit →
          ∃ m', m.load listing = (m', none) ∧ m'.run.1 = some (.notInteger line token) ∧
            m'.run.2.emitted.toList = explodeAll values) ∧
        let split := Splitter.run none { inbox := .ofText text }
        split.outcome = .error (.notInteger line token) ∧
          SplitEvent.sent split.events = explodeAll values := by
  obtain ⟨floor, hfloor, hlaid⟩ := floor_digitExploder
  refine ⟨.digitExploder, render explodeOps, floor, rfl, listing_digitExploder, hfloor, ?_, ?_⟩
  · rintro m rfl hinbox rfl
    have hpending : m.inbox.pending = values.map .value ++ [] := by
      rw [hinbox, List.append_nil]
      rfl
    obtain ⟨m', last, hload, hcloses, hsent⟩ := run_explodeOps .empty hlaid hpending hleast hlimit
    refine ⟨m', hload, hcloses.error, by rw [hcloses.halted, hcloses.error]; rfl, ?_, hsent⟩
    exact Option.map_eq_none_iff.mp hcloses.cause
  · intro text line token later hpending
    refine ⟨?_, ?_⟩
    · rintro m rfl hinbox rfl
      rw [← hinbox] at hpending
      obtain ⟨m', last, hload, hcloses, hsent⟩ :=
        run_explodeOps .spoiled hlaid hpending hleast hlimit
      exact ⟨m', hload, hcloses.error, hsent⟩
    · obtain ⟨hsent, houtcome⟩ := @Splitter.run_spoiled { inbox := .ofText text } _ _ _ hpending
      exact ⟨houtcome, by rw [hsent, explodeAll_eq]⟩

/-- Two values and a token that is none: what is sent, and how both runs fail. -/
theorem digitExploder_splits_two :
    ∃ listing floor, Bundled.digitExploder.listing 100 = .ok listing ∧
      Floor.ofPresets 100 Bundled.digitExploder.floor = .ok floor ∧
      ∃ m', Machine.load { floor, inbox := .ofText "999,-5 x 3".toList, maxSteps := 172 } listing
          = (m', none) ∧
        m'.run.1 = some (.notInteger 1 "x") ∧ m'.run.2.emitted.toList = [9, 9, 9, -5] ∧
        (Splitter.run none { inbox := .ofText "999,-5 x 3".toList }).outcome
          = .error (.notInteger 1 "x") := by
  obtain ⟨program, listing, floor, hprogram, hlisting, hfloor, -, htext⟩ :=
    @digitExploder_splits [999, -5] 172 (by decide) (by decide)
  cases hprogram
  have hpending : (Inbox.ofText "999,-5 x 3".toList).pending
      = [999, -5].map .value ++ .spoiled (.notInteger 1 "x") :: [.value 3] := by cbv
  obtain ⟨hrun, hfails, -⟩ := htext _ _ _ _ hpending
  obtain ⟨m', hload, herror, hsent⟩ := hrun
    { floor, inbox := .ofText "999,-5 x 3".toList, maxSteps := 172 } rfl rfl rfl
  refine ⟨listing, floor, hlisting, hfloor, m', hload, herror, ?_, hfails⟩
  rw [hsent, explodeAll_eq]
  decide +kernel

end Mailroom.Source
