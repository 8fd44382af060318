import Mathlib.Tactic.Common
import Mailroom.Machine.Basic

/-!
# What instructions do

The state that instructions work on is a `Desk`: the hand, the floor, the inbox and what has been
sent.  `Desk.perform` says what one instruction does to it, and `Desk.perform_error` lists the ways
in which an instruction can fail.  A machine carries out its instructions as its desk says
(`Machine.carryOut_desk`).

A floor is read and written by total functions here, `Floor.item` and `Floor.put`; where an
instruction uses them there is a tile.
-/

namespace Mailroom

open Text

/-! ## Floors as total functions -/

namespace Floor

/-- What lies on a tile; zero where there is none. -/
def item (floor : Floor) (address : Int) : Int :=
  floor.tiles.getD address.toNat 0

/-- The floor with something else on a tile, if there is one. -/
def put (floor : Floor) (address v : Int) : Floor where
  size := floor.size
  tiles := floor.tiles.setIfInBounds address.toNat v
  size_tiles := by rw [Array.size_setIfInBounds]; exact floor.size_tiles

lemma get_eq (floor : Floor) (address : Int) :
    floor.get address
      = if floor.Has address then .ok (floor.item address) else .error ⟨address, floor.size⟩ := by
  by_cases h : floor.Has address
  · have hlt := toNat_lt_size h
    rw [get, dif_pos h, if_pos h, Floor.item, Array.getD_eq_getD_getElem?,
      Array.getElem?_eq_getElem hlt, Option.getD_some]
  · rw [get, dif_neg h, if_neg h]

lemma set_eq (floor : Floor) (address v : Int) :
    floor.set address v
      = if floor.Has address then .ok (floor.put address v) else .error ⟨address, floor.size⟩ := by
  by_cases h : floor.Has address
  · rw [set, dif_pos h, if_pos h]
    simp only [put, Except.ok.injEq, Floor.mk.injEq, true_and]
    rw [Array.setIfInBounds_def, dif_pos (toNat_lt_size h)]
  · rw [set, dif_neg h, if_neg h]

lemma item_put {floor : Floor} {address : Int} (v : Int) (h : floor.Has address) {other : Int}
    (hother : 0 ≤ other) :
    (floor.put address v).item other = if other = address then v else floor.item other := by
  have hlt := toNat_lt_size h
  simp only [Floor.item, put, Array.getD_eq_getD_getElem?]
  rw [Array.getElem?_setIfInBounds]
  by_cases heq : other = address
  · rw [heq, if_pos rfl, if_pos rfl, if_pos hlt, Option.getD_some]
  · have hne : ¬ address.toNat = other.toNat := by omega
    rw [if_neg hne, if_neg heq]

/-- What lies on other tiles stays there. -/
lemma get_put {floor : Floor} {address other : Int} (v : Int) (h : floor.Has address)
    (hne : other ≠ address) : (floor.put address v).get other = floor.get other := by
  have hhas : (floor.put address v).Has other ↔ floor.Has other := Iff.rfl
  rw [get_eq, get_eq]
  by_cases hother : floor.Has other
  · rw [if_pos (hhas.mpr hother), if_pos hother, item_put v h hother.1, if_neg hne]
  · rw [if_neg (mt hhas.mp hother), if_neg hother]
    rfl

/-- What has been put on a tile lies there. -/
lemma get_put_self {floor : Floor} {address : Int} (v : Int) (h : floor.Has address) :
    (floor.put address v).get address = .ok v := by
  have hhas : (floor.put address v).Has address := h
  rw [get_eq, if_pos hhas, item_put v h h.1, if_pos rfl]

lemma resolve_direct (floor : Floor) (address : Int) :
    floor.resolve address false
      = if floor.Has address then .ok address else .error ⟨address, floor.size⟩ := by
  rw [resolve, if_neg (by simp), check]

lemma resolve_indirect (floor : Floor) (address : Int) :
    floor.resolve address true
      = if floor.Has address then
          if floor.Has (floor.item address) then .ok (floor.item address)
          else .error ⟨floor.item address, floor.size⟩
        else .error ⟨address, floor.size⟩ := by
  rw [resolve, if_pos rfl, get_eq]
  by_cases h : floor.Has address
  · rw [if_pos h, if_pos h]
    rfl
  · rw [if_neg h, if_neg h]

/-- Operands lead to tiles. -/
lemma resolve_has {floor : Floor} {address target : Int} {indirect : Bool}
    (h : floor.resolve address indirect = .ok target) : floor.Has target := by
  cases indirect with
  | false =>
      rw [resolve_direct] at h
      split at h
      · rename_i hhas
        cases h
        exact hhas
      · cases h
  | true =>
      rw [resolve_indirect] at h
      split at h
      · split at h
        · rename_i hhas
          cases h
          exact hhas
        · cases h
      · cases h

end Floor

/-! ## What instructions do -/

/-- What instructions work on: a machine without its listing and its counters. -/
@[ext] structure Desk where
  hand : Option Int
  floor : Floor
  inbox : Inbox
  emitted : Array Int

/-- Why a run goes no further. -/
inductive Halt where
  /-- No instruction is left. -/
  | ended
  /-- A value is asked for and the inbox is empty. -/
  | dry
  | fault (cause : FaultCause)
  /-- A value is asked for and the slip is spoiled. -/
  | failed (e : InboxError)
  deriving DecidableEq

/-- The error that a run raises. -/
def Halt.error? : Halt → Option InboxError
  | .failed e => some e
  | _ => none

/-- The cause of the fault that a run ends with. -/
def Halt.cause? : Halt → Option FaultCause
  | .fault cause => some cause
  | _ => none

/-- Only a fault has a cause. -/
lemma Halt.eq_fault {h : Halt} {cause : FaultCause} (hcause : h.cause? = some cause) :
    h = .fault cause := by
  cases h with
  | fault cause' => exact congrArg _ (Option.some.inj hcause)
  | _ => cases hcause

/-- How many instructions are fetched in vain. -/
def Halt.cost : Halt → Nat
  | .ended => 0
  | .fault (.stepLimit _) => 0
  | _ => 1

/-- What is left behind: nothing can be read after a spoiled slip. -/
def Halt.leave (h : Halt) (d : Desk) : Desk :=
  if h.error?.isSome then { d with inbox := ⟨[]⟩ } else d

lemma Halt.leave_emitted (h : Halt) (d : Desk) : (h.leave d).emitted = d.emitted := by
  rw [Halt.leave]
  split <;> rfl

/-- Instructions that need something in the hand. -/
def Instr.needsHand : Instr → Bool
  | .inbox => false
  | .outbox => true
  | .tile op _ => op ∈ [TileOp.copyTo, .add, .sub]
  | .jump kind _ => kind ≠ .always

/-- Instructions that take from a tile and leave it as it is. -/
def TileOp.takes (op : TileOp) : Bool :=
  op ∈ [TileOp.copyFrom, .add, .sub]

namespace Desk

/-- The value in the hand, which an instruction needs. -/
def need (d : Desk) (i : Instr) : Except FaultCause Int :=
  match d.hand with
  | some v => .ok v
  | none => .error (.emptyHand i.mnemonic)

/-- The tile that an operand leads to. -/
def reach (d : Desk) (t : Tile) : Except FaultCause Int :=
  Machine.onFloor (d.floor.resolve t.address t.indirect)

lemma reach_has {d : Desk} {t : Tile} {address : Int} (h : d.reach t = .ok address) :
    d.floor.Has address := by
  rw [reach, Machine.onFloor.eq_def] at h
  split at h
  · rename_i hresolve
    cases h
    exact Floor.resolve_has hresolve
  · cases h

/-- What an instruction on a tile does. -/
def useTile (d : Desk) (op : TileOp) (t : Tile) : Except FaultCause Desk :=
  match op with
  | .copyFrom => do
    let a ← d.reach t
    return { d with hand := some (d.floor.item a) }
  | .copyTo => do
    let v ← d.need (.tile op t)
    let a ← d.reach t
    return { d with floor := d.floor.put a v }
  | .add => do
    let v ← d.need (.tile op t)
    let a ← d.reach t
    return { d with hand := some (v + d.floor.item a) }
  | .sub => do
    let v ← d.need (.tile op t)
    let a ← d.reach t
    return { d with hand := some (v - d.floor.item a) }
  | .bumpUp => do
    let a ← d.reach t
    return { d with floor := d.floor.put a (d.floor.item a + 1), hand := some (d.floor.item a + 1) }
  | .bumpDown => do
    let a ← d.reach t
    return { d with floor := d.floor.put a (d.floor.item a - 1), hand := some (d.floor.item a - 1) }

/-- Whether a jump is taken. -/
def takes (d : Desk) (kind : JumpKind) (label : String) : Except FaultCause Bool :=
  match kind with
  | .always => .ok true
  | .ifZero => (d.need (.jump kind label)).map (· == 0)
  | .ifNegative => (d.need (.jump kind label)).map (decide <| · < 0)

/-- What an instruction does, and the label it leads to if it is a jump that is taken. -/
def perform (d : Desk) : Instr → Except Halt (Desk × Option String)
  | .inbox =>
    match d.inbox.next with
    | (.value v, inbox) => .ok ({ d with inbox, hand := some v }, none)
    | (.empty, _) => .error .dry
    | (.failed e, _) => .error (.failed e)
  | .outbox =>
    match d.need .outbox with
    | .ok v => .ok ({ d with hand := none, emitted := d.emitted.push v }, none)
    | .error cause => .error (.fault cause)
  | .tile op t =>
    match d.useTile op t with
    | .ok d => .ok (d, none)
    | .error cause => .error (.fault cause)
  | .jump kind label =>
    match d.takes kind label with
    | .ok true => .ok (d, some label)
    | .ok false => .ok (d, none)
    | .error cause => .error (.fault cause)

/-! ### What instructions leave behind -/

lemma need_ok {d : Desk} {i : Instr} {v : Int} (h : d.need i = .ok v) : d.hand = some v := by
  rw [need] at h
  split at h
  · rename_i w hw
    cases h
    exact hw
  · cases h

lemma reach_direct (d : Desk) (address : Nat) :
    d.reach ⟨address, false⟩
      = if d.floor.Has address then .ok (address : Int)
        else .error (.offFloor ⟨address, d.floor.size⟩) := by
  rw [reach, Floor.resolve_direct]
  split <;> rfl

/-- An operand that is not followed leads to the tile that it names. -/
lemma reach_eq {d : Desk} {t : Tile} {a : Int} (hdirect : t.indirect = false)
    (h : d.reach t = .ok a) : a = t.address := by
  obtain ⟨address, indirect⟩ := t
  obtain rfl : indirect = false := hdirect
  rw [reach_direct] at h
  split at h
  · cases h
    rfl
  · cases h

lemma need_eq {d : Desk} {v : Int} (h : d.hand = some v) (i : Instr) : d.need i = .ok v := by
  rw [need, h]

lemma takes_ifZero {d : Desk} {v : Int} (hhand : d.hand = some v) (label : String) :
    d.takes .ifZero label = .ok (decide (v = 0)) := by
  rw [takes, need_eq hhand]
  rfl

lemma takes_ifNegative {d : Desk} {v : Int} (hhand : d.hand = some v) (label : String) :
    d.takes .ifNegative label = .ok (decide (v < 0)) := by
  rw [takes, need_eq hhand]
  rfl

lemma useTile_copyFrom_eq {d : Desk} {t : Tile} {a : Int} (h : d.reach t = .ok a) :
    d.useTile .copyFrom t = .ok { d with hand := some (d.floor.item a) } := by
  simp only [useTile, h, bind, Except.bind, pure, Except.pure]

lemma useTile_copyTo_eq {d : Desk} {t : Tile} {a v : Int} (hhand : d.hand = some v)
    (h : d.reach t = .ok a) :
    d.useTile .copyTo t = .ok { d with floor := d.floor.put a v } := by
  simp only [useTile, need_eq hhand, h, bind, Except.bind, pure, Except.pure]

/-- An instruction fails where its operand leads to no tile. -/
lemma useTile_eq_error {d : Desk} {op : TileOp} {t : Tile} {cause : FaultCause}
    (hhand : (Instr.tile op t).needsHand = true → ∃ v, d.hand = some v)
    (h : d.reach t = .error cause) : d.useTile op t = .error cause := by
  cases op with
  | copyFrom | bumpUp | bumpDown => simp only [useTile, h, bind, Except.bind]
  | copyTo | add | sub =>
      obtain ⟨v, hv⟩ := hhand rfl
      simp only [useTile, need_eq hv, h, bind, Except.bind]

lemma useTile_copyTo {d d' : Desk} {t : Tile} (h : d.useTile .copyTo t = .ok d') :
    ∃ v a, d.hand = some v ∧ d.reach t = .ok a ∧ d' = { d with floor := d.floor.put a v } := by
  simp only [useTile, bind, Except.bind, pure, Except.pure] at h
  cases hn : d.need (.tile .copyTo t) with
  | error _ => rw [hn] at h; cases h
  | ok v =>
      rw [hn] at h
      cases hr : d.reach t with
      | error _ => rw [hr] at h; cases h
      | ok a =>
          rw [hr] at h
          cases h
          exact ⟨v, a, need_ok hn, rfl, rfl⟩

/-- Bumping a tile leaves its new value in the hand. -/
lemma useTile_bump {d d' : Desk} {op : TileOp} {t : Tile} (hop : op = .bumpUp ∨ op = .bumpDown)
    (h : d.useTile op t = .ok d') :
    ∃ v a, d.reach t = .ok a ∧ d' = { d with floor := d.floor.put a v, hand := some v } := by
  rcases hop with rfl | rfl <;>
    simp only [useTile, bind, Except.bind, pure, Except.pure] at h <;>
    (cases hr : d.reach t with
    | error _ => rw [hr] at h; cases h
    | ok a =>
        rw [hr] at h
        cases h
        exact ⟨_, a, rfl, rfl⟩)

/-- Taking from a tile leaves the floor alone. -/
lemma useTile_takes {d d' : Desk} {op : TileOp} {t : Tile} (hop : op.takes = true)
    (h : d.useTile op t = .ok d') : d'.floor = d.floor := by
  cases op with
  | copyTo | bumpUp | bumpDown => cases hop
  | copyFrom | add | sub =>
      simp only [useTile, bind, Except.bind, pure, Except.pure] at h
      repeat' split at h
      all_goals cases h
      all_goals rfl

/-- Storing to a tile changes that one, and leaves in the hand what is put there. -/
lemma useTile_stores {d d' : Desk} {op : TileOp} {t : Tile} (hop : op.takes = false)
    (h : d.useTile op t = .ok d') :
    ∃ a v, d.reach t = .ok a ∧ d'.floor = d.floor.put a v ∧ d'.hand = some v := by
  cases op with
  | copyFrom | add | sub => cases hop
  | copyTo =>
      obtain ⟨v, a, hhand, hreach, rfl⟩ := useTile_copyTo h
      exact ⟨a, v, hreach, rfl, hhand⟩
  | bumpUp =>
      obtain ⟨v, a, hreach, rfl⟩ := useTile_bump (.inl rfl) h
      exact ⟨a, v, hreach, rfl, rfl⟩
  | bumpDown =>
      obtain ⟨v, a, hreach, rfl⟩ := useTile_bump (.inr rfl) h
      exact ⟨a, v, hreach, rfl, rfl⟩

/-- Instructions on tiles leave inbox, outbox and the size of the floor alone, and something in the
hand. -/
lemma useTile_kept {d d' : Desk} {op : TileOp} {t : Tile} (h : d.useTile op t = .ok d') :
    d'.inbox = d.inbox ∧ d'.emitted = d.emitted ∧ d'.floor.size = d.floor.size ∧
      d'.hand.isSome = true := by
  have hneed : ∀ {i : Instr} {f : Int → Except FaultCause Desk},
      (d.need i >>= f) = .ok d' → ∃ v, d.hand = some v ∧ f v = .ok d' := by
    intro i f hf
    cases hn : d.need i with
    | error cause =>
        rw [hn] at hf
        cases hf
    | ok v =>
        rw [hn] at hf
        exact ⟨v, need_ok hn, hf⟩
  have hreach : ∀ {f : Int → Desk},
      (d.reach t >>= fun a => pure (f a)) = .ok d' → ∃ a, d' = f a := by
    intro f hf
    cases hr : d.reach t with
    | error cause =>
        rw [hr] at hf
        cases hf
    | ok a =>
        rw [hr] at hf
        cases hf
        exact ⟨a, rfl⟩
  cases op with
  | copyFrom | bumpUp | bumpDown =>
      obtain ⟨a, rfl⟩ := hreach h
      exact ⟨rfl, rfl, rfl, rfl⟩
  | add | sub =>
      obtain ⟨v, -, hrest⟩ := hneed h
      obtain ⟨a, rfl⟩ := hreach hrest
      exact ⟨rfl, rfl, rfl, rfl⟩
  | copyTo =>
      obtain ⟨v, hhand, hrest⟩ := hneed h
      obtain ⟨a, rfl⟩ := hreach hrest
      exact ⟨rfl, rfl, rfl, by rw [hhand]; rfl⟩

/-! ### How instructions fail -/

lemma need_error {d : Desk} {i : Instr} {cause : FaultCause} (h : d.need i = .error cause) :
    d.hand = none ∧ cause = .emptyHand i.mnemonic := by
  rw [need] at h
  split at h
  · cases h
  · cases h
    exact ⟨‹_›, rfl⟩

lemma reach_error {d : Desk} {t : Tile} {cause : FaultCause} (h : d.reach t = .error cause) :
    ∃ e, d.floor.resolve t.address t.indirect = .error e ∧ cause = .offFloor e := by
  rw [reach, Machine.onFloor.eq_def] at h
  split at h
  · cases h
  · cases h
    exact ⟨_, ‹_›, rfl⟩

/-- An instruction on a tile fails for want of a hand or of a tile. -/
lemma useTile_error {d : Desk} {op : TileOp} {t : Tile} {cause : FaultCause}
    (h : d.useTile op t = .error cause) :
    ((Instr.tile op t).needsHand = true ∧ d.hand = none
        ∧ cause = .emptyHand (Instr.tile op t).mnemonic) ∨
      ∃ e, d.floor.resolve t.address t.indirect = .error e ∧ cause = .offFloor e := by
  cases op <;> simp only [useTile, bind, Except.bind, pure, Except.pure] at h
  case copyFrom | bumpUp | bumpDown =>
    cases hr : d.reach t with
    | error _ =>
        rw [hr] at h
        cases h
        exact .inr (reach_error hr)
    | ok _ => rw [hr] at h; cases h
  all_goals
    cases hn : d.need _ with
    | error _ =>
        rw [hn] at h
        cases h
        exact .inl ⟨rfl, need_error hn⟩
    | ok _ =>
        rw [hn] at h
        cases hr : d.reach t with
        | error _ =>
            rw [hr] at h
            cases h
            exact .inr (reach_error hr)
        | ok _ => rw [hr] at h; cases h

lemma takes_error {d : Desk} {kind : JumpKind} {label : String} {cause : FaultCause}
    (h : d.takes kind label = .error cause) :
    kind ≠ .always ∧ d.hand = none ∧ cause = .emptyHand (Instr.jump kind label).mnemonic := by
  cases kind with
  | always => cases h
  | ifZero | ifNegative =>
      rw [takes] at h
      cases hn : d.need _ with
      | error _ =>
          rw [hn] at h
          cases h
          exact ⟨by simp, need_error hn⟩
      | ok _ => rw [hn] at h; cases h

/-- **How an instruction fails.** -/
lemma perform_error {d : Desk} {i : Instr} {h : Halt} (hp : d.perform i = .error h) :
    (h = .dry ∧ i = .inbox ∧ d.inbox.pending = []) ∨
    (∃ e, h = .failed e ∧ i = .inbox ∧ ∃ later, d.inbox.pending = .spoiled e :: later) ∨
    (h = .fault (.emptyHand i.mnemonic) ∧ i.needsHand = true ∧ d.hand = none) ∨
    (∃ op t e, h = .fault (.offFloor e) ∧ i = .tile op t ∧
      d.floor.resolve t.address t.indirect = .error e) := by
  cases i with
  | inbox =>
      simp only [perform, Inbox.next] at hp
      cases hslips : d.inbox.pending with
      | nil =>
          rw [hslips] at hp
          cases hp
          exact .inl ⟨rfl, rfl, rfl⟩
      | cons slip slips =>
          rw [hslips] at hp
          cases slip with
          | value v => cases hp
          | spoiled e => cases hp; exact .inr (.inl ⟨e, rfl, rfl, slips, rfl⟩)
  | outbox =>
      simp only [perform] at hp
      cases hn : d.need .outbox with
      | ok v => rw [hn] at hp; cases hp
      | error cause =>
          rw [hn] at hp
          cases hp
          obtain ⟨hhand, rfl⟩ := need_error hn
          exact .inr (.inr (.inl ⟨rfl, rfl, hhand⟩))
  | tile op t =>
      simp only [perform] at hp
      cases hu : d.useTile op t with
      | ok d' => rw [hu] at hp; cases hp
      | error cause =>
          rw [hu] at hp
          cases hp
          rcases useTile_error hu with ⟨hneeds, hhand, rfl⟩ | ⟨e, he, rfl⟩
          · exact .inr (.inr (.inl ⟨rfl, hneeds, hhand⟩))
          · exact .inr (.inr (.inr ⟨op, t, e, rfl, rfl, he⟩))
  | jump kind label =>
      simp only [perform] at hp
      cases ht : d.takes kind label with
      | ok taken => rw [ht] at hp; cases taken <;> cases hp
      | error cause =>
          rw [ht] at hp
          cases hp
          obtain ⟨hkind, hhand, rfl⟩ := takes_error ht
          exact .inr (.inr (.inl ⟨rfl, by simpa [Instr.needsHand] using hkind, hhand⟩))

/-- Only jumps lead to a label, and they change nothing. -/
lemma perform_taken {d d' : Desk} {i : Instr} {label : String}
    (h : d.perform i = .ok (d', some label)) : d' = d ∧ ∃ kind, i = .jump kind label := by
  cases i with
  | inbox => simp only [perform] at h; split at h <;> cases h
  | outbox => simp only [perform] at h; split at h <;> cases h
  | tile op t => simp only [perform] at h; split at h <;> cases h
  | jump kind label' =>
      simp only [perform] at h
      split at h <;> cases h
      exact ⟨rfl, kind, rfl⟩

/-- A jump that is not taken changes nothing. -/
lemma perform_jump {d d' : Desk} {kind : JumpKind} {label : String}
    (h : d.perform (.jump kind label) = .ok (d', none)) : d' = d := by
  simp only [perform] at h
  split at h <;> cases h
  rfl

lemma perform_tile {d d' : Desk} {op : TileOp} {t : Tile} {way : Option String}
    (h : d.perform (.tile op t) = .ok (d', way)) : d.useTile op t = .ok d' := by
  simp only [perform] at h
  split at h <;> cases h
  assumption

/-- Reading takes a value from the inbox. -/
lemma perform_inbox {d d' : Desk} {way : Option String} (h : d.perform .inbox = .ok (d', way)) :
    ∃ v, d.inbox.pending = .value v :: d'.inbox.pending := by
  simp only [perform, Inbox.next] at h
  cases hslips : d.inbox.pending with
  | nil => rw [hslips] at h; cases h
  | cons slip slips =>
      rw [hslips] at h
      cases slip with
      | spoiled e => cases h
      | value v => cases h; exact ⟨v, rfl⟩

/-- Nothing but reading takes a value from the inbox. -/
lemma perform_inbox_kept {d d' : Desk} {i : Instr} {way : Option String} (hi : i ≠ .inbox)
    (h : d.perform i = .ok (d', way)) : d'.inbox = d.inbox := by
  cases i with
  | inbox => exact absurd rfl hi
  | tile op t => exact (useTile_kept (perform_tile h)).1
  | _ =>
      simp only [perform] at h
      split at h <;> cases h <;> rfl

/-- An instruction that stores to no tile leaves the floor alone. -/
lemma perform_floor {d d' : Desk} {i : Instr} {way : Option String}
    (hi : ∀ op t, i = .tile op t → op.takes = true) (h : d.perform i = .ok (d', way)) :
    d'.floor = d.floor := by
  cases i with
  | tile op t => exact useTile_takes (hi op t rfl) (perform_tile h)
  | _ =>
      simp only [perform] at h
      split at h <;> cases h <;> rfl

/-- Nothing that has been sent is taken back. -/
lemma perform_emitted {d d' : Desk} {i : Instr} {way : Option String}
    (h : d.perform i = .ok (d', way)) : d.emitted.toList <+: d'.emitted.toList := by
  cases i with
  | inbox =>
      simp only [perform] at h
      split at h <;> cases h
      exact List.prefix_refl _
  | outbox =>
      simp only [perform] at h
      split at h <;> cases h
      rw [Array.toList_push]
      exact List.prefix_append _ _
  | tile op t =>
      exact (useTile_kept (perform_tile h)).2.1 ▸ List.prefix_refl _
  | jump kind label =>
      simp only [perform] at h
      split at h <;> cases h <;> exact List.prefix_refl _

lemma perform_size {d d' : Desk} {i : Instr} {way : Option String}
    (h : d.perform i = .ok (d', way)) : d'.floor.size = d.floor.size := by
  cases i with
  | tile op t => exact (useTile_kept (perform_tile h)).2.2.1
  | _ =>
      simp only [perform] at h
      split at h <;> cases h <;> rfl

lemma perform_cost {d : Desk} {i : Instr} {h : Halt} (hp : d.perform i = .error h) :
    h.cost = 1 := by
  rcases perform_error hp with ⟨rfl, -⟩ | ⟨e, rfl, -⟩ | ⟨rfl, -⟩ | ⟨op, t, e, rfl, -⟩ <;> rfl

end Desk

/-! ## Instructions of a machine -/

/-- What the instructions of a machine work on. -/
def Machine.desk (m : Machine) : Desk :=
  ⟨m.hand, m.floor, m.inbox, m.emitted⟩

namespace Machine

lemma work_bind {α β : Type} (x : Work α) (f : α → Work β) (b : Bench) :
    (x >>= f) b = match x b with
      | .ok a b' => f a b'
      | .error e b' => .error e b' := by
  change EStateM.bind x f b = _
  rw [EStateM.bind]
  cases x b <;> rfl

lemma needHand_desk (i : Instr) (b : Bench) :
    needHand i b = match b.machine.desk.need i with
      | .ok v => .ok v b
      | .error cause => .error (.fault cause) b := by
  rw [needHand, Desk.need, desk]
  cases b.machine.hand <;> rfl

lemma findTile_desk (t : Tile) (b : Bench) :
    findTile t b = match b.machine.desk.reach t with
      | .ok a => .ok a b
      | .error cause => .error (.fault cause) b := by
  have hreach : onFloor (b.machine.floor.resolve t.address t.indirect) = b.machine.desk.reach t :=
    rfl
  rw [findTile, askFloor, hreach]
  cases b.machine.desk.reach t <;> rfl

lemma readTile_eq {b : Bench} {a : Int} (h : b.machine.floor.Has a) :
    readTile a b = .ok (b.machine.floor.item a) b := by
  rw [readTile, askFloor, Floor.get_eq, if_pos h, onFloor]

lemma writeTile_eq {b : Bench} {a : Int} (h : b.machine.floor.Has a) (v : Int) :
    writeTile a v b
      = .ok () { b with machine := { b.machine with floor := b.machine.floor.put a v } } := by
  rw [writeTile, work_bind, askFloor, Floor.set_eq, if_pos h, onFloor]
  rfl

/-- A machine carries out an instruction on a tile as its desk says.  Where that comes to a fault,
nothing has been done yet. -/
lemma executeTile_desk (op : TileOp) (t : Tile) (b : Bench) :
    match b.machine.desk.useTile op t with
    | .error cause => executeTile op t b = .error (.fault cause) b
    | .ok d => ∃ changes, executeTile op t b
        = .ok changes
          { b with machine := { b.machine with hand := d.hand, floor := d.floor } } ∧
        d.inbox = b.machine.inbox ∧ d.emitted = b.machine.emitted := by
  cases op <;>
    simp only [executeTile, work_bind, needHand_desk, findTile_desk] <;>
    simp only [Desk.useTile, bind, Except.bind]
  -- copying from a tile and bumping one need no hand, the others do
  case copyFrom | bumpUp | bumpDown =>
    cases hr : b.machine.desk.reach t with
    | error cause => rfl
    | ok a =>
        have hhas : b.machine.floor.Has a := Desk.reach_has hr
        simp only [readTile_eq hhas, writeTile_eq hhas]
        exact ⟨_, rfl, rfl, rfl⟩
  all_goals
    cases hn : b.machine.desk.need _ with
    | error cause => rfl
    | ok v =>
        simp only
        cases hr : b.machine.desk.reach t with
        | error cause => rfl
        | ok a =>
            have hhas : b.machine.floor.Has a := Desk.reach_has hr
            simp only [readTile_eq hhas, writeTile_eq hhas]
            exact ⟨_, rfl, rfl, rfl⟩

lemma takesJump_desk (kind : JumpKind) (label : String) (b : Bench) :
    takesJump kind label b = match b.machine.desk.takes kind label with
      | .ok taken => .ok taken b
      | .error cause => .error (.fault cause) b := by
  cases kind with
  | always => rfl
  | ifZero | ifNegative =>
      rw [takesJump, work_bind, needHand_desk, Desk.takes]
      cases b.machine.desk.need _ <;> rfl

/-- A machine with another desk. -/
def withDesk (m : Machine) (d : Desk) : Machine :=
  { m with hand := d.hand, floor := d.floor, inbox := d.inbox, emitted := d.emitted }

/-- **Instructions.**  A machine carries out an instruction as its desk says.  Nothing has been done
where that comes to a fault, and only the inbox is spoiled where that is spoiled. -/
lemma carryOut_desk (i : Instr) (b : Bench) :
    match b.machine.desk.perform i with
    | .error (.fault cause) => carryOut i b = .error (.fault cause) b
    | .error (.failed e) =>
      carryOut i b = .error (.failed e) { b with machine := { b.machine with inbox := ⟨[]⟩ } }
    | .error _ =>
      carryOut i b = .ok false ⟨{ b.machine with halted := true }, b.events ++ [.halted]⟩
    | .ok (d, none) => ∃ events, carryOut i b = .ok true
        ⟨{ b.machine.withDesk d with
            pc := b.machine.pc + 1, idle := if i = .inbox then 0 else b.machine.idle },
          b.events ++ events⟩
    | .ok (d, some label) =>
      match b.machine.program.address? label with
      | none => carryOut i b = .error (.fault (.unknownLabel label)) b
      | some pc => ∃ events, carryOut i b = .ok true
          ⟨{ b.machine.withDesk d with pc, jumps := b.machine.jumps + 1 }, b.events ++ events⟩ := by
  cases i with
  | inbox =>
      have hinbox : b.machine.desk.inbox = b.machine.inbox := rfl
      rw [Desk.perform, hinbox, carryOut, executeInbox, Inbox.next]
      rcases b.machine.inbox.pending with _ | ⟨_ | _, _⟩
      · rfl
      · exact ⟨_, rfl⟩
      · rfl
  | outbox =>
      rw [Desk.perform, carryOut, work_bind, executeOutbox, work_bind, needHand_desk]
      cases hneed : b.machine.desk.need .outbox with
      | error cause => rfl
      | ok v =>
          refine ⟨[.sent v, .executed .outbox []], ?_⟩
          have hevents : b.events ++ [.sent v, .executed .outbox []]
              = b.events ++ [.sent v] ++ [.executed .outbox []] := by simp
          rw [hevents]
          rfl
  | tile op t =>
      have htile := executeTile_desk op t b
      rw [Desk.perform, carryOut, work_bind]
      cases huse : b.machine.desk.useTile op t with
      | error cause =>
          rw [huse] at htile
          simp only [htile]
      | ok d =>
          rw [huse] at htile
          obtain ⟨changes, hexecute, hinbox, hemitted⟩ := htile
          simp only [hexecute]
          refine ⟨[.executed (.tile op t) changes], ?_⟩
          simp only [withDesk, hinbox, hemitted]
          rfl
  | jump kind label =>
      rw [Desk.perform, carryOut, work_bind, executeJump, work_bind, takesJump_desk]
      rcases b.machine.desk.takes kind label with cause | ⟨⟨⟩ | ⟨⟩⟩
      · rfl
      · exact ⟨_, rfl⟩
      · simp only [if_true, goTo]
        cases b.machine.program.address? label with
        | none => rfl
        | some pc => exact ⟨_, rfl⟩

end Machine

end Mailroom
