import Mathlib
import Mailroom.Proofs.Lowerable
import Mailroom.Proofs.RecordedLowering

/-!
# The discipline of tiles

While code is made, tiles are given to variables for good, and to values that have to wait for a
while.  At no moment do two of them share a tile, and each of them has a tile on the floor that no
constant names.  At the end of a statement nothing waits any more.  Therefore values that wait have
no influence on where variables are put: they get the tiles that no constant names, in order.

- `doneAll`: the statements of a program for which code is made.
- `Moment.Sound`: what holds at every moment.
- `Restores`: steps that leave all tiles as they are in the end, as those for expressions
  (`value_restores`) and conditions (`branch_restores`).
- `programOps_makes`: an induction on statements, from rest to rest.
- `tiles_disciplined`: all of it, for a program without complaints.
-/

namespace Mailroom.Source

/-! ## Statements for which code is made -/

/-- The variable that a statement declares, if it needs a tile. -/
def Stmt.introduces? : Stmt → Option String
  | .decl d => if d.constant then none else some d.name
  | _ => none

mutual

/-- The statements inside of a statement for which code is made, in the order in which they are
done. -/
def Stmt.inner : Stmt → List Stmt
  | .decl _ | .expr _ _ => []
  | .ifThen cond body _ | .whileDo cond body _ =>
    if cond.literal? = some false then [] else body.inner ++ [body]
  | .ifElse cond body other _ =>
    match cond.literal? with
    | some true => body.inner ++ [body]
    | some false => other.inner ++ [other]
    | none => body.inner ++ [body] ++ (other.inner ++ [other])
  | .block body _ => doneAll body

/-- The statements for which code is made, in the order in which they are done. -/
def doneAll : List Stmt → List Stmt
  | [] => []
  | s :: rest => s.inner ++ [s] ++ doneAll rest

end

lemma variables_append {s : Stmt} (h : s.introduces? = none) (before : List Stmt) :
    (before ++ [s]).filterMap Stmt.introduces? = before.filterMap Stmt.introduces? := by
  rw [List.filterMap_append, List.filterMap_cons_none h, List.filterMap_nil, List.append_nil]

mutual

lemma inner_declared : ∀ s : Stmt,
    ((s.inner ++ [s]).filterMap Stmt.introduces?).Sublist s.declared
  | .decl d => by
      rw [Stmt.inner, Stmt.declared]
      cases hconst : d.constant <;> simp [Stmt.introduces?, hconst]
  | .expr _ _ => List.Sublist.refl _
  | .ifThen cond body line => by
      rw [variables_append rfl, Stmt.inner, Stmt.declared]
      split
      · exact List.nil_sublist _
      · exact inner_declared body
  | .ifElse cond body other line => by
      rw [variables_append rfl, Stmt.inner, Stmt.declared]
      split
      · exact (inner_declared body).trans (List.sublist_append_left _ _)
      · exact (inner_declared other).trans (List.sublist_append_right _ _)
      · rw [List.filterMap_append]
        exact (inner_declared body).append (inner_declared other)
  | .whileDo cond body line => by
      rw [variables_append rfl, Stmt.inner, Stmt.declared]
      split
      · exact List.nil_sublist _
      · exact inner_declared body
  | .block body line => by
      rw [variables_append rfl, Stmt.inner, Stmt.declared]
      exact doneAll_declared body

/-- Each variable that gets a tile is declared. -/
lemma doneAll_declared : ∀ body : List Stmt,
    ((doneAll body).filterMap Stmt.introduces?).Sublist (declaredAll body)
  | [] => List.Sublist.refl _
  | s :: rest => by
      rw [doneAll, declaredAll, List.filterMap_append]
      exact (inner_declared s).append (doneAll_declared rest)

end

/-! ## Moments -/

/-- From one moment to the next, one tile at most changes hands. -/
def Moment.Next (m m' : Moment) : Prop :=
  ∃ a, ∀ b, b ≠ a → (b ∈ m'.waiting ↔ b ∈ m.waiting) ∧
    (b ∈ m'.state.used ↔ b ∈ m.state.used) ∧ (b ∈ m'.variables ↔ b ∈ m.variables)

/-- The tiles are in order, with respect to the statements for which code is made. -/
structure Moment.Sound (t : Target) (all : List Stmt) (m : Moment) : Prop where
  /-- Tiles are in use for values that wait and for variables, each for one of them. -/
  mem_used : ∀ a, a ∈ m.state.used ↔ a ∈ m.waiting ∨ a ∈ m.variables
  nodup : m.waiting.Nodup
  apart : ∀ a ∈ m.waiting, a ∉ m.variables
  free : ∀ a ∈ m.state.used, a ∉ t.symbols.reserved ∧ (a : Int) < t.size
  /-- Variables come in the order of their declarations, on the lowest tiles. -/
  names : m.state.tiles.map (·.1) <+: all.filterMap Stmt.introduces?
  addresses : m.variables
    = (List.range m.variables.length).map (Nat.nth (· ∉ t.symbols.reserved))

/-- Moments with the same tiles. -/
structure Moment.Alike (m m' : Moment) : Prop where
  waiting : m'.waiting = m.waiting
  used : m'.state.used = m.state.used
  tiles : m'.state.tiles = m.state.tiles

section Moments

variable {t : Target} {all : List Stmt} {m m' : Moment}

lemma Moment.Alike.variables (h : m.Alike m') : m'.variables = m.variables := by
  rw [Moment.variables, h.tiles, Moment.variables]

lemma Moment.Alike.sound (h : m.Alike m') (hm : m.Sound t all) : m'.Sound t all := by
  obtain ⟨hused, hnodup, hapart, hfree, hnames, haddresses⟩ := hm
  rw [← h.used] at hfree
  rw [← h.tiles] at hnames
  rw [← h.variables] at haddresses
  rw [← h.waiting] at hnodup
  refine ⟨fun a => ?_, hnodup, ?_, hfree, hnames, haddresses⟩
  · rw [h.used, h.waiting, h.variables]
    exact hused a
  · rw [h.waiting, h.variables]
    exact hapart

lemma Moment.Alike.next (h : m.Alike m') : m.Next m' := by
  refine ⟨0, fun b _ => ?_⟩
  rw [h.waiting, h.used, h.variables]
  exact ⟨Iff.rfl, Iff.rfl, Iff.rfl⟩

end Moments

lemma mem_cons_of_ne {a b : Nat} (h : b ≠ a) (tiles : List Nat) : b ∈ a :: tiles ↔ b ∈ tiles :=
  List.mem_cons.trans (or_iff_right h)

/-- A tile is lent to a value that waits. -/
def Moment.lend (m : Moment) (a : Nat) : Moment :=
  ⟨a :: m.waiting, { m.state with used := a :: m.state.used }⟩

section Moments

variable {t : Target} {all : List Stmt} {m : Moment} {a : Nat}

lemma Moment.Sound.lend (h : m.Sound t all) (hfresh : t.fresh? m.state.used = some a) :
    (m.lend a).Sound t all := by
  obtain ⟨hunused, hfree⟩ := fresh?_spec hfresh
  refine ⟨fun b => ?_, ?_, fun b hb => ?_, fun b hb => ?_, h.names, h.addresses⟩
  · calc b ∈ a :: m.state.used
        ↔ b = a ∨ b ∈ m.waiting ∨ b ∈ m.variables := by rw [List.mem_cons, h.mem_used]
      _ ↔ b ∈ a :: m.waiting ∨ b ∈ m.variables := by rw [List.mem_cons, or_assoc]
  · exact List.nodup_cons.mpr ⟨fun ha => hunused ((h.mem_used a).mpr (.inl ha)), h.nodup⟩
  · rcases List.mem_cons.mp hb with rfl | hb
    · exact fun hvariable => hunused ((h.mem_used b).mpr (.inr hvariable))
    · exact h.apart b hb
  · rcases List.mem_cons.mp hb with rfl | hb
    · exact hfree
    · exact h.free b hb

lemma Moment.next_lend (m : Moment) (a : Nat) : m.Next (m.lend a) :=
  ⟨a, fun _ hb => ⟨mem_cons_of_ne hb _, mem_cons_of_ne hb _, Iff.rfl⟩⟩

end Moments

/-! ## The lowest tiles -/

lemma free_infinite (reserved : List Nat) : {a | a ∉ reserved}.Infinite :=
  reserved.finite_toSet.infinite_compl

/-- All tiles below one that is given out are taken. -/
lemma fresh?_lowest {t : Target} {used : List Nat} {a b : Nat} (h : t.fresh? used = some a)
    (hb : b < a) (hfree : b ∉ t.symbols.reserved) : b ∈ used := by
  rw [Target.fresh?, lowestFree?, List.find?_range_eq_some] at h
  have htaken : b ∈ used ++ t.symbols.reserved := by simpa using h.2.2 b hb
  exact (List.mem_append.mp htaken).resolve_right hfree

/-- If the lowest tiles that no constant names are in use, then the next one is given out. -/
lemma fresh?_eq_nth {t : Target} {used : List Nat} {a k : Nat} (h : t.fresh? used = some a)
    (hused : ∀ b, b ∈ used ↔ ∃ i < k, Nat.nth (· ∉ t.symbols.reserved) i = b) :
    a = Nat.nth (· ∉ t.symbols.reserved) k := by
  classical
  have hinfinite := free_infinite t.symbols.reserved
  obtain ⟨hunused, hfree, -⟩ := fresh?_spec h
  -- the tile has a number of its own, which is neither smaller nor larger than `k`
  have ha : Nat.nth (· ∉ t.symbols.reserved) (Nat.count (· ∉ t.symbols.reserved) a) = a :=
    Nat.nth_count hfree
  rcases Nat.lt_trichotomy (Nat.count (· ∉ t.symbols.reserved) a) k with hlt | heq | hgt
  · exact absurd ((hused a).mpr ⟨_, hlt, ha⟩) hunused
  · rw [← heq, ha]
  · have hbelow : Nat.nth (· ∉ t.symbols.reserved) k < a := by
      rw [← ha]
      exact Nat.nth_strictMono hinfinite hgt
    obtain ⟨i, hi, heq⟩ := (hused _).mp
      (fresh?_lowest h hbelow (Nat.nth_mem_of_infinite hinfinite k))
    exact absurd (Nat.nth_injective hinfinite heq) hi.ne

/-- Variables come in order. -/
lemma Moment.Sound.tile {t : Target} {all : List Stmt} {m : Moment} (h : m.Sound t all) {k : Nat}
    {name : String} {a : Nat} (hget : m.state.tiles[k]? = some (name, a)) :
    (all.filterMap Stmt.introduces?)[k]? = some name ∧
      a = Nat.nth (· ∉ t.symbols.reserved) k := by
  have hname : (m.state.tiles.map (·.1))[k]? = some name := by
    rw [List.getElem?_map, hget, Option.map_some]
  have haddress : m.variables[k]? = some a := by
    rw [Moment.variables, List.getElem?_map, hget, Option.map_some]
  constructor
  · obtain ⟨later, hlater⟩ := h.names
    rw [← hlater, List.getElem?_append_left (List.getElem?_eq_some_iff.mp hname).1, hname]
  · have hk := (List.getElem?_eq_some_iff.mp haddress).1
    rw [h.addresses, List.getElem?_map, List.getElem?_range hk, Option.map_some,
      Option.some.injEq] at haddress
    exact haddress.symm

/-! ## Records -/

/-- A record that misses nothing and shows no disorder. -/
structure Record.Sound (t : Target) (all : List Stmt) (r : Record) : Prop where
  start : r.moments.head? = some {}
  chain : r.moments.IsChain Moment.Next
  stop : r.moments.getLast? = some r.now
  moments : ∀ m ∈ r.moments, m.Sound t all
  done : ∀ entry ∈ r.done, entry.2 ∈ r.moments ∧ entry.2.waiting = []
  order : r.done.map (·.1) <+: all

/-- From records with one property a step leads to records with another one, and the record is sound
also if the step fails. -/
def Upholds (t : Target) (all : List Stmt) {α : Type} (P : Record → Prop) (x : Recorded α)
    (Q : α → Record → Prop) : Prop :=
  ∀ r, r.Sound t all → P r →
    match x r with
    | .ok a r' => r'.Sound t all ∧ Q a r'
    | .error _ r' => r'.Sound t all

section Records

variable {t : Target} {all : List Stmt} {α β : Type} {r : Record}

lemma Record.Sound.now_mem (h : r.Sound t all) : r.now ∈ r.moments :=
  List.mem_of_getLast? h.stop

lemma Record.Sound.now (h : r.Sound t all) : r.now.Sound t all :=
  h.moments r.now h.now_mem

/-- **One moment more.** -/
lemma Record.Sound.advance (h : r.Sound t all) {m : Moment} (hm : m.Sound t all)
    (hnext : r.now.Next m) : (r.advance m).Sound t all := by
  refine ⟨?_, ?_, List.getLast?_concat, ?_, fun entry hentry => ?_, h.order⟩
  · rw [Record.advance, List.head?_append, h.start, Option.some_or]
  · rw [Record.advance, List.isChain_append]
    refine ⟨h.chain, List.IsChain.singleton m, fun last hlast next hfirst => ?_⟩
    rw [h.stop] at hlast
    cases hlast
    cases hfirst
    exact hnext
  · intro other hother
    rcases List.mem_append.mp hother with hold | hnew
    · exact h.moments other hold
    · rw [List.mem_singleton.mp hnew]
      exact hm
  · obtain ⟨hmem, hwaiting⟩ := h.done entry hentry
    exact ⟨List.mem_append_left _ hmem, hwaiting⟩

lemma Upholds.bind {P : Record → Prop} {x : Recorded α} {Q : α → Record → Prop}
    {f : α → Recorded β} {R : β → Record → Prop} (hx : Upholds t all P x Q)
    (hf : ∀ a, Upholds t all (Q a) (f a) R) : Upholds t all P (x >>= f) R := by
  intro r hr hP
  have hstep := hx r hr hP
  change match EStateM.bind x f r with
    | .ok b r' => r'.Sound t all ∧ R b r'
    | .error _ r' => r'.Sound t all
  rw [EStateM.bind]
  cases hrun : x r with
  | ok a r' =>
      rw [hrun] at hstep
      exact hf a r' hstep.1 hstep.2
  | error e r' =>
      rw [hrun] at hstep
      exact hstep

lemma upholds_pure {P : Record → Prop} (a : α) : Upholds t all P (pure a) fun _ => P :=
  fun _ hr hP => ⟨hr, hP⟩

lemma Upholds.weaken {P P' : Record → Prop} {x : Recorded α} {Q Q' : α → Record → Prop}
    (hx : Upholds t all P x Q) (hP : ∀ r, P' r → P r) (hQ : ∀ a r, Q a r → Q' a r) :
    Upholds t all P' x Q' := by
  intro r hr hP'
  have hstep := hx r hr (hP r hP')
  cases hrun : x r with
  | ok a r' =>
      rw [hrun] at hstep
      exact ⟨hstep.1, hQ a r' hstep.2⟩
  | error e r' =>
      rw [hrun] at hstep
      exact hstep

lemma Upholds.assume {p : Prop} {P : Record → Prop} {x : Recorded α} {Q : α → Record → Prop}
    (h : p → Upholds t all P x Q) : Upholds t all (fun r => p ∧ P r) x Q :=
  fun r hr hP => h hP.1 r hr hP.2

/-- **One step.**  It is enough to look at the moment that it leads to. -/
lemma upholds_stepWith {P : Record → Prop} {wait : α → List Nat → List Nat} {x : Lower α}
    {Q : α → Record → Prop}
    (h : ∀ r, r.now.Sound t all → P r →
      match x r.now.state with
      | .ok a s => Moment.Sound t all ⟨wait a r.now.waiting, s⟩ ∧
          r.now.Next ⟨wait a r.now.waiting, s⟩ ∧ Q a (r.advance ⟨wait a r.now.waiting, s⟩)
      | .error _ s => r.now.Alike ⟨r.now.waiting, s⟩) :
    Upholds t all P (Recorded.stepWith wait x) Q := by
  intro r hr hP
  have hstep := h r hr.now hP
  rw [Recorded.stepWith]
  cases hrun : x r.now.state with
  | ok a s =>
      rw [hrun] at hstep
      exact ⟨hr.advance hstep.1 hstep.2.1, hstep.2.2⟩
  | error e s =>
      rw [hrun] at hstep
      exact hr.advance (hstep.sound hr.now) hstep.next

/-! ## Steps that leave all tiles as they are -/

/-- Records that have come to the same tiles, with the same statements done. -/
structure Record.Same (r r' : Record) : Prop where
  now : r.now.Alike r'.now
  done : r'.done = r.done

/-- A step that leaves all tiles as they are in the end, whatever it does in between. -/
def Restores (t : Target) (all : List Stmt) (x : Recorded α) : Prop :=
  ∀ r : Record, r.now.Sound t all → Upholds t all r.Same x fun _ => r.Same

/-- A step that takes no tile and gives none back. -/
def Quiet (x : Lower α) : Prop :=
  ∀ s, match x s with
    | .ok _ s' | .error _ s' => s'.used = s.used ∧ s'.tiles = s.tiles

lemma Quiet.bind {x : Lower α} {f : α → Lower β} (hx : Quiet x) (hf : ∀ a, Quiet (f a)) :
    Quiet (x >>= f) := by
  intro s
  have hstep := hx s
  change match EStateM.bind x f s with
    | .ok _ s' | .error _ s' => s'.used = s.used ∧ s'.tiles = s.tiles
  rw [EStateM.bind]
  cases hrun : x s with
  | ok a s' =>
      rw [hrun] at hstep
      have hthen := hf a s'
      dsimp only at hstep ⊢
      rw [hstep.1, hstep.2] at hthen
      exact hthen
  | error e s' =>
      rw [hrun] at hstep
      exact hstep

lemma quiet_pure (a : α) : Quiet (pure a) := fun _ => ⟨rfl, rfl⟩

lemma quiet_throw (e : LoweringError) : Quiet (throw e : Lower α) := fun _ => ⟨rfl, rfl⟩

lemma quiet_emit (op : Op) : Quiet (emit op) := fun _ => ⟨rfl, rfl⟩

lemma quiet_newLabel (stem : String) : Quiet (newLabel stem) := fun _ => ⟨rfl, rfl⟩

lemma quiet_jumpIf (op : Comparison) (target : String) : Quiet (jumpIf op target) := by
  cases op <;> exact fun _ => ⟨rfl, rfl⟩

lemma quiet_tileOf (v : Var) : Quiet (tileOf t v) := by
  intro s
  rw [tileOf_eq]
  cases operand? t s.tiles v <;> exact ⟨rfl, rfl⟩

lemma Restores.bind {x : Recorded α} {f : α → Recorded β} (hx : Restores t all x)
    (hf : ∀ a, Restores t all (f a)) : Restores t all (x >>= f) :=
  fun r hr => (hx r hr).bind fun a => hf a r hr

lemma restores_pure (a : α) : Restores t all (pure a) :=
  fun _ _ => upholds_pure a

lemma Quiet.restores {x : Lower α} (h : Quiet x) : Restores t all (Recorded.step x) := by
  intro r _
  refine upholds_stepWith fun r' hsound hsame => ?_
  have hstep := h r'.now.state
  cases hrun : x r'.now.state with
  | ok a s =>
      rw [hrun] at hstep
      have halike : r'.now.Alike ⟨r'.now.waiting, s⟩ := ⟨rfl, hstep.1, hstep.2⟩
      refine ⟨halike.sound hsound, halike.next, ⟨?_, hsame.done⟩⟩
      exact ⟨hsame.now.waiting, hstep.1.trans hsame.now.used, hstep.2.trans hsame.now.tiles⟩
  | error e s =>
      rw [hrun] at hstep
      exact ⟨rfl, hstep.1, hstep.2⟩

/-- **A value that waits.**  The tile that it gets is one that nobody has, and nobody else has it
until it is given back. -/
lemma Restores.holding {line : Nat} {body : Nat → Recorded Unit}
    (h : ∀ kept, Restores t all (body kept)) : Restores t all (Recorded.holding t line body) := by
  intro r hr
  refine Upholds.bind (Q := fun kept r' => t.fresh? r.now.state.used = some kept ∧
    ({ r with now := r.now.lend kept } : Record).Same r') ?_ fun kept => ?_
  · refine upholds_stepWith fun r' hsound hsame => ?_
    rw [alloc_eq]
    cases hfresh : t.fresh? r'.now.state.used with
    | none => exact ⟨rfl, rfl, rfl⟩
    | some kept =>
        have hlent : Moment.Sound t all (r'.now.lend kept) := hsound.lend hfresh
        refine ⟨hlent, r'.now.next_lend kept, ?_, ⟨?_, ?_, hsame.now.tiles⟩, hsame.done⟩
        · rw [← hsame.now.used, hfresh]
        · exact congrArg (kept :: ·) hsame.now.waiting
        · exact congrArg (kept :: ·) hsame.now.used
  · -- the rest starts from the record with the tile lent, and the last step takes it back
    refine Upholds.assume fun hfresh => (h kept _ (hr.lend hfresh)).bind fun _ => ?_
    refine upholds_stepWith fun r' hsound hsame => ?_
    have hwaiting : r'.now.waiting.erase kept = r.now.waiting := by
      rw [hsame.now.waiting]
      exact List.erase_cons_head kept r.now.waiting
    rw [free_eq hfresh hsame.now.used]
    have halike : r.now.Alike ⟨r'.now.waiting.erase kept,
        { r'.now.state with used := r.now.state.used }⟩ := ⟨hwaiting, rfl, hsame.now.tiles⟩
    refine ⟨halike.sound hr, ⟨kept, fun b hb => ⟨?_, ?_, Iff.rfl⟩⟩, halike, hsame.done⟩
    · exact List.mem_erase_of_ne hb
    · rw [hsame.now.used]
      exact (mem_cons_of_ne hb _).symm

/-! ## Expressions and conditions -/

lemma restores_emitTile (op : TileOp) (tile : Tile) :
    Restores t all (Recorded.step (emitTile op tile)) :=
  (quiet_emit _).restores

lemma combine_restores {op : TileOp} {line : Nat} {left right : Recorded Unit}
    (hleft : Restores t all left) (hright : Restores t all right) (v? : Option Var) :
    Restores t all (Recorded.combine t op line left right v?) := by
  cases v? with
  | some v =>
      exact hleft.bind fun _ => (quiet_tileOf v).restores.bind fun _ => restores_emitTile _ _
  | none =>
      exact Restores.holding fun kept => hright.bind fun _ => (restores_emitTile _ _).bind fun _ =>
        hleft.bind fun _ => restores_emitTile _ _

/-- **Values.** -/
lemma value_restores : ∀ e, Restores t all (Recorded.value t e)
  | .var v => ((quiet_tileOf v).bind fun _ => quiet_emit _).restores
  | .call _ _ | .callWith _ _ _ => (quiet_emit _).restores
  | .num _ _ | .bool _ _ | .compare _ _ _ _ | .logical _ _ _ _ => (quiet_throw _).restores
  | .assign target e _ =>
      (value_restores e).bind fun _ => (quiet_tileOf target).restores.bind fun _ =>
        restores_emitTile _ _
  | .bump target _ false _ =>
      ((quiet_tileOf target).bind fun _ => quiet_emit _).restores
  | .bump target _ true _ =>
      (quiet_tileOf target).restores.bind fun _ => Restores.holding fun _ =>
        (restores_emitTile _ _).bind fun _ => (restores_emitTile _ _).bind fun _ =>
          (restores_emitTile _ _).bind fun _ => restores_emitTile _ _
  | .sum _ left right _ => combine_restores (value_restores left) (value_restores right) _

lemma effect_restores (e : Expr) : Restores t all (Recorded.effect t e) := by
  cases e with
  | call name line =>
      refine Quiet.restores ?_
      rw [effect]
      split
      · exact quiet_throw _
      · split
        · exact quiet_emit _
        · exact quiet_pure _
  | callWith name arg line =>
      rw [Recorded.effect]
      by_cases hout : name = "output"
      · rw [if_pos hout]
        exact (value_restores arg).bind fun _ => (quiet_emit _).restores
      · rw [if_neg hout]
        refine Quiet.restores ?_
        rw [effect, if_neg hout]
        split
        · exact quiet_emit _
        · exact quiet_pure _
  | bump target direction post line =>
      exact ((quiet_tileOf target).bind fun _ => quiet_emit _).restores
  | _ => exact value_restores _

lemma difference_restores (op : Comparison) (left right : Expr) (line : Nat) :
    Restores t all (Recorded.difference t op left right line) := by
  rw [Recorded.difference.eq_def]
  split
  · exact (value_restores _).bind fun _ => restores_pure _
  · exact (value_restores _).bind fun _ => restores_pure _
  · exact (combine_restores (value_restores _) (value_restores _) _).bind fun _ => restores_pure _

mutual

/-- **Conditions.** -/
lemma branch_restores : ∀ (e : Expr) (target : String) (wanted : Bool),
    Restores t all (Recorded.branch t target wanted e)
  | .bool b _, target, wanted => by
      refine Quiet.restores ?_
      rw [branch]
      split
      · exact quiet_emit _
      · exact quiet_pure _
  | .compare op left right line, target, wanted =>
      (difference_restores _ left right line).bind fun sign => (quiet_jumpIf sign target).restores
  | .logical op first others _, target, wanted => by
      rw [Recorded.branch]
      split
      · exact (branch_restores first _ _).bind fun _ => branchAny_restores others _ _
      · exact (quiet_newLabel _).restores.bind fun skip => (branch_restores first _ _).bind fun _ =>
          (branchAll_restores others _ _ _).bind fun _ => (quiet_emit _).restores
  | .var _, _, _ | .call _ _, _, _ | .callWith _ _ _, _, _ | .num _ _, _, _
  | .assign _ _ _, _, _ | .bump _ _ _ _, _, _ | .sum _ _ _ _, _, _ => (quiet_throw _).restores

lemma branchAny_restores : ∀ (others : Operands) (target : String) (wanted : Bool),
    Restores t all (Recorded.branchAny t target wanted others)
  | .last e, _, _ => branch_restores e _ _
  | .more e others, _, _ => (branch_restores e _ _).bind fun _ => branchAny_restores others _ _

lemma branchAll_restores : ∀ (others : Operands) (target skip : String) (wanted : Bool),
    Restores t all (Recorded.branchAll t target skip wanted others)
  | .last e, _, _, _ => branch_restores e _ _
  | .more e others, _, _, _ => (branch_restores e _ _).bind fun _ => branchAll_restores others _ _ _

end

end Records

/-! ## Declarations -/

/-- A variable gets a tile. -/
def Moment.place (m : Moment) (name : String) (a : Nat) : Moment :=
  { m with state := { m.state with used := a :: m.state.used, tiles := m.state.tiles.put name a } }

section Moments

variable {t : Target} {all : List Stmt} {m : Moment} {name : String} {a : Nat}

lemma Moment.tiles_place (hnew : name ∉ m.state.tiles.map (·.1)) (a : Nat) :
    (m.place name a).state.tiles = m.state.tiles ++ [(name, a)] :=
  Assoc.put_of_notMem hnew a

lemma Moment.variables_place (hnew : name ∉ m.state.tiles.map (·.1)) (a : Nat) :
    (m.place name a).variables = m.variables ++ [a] := by
  rw [Moment.variables, Moment.tiles_place hnew, List.map_append]
  rfl

lemma Moment.next_place (hnew : name ∉ m.state.tiles.map (·.1)) (a : Nat) :
    m.Next (m.place name a) := by
  refine ⟨a, fun b hb => ⟨Iff.rfl, mem_cons_of_ne hb _, ?_⟩⟩
  rw [Moment.variables_place hnew, List.mem_append]
  exact or_iff_left fun hmem => hb (List.mem_singleton.mp hmem)

/-- **A declaration.**  Where nothing waits, a variable gets the lowest tile that no constant names
and no variable has. -/
lemma Moment.Sound.place (h : m.Sound t all) (hrest : m.waiting = [])
    (hfresh : t.fresh? m.state.used = some a) (hnew : name ∉ m.state.tiles.map (·.1))
    (hnames : m.state.tiles.map (·.1) ++ [name] <+: all.filterMap Stmt.introduces?) :
    (m.place name a).Sound t all := by
  have hused : ∀ b, b ∈ m.state.used ↔ b ∈ m.variables := by
    intro b
    rw [h.mem_used, hrest]
    simp
  -- as nothing waits, the tiles in use are the first ones that no constant names
  have hlowest : ∀ b, b ∈ m.state.used ↔
      ∃ i < m.variables.length, Nat.nth (· ∉ t.symbols.reserved) i = b := by
    intro b
    rw [hused, h.addresses, List.length_map, List.length_range, List.mem_map]
    simp only [List.mem_range]
  have hwaiting : (m.place name a).waiting = [] := hrest
  have hvariables := Moment.variables_place hnew a
  refine ⟨fun b => ?_, h.nodup, fun b hb => ?_, fun b hb => ?_, ?_, ?_⟩
  · have hcons : b ∈ (m.place name a).state.used ↔ b = a ∨ b ∈ m.variables :=
      List.mem_cons.trans (or_congr_right (hused b))
    rw [hcons, hwaiting, hvariables, List.mem_append, List.mem_singleton]
    simp [or_comm]
  · rw [hwaiting] at hb
    cases hb
  · rcases List.mem_cons.mp hb with rfl | hb
    · exact (fresh?_spec hfresh).2
    · exact h.free b hb
  · rw [Moment.tiles_place hnew, List.map_append]
    exact hnames
  · rw [hvariables, List.length_append, List.length_singleton, List.range_succ, List.map_append,
      ← h.addresses, List.map_singleton, ← fresh?_eq_nth hfresh hlowest]

end Moments

/-! ## Statements -/

/-- A record between statements: those that are done, and the variables that have tiles. -/
structure Record.Resting (done : List Stmt) (names : List String) (r : Record) : Prop where
  rest : r.now.waiting = []
  done : r.done.map (·.1) = done
  names : r.now.state.tiles.map (·.1) = names

lemma inner_start {done all inside : List Stmt} {s : Stmt}
    (h : done ++ (inside ++ [s]) <+: all) : done ++ inside <+: all := by
  rw [← List.append_assoc] at h
  exact (List.prefix_append _ _).trans h

section Statements

variable {t : Target} {all : List Stmt} {α : Type} {done : List Stmt} {names : List String}

lemma Record.Same.refl (r : Record) : r.Same r :=
  ⟨⟨rfl, rfl, rfl⟩, rfl⟩

lemma Record.Same.resting {r r' : Record} (h : r.Same r') (hr : r.Resting done names) :
    r'.Resting done names :=
  ⟨by rw [h.now.waiting, hr.rest], by rw [h.done, hr.done], by rw [h.now.tiles, hr.names]⟩

/-- What a step leads to can be found for each record that it starts from. -/
lemma Upholds.each {P : Record → Prop} {x : Recorded α} {Q : α → Record → Prop}
    (h : ∀ r, r.Sound t all → P r → Upholds t all r.Same x Q) : Upholds t all P x Q :=
  fun r hr hP => h r hr hP r hr (.refl r)

lemma Restores.resting {x : Recorded α} (h : Restores t all x) :
    Upholds t all (Record.Resting done names) x fun _ => Record.Resting done names :=
  .each fun r hr hrest => (h r hr.now).weaken (fun _ h => h) fun _ _ hsame => hsame.resting hrest

lemma declare_eq (t : Target) (d : Decl) (l : Lowering) :
    Recorded.declare t d l = match t.fresh? l.used with
      | none => .error (.noFreeTile d.line) l
      | some a => .ok a { l with used := a :: l.used, tiles := l.tiles.put d.name a } := by
  change EStateM.bind (alloc t d.line) _ l = _
  rw [EStateM.bind, alloc_eq]
  cases t.fresh? l.used <;> rfl

/-- A variable that is declared gets its tile. -/
lemma declare_upholds {d : Decl} (hnodup : (all.filterMap Stmt.introduces?).Nodup)
    (hnames : names ++ [d.name] <+: all.filterMap Stmt.introduces?) :
    Upholds t all (Record.Resting done names) (Recorded.step (Recorded.declare t d))
      fun _ => Record.Resting done (names ++ [d.name]) := by
  refine upholds_stepWith fun r hr hresting => ?_
  have hnew : d.name ∉ r.now.state.tiles.map (·.1) := by
    have hsub := hnodup.sublist hnames.sublist
    rw [hresting.names]
    exact fun hmem => (List.nodup_append.mp hsub).2.2 d.name hmem d.name (by simp) rfl
  rw [← hresting.names] at hnames ⊢
  rw [declare_eq]
  cases hfresh : t.fresh? r.now.state.used with
  | none => exact ⟨rfl, rfl, rfl⟩
  | some a =>
      have hplaced : Moment.Sound t all (r.now.place d.name a) :=
        hr.place hresting.rest hfresh hnew hnames
      have htiles : (r.now.place d.name a).state.tiles.map (·.1)
          = r.now.state.tiles.map (·.1) ++ [d.name] := by
        rw [Moment.tiles_place hnew, List.map_append]
        rfl
      exact ⟨hplaced, Moment.next_place hnew a, hresting.rest, hresting.done, htiles⟩

/-- From one list of statements that are done a step leads to another one. -/
def Makes (t : Target) (all : List Stmt) (x : Recorded α) (done done' : List Stmt) : Prop :=
  Upholds t all (Record.Resting done (done.filterMap Stmt.introduces?)) x
    fun _ => Record.Resting done' (done'.filterMap Stmt.introduces?)

lemma Makes.bind {β : Type} {done' done'' : List Stmt} {x : Recorded α} {f : α → Recorded β}
    (hx : Makes t all x done done') (hf : ∀ a, Makes t all (f a) done' done'') :
    Makes t all (x >>= f) done done'' :=
  Upholds.bind hx hf

lemma Restores.makes {x : Recorded α} (h : Restores t all x) (done : List Stmt) :
    Makes t all x done done :=
  h.resting

lemma Restores.makes_inner {x : Recorded α} (h : Restores t all x) {s : Stmt} (hs : s.inner = [])
    (done : List Stmt) : Makes t all x done (done ++ s.inner) := by
  rw [hs, List.append_nil]
  exact h.makes done

lemma makes_emit (op : Op) (done : List Stmt) :
    Makes t all (Recorded.step (emit op)) done done :=
  (quiet_emit op).restores.makes done

lemma makes_newLabel (stem : String) (done : List Stmt) :
    Makes t all (Recorded.step (newLabel stem)) done done :=
  (quiet_newLabel stem).restores.makes done

/-- What a statement leads to before it is marked as done: its variable has a tile already. -/
def Completes (t : Target) (all : List Stmt) (x : Recorded Unit) (s : Stmt) (done : List Stmt) :
    Prop :=
  Upholds t all (Record.Resting done (done.filterMap Stmt.introduces?)) x fun _ =>
    Record.Resting (done ++ s.inner) ((done ++ (s.inner ++ [s])).filterMap Stmt.introduces?)

lemma Makes.completes {x : Recorded Unit} {s : Stmt} (h : s.introduces? = none)
    (hx : Makes t all x done (done ++ s.inner)) : Completes t all x s done := by
  rw [Completes, ← List.append_assoc, variables_append h]
  exact hx

lemma Completes.finishing {x : Recorded Unit} {s : Stmt} (hall : done ++ (s.inner ++ [s]) <+: all)
    (hx : Completes t all x s done) :
    Makes t all (Recorded.finishing s x) done (done ++ (s.inner ++ [s])) := by
  refine Upholds.bind hx fun _ r hr hresting => ?_
  have hdone : (r.done ++ [(s, r.now)]).map (·.1) = done ++ (s.inner ++ [s]) := by
    rw [List.map_append, hresting.done, List.append_assoc]
    rfl
  refine ⟨⟨hr.start, hr.chain, hr.stop, hr.moments, fun entry hentry => ?_, ?_⟩, hresting.rest,
    hdone, hresting.names⟩
  · rcases List.mem_append.mp hentry with hold | hnew
    · exact hr.done entry hold
    · rw [List.mem_singleton.mp hnew]
      exact ⟨hr.now_mem, hresting.rest⟩
  · rw [hdone]
    exact hall

mutual

/-- **Statements.**  From rest to rest, with tiles for the variables that are declared. -/
lemma statementOps_completes (hnodup : (all.filterMap Stmt.introduces?).Nodup) :
    ∀ (s : Stmt) (done : List Stmt), done ++ (s.inner ++ [s]) <+: all →
      Completes t all (Recorded.statementOps t s) s done
  | .decl d, done, hall => by
      rw [Stmt.inner, List.nil_append] at hall
      rw [Recorded.statementOps, Completes, Stmt.inner, List.nil_append, List.append_nil,
        List.filterMap_append]
      cases hconst : d.constant with
      | true =>
          have hvariable : [Stmt.decl d].filterMap Stmt.introduces? = [] := by
            simp [Stmt.introduces?, hconst]
          rw [if_pos rfl, hvariable, List.append_nil]
          exact (restores_pure ()).resting
      | false =>
          have hvariable : [Stmt.decl d].filterMap Stmt.introduces? = [d.name] := by
            simp [Stmt.introduces?, hconst]
          rw [if_neg Bool.false_ne_true, hvariable]
          refine Upholds.bind (declare_upholds hnodup ?_) fun tile => Restores.resting ?_
          · rw [← hvariable, ← List.filterMap_append]
            exact hall.filterMap _
          · cases d.init with
            | none => exact restores_pure _
            | some e => exact (value_restores e).bind fun _ => restores_emitTile _ _
  | .expr e _, done, _ => Makes.completes rfl ((effect_restores e).makes_inner rfl done)
  | .ifThen cond body line, done, hall => by
      refine Makes.completes rfl ?_
      have hbody := fun h => (statementOps_completes hnodup body done h).finishing h
      cases hcond : cond.isBool with
      | true =>
          obtain ⟨b, line, rfl⟩ := isBool_eq_true hcond
          cases b with
          | true => exact hbody (inner_start hall)
          | false => exact (restores_pure ()).makes_inner rfl done
      | false =>
          have hinner : (Stmt.ifThen cond body line).inner = body.inner ++ [body] := by
            rw [Stmt.inner, literal?_eq_none hcond, if_neg (by rintro ⟨⟩)]
          rw [hinner] at hall ⊢
          rw [Recorded.statementOps_ifThen hcond]
          exact (makes_newLabel _ done).bind fun no =>
            ((branch_restores cond no false).makes done).bind fun _ =>
              (hbody (inner_start hall)).bind fun _ => makes_emit _ _
  | .ifElse cond body other line, done, hall => by
      refine Makes.completes rfl ?_
      have hbody := fun h => (statementOps_completes hnodup body done h).finishing h
      have hother := fun done h => (statementOps_completes hnodup other done h).finishing h
      cases hcond : cond.isBool with
      | true =>
          obtain ⟨b, line, rfl⟩ := isBool_eq_true hcond
          cases b with
          | true => exact hbody (inner_start hall)
          | false => exact hother done (inner_start hall)
      | false =>
          have hinner : (Stmt.ifElse cond body other line).inner
              = body.inner ++ [body] ++ (other.inner ++ [other]) := by
            rw [Stmt.inner, literal?_eq_none hcond]
          rw [hinner] at hall ⊢
          have hall' := inner_start hall
          rw [← List.append_assoc] at hall' ⊢
          rw [Recorded.statementOps_ifElse hcond]
          exact (makes_newLabel _ done).bind fun no =>
            ((branch_restores cond no false).makes done).bind fun _ =>
              (hbody ((List.prefix_append _ _).trans hall')).bind fun _ =>
                (makes_newLabel _ _).bind fun stop => (makes_emit _ _).bind fun _ =>
                  (makes_emit _ _).bind fun _ => (hother _ hall').bind fun _ =>
                    makes_emit _ _
  | .whileDo cond body line, done, hall => by
      refine Makes.completes rfl ?_
      have hbody := fun h => (statementOps_completes hnodup body done h).finishing h
      cases hcond : cond.isBool with
      | true =>
          obtain ⟨b, line, rfl⟩ := isBool_eq_true hcond
          cases b with
          | true =>
              exact (makes_newLabel _ done).bind fun top => (makes_emit _ done).bind fun _ =>
                (hbody (inner_start hall)).bind fun _ => makes_emit _ _
          | false => exact (restores_pure ()).makes_inner rfl done
      | false =>
          have hinner : (Stmt.whileDo cond body line).inner = body.inner ++ [body] := by
            rw [Stmt.inner, literal?_eq_none hcond, if_neg (by rintro ⟨⟩)]
          rw [hinner] at hall ⊢
          rw [Recorded.statementOps_whileDo hcond]
          exact (makes_newLabel _ done).bind fun top => (makes_emit _ done).bind fun _ =>
            (makes_newLabel _ done).bind fun stop =>
              ((branch_restores cond stop false).makes done).bind fun _ =>
                (hbody (inner_start hall)).bind fun _ => (makes_emit _ _).bind fun _ =>
                  makes_emit _ _
  | .block body _, done, hall =>
      Makes.completes rfl (programOps_makes hnodup body done (inner_start hall))

lemma programOps_makes (hnodup : (all.filterMap Stmt.introduces?).Nodup) :
    ∀ (body done : List Stmt), done ++ doneAll body <+: all →
      Makes t all (Recorded.programOps t body) done (done ++ doneAll body)
  | [], done, _ => by
      rw [doneAll, List.append_nil]
      exact (restores_pure ()).makes done
  | s :: rest, done, hall => by
      rw [doneAll, ← List.append_assoc] at hall ⊢
      have hfirst := (List.prefix_append _ _).trans hall
      exact ((statementOps_completes hnodup s done hfirst).finishing hfirst).bind fun _ =>
        programOps_makes hnodup rest _ hall

end

end Statements

/-! ## Programs -/

/-- At first nothing has been given out. -/
lemma Record.sound_empty (t : Target) (all : List Stmt) : ({} : Record).Sound t all where
  start := rfl
  chain := List.IsChain.singleton _
  stop := rfl
  moments := by
    intro m hm
    rw [List.mem_singleton.mp hm]
    exact ⟨by simp [Moment.variables], List.nodup_nil, by simp, by simp, List.nil_prefix, rfl⟩
  done := by simp
  order := List.nil_prefix

/-- **Whole programs.**  The record is sound however the lowering ends, and complete if it does not
fail. -/
lemma lower_recorded (size : Int) (symbols : Symbols) {program : List Stmt}
    (hnodup : ((doneAll program).filterMap Stmt.introduces?).Nodup) :
    (Recorded.lower size symbols program).2.Sound ⟨symbols, size⟩ (doneAll program) ∧
      ((Recorded.lower size symbols program).1 = none →
        (Recorded.lower size symbols program).2.Resting (doneAll program)
          ((doneAll program).filterMap Stmt.introduces?)) := by
  have hrun := programOps_makes (t := ⟨symbols, size⟩) hnodup program [] (List.prefix_refl _) {}
    (Record.sound_empty _ _) ⟨rfl, rfl, rfl⟩
  rw [Recorded.lower, EStateM.run]
  cases hresult : Recorded.programOps ⟨symbols, size⟩ program {} with
  | ok a r =>
      rw [hresult] at hrun
      exact ⟨hrun.1, fun _ => hrun.2⟩
  | error e r =>
      rw [hresult] at hrun
      exact ⟨hrun, by rintro ⟨⟩⟩

/-- **Tiles are given out with discipline.**  The lowering of a program without complaints can be
followed step by step, also if it fails; the record changes nothing about it, starts with nothing,
and misses nothing, since one tile at most changes hands from a moment to the next.  At every moment
the tiles in use are those of values that wait and of variables; values wait on tiles of their own,
on the floor, which no constant names.  When a statement is done, nothing waits.  The variables are
those that the statements declare for which code is made, in order, and the variable with number `k`
lies on the tile with number `k` among those that no constant names. -/
theorem tiles_disciplined {size : Int} {program : List Stmt}
    (haccepted : (check size program).diagnostics = []) (floor : Int) :
    let symbols := (check size program).symbols
    let run := Recorded.lower floor symbols program
    (run.1, run.2.now.state) = lower floor symbols program ∧
    (run.2.moments.head? = some {} ∧ run.2.moments.IsChain Moment.Next ∧
      run.2.moments.getLast? = some run.2.now) ∧
    (∀ m ∈ run.2.moments,
      (∀ a, a ∈ m.state.used ↔ a ∈ m.waiting ∨ a ∈ m.variables) ∧ m.waiting.Nodup ∧
      ∀ a ∈ m.waiting, (a : Int) < floor ∧ a ∉ symbols.reserved ∧ a ∉ m.variables) ∧
    (∀ entry ∈ run.2.done, entry.2 ∈ run.2.moments ∧ entry.2.waiting = [] ∧
      ∀ a, a ∈ entry.2.state.used ↔ a ∈ entry.2.variables) ∧
    (∀ m ∈ run.2.moments, ∀ k name a, m.state.tiles[k]? = some (name, a) →
      ((doneAll program).filterMap Stmt.introduces?)[k]? = some name ∧
        a = Nat.nth (· ∉ symbols.reserved) k) ∧
    run.2.done.map (·.1) <+: doneAll program ∧
    (run.1 = none → run.2.done.map (·.1) = doneAll program ∧
      run.2.now.state.tiles.map (·.1) = (doneAll program).filterMap Stmt.introduces?) := by
  intro symbols run
  have hnodup : ((doneAll program).filterMap Stmt.introduces?).Nodup :=
    (check_proper haccepted).2.1.sublist (doneAll_declared program)
  obtain ⟨hsound, hcomplete⟩ := lower_recorded floor symbols hnodup
  refine ⟨lower_forgets floor symbols program, ⟨hsound.start, hsound.chain, hsound.stop⟩,
    fun m hm => ?_, fun entry hentry => ?_, fun m hm k name a hget => ?_, hsound.order,
    fun hnone => ⟨(hcomplete hnone).done, (hcomplete hnone).names⟩⟩
  · have h := hsound.moments m hm
    refine ⟨h.mem_used, h.nodup, fun a ha => ?_⟩
    obtain ⟨hfree, hlt⟩ := h.free a ((h.mem_used a).mpr (.inl ha))
    exact ⟨hlt, hfree, h.apart a ha⟩
  · obtain ⟨hmem, hwaiting⟩ := hsound.done entry hentry
    refine ⟨hmem, hwaiting, fun a => ?_⟩
    rw [(hsound.moments _ hmem).mem_used, hwaiting]
    simp
  · exact (hsound.moments m hm).tile hget

/-- A constant on tile 1, two variables, and three values that wait at the same time. -/
def nested : List Stmt :=
  [.decl ⟨"P", true, true, some (.num 1 1), 1⟩,
    .decl ⟨"x", false, false, some (.call "input" 2), 2⟩,
    .decl ⟨"y", false, false, some (.sum .minus (.call "input" 3)
      (.sum .plus (.bump ⟨"x", false, 3⟩ .up true 3) (.call "input" 3) 3) 3), 3⟩]

/-- The record of this program on a floor. -/
def nestedOn (floor : Int) : Option LoweringError × Record :=
  Recorded.lower floor (check 6 nested).symbols nested

/-- On a floor of six tiles there is code for the program; with a tile less, the last one of the
values finds none. -/
theorem tiles_disciplined_nested :
    ((check 6 nested).diagnostics = [] ∧ (check 6 nested).symbols.reserved = [1]) ∧
    ((nestedOn 6).1 = none ∧ [5, 4, 3] ∈ (nestedOn 6).2.moments.map (·.waiting) ∧
      (nestedOn 6).2.done.map (·.1) = nested ∧
      2 = Nat.nth (· ∉ (check 6 nested).symbols.reserved) 1) ∧
    (nestedOn 5).1 = some (.noFreeTile 3) ∧ (nestedOn 5).2.now.waiting = [4, 3] ∧
    ∀ m ∈ (nestedOn 5).2.moments, m.waiting.Nodup ∧ ∀ a ∈ m.waiting,
      (a : Int) < 5 ∧ a ∉ (check 6 nested).symbols.reserved ∧ a ∉ m.variables := by
  have haccepted : (check 6 nested).diagnostics = [] := by cbv
  have hreserved : (check 6 nested).symbols.reserved = [1] := by cbv
  have hdone : (nestedOn 6).1 = none := by decide +kernel
  have hwaiting : [5, 4, 3] ∈ (nestedOn 6).2.moments.map (·.waiting) := by decide +kernel
  have htile : (nestedOn 6).2.now.state.tiles[1]? = some ("y", 2) := by decide +kernel
  have hfails : (nestedOn 5).1 = some (.noFreeTile 3) ∧ (nestedOn 5).2.now.waiting = [4, 3] := by
    decide +kernel
  have hnested : doneAll nested = nested := rfl
  unfold nestedOn at hdone hwaiting htile hfails ⊢
  obtain ⟨-, ⟨-, -, hstop⟩, -, -, htiles, -, hcomplete⟩ := tiles_disciplined haccepted 6
  obtain ⟨-, -, hmoments, -⟩ := tiles_disciplined haccepted 5
  refine ⟨⟨haccepted, hreserved⟩, ⟨hdone, hwaiting, ?_, ?_⟩, hfails.1, hfails.2,
    fun m hm => (hmoments m hm).2⟩
  · exact (hcomplete hdone).1.trans hnested
  · exact (htiles _ (List.mem_of_getLast? hstop) 1 "y" 2 htile).2

end Mailroom.Source
