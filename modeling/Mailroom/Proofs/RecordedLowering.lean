import Mathlib
import Mailroom.Proofs.Fragments

/-!
# Lowering with a record

A state of the lowering shows which tiles are in use, but not what for.  Here the lowering is
carried out with a record.  After each step the state is kept, together with the tiles on which
values wait for their use, and so is the end of each statement.  The record changes nothing about
the code, whether it can be made or not.

- `Moment`, `Record`: what is recorded.
- `Recorded.step`, `Recorded.holding`, `Recorded.finishing`: steps of the lowering, by what they
  mean for tiles.
- `Recorded.lower`: the lowering of a program.
- `lower_forgets`: without the record, it is the lowering as it is.
-/

namespace Mailroom.Source

/-- A moment of the lowering. -/
structure Moment where
  /-- The tiles on which values wait, the latest first. -/
  waiting : List Nat := []
  state : Lowering := {}

/-- The tiles of the variables, in the order in which they were given out. -/
def Moment.variables (m : Moment) : List Nat :=
  m.state.tiles.map (·.2)

/-- What has been recorded. -/
structure Record where
  now : Moment := {}
  /-- All moments up to now. -/
  moments : List Moment := [{}]
  /-- The statements for which there is code, with the moments at which they were done. -/
  done : List (Stmt × Moment) := []

/-- The record goes on. -/
def Record.advance (r : Record) (m : Moment) : Record :=
  { r with now := m, moments := r.moments ++ [m] }

/-- Steps of the lowering with a record. -/
abbrev Recorded := EStateM LoweringError Record

namespace Recorded

/-- A step of the lowering, and what it means for the tiles on which values wait. -/
def stepWith {α : Type} (wait : α → List Nat → List Nat) (x : Lower α) : Recorded α := fun r =>
  match x r.now.state with
  | .ok a s => .ok a (r.advance ⟨wait a r.now.waiting, s⟩)
  | .error e s => .error e (r.advance ⟨r.now.waiting, s⟩)

/-- A step after which the same values wait as before. -/
def step {α : Type} (x : Lower α) : Recorded α :=
  stepWith (fun _ waiting => waiting) x

/-- A variable gets a tile. -/
def declare (t : Target) (d : Decl) : Lower Nat := do
  let tile ← alloc t d.line
  modify fun s => { s with tiles := s.tiles.put d.name tile }
  return tile

/-- A value waits on a tile, which is given back in the end. -/
def holding (t : Target) (line : Nat) (body : Nat → Recorded Unit) : Recorded Unit := do
  let kept ← stepWith List.cons (alloc t line)
  body kept
  stepWith (fun _ waiting => waiting.erase kept) (free kept)

/-- A statement that is done. -/
def finishing (s : Stmt) (x : Recorded Unit) : Recorded Unit := do
  x
  modify fun r => { r with done := r.done ++ [(s, r.now)] }

/-! ## The parts of a program

They are lowered as without a record.  Where no tile is taken, a whole part may be one step. -/

def combine (t : Target) (op : TileOp) (line : Nat) (left right : Recorded Unit) :
    Option Var → Recorded Unit
  | some v => do
    left
    let tile ← step (tileOf t v)
    step (emitTile op tile)
  | none => holding t line fun kept => do
    right
    step (emitTile .copyTo ⟨kept, false⟩)
    left
    step (emitTile op ⟨kept, false⟩)

def value (t : Target) : Expr → Recorded Unit
  | .assign target e _ => do
    value t e
    let tile ← step (tileOf t target)
    step (emitTile .copyTo tile)
  | .bump target direction true line => do
    let tile ← step (tileOf t target)
    holding t line fun kept => do
      step (emitTile .copyFrom tile)
      step (emitTile .copyTo ⟨kept, false⟩)
      step (emitTile direction.op tile)
      step (emitTile .copyFrom ⟨kept, false⟩)
  | .sum op left right line => combine t op.op line (value t left) (value t right) right.var?
  -- for the others no tile is needed
  | e => step (Source.value t e)

def effect (t : Target) : Expr → Recorded Unit
  | .call name line => step (Source.effect t (.call name line))
  | .callWith name arg line =>
    if name = "output" then do
      value t arg
      step (emit (.instr .outbox))
    else step (Source.effect t (.callWith name arg line))
  | .bump target direction post line => step (Source.effect t (.bump target direction post line))
  | e => value t e

def difference (t : Target) (op : Comparison) (left right : Expr) (line : Nat) :
    Recorded Comparison :=
  match left, right with
  | left, .num _ _ => do
    value t left
    return op
  | .num _ _, right => do
    value t right
    return op.swap
  | left, right => do
    combine t .sub line (value t left) (value t right) right.var?
    return op

mutual

def branch (t : Target) (target : String) (wanted : Bool) : Expr → Recorded Unit
  | .compare op left right line => do
    let sign ← difference t (if wanted then op else op.negate) left right line
    step (jumpIf sign target)
  | .logical op first others _ =>
    if (op = .or) = (wanted = true) then do
      branch t target wanted first
      branchAny t target wanted others
    else do
      let skip ← step (newLabel "skip")
      branch t skip (!wanted) first
      branchAll t target skip wanted others
      step (emit (.label skip))
  | e => step (Source.branch t target wanted e)

def branchAny (t : Target) (target : String) (wanted : Bool) : Operands → Recorded Unit
  | .last e => branch t target wanted e
  | .more e others => do
    branch t target wanted e
    branchAny t target wanted others

def branchAll (t : Target) (target skip : String) (wanted : Bool) : Operands → Recorded Unit
  | .last e => branch t target wanted e
  | .more e others => do
    branch t skip (!wanted) e
    branchAll t target skip wanted others

end

mutual

def statementOps (t : Target) : Stmt → Recorded Unit
  | .decl d =>
    if d.constant then pure ()
    else do
      let tile ← step (declare t d)
      match d.init with
      | none => pure ()
      | some e => do
        value t e
        step (emitTile .copyTo ⟨tile, false⟩)
  | .expr e _ => effect t e
  | .ifThen (.bool b _) body _ => if b then finishing body (statementOps t body) else pure ()
  | .ifThen cond body _ => do
    let no ← step (newLabel "else")
    branch t no false cond
    finishing body (statementOps t body)
    step (emit (.label no))
  | .ifElse (.bool b _) body other _ =>
    if b then finishing body (statementOps t body) else finishing other (statementOps t other)
  | .ifElse cond body other _ => do
    let no ← step (newLabel "else")
    branch t no false cond
    finishing body (statementOps t body)
    let stop ← step (newLabel "endif")
    step (emitJump .always stop)
    step (emit (.label no))
    finishing other (statementOps t other)
    step (emit (.label stop))
  | .whileDo (.bool b _) body _ =>
    if b then do
      let top ← step (newLabel "loop")
      step (emit (.label top))
      finishing body (statementOps t body)
      step (emitJump .always top)
    else pure ()
  | .whileDo cond body _ => do
    let top ← step (newLabel "loop")
    step (emit (.label top))
    let stop ← step (newLabel "end")
    branch t stop false cond
    finishing body (statementOps t body)
    step (emitJump .always top)
    step (emit (.label stop))
  | .block body _ => programOps t body

def programOps (t : Target) : List Stmt → Recorded Unit
  | [] => pure ()
  | s :: rest => do
    finishing s (statementOps t s)
    programOps t rest

end

lemma statementOps_ifThen {t : Target} {cond : Expr} (h : cond.isBool = false) (body : Stmt)
    (line : Nat) :
    statementOps t (.ifThen cond body line) = (do
      let no ← step (newLabel "else")
      branch t no false cond
      finishing body (statementOps t body)
      step (emit (.label no))) := by
  cases cond <;> first | rfl | cases h

lemma statementOps_ifElse {t : Target} {cond : Expr} (h : cond.isBool = false) (body other : Stmt)
    (line : Nat) :
    statementOps t (.ifElse cond body other line) = (do
      let no ← step (newLabel "else")
      branch t no false cond
      finishing body (statementOps t body)
      let stop ← step (newLabel "endif")
      step (emitJump .always stop)
      step (emit (.label no))
      finishing other (statementOps t other)
      step (emit (.label stop))) := by
  cases cond <;> first | rfl | cases h

lemma statementOps_whileDo {t : Target} {cond : Expr} (h : cond.isBool = false) (body : Stmt)
    (line : Nat) :
    statementOps t (.whileDo cond body line) = (do
      let top ← step (newLabel "loop")
      step (emit (.label top))
      let stop ← step (newLabel "end")
      branch t stop false cond
      finishing body (statementOps t body)
      step (emitJump .always top)
      step (emit (.label stop))) := by
  cases cond <;> first | rfl | cases h

/-- The lowering of a program with a record, as far as it can be carried out. -/
def lower (size : Int) (symbols : Symbols) (program : List Stmt) : Option LoweringError × Record :=
  match (programOps ⟨symbols, size⟩ program).run {} with
  | .ok () r => (none, r)
  | .error e r => (some e, r)

/-! ## What is left without the record -/

/-- A step without its record. -/
def forget {α : Type} :
    EStateM.Result LoweringError Record α → EStateM.Result LoweringError Lowering α
  | .ok a r => .ok a r.now.state
  | .error e r => .error e r.now.state

end Recorded

/-- Without its record, one step is another one. -/
def Forgets {α : Type} (x : Recorded α) (y : Lower α) : Prop :=
  ∀ r, Recorded.forget (x r) = y r.now.state

section Forgets

variable {α β : Type} {t : Target}

lemma Forgets.bind {x : Recorded α} {y : Lower α} {f : α → Recorded β} {g : α → Lower β}
    (hx : Forgets x y) (hf : ∀ a, Forgets (f a) (g a)) : Forgets (x >>= f) (y >>= g) := by
  intro r
  have hstep := hx r
  change Recorded.forget (EStateM.bind x f r) = EStateM.bind y g r.now.state
  rw [EStateM.bind, EStateM.bind, ← hstep]
  cases x r with
  | ok a r' => exact hf a r'
  | error e r' => rfl

lemma forgets_pure (a : α) : Forgets (pure a) (pure a) :=
  fun _ => rfl

lemma forgets_stepWith (wait : α → List Nat → List Nat) (x : Lower α) :
    Forgets (Recorded.stepWith wait x) x := by
  intro r
  rw [Recorded.stepWith]
  cases x r.now.state <;> rfl

lemma forgets_step (x : Lower α) : Forgets (Recorded.step x) x :=
  forgets_stepWith _ x

lemma declare_bind (t : Target) (d : Decl) (f : Nat → Lower α) :
    Recorded.declare t d >>= f = (do
      let tile ← alloc t d.line
      modify fun s => { s with tiles := s.tiles.put d.name tile }
      f tile) := by
  simp only [Recorded.declare, bind_assoc, pure_bind]

lemma Forgets.holding (t : Target) (line : Nat) {body : Nat → Recorded Unit}
    {y : Nat → Lower Unit} (h : ∀ kept, Forgets (body kept) (y kept)) :
    Forgets (Recorded.holding t line body) (do
      let kept ← alloc t line
      y kept
      free kept) :=
  (forgets_stepWith _ _).bind fun kept => (h kept).bind fun _ => forgets_stepWith _ _

lemma Forgets.finishing {s : Stmt} {x : Recorded Unit} {y : Lower Unit} (h : Forgets x y) :
    Forgets (Recorded.finishing s x) y := by
  have hmark : Forgets (modify fun r => { r with done := r.done ++ [(s, r.now)] }) (pure ()) :=
    fun _ => rfl
  have hboth := h.bind fun _ => hmark
  rwa [bind_pure_unit] at hboth

lemma combine_forgets {op : TileOp} {line : Nat} {left right : Recorded Unit}
    {left' right' : Lower Unit} (hleft : Forgets left left') (hright : Forgets right right')
    (v? : Option Var) :
    Forgets (Recorded.combine t op line left right v?) (combine t op line left' right' v?) := by
  cases v? with
  | some v => exact hleft.bind fun _ => (forgets_step _).bind fun _ => forgets_step _
  | none =>
      have hbody := Forgets.holding t line fun kept =>
        hright.bind fun _ => (forgets_step (emitTile .copyTo ⟨kept, false⟩)).bind fun _ =>
          hleft.bind fun _ => forgets_step (emitTile op ⟨kept, false⟩)
      simp only [bind_assoc] at hbody
      exact hbody

lemma value_forgets : ∀ e, Forgets (Recorded.value t e) (value t e)
  | .var _ | .call _ _ | .callWith _ _ _ | .num _ _ | .bool _ _ | .compare _ _ _ _
  | .logical _ _ _ _ | .bump _ _ false _ => forgets_step _
  | .assign target e _ =>
      (value_forgets e).bind fun _ => (forgets_step _).bind fun _ => forgets_step _
  | .bump target direction true line => by
      refine (forgets_step _).bind fun tile => ?_
      have hbody := Forgets.holding t line fun kept =>
        (forgets_step (emitTile .copyFrom tile)).bind fun _ =>
          (forgets_step (emitTile .copyTo ⟨kept, false⟩)).bind fun _ =>
            (forgets_step (emitTile direction.op tile)).bind fun _ =>
              forgets_step (emitTile .copyFrom ⟨kept, false⟩)
      simp only [bind_assoc] at hbody
      exact hbody
  | .sum op left right line => combine_forgets (value_forgets left) (value_forgets right) _

lemma effect_forgets (e : Expr) : Forgets (Recorded.effect t e) (effect t e) := by
  cases e with
  | callWith name arg line =>
      rw [Recorded.effect]
      by_cases hout : name = "output"
      · rw [if_pos hout, effect, if_pos hout]
        exact (value_forgets arg).bind fun _ => forgets_step _
      · rw [if_neg hout]
        exact forgets_step _
  | call name line => exact forgets_step _
  | bump target direction post line => exact forgets_step _
  | _ => exact value_forgets _

lemma difference_forgets (op : Comparison) (left right : Expr) (line : Nat) :
    Forgets (Recorded.difference t op left right line) (difference t op left right line) := by
  fun_cases difference t op left right line with
  | case1 left => exact (value_forgets left).bind fun _ => forgets_pure _
  | case2 _ _ right hright =>
      rw [Recorded.difference]
      · exact (value_forgets right).bind fun _ => forgets_pure _
      · exact hright
  | case3 left right hright hleft =>
      rw [Recorded.difference]
      · exact (combine_forgets (value_forgets left) (value_forgets right) _).bind
          fun _ => forgets_pure _
      · exact hleft
      · exact hright

mutual

lemma branch_forgets : ∀ (e : Expr) (target : String) (wanted : Bool),
    Forgets (Recorded.branch t target wanted e) (branch t target wanted e)
  | .compare op left right line, _, _ =>
      (difference_forgets _ left right line).bind fun _ => forgets_step _
  | .logical op first others _, target, wanted => by
      rw [Recorded.branch, branch]
      split
      · exact (branch_forgets first _ _).bind fun _ => branchAny_forgets others _ _
      · exact (forgets_step _).bind fun skip => (branch_forgets first _ _).bind fun _ =>
          (branchAll_forgets others _ _ _).bind fun _ => forgets_step _
  | .var _, _, _ | .call _ _, _, _ | .callWith _ _ _, _, _ | .num _ _, _, _ | .bool _ _, _, _
  | .assign _ _ _, _, _ | .bump _ _ _ _, _, _ | .sum _ _ _ _, _, _ => forgets_step _

lemma branchAny_forgets : ∀ (others : Operands) (target : String) (wanted : Bool),
    Forgets (Recorded.branchAny t target wanted others) (branchAny t target wanted others)
  | .last e, _, _ => branch_forgets e _ _
  | .more e others, _, _ => (branch_forgets e _ _).bind fun _ => branchAny_forgets others _ _

lemma branchAll_forgets : ∀ (others : Operands) (target skip : String) (wanted : Bool),
    Forgets (Recorded.branchAll t target skip wanted others) (branchAll t target skip wanted others)
  | .last e, _, _, _ => branch_forgets e _ _
  | .more e others, _, _, _ => (branch_forgets e _ _).bind fun _ => branchAll_forgets others _ _ _

end

mutual

lemma statementOps_forgets : ∀ s, Forgets (Recorded.statementOps t s) (statementOps t s)
  | .decl d => by
      rw [Recorded.statementOps, statementOps]
      split
      · exact forgets_pure _
      · rw [← declare_bind]
        refine (forgets_step _).bind fun tile => ?_
        cases d.init with
        | none => exact forgets_pure _
        | some e => exact (value_forgets e).bind fun _ => forgets_step _
  | .expr e _ => effect_forgets e
  | .ifThen cond body line => by
      cases hcond : cond.isBool with
      | true =>
          obtain ⟨b, line, rfl⟩ := isBool_eq_true hcond
          cases b with
          | true => exact (statementOps_forgets body).finishing
          | false => exact forgets_pure _
      | false =>
          rw [statementOps_ifThen hcond, Recorded.statementOps_ifThen hcond]
          exact (forgets_step _).bind fun no => (branch_forgets cond _ _).bind fun _ =>
            (statementOps_forgets body).finishing.bind fun _ => forgets_step _
  | .ifElse cond body other line => by
      cases hcond : cond.isBool with
      | true =>
          obtain ⟨b, line, rfl⟩ := isBool_eq_true hcond
          cases b with
          | true => exact (statementOps_forgets body).finishing
          | false => exact (statementOps_forgets other).finishing
      | false =>
          rw [statementOps_ifElse hcond, Recorded.statementOps_ifElse hcond]
          exact (forgets_step _).bind fun no => (branch_forgets cond _ _).bind fun _ =>
            (statementOps_forgets body).finishing.bind fun _ => (forgets_step _).bind fun stop =>
              (forgets_step _).bind fun _ => (forgets_step _).bind fun _ =>
                (statementOps_forgets other).finishing.bind fun _ => forgets_step _
  | .whileDo cond body line => by
      cases hcond : cond.isBool with
      | true =>
          obtain ⟨b, line, rfl⟩ := isBool_eq_true hcond
          cases b with
          | true =>
              exact (forgets_step _).bind fun top => (forgets_step _).bind fun _ =>
                (statementOps_forgets body).finishing.bind fun _ => forgets_step _
          | false => exact forgets_pure _
      | false =>
          rw [statementOps_whileDo hcond, Recorded.statementOps_whileDo hcond]
          exact (forgets_step _).bind fun top => (forgets_step _).bind fun _ =>
            (forgets_step _).bind fun stop => (branch_forgets cond _ _).bind fun _ =>
              (statementOps_forgets body).finishing.bind fun _ => (forgets_step _).bind
                fun _ => forgets_step _
  | .block body _ => programOps_forgets body

lemma programOps_forgets : ∀ body, Forgets (Recorded.programOps t body) (programOps t body)
  | [] => forgets_pure _
  | s :: rest => (statementOps_forgets s).finishing.bind fun _ => programOps_forgets rest

end

end Forgets

/-- **The record changes nothing.**  With it or without it, the same code is made, and the lowering
fails in the same way with the same code up to there. -/
lemma lower_forgets (size : Int) (symbols : Symbols) (program : List Stmt) :
    ((Recorded.lower size symbols program).1, (Recorded.lower size symbols program).2.now.state)
      = lower size symbols program := by
  have hrun := programOps_forgets (t := ⟨symbols, size⟩) program {}
  rw [Recorded.lower, lower, EStateM.run, EStateM.run, ← hrun]
  cases Recorded.programOps ⟨symbols, size⟩ program {} <;> rfl

end Mailroom.Source
