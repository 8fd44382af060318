import Mathlib
import Mailroom.Inbox
import Mailroom.Proofs.Desk
import Mailroom.Source.Check
import Mailroom.Source.Lowering

/-!
# What programs mean

The source language is given a meaning of its own, without instructions, labels or values in
between.  Variables hold integers of any size, or nothing yet.  They are no tiles; only a pointer
can tell where they lie.

- `Layout`: where the variables lie, for pointers that lead there.
- `World`: the variables in scope, the floor, the inbox and what has been sent.
- `Stop`: why a program ends before its last statement is done.
- `valueOf`, `holds`, `exec`: what expressions, conditions and statements do.
- `WellScoped`: variables are used where they are declared.

A program whose loops do not end has no meaning as a whole, so `exec` lets every loop go round a
given number of times, and stops with `outOfFuel` behind that.
-/

namespace Mailroom.Source

/-- Where things lie that a pointer may lead to. -/
structure Layout where
  /-- The tile that a constant pointer names. -/
  constant : String → Option Nat
  /-- The tiles of the variables. -/
  placed : Assoc String Nat
  /-- The tiles of the variables and of values in between. -/
  kept : List Nat

/-- The variable that lies on a tile. -/
def Layout.owner (l : Layout) (address : Nat) : Option String :=
  (l.placed.find? (·.2 = address)).map (·.1)

/-- What statements work on. -/
structure World where
  /-- The variables in scope; one that has been declared may have no value yet. -/
  vars : String → Option (Option Int)
  floor : Floor
  inbox : Inbox
  sent : Array Int

/-- Why a program ends before its last statement is done. -/
inductive Stop where
  /-- A value is asked for and there is none left. -/
  | inputOver
  /-- A value is asked for and the slip is spoiled. -/
  | spoiled (e : InboxError)
  /-- A pointer leads to no tile. -/
  | offFloor (e : FloorError)
  /-- A variable is read that has no value yet. -/
  | undefined (name : String)
  | outOfScope (name : String)
  /-- A pointer leads to a tile that is kept for something else than a variable in scope. -/
  | stray (address : Int)
  /-- Something has no meaning. -/
  | illFormed
  /-- A loop has gone round too often. -/
  | outOfFuel
  deriving DecidableEq

/-- Steps that change the world, and may end the program. -/
abbrev Eval := EStateM Stop World

/-- Where an integer can be. -/
inductive Spot where
  | named (name : String)
  | tile (address : Int)
  deriving DecidableEq

/-! ## Places -/

/-- The value of a variable. -/
def readVariable (name : String) : Eval Int := do
  match (← get).vars name with
  | none => throw (.outOfScope name)
  | some none => throw (.undefined name)
  | some (some v) => return v

/-- A tile of the floor. -/
def tileSpot (address : Int) : Eval Spot := do
  let floor := (← get).floor
  if floor.Has address then return .tile address else throw (.offFloor ⟨address, floor.size⟩)

/-- What a pointer leads to: a variable in scope that lies there, or a tile that is not kept. -/
def Layout.pointee (l : Layout) (address : Int) : Eval Spot := do
  if 0 ≤ address ∧ address.toNat ∈ l.kept then
    match l.owner address.toNat with
    | none => throw (.stray address)
    | some name =>
      if ((← get).vars name).isSome then return .named name else throw (.stray address)
  else tileSpot address

/-- The place that `x` or `*x` stands for. -/
def Layout.locate (l : Layout) (v : Var) : Eval Spot :=
  match l.constant v.name with
  | some address => if v.deref then tileSpot address else throw .illFormed
  | none =>
    if v.deref then do
      l.pointee (← readVariable v.name)
    else do
      if ((← get).vars v.name).isSome then return .named v.name
      else throw (.outOfScope v.name)

/-- The integer at a place. -/
def load : Spot → Eval Int
  | .named name => readVariable name
  | .tile address => do return (← get).floor.item address

/-- The world with a value for a variable, or with a variable that has none. -/
def World.set (w : World) (name : String) (v : Option Int) : World :=
  { w with vars := fun x => if x = name then some v else w.vars x }

/-- Puts an integer at a place. -/
def store (v : Int) : Spot → Eval Unit
  | .named name => modify fun w => w.set name (some v)
  | .tile address => modify fun w => { w with floor := w.floor.put address v }

/-- Takes the next value from the inbox. -/
def takeInput : Eval Int := do
  match (← get).inbox.next with
  | (.value v, inbox) => do
    modify fun w => { w with inbox }
    return v
  | (.empty, _) => throw .inputOver
  | (.failed e, _) => throw (.spoiled e)

/-! ## Expressions and conditions -/

/-- Sum or difference of two integers. -/
def SumOp.apply : SumOp → Int → Int → Int
  | .plus, a, b => a + b
  | .minus, a, b => a - b

/-- Whether two integers compare so. -/
def Comparison.compare : Comparison → Int → Int → Bool
  | .eq, a, b => a = b
  | .ne, a, b => a ≠ b
  | .lt, a, b => a < b
  | .le, a, b => a ≤ b
  | .gt, a, b => a > b
  | .ge, a, b => a ≥ b

/-- Two sides: the right one first, unless it is a variable, which is read behind the left one. -/
def Layout.sides (l : Layout) (left right : Eval Int) : Option Var → Eval (Int × Int)
  | some v => do
    let a ← left
    let b ← load (← l.locate v)
    return (a, b)
  | none => do
    let b ← right
    let a ← left
    return (a, b)

/-- Makes a bump and returns the value from before. -/
def Layout.bumped (l : Layout) (target : Var) (direction : Bump) : Eval Int := do
  let spot ← l.locate target
  let old ← load spot
  store (old + direction.delta) spot
  return old

/-- The value of an expression. -/
def Layout.valueOf (l : Layout) : Expr → Eval Int
  | .num n _ => return n
  | .var v => do load (← l.locate v)
  | .call function _ => if function = "input" then takeInput else throw .illFormed
  | .assign target e _ => do
    let v ← l.valueOf e
    store v (← l.locate target)
    return v
  | .bump target direction post _ => do
    let old ← l.bumped target direction
    return if post then old else old + direction.delta
  | .sum op left right _ => do
    let (a, b) ← l.sides (l.valueOf left) (l.valueOf right) right.var?
    return op.apply a b
  | .bool _ _ | .callWith _ _ _ | .compare _ _ _ _ | .logical _ _ _ _ => throw .illFormed

mutual

/-- Whether a condition holds.  Conditions that are joined are looked at from left to right, until
one of them decides. -/
def Layout.holds (l : Layout) : Expr → Eval Bool
  | .bool b _ => return b
  | .compare op left right _ => do
    let (a, b) ← l.sides (l.valueOf left) (l.valueOf right) right.var?
    return op.compare a b
  | .logical op first others _ => do
    let b ← l.holds first
    if b = (op == .or) then return b else l.holdAll op others
  | _ => throw .illFormed

/-- Whether conditions hold that are joined by a connective. -/
def Layout.holdAll (l : Layout) (op : Connective) : Operands → Eval Bool
  | .last e => l.holds e
  | .more e others => do
    let b ← l.holds e
    if b = (op == .or) then return b else l.holdAll op others

end

/-! ## Statements -/

/-- Does what an expression does; nobody wants its value. -/
def Layout.perform (l : Layout) : Expr → Eval Unit
  | .callWith function arg _ =>
    if function = "output" then do
      let v ← l.valueOf arg
      modify fun w => { w with sent := w.sent.push v }
    else if function = "debug" then pure ()
    else throw .illFormed
  | e => do
    let _ ← l.valueOf e

/-- The variables that were in scope before are in scope again, and no others. -/
def World.leave (outer inner : World) : World :=
  { inner with vars := fun x => if (outer.vars x).isSome then inner.vars x else none }

/-- A part of a program with a scope of its own. -/
def enclosed (body : Eval Unit) : Eval Unit := do
  let outer ← get
  body
  modify outer.leave

/-- Goes round a loop, at most so many times. -/
def loop (cond : Eval Bool) (body : Eval Unit) : Nat → Eval Unit
  | 0 => throw .outOfFuel
  | n + 1 => do
    if ← cond then
      body
      loop cond body n

mutual

/-- Does what a statement does; a loop goes round less than `fuel` times. -/
def Layout.exec (l : Layout) (fuel : Nat) : Stmt → Eval Unit
  | .decl d =>
    if d.constant then pure ()
    else
      match d.init with
      | none => modify fun w => w.set d.name none
      | some e => do
        let v ← l.valueOf e
        modify fun w => w.set d.name (some v)
  | .expr e _ => l.perform e
  | .ifThen cond body _ => do
    if ← l.holds cond then enclosed (l.exec fuel body)
  | .ifElse cond body other _ => do
    if ← l.holds cond then enclosed (l.exec fuel body) else enclosed (l.exec fuel other)
  | .whileDo cond body _ => loop (l.holds cond) (enclosed (l.exec fuel body)) fuel
  | .block body _ => enclosed (l.execAll fuel body)

/-- Does what statements do, one after the other. -/
def Layout.execAll (l : Layout) (fuel : Nat) : List Stmt → Eval Unit
  | [] => pure ()
  | s :: rest => do
    l.exec fuel s
    l.execAll fuel rest

end

/-- The world in which a program starts. -/
def World.start (floor : Floor) (inbox : Inbox) : World :=
  ⟨fun _ => none, floor, inbox, #[]⟩

/-! ## Equations

Each step with the world that it is taken in. -/

lemma bind_apply {α β : Type} (x : Eval α) (f : α → Eval β) (w : World) :
    (x >>= f) w = match x w with
      | .ok a w => f a w
      | .error s w => .error s w := by
  change EStateM.bind x f w = _
  rw [EStateM.bind]
  cases x w <;> rfl

lemma readVariable_apply (name : String) (w : World) :
    readVariable name w = match w.vars name with
      | none => .error (.outOfScope name) w
      | some none => .error (.undefined name) w
      | some (some v) => .ok v w := by
  simp only [readVariable, bind, EStateM.bind, get, getThe, MonadStateOf.get, EStateM.get]
  rcases w.vars name with _ | _ | v <;> rfl

lemma tileSpot_apply (address : Int) (w : World) :
    tileSpot address w = if w.floor.Has address then .ok (.tile address) w
      else .error (.offFloor ⟨address, w.floor.size⟩) w := by
  simp only [tileSpot, bind, EStateM.bind, get, getThe, MonadStateOf.get, EStateM.get]
  split <;> rfl

lemma pointee_apply (l : Layout) (address : Int) (w : World) :
    l.pointee address w =
      if 0 ≤ address ∧ address.toNat ∈ l.kept then
        match l.owner address.toNat with
        | none => .error (.stray address) w
        | some name =>
          if (w.vars name).isSome then .ok (.named name) w else .error (.stray address) w
      else tileSpot address w := by
  rw [Layout.pointee]
  split
  · cases l.owner address.toNat with
    | none => rfl
    | some name =>
      simp only [bind, EStateM.bind, get, getThe, MonadStateOf.get, EStateM.get]
      split <;> rfl
  · rfl

lemma locate_apply (l : Layout) (v : Var) (w : World) :
    l.locate v w = match l.constant v.name with
      | some address => if v.deref then tileSpot address w else .error .illFormed w
      | none =>
        if v.deref then
          match readVariable v.name w with
          | .ok a w => l.pointee a w
          | .error s w => .error s w
        else if (w.vars v.name).isSome then .ok (.named v.name) w
        else .error (.outOfScope v.name) w := by
  rw [Layout.locate]
  cases l.constant v.name with
  | some address =>
      dsimp only
      split <;> rfl
  | none =>
      dsimp only
      split
      · rw [bind_apply]
        cases readVariable v.name w <;> rfl
      · simp only [bind, EStateM.bind, get, getThe, MonadStateOf.get, EStateM.get]
        split <;> rfl

lemma store_apply (v : Int) (spot : Spot) (w : World) :
    store v spot w = .ok () (match spot with
      | .named name => w.set name (some v)
      | .tile address => { w with floor := w.floor.put address v }) := by
  cases spot <;> rfl

lemma takeInput_apply (w : World) :
    takeInput w = match w.inbox.next with
      | (.value v, inbox) => .ok v { w with inbox }
      | (.empty, _) => .error .inputOver w
      | (.failed e, _) => .error (.spoiled e) w := by
  simp only [takeInput, bind, EStateM.bind, get, getThe, MonadStateOf.get, EStateM.get]
  rcases w.inbox.next with ⟨_ | _ | _, inbox⟩ <;> rfl

lemma enclosed_apply (body : Eval Unit) (w : World) :
    enclosed body w = match body w with
      | .ok () w' => .ok () (w.leave w')
      | .error s w' => .error s w' := by
  change (body >>= fun _ => modify w.leave) w = _
  rw [bind_apply]
  cases body w <;> rfl

/-! ## Scopes -/

mutual

/-- The variables that an expression mentions. -/
def Expr.mentions : Expr → List Var
  | .num _ _ | .bool _ _ | .call _ _ => []
  | .var v => [v]
  | .callWith _ arg _ => arg.mentions
  | .assign target e _ => target :: e.mentions
  | .bump target _ _ _ => [target]
  | .sum _ left right _ | .compare _ left right _ => left.mentions ++ right.mentions
  | .logical _ first others _ => first.mentions ++ others.mentions

/-- The variables that conditions mention. -/
def Operands.mentions : Operands → List Var
  | .last e => e.mentions
  | .more e others => e.mentions ++ others.mentions

end

/-- A known variable or a constant. -/
def Var.usable (symbols : Symbols) (known : List String) (v : Var) : Bool :=
  v.name ∈ known || ((symbols.get? v.name).bind (·.address)).isSome

/-- Whether an expression mentions known variables and constants only. -/
def Expr.within (symbols : Symbols) (known : List String) (e : Expr) : Bool :=
  e.mentions.all (·.usable symbols known)

mutual

/-- The variables that are known behind a statement, if every variable is used where it is known:
behind its declaration, inside the block, branch or loop body with that declaration. -/
def Stmt.scope (symbols : Symbols) (known : List String) : Stmt → Option (List String)
  | .decl d =>
    if d.constant then some known
    else if d.init.all (·.within symbols known) then some (d.name :: known) else none
  | .expr e _ => if e.within symbols known then some known else none
  | .ifThen cond body _ | .whileDo cond body _ =>
    if cond.within symbols known ∧ (body.scope symbols known).isSome then some known else none
  | .ifElse cond body other _ =>
    if cond.within symbols known ∧ (body.scope symbols known).isSome
        ∧ (other.scope symbols known).isSome then some known else none
  | .block body _ => if (blockScope symbols known body).isSome then some known else none

/-- The variables that are known behind statements. -/
def blockScope (symbols : Symbols) (known : List String) : List Stmt → Option (List String)
  | [] => some known
  | s :: rest =>
    match s.scope symbols known with
    | none => none
    | some known => blockScope symbols known rest

end

/-- Every variable is used where it is declared. -/
def WellScoped (symbols : Symbols) (program : List Stmt) : Prop :=
  (blockScope symbols [] program).isSome

instance (symbols : Symbols) (program : List Stmt) : Decidable (WellScoped symbols program) :=
  inferInstanceAs (Decidable (_ = true))

/-! ## Layouts of listings -/

/-- The addresses that the operands of a listing name. -/
def operandAddresses (ops : List Op) : List Nat :=
  ops.filterMap fun
    | .instr (.tile _ t) => some t.address
    | _ => none

/-- Where a listing has the variables of its program: on the tiles that they were given.  It keeps
these tiles, and all others that it names and no constant pointer does. -/
def Layout.ofLowering (symbols : Symbols) (final : Lowering) : Layout where
  constant := fun name => (symbols.get? name).bind (·.address)
  placed := final.tiles
  kept := (final.tiles.map (·.2) ++ operandAddresses final.ops).filter (· ∉ symbols.reserved)

end Mailroom.Source
