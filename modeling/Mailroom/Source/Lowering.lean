import Mailroom.Listing.Op
import Mailroom.Source.Check

/-!
# From trees to instructions

Every value goes through the hand.  An expression leaves its value there; a condition leaves the
difference of its sides there and jumps on its sign.  A variable gets the lowest free tile at its
declaration, and a value in between takes the lowest free tile for as long as it is needed.  The
tiles that constant pointers name are never given out.

This follows the program's `CodeGen`.  Its recursion is bounded by the stack of whoever runs it;
that is left aside here, where a tree may be as deep as it likes.

- `Lowering`: the instructions so far and what has been given out.
- `value`, `effect`, `branch`, `statement`: the instructions for a part of a program.
- `lower`: those for a whole program.
-/

namespace Mailroom.Source

open Text

/-- The parts of expressions that have no value to compute. -/
inductive NoValue where
  | literal
  | boolean
  | comparison
  | connective
  deriving DecidableEq, Repr

/-- What such a part is called. -/
def NoValue.text : NoValue → String
  | .literal => "Num"
  | .boolean => "Bool"
  | .comparison => "Compare"
  | .connective => "Logical"

/-- Why no instructions can be found. -/
inductive LoweringError where
  | noFreeTile (line : Nat)
  | noValue (line : Nat) (part : NoValue)
  | notComparison (line : Nat)
  /-- The declaration of the variable is missing, or it left no instructions. -/
  | unplaced (name : String)
  /-- There is nothing to send. -/
  | nothingToSend
  deriving DecidableEq, Repr

/-- The wording of an error; those that a check would have found have none. -/
def LoweringError.message? : LoweringError → Option String
  | .noFreeTile line => some (atLine line "no free floor tile left")
  | .noValue line part => some (atLine line ("cannot compute " ++ part.text ++ " as a value"))
  | .notComparison line => some (atLine line Complaint.notComparison.message)
  | .unplaced _ | .nothingToSend => none

/-- What instructions are found for. -/
structure Target where
  symbols : Symbols
  size : Int

/-- The instructions so far and what has been given out. -/
structure Lowering where
  ops : List Op := []
  /-- The tiles of the variables, in order of first declaration. -/
  tiles : Assoc String Nat := []
  /-- All tiles in use. -/
  used : List Nat := []
  /-- How many labels have been given out. -/
  labels : Nat := 0
  deriving Repr

/-- Steps that add instructions or fail, in which case those added so far stay. -/
abbrev Lower := EStateM LoweringError Lowering

/-- Adds what a line of a listing holds. -/
def emit (op : Op) : Lower Unit :=
  modify fun s => { s with ops := s.ops ++ [op] }

/-- Adds an instruction on a tile. -/
def emitTile (op : TileOp) (tile : Tile) : Lower Unit :=
  emit (.instr (.tile op tile))

/-- Adds a jump. -/
def emitJump (kind : JumpKind) (label : String) : Lower Unit :=
  emit (.instr (.jump kind label))

/-- A label that has not been given out yet. -/
def newLabel (stem : String) : Lower String :=
  modifyGet fun s => (stem ++ Numeral.natText (s.labels + 1), { s with labels := s.labels + 1 })

/-- The lowest tile below `size` that is not taken.  Among the first `taken.length + 1` tiles one is
not taken, so it is enough to look there. -/
def lowestFree? (size : Int) (taken : List Nat) : Option Nat :=
  (List.range (min size.toNat (taken.length + 1))).find? (fun a => !taken.contains a)

/-- Gives out a tile, on behalf of a line. -/
def alloc (t : Target) (line : Nat) : Lower Nat := do
  match lowestFree? t.size ((← get).used ++ t.symbols.reserved) with
  | none => throw (.noFreeTile line)
  | some address =>
    modify fun s => { s with used := address :: s.used }
    return address

/-- Takes a tile back. -/
def free (address : Nat) : Lower Unit :=
  modify fun s => { s with used := s.used.filter (· != address) }

/-- The tile operand for a variable. -/
def tileOf (t : Target) (v : Var) : Lower Tile := do
  match t.symbols.get? v.name with
  | none => throw (.unplaced v.name)
  | some { address := some address, .. } => return ⟨address, false⟩
  | some { address := none, .. } =>
    match (← get).tiles.get? v.name with
    | none => throw (.unplaced v.name)
    | some address => return ⟨address, v.deref⟩

/-- The instruction for a bump. -/
def Bump.op : Bump → TileOp
  | .up => .bumpUp
  | .down => .bumpDown

/-- The instruction for a sum. -/
def SumOp.op : SumOp → TileOp
  | .plus => .add
  | .minus => .sub

/-! ## Expressions -/

/-- The variable that an expression is. -/
def Expr.var? : Expr → Option Var
  | .var v => some v
  | _ => none

/-- Leaves the sum or difference of two sides in the hand.  The right side comes first and waits on
a tile, unless it is a variable and lies on one already. -/
def combine (t : Target) (op : TileOp) (line : Nat) (left right : Lower Unit) :
    Option Var → Lower Unit
  | some v => do
    left
    emitTile op (← tileOf t v)
  | none => do
    let kept ← alloc t line
    right
    emitTile .copyTo ⟨kept, false⟩
    left
    emitTile op ⟨kept, false⟩
    free kept

/-- Leaves the value of an expression in the hand. -/
def value (t : Target) : Expr → Lower Unit
  | .var v => do emitTile .copyFrom (← tileOf t v)
  | .call _ _ | .callWith _ _ _ => emit (.instr .inbox)
  | .assign target e _ => do
    value t e
    emitTile .copyTo (← tileOf t target)
  | .bump target direction post line => do
    let tile ← tileOf t target
    if post then
      let kept ← alloc t line
      emitTile .copyFrom tile
      emitTile .copyTo ⟨kept, false⟩
      emitTile direction.op tile
      emitTile .copyFrom ⟨kept, false⟩
      free kept
    else
      emitTile direction.op tile
  | .sum op left right line => combine t op.op line (value t left) (value t right) right.var?
  | .num _ line => throw (.noValue line .literal)
  | .bool _ line => throw (.noValue line .boolean)
  | .compare _ _ _ line => throw (.noValue line .comparison)
  | .logical _ _ _ line => throw (.noValue line .connective)

/-- The instructions for an expression whose value nobody wants. -/
def effect (t : Target) : Expr → Lower Unit
  | .call name _ =>
    if name = "output" then throw .nothingToSend
    else if name = "input" then emit (.instr .inbox)
    else pure ()
  | .callWith name arg _ =>
    if name = "output" then do
      value t arg
      emit (.instr .outbox)
    else if name = "input" then emit (.instr .inbox)
    else pure ()
  | .bump target direction _ _ => do emitTile direction.op (← tileOf t target)
  | e => value t e

/-! ## Conditions -/

/-- Leaves the difference of two sides in the hand and returns how it compares with zero. -/
def difference (t : Target) (op : Comparison) (left right : Expr) (line : Nat) :
    Lower Comparison :=
  match left, right with
  | left, .num _ _ => do
    value t left
    return op
  | .num _ _, right => do
    value t right
    return op.swap
  | left, right => do
    combine t .sub line (value t left) (value t right) right.var?
    return op

/-- Jumps if the value in the hand compares so with zero. -/
def jumpIf (op : Comparison) (target : String) : Lower Unit :=
  match op with
  | .eq => emitJump .ifZero target
  | .lt => emitJump .ifNegative target
  | .le => do
    emitJump .ifNegative target
    emitJump .ifZero target
  | .ne => do
    let skip ← newLabel "skip"
    emitJump .ifZero skip
    emitJump .always target
    emit (.label skip)
  | .ge => do
    let skip ← newLabel "skip"
    emitJump .ifNegative skip
    emitJump .always target
    emit (.label skip)
  | .gt => do
    let skip ← newLabel "skip"
    emitJump .ifZero skip
    emitJump .ifNegative skip
    emitJump .always target
    emit (.label skip)

mutual

/-- Jumps to `target` if the condition comes out as `wanted`. -/
def branch (t : Target) (target : String) (wanted : Bool) : Expr → Lower Unit
  | .bool b _ => if b = wanted then emitJump .always target else pure ()
  | .compare op left right line => do
    let sign ← difference t (if wanted then op else op.negate) left right line
    jumpIf sign target
  | .logical op first others _ =>
    if (op = .or) = (wanted = true) then do
      branch t target wanted first
      branchAny t target wanted others
    else do
      let skip ← newLabel "skip"
      branch t skip (!wanted) first
      branchAll t target skip wanted others
      emit (.label skip)
  | e => throw (.notComparison e.line)

/-- Jumps to `target` if one of the conditions comes out as `wanted`. -/
def branchAny (t : Target) (target : String) (wanted : Bool) : Operands → Lower Unit
  | .last e => branch t target wanted e
  | .more e others => do
    branch t target wanted e
    branchAny t target wanted others

/-- Jumps to `target` if all of the conditions come out as `wanted`, and to `skip` at the first that
does not; the last one falls through instead. -/
def branchAll (t : Target) (target skip : String) (wanted : Bool) : Operands → Lower Unit
  | .last e => branch t target wanted e
  | .more e others => do
    branch t skip (!wanted) e
    branchAll t target skip wanted others

end

/-! ## Statements -/

mutual

/-- The instructions for a statement. -/
def statementOps (t : Target) : Stmt → Lower Unit
  | .decl d =>
    if d.constant then pure ()
    else do
      let tile ← alloc t d.line
      modify fun s => { s with tiles := s.tiles.put d.name tile }
      match d.init with
      | none => pure ()
      | some e => do
        value t e
        emitTile .copyTo ⟨tile, false⟩
  | .expr e _ => effect t e
  | .ifThen (.bool b _) body _ => if b then statementOps t body else pure ()
  | .ifThen cond body _ => do
    let no ← newLabel "else"
    branch t no false cond
    statementOps t body
    emit (.label no)
  | .ifElse (.bool b _) body other _ => if b then statementOps t body else statementOps t other
  | .ifElse cond body other _ => do
    let no ← newLabel "else"
    branch t no false cond
    statementOps t body
    let stop ← newLabel "endif"
    emitJump .always stop
    emit (.label no)
    statementOps t other
    emit (.label stop)
  | .whileDo (.bool b _) body _ =>
    if b then do
      let top ← newLabel "loop"
      emit (.label top)
      statementOps t body
      emitJump .always top
    else pure ()
  | .whileDo cond body _ => do
    let top ← newLabel "loop"
    emit (.label top)
    let stop ← newLabel "end"
    branch t stop false cond
    statementOps t body
    emitJump .always top
    emit (.label stop)
  | .block body _ => programOps t body

/-- The instructions for statements one after the other. -/
def programOps (t : Target) : List Stmt → Lower Unit
  | [] => pure ()
  | s :: rest => do
    statementOps t s
    programOps t rest

end

/-- The instructions for a program whose variables are known, as far as they can be found. -/
def lower (size : Int) (symbols : Symbols) (program : List Stmt) :
    Option LoweringError × Lowering :=
  match (programOps ⟨symbols, size⟩ program).run {} with
  | .ok () s => (none, s)
  | .error e s => (some e, s)

end Mailroom.Source
