/-!
# Trees of the source language

Programs work on integers that lie on floor tiles.  There is nothing but assignment, sums and
differences, reading and writing, loops and branches.  Every node keeps the line that messages about
it name.

These are the program's node classes, from `Num` and `Var` to `While` and `Block`.

- `Expr`: expressions, and the conditions among them.
- `Stmt`: statements.
-/

namespace Mailroom.Source

/-- A variable, or the tile that it points at. -/
structure Var where
  name : String
  deref : Bool
  line : Nat
  deriving DecidableEq, Repr

/-- Comparisons of two integers. -/
inductive Comparison where
  | eq
  | ne
  | lt
  | le
  | gt
  | ge
  deriving DecidableEq, Repr

/-- Sum and difference. -/
inductive SumOp where
  | plus
  | minus
  deriving DecidableEq, Repr

/-- How conditions are joined. -/
inductive Connective where
  | and
  | or
  deriving DecidableEq, Repr

/-- One more or one less. -/
inductive Bump where
  | up
  | down
  deriving DecidableEq, Repr

namespace Comparison

/-- A comparison as it is written. -/
def text : Comparison → String
  | .eq => "=="
  | .ne => "!="
  | .lt => "<"
  | .le => "<="
  | .gt => ">"
  | .ge => ">="

/-- All comparisons. -/
def all : List Comparison := [.eq, .ne, .lt, .le, .gt, .ge]

/-- The comparison that is written so. -/
def ofText? (s : String) : Option Comparison :=
  all.find? (·.text == s)

/-- The comparison that holds exactly when this one does not. -/
def negate : Comparison → Comparison
  | .eq => .ne
  | .ne => .eq
  | .lt => .ge
  | .ge => .lt
  | .gt => .le
  | .le => .gt

/-- The same comparison with its sides exchanged. -/
def swap : Comparison → Comparison
  | .eq => .eq
  | .ne => .ne
  | .lt => .gt
  | .gt => .lt
  | .le => .ge
  | .ge => .le

end Comparison

/-- A sum or a difference as it is written. -/
def SumOp.text : SumOp → String
  | .plus => "+"
  | .minus => "-"

/-- A connective as it is written. -/
def Connective.text : Connective → String
  | .and => "&&"
  | .or => "||"

/-- The step that a bump makes. -/
def Bump.delta : Bump → Int
  | .up => 1
  | .down => -1

mutual

/-- Expressions.  A function takes at most one argument. -/
inductive Expr where
  | num (value : Nat) (line : Nat)
  | bool (value : Bool) (line : Nat)
  | var (v : Var)
  | call (function : String) (line : Nat)
  | callWith (function : String) (arg : Expr) (line : Nat)
  | assign (target : Var) (value : Expr) (line : Nat)
  /-- `post` says that the value is the one from before the bump. -/
  | bump (target : Var) (direction : Bump) (post : Bool) (line : Nat)
  | sum (op : SumOp) (left right : Expr) (line : Nat)
  | compare (op : Comparison) (left right : Expr) (line : Nat)
  /-- At least two conditions joined by the same connective.  A tree with fewer parts is no tree of
  the language, and the type has none. -/
  | logical (op : Connective) (first : Expr) (others : Operands) (line : Nat)

/-- One or more conditions behind the first one. -/
inductive Operands where
  | last (e : Expr)
  | more (e : Expr) (others : Operands)

end

/-- A declaration. -/
structure Decl where
  name : String
  pointer : Bool
  constant : Bool
  init : Option Expr
  line : Nat

/-- Statements. -/
inductive Stmt where
  | decl (d : Decl)
  | expr (e : Expr) (line : Nat)
  | ifThen (cond : Expr) (body : Stmt) (line : Nat)
  | ifElse (cond : Expr) (body other : Stmt) (line : Nat)
  | whileDo (cond : Expr) (body : Stmt) (line : Nat)
  | block (body : List Stmt) (line : Nat)

/-- The line that messages about an expression name. -/
def Expr.line : Expr → Nat
  | .num _ line | .bool _ line | .call _ line | .callWith _ _ line | .assign _ _ line
  | .bump _ _ _ line | .sum _ _ _ line | .compare _ _ _ line | .logical _ _ _ line => line
  | .var v => v.line

/-- Conditions in order. -/
def Operands.toList : Operands → List Expr
  | .last e => [e]
  | .more e others => e :: others.toList

/-- One or more conditions, the first of which is given apart. -/
def Operands.ofList (e : Expr) : List Expr → Operands
  | [] => .last e
  | e' :: rest => .more e (ofList e' rest)

/-- Conditions joined by a connective; a single one stands for itself. -/
def Expr.join (op : Connective) (line : Nat) (first : Expr) : List Expr → Expr
  | [] => first
  | e :: rest => .logical op first (.ofList e rest) line

end Mailroom.Source
