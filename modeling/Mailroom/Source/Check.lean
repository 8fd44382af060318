import Mailroom.Assoc
import Mailroom.Source.Syntax
import Mailroom.Text.Quoted
import Mailroom.Text.Numeral

/-!
# Which programs are accepted

The check walks a program once, in the order of its text, and collects every complaint.  It knows of
each variable whether it points at a tile, whether it names a fixed tile and whether it has a value
yet. A variable declared anywhere is known from there on, so the walk takes no notice of blocks.

This follows the program's `Analyzer` and `Symbol`.

- `Scope`: the variables and the complaints so far.
- `Scope.stmt`, `Scope.expr`, `Scope.cond`: the walk.
- `check`: the walk over a whole program.
-/

namespace Mailroom.Source

open Text

/-- What is known of a variable. -/
structure Symbol where
  name : String
  pointer : Bool
  constant : Bool
  /-- The tile that a constant pointer names. -/
  address : Option Nat
  initialized : Bool
  deriving DecidableEq, Repr

/-- Variables in order of declaration. -/
abbrev Symbols := Assoc String Symbol

/-- The tiles that constant pointers name. -/
def Symbols.reserved (symbols : Symbols) : List Nat :=
  symbols.filterMap (·.2.address)

/-- What can be wrong with a program that is well formed. -/
inductive Complaint where
  | redeclared (name : String)
  | malformedConstant (name : String)
  | offFloor (address : Nat) (size : Int)
  | notComparison
  | literalNotZero
  | literalsOnly
  | undeclared (name : String)
  | notPointer (name : String)
  | uninitialized (name : String)
  | bareConstant (name : String)
  | constantAssigned (name : String)
  | literal
  | booleanAsNumber
  | inputArgument
  | outputArgument
  | debugArgument
  | unknownFunction (name : String)
  | noValue (name : String)
  deriving DecidableEq, Repr

/-- The wording of a complaint. -/
def Complaint.message : Complaint → String
  | .redeclared name => "variable " ++ name ++ " already declared"
  | .malformedConstant name =>
    "constant " ++ name ++ " must be `const int *" ++ name ++ " = ADDRESS;`"
  | .offFloor address size =>
    "address " ++ Numeral.natText address ++ " is off the floor (size " ++ Numeral.text size ++ ")"
  | .notComparison => "condition must be a comparison"
  | .literalNotZero => "only comparisons with 0 may use a literal"
  | .literalsOnly => "comparison of two literals"
  | .undeclared name => name ++ " not declared"
  | .notPointer name => name ++ " is not a pointer"
  | .uninitialized name => "using uninitialized variable " ++ name
  | .bareConstant name => "constant " ++ name ++ " can only be used as *" ++ name
  | .constantAssigned name => "cannot assign to constant " ++ name
  | .literal =>
    "integer literals are only allowed as pointer addresses and in comparisons with 0"
  | .booleanAsNumber => "boolean value used as a number"
  | .inputArgument => "input() takes no argument"
  | .outputArgument => "output() takes one argument"
  | .debugArgument => "debug() takes one integer literal"
  | .unknownFunction name => "unknown function " ++ name
  | .noValue name => name ++ "() has no value"

/-- Whether a complaint can be worded within the limit on digits. -/
def Complaint.fits : Complaint → Bool
  | .offFloor address size => Numeral.fits address && Numeral.fits size
  | _ => true

/-- A text about a line. -/
def atLine (line : Nat) (message : String) : String :=
  "line " ++ Numeral.natText line ++ ": " ++ message

/-- A complaint about a line. -/
structure Diagnostic where
  line : Nat
  complaint : Complaint
  deriving DecidableEq, Repr

/-- The wording of a diagnostic. -/
def Diagnostic.message (d : Diagnostic) : String :=
  atLine d.line d.complaint.message

/-- The variables and the complaints so far. -/
structure Scope where
  symbols : Symbols := []
  diagnostics : List Diagnostic := []
  deriving Repr

namespace Scope

/-- One more complaint. -/
def report (s : Scope) (line : Nat) (complaint : Complaint) : Scope :=
  { s with diagnostics := s.diagnostics ++ [⟨line, complaint⟩] }

/-- One more complaint if there is reason for it. -/
def reportIf (s : Scope) (reason : Bool) (line : Nat) (complaint : Complaint) : Scope :=
  if reason then s.report line complaint else s

/-- A variable has to be declared before it is followed to its tile or read or written. -/
def mention (s : Scope) (v : Var) : Scope :=
  match s.symbols.get? v.name with
  | none => s.report v.line (.undeclared v.name)
  | some sym => s.reportIf (v.deref && !sym.pointer) v.line (.notPointer v.name)

/-- A variable is read. -/
def read (s : Scope) (v : Var) : Scope :=
  match s.symbols.get? v.name with
  | none => s.mention v
  | some sym =>
    if !sym.initialized then (s.mention v).report v.line (.uninitialized v.name)
    else (s.mention v).reportIf (sym.address.isSome && !v.deref) v.line (.bareConstant v.name)

/-- A variable is written. -/
def write (s : Scope) (v : Var) : Scope :=
  match s.symbols.get? v.name with
  | none => s.mention v
  | some sym =>
    if sym.constant && !v.deref then (s.mention v).report v.line (.constantAssigned v.name)
    else (s.mention v).reportIf (v.deref && !sym.initialized) v.line (.uninitialized v.name)

/-- After an assignment to the variable itself it has a value. -/
def assigned (s : Scope) (v : Var) : Scope :=
  match s.symbols.get? v.name with
  | none => s
  | some sym =>
    if v.deref then s
    else { s with symbols := s.symbols.put v.name { sym with initialized := true } }

/-- Whether an expression is a literal. -/
def isLiteral : Expr → Bool
  | .num _ _ => true
  | _ => false

/-- Checks an expression whose value is wanted, unless it makes up a statement by itself. -/
def expr (s : Scope) (statement : Bool) : Expr → Scope
  | .var v => s.read v
  | .num _ line => s.report line .literal
  | .bool _ line | .compare _ _ _ line | .logical _ _ _ line => s.report line .booleanAsNumber
  | .assign target value _ => ((s.expr false value).write target).assigned target
  | .bump target _ _ _ => (s.read target).write target
  | .sum _ left right _ => (s.expr false left).expr false right
  | .call name line =>
    if name = "input" then s
    else if name = "output" then
      (s.report line .outputArgument).reportIf (!statement) line (.noValue name)
    else if name = "debug" then
      (s.report line .debugArgument).reportIf (!statement) line (.noValue name)
    else s.report line (.unknownFunction name)
  | .callWith name arg line =>
    if name = "input" then s.report line .inputArgument
    else if name = "output" then
      (s.expr false arg).reportIf (!statement) line (.noValue name)
    else if name = "debug" then
      (s.reportIf (!isLiteral arg) line .debugArgument).reportIf (!statement) line (.noValue name)
    else s.report line (.unknownFunction name)

/-- Checks one side of a comparison on the given line. -/
def side (s : Scope) (line : Nat) : Expr → Scope
  | .num n _ => s.reportIf (n != 0) line .literalNotZero
  | e => s.expr false e

mutual

/-- Checks a condition. -/
def cond (s : Scope) : Expr → Scope
  | .bool _ _ => s
  | .logical _ first others _ => (s.cond first).conds others
  | .compare _ left right line =>
    ((s.side line left).side line right).reportIf (isLiteral left && isLiteral right) line
      .literalsOnly
  | e => s.report e.line .notComparison

/-- Checks conditions one after the other. -/
def conds (s : Scope) : Operands → Scope
  | .last e => s.cond e
  | .more e others => (s.cond e).conds others

end

/-- Checks a declaration on a floor of the given size. -/
def decl (s : Scope) (size : Int) (d : Decl) : Scope :=
  if s.symbols.has d.name then s.report d.line (.redeclared d.name)
  else
    let sym : Symbol := ⟨d.name, d.pointer, d.constant, none, false⟩
    let enter (s : Scope) (sym : Symbol) : Scope :=
      { s with symbols := s.symbols.put d.name sym }
    if d.constant then
      match d.pointer, d.init with
      | true, some (.num n _) =>
        if n < size then enter s { sym with address := some n, initialized := true }
        else enter (s.report d.line (.offFloor n size)) sym
      | _, _ => enter (s.report d.line (.malformedConstant d.name)) sym
    else
      match d.init with
      | none => enter s sym
      | some e => enter (s.expr false e) { sym with initialized := true }

mutual

/-- Checks a statement. -/
def stmt (s : Scope) (size : Int) : Stmt → Scope
  | .decl d => s.decl size d
  | .expr e _ => s.expr true e
  | .ifThen c body _ => (s.cond c).stmt size body
  | .ifElse c body other _ => ((s.cond c).stmt size body).stmt size other
  | .whileDo c body _ => (s.cond c).stmt size body
  | .block body _ => s.stmts size body

/-- Checks statements one after the other. -/
def stmts (s : Scope) (size : Int) : List Stmt → Scope
  | [] => s
  | t :: rest => (s.stmt size t).stmts size rest

end

end Scope

/-- Checks a program for a floor of the given size. -/
def check (size : Int) (program : List Stmt) : Scope :=
  Scope.stmts {} size program

end Mailroom.Source
