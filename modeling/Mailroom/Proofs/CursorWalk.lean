import Mathlib
import Mailroom.Proofs.Derivations

/-!
# The descent with a cursor

The descent hands on the tokens that are left, and takes with them the fact that there are fewer of
them.  Here it is carried out over all tokens at once, with a cursor and without such facts.  The
cursor is moved without looking where it comes to, and reading at the end or behind it finds the
end.  Loops go round, and statements and expressions nest, as often as the tokens make them; only a
number that is given from outside cuts them off.

- `Trail`: where the cursor is, where it has been and what it has read.
- `Walk`: steps with a cursor.
- `Walk.expression`, `Walk.statement`, `Walk.program`: the descent.
-/

namespace Mailroom.Source

/-- A phrase that has been read, with the positions of the cursor before and behind. -/
structure Stretch where
  phrase : Phrase
  start : Nat
  stop : Nat
  deriving DecidableEq, Repr

/-- Where the cursor is and what has happened. -/
structure Trail where
  position : Nat := 0
  /-- All positions of the cursor up to now. -/
  visited : List Nat := [0]
  /-- The statements and expressions that have been read. -/
  read : List Stretch := []
  deriving DecidableEq, Repr

/-- The trail behind a move of the cursor. -/
def Trail.moved (s : Trail) (n : Nat) : Trail :=
  { s with position := s.position + n, visited := s.visited ++ [s.position + n] }

/-- The trail behind a phrase that has been read up to the cursor. -/
def Trail.noting (s : Trail) (phrase : Phrase) (start : Nat) : Trail :=
  { s with read := s.read ++ [⟨phrase, start, s.position⟩] }

/-- Why a walk ends early. -/
inductive WalkError where
  /-- A loop went round or phrases nested too often. -/
  | cutOff
  | source (e : SourceError)
  deriving DecidableEq, Repr

/-- Steps with a cursor.  Where one fails, the cursor stays where it is. -/
abbrev Walk := EStateM WalkError Trail

namespace Walk

/-- The cursor goes on. -/
def move (n : Nat) : Walk Unit :=
  modify (·.moved n)

/-- A phrase that is read as a whole. -/
def noted {α : Type} (phrase : Phrase) (x : Walk α) : Walk α := do
  let start := (← get).position
  let a ← x
  modify (·.noting phrase start)
  return a

section Steps

variable (tape : Tokens)

/-! ## Single tokens -/

/-- The token at some distance from the cursor, unless the end is there. -/
def peek (offset : Nat) : Walk (Option Token) := do
  return tape.tokens[(← get).position + offset]?

/-- Whether the token at some distance has a fixed text. -/
def comes (offset : Nat) (text : String) : Walk Bool := do
  return (← peek tape offset).any (·.is text)

def lineHere : Walk Nat := do
  return lineAt tape.stop (← peek tape 0).toList

def refuse {α : Type} (flaw : SyntaxFlaw) : Walk α := do
  let found ← peek tape 0
  throw (.source (flawAt tape.stop flaw found.toList))

def accept (text : String) : Walk Bool := do
  if ← comes tape 0 text then
    move 1
    return true
  else
    return false

def expect (text : String) : Walk Unit := do
  if ← comes tape 0 text then move 1 else refuse tape (.expected text)

def expectName : Walk String := do
  match ← peek tape 0 with
  | none => refuse tape .expectedName
  | some t =>
    if t.kind = .name then
      move 1
      return t.text
    else
      refuse tape .expectedName

def place : Walk Var := do
  let line ← lineHere tape
  let deref ← accept tape "*"
  let name ← expectName tape
  return ⟨name, deref, line⟩

/-! ## Expressions

The steps are given those for their parts.  The knot is tied in `expression`. -/

/-- Reads parts, each behind a connective, until no connective comes. -/
def parts (text : String) (part : Walk Expr) : Nat → Walk (List Expr)
  | 0 => throw .cutOff
  | fuel + 1 => do
    if ← accept tape text then
      let e ← part
      let others ← parts text part fuel
      return e :: others
    else
      return []

def joined (op : Connective) (part : Walk Expr) (fuel : Nat) : Walk Expr := do
  let line ← lineHere tape
  let first ← part
  let others ← parts tape op.text part fuel
  return .join op line first others

/-- Reads addends until no sign comes. -/
def addends (operand : Walk Expr) (left : Expr) : Nat → Walk Expr
  | 0 => throw .cutOff
  | fuel + 1 => do
    match ← peek tape 0 with
    | none => return left
    | some t =>
      match t.sum? with
      | some op =>
        move 1
        let right ← operand
        addends operand (.sum op left right t.place.line) fuel
      | none => if t.isProduct then refuse tape .noProducts else return left

def additive (operand : Walk Expr) (fuel : Nat) : Walk Expr := do
  let first ← operand
  addends tape operand first fuel

def comparison (operand : Walk Expr) (fuel : Nat) : Walk Expr := do
  let left ← additive tape operand fuel
  match ← peek tape 0 with
  | none => return left
  | some t =>
    match t.comparison? with
    | none => return left
    | some op =>
      move 1
      let right ← additive tape operand fuel
      return .compare op left right t.place.line

def call (function : String) (line : Nat) (expression : Walk Expr) : Walk Expr := do
  move 2
  if ← comes tape 0 ")" then
    move 1
    return .call function line
  else
    let arg ← expression
    expect tape ")"
    return .callWith function arg line

/-- Reads a variable and what is done with it. -/
def target (line : Nat) (expression : Walk Expr) : Walk Expr := do
  let target ← place tape
  match ← peek tape 0 with
  | none => return .var target
  | some t =>
    if t.is "=" then
      move 1
      let value ← expression
      return .assign target value line
    else
      match t.bump? with
      | some direction =>
        move 1
        return .bump target direction true line
      | none => return .var target

def operand (expression : Walk Expr) : Walk Expr := do
  match ← peek tape 0 with
  | none => refuse tape .expectedExpression
  | some t =>
    if t.kind = .number then
      move 1
      match t.value with
      | .error e => throw (.source e)
      | .ok n => return .num n t.place.line
    else if t.is "true" then
      move 1
      return .bool true t.place.line
    else if t.is "false" then
      move 1
      return .bool false t.place.line
    else if t.is "(" then
      move 1
      let inner ← expression
      expect tape ")"
      return inner
    else
      let opens ← comes tape 1 "("
      if t.kind = .name ∧ opens then call tape t.text t.place.line expression
      else
        match t.bump? with
        | some direction =>
          move 1
          let target ← place tape
          return .bump target direction false t.place.line
        | none =>
          if t.kind = .name ∨ t.is "*" then target tape t.place.line expression
          else refuse tape .expectedExpression

def expression : Nat → Walk Expr
  | 0 => throw .cutOff
  | fuel + 1 =>
    noted .expression <| joined tape .or
      (joined tape .and (comparison tape (operand tape (expression fuel)) fuel) fuel) fuel

/-! ## Statements -/

def initializer (expression : Walk Expr) : Walk (Option Expr) := do
  if ← accept tape "=" then
    let e ← expression
    return some e
  else
    return none

def declaration (expression : Walk Expr) : Walk Decl := do
  let line ← lineHere tape
  let constant ← accept tape "const"
  expect tape "int"
  let pointer ← accept tape "*"
  let constantToo ← accept tape "const"
  let name ← expectName tape
  let init ← initializer tape expression
  expect tape ";"
  return ⟨name, pointer, constant || constantToo, init, line⟩

def condition (expression : Walk Expr) : Walk Expr := do
  expect tape "("
  let cond ← expression
  expect tape ")"
  return cond

def body (statement : Walk (Option Stmt)) : Walk Stmt := do
  match ← statement with
  | some s => return s
  | none =>
    let line ← lineHere tape
    return .block [] line

/-- Reads statements until a brace comes. -/
def block (statement : Walk (Option Stmt)) : Nat → Walk (List Stmt)
  | 0 => throw .cutOff
  | fuel + 1 => do
    match ← peek tape 0 with
    | none => refuse tape (.expected "\x7d")
    | some t =>
      if t.is "\x7d" then
        move 1
        return []
      else
        let s ← statement
        let later ← block statement fuel
        return s.toList ++ later

def branches (line : Nat) (expression : Walk Expr) (statement : Walk (Option Stmt)) :
    Walk (Option Stmt) := do
  move 1
  let cond ← condition tape expression
  let yes ← body tape statement
  if ← accept tape "else" then
    let no ← body tape statement
    return some (.ifElse cond yes no line)
  else
    return some (.ifThen cond yes line)

def oneOf (expression : Walk Expr) (statement : Walk (Option Stmt)) (fuel : Nat) :
    Walk (Option Stmt) := do
  match ← peek tape 0 with
  | none => refuse tape .expectedExpression
  | some t =>
    if t.is ";" then
      move 1
      return none
    else if t.is "\x7b" then
      move 1
      let body ← block tape statement fuel
      return some (.block body t.place.line)
    else if t.is "int" || t.is "const" then
      let d ← declaration tape expression
      return some (.decl d)
    else if t.is "if" then branches tape t.place.line expression statement
    else if t.is "while" then
      move 1
      let cond ← condition tape expression
      let again ← body tape statement
      return some (.whileDo cond again t.place.line)
    else
      let e ← expression
      expect tape ";"
      return some (.expr e t.place.line)

def statement : Nat → Walk (Option Stmt)
  | 0 => throw .cutOff
  | fuel + 1 => noted .statement <| oneOf tape (expression tape (fuel + 1)) (statement fuel) fuel

/-- Reads statements until the end comes. -/
def program : Nat → Walk (List Stmt)
  | 0 => throw .cutOff
  | fuel + 1 => do
    match ← peek tape 0 with
    | none => return []
    | some _ =>
      let s ← statement tape (fuel + 1)
      let later ← program fuel
      return s.toList ++ later

end Steps

end Walk

/-- The walk over all tokens of a program, with the trail that it leaves however it ends. -/
def walk (tape : Tokens) (fuel : Nat) : Except WalkError (List Stmt) × Trail :=
  match (Walk.program tape fuel).run {} with
  | .ok p s => (.ok p, s)
  | .error e s => (.error e, s)

end Mailroom.Source
