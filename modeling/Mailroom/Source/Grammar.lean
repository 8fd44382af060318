import Mailroom.Source.Syntax
import Mailroom.Source.Token

/-!
# From tokens to trees

A recursive descent.  Every part that reads something returns the tokens that are left with the fact
that there are fewer of them, which is what makes the descent end.

    program   = statement*
    statement = ';' | block | declaration | expression ';'
              | 'if' '(' expression ')' statement ['else' statement]
              | 'while' '(' expression ')' statement
    declaration = ['const'] 'int' ['*'] ['const'] NAME ['=' expression] ';'
    expression  = conjunction ('||' conjunction)*
    conjunction = comparison ('&&' comparison)*
    comparison  = additive [('==' | '!=' | '<' | '<=' | '>' | '>=') additive]
    additive    = unary (('+' | '-') unary)*
    unary       = NUMBER | 'true' | 'false' | '(' expression ')' | ('++' | '--') place
                | NAME '(' [expression] ')' | place ['=' expression | '++' | '--']
    place       = ['*'] NAME

This follows the program's `Parser`.  Its recursion is bounded by the stack of whoever runs it; that
is left aside here, where a text may be nested as deep as it likes.

- `expression`, `statement`: the descent.
- `parse`: the program that a text spells, or what is wrong with it.
-/

namespace Mailroom.Source

open Text

/-- What the descent misses. -/
inductive SyntaxFlaw where
  | expected (text : String)
  | expectedName
  | expectedExpression
  | noProducts
  deriving DecidableEq, Repr

/-- The wording of a flaw. -/
def SyntaxFlaw.message : SyntaxFlaw → String
  | .expected text => "expected " ++ quoted text
  | .expectedName => "expected a name"
  | .expectedExpression => "expected an expression"
  | .noProducts => "multiplication and division are not supported"

/-- Why a text spells no program. -/
inductive SourceError where
  | stray (e : StrayChar)
  /-- A flaw at a place, where the given text was found, or the end. -/
  | flawed (flaw : SyntaxFlaw) (place : Place) (found : Option String)
  | numeral (e : Numeral.Error)
  deriving DecidableEq, Repr

/-- The wording of an error. -/
def SourceError.message : SourceError → String
  | .stray e => e.message
  | .flawed flaw place found =>
    place.text ++ ": " ++ flaw.message ++ ", found " ++ quoted (found.getD "end of file")
  | .numeral e => e.message

/-- Fewer tokens than there were. -/
abbrev Rest (ts : List Token) := { rest : List Token // rest.length < ts.length }

/-- No more tokens than there were. -/
abbrev Kept (ts : List Token) := { rest : List Token // rest.length ≤ ts.length }

/-- A token with a fixed text: an operator or a keyword. -/
def Token.is (t : Token) (text : String) : Bool :=
  (t.kind == .op || t.kind == .keyword) && t.text == text

/-- An operator with a fixed text. -/
def Token.isOp (t : Token) (text : String) : Bool :=
  t.kind == .op && t.text == text

/-- The error for a flaw at the next token. -/
def flawAt (stop : Place) (flaw : SyntaxFlaw) : List Token → SourceError
  | [] => .flawed flaw stop none
  | t :: _ => .flawed flaw t.place (some t.text)

/-- The line of the next token. -/
def lineAt (stop : Place) : List Token → Nat
  | [] => stop.line
  | t :: _ => t.place.line

/-- Reads a token with a fixed text. -/
def expect (stop : Place) (text : String) (ts : List Token) : Except SourceError (Rest ts) :=
  match ts with
  | [] => .error (flawAt stop (.expected text) [])
  | t :: rest =>
    if t.is text then .ok ⟨rest, by simp⟩ else .error (flawAt stop (.expected text) (t :: rest))

/-- Reads a token with a fixed text if it comes next, and says whether it did. -/
def accept (text : String) (ts : List Token) : Bool × Kept ts :=
  match ts with
  | [] => (false, ⟨[], Nat.le_refl _⟩)
  | t :: rest =>
    if t.is text then (true, ⟨rest, by simp⟩) else (false, ⟨t :: rest, Nat.le_refl _⟩)

/-- Reads a name. -/
def expectName (stop : Place) (ts : List Token) : Except SourceError (String × Rest ts) :=
  match ts with
  | [] => .error (flawAt stop .expectedName [])
  | t :: rest =>
    if t.kind = .name then .ok (t.text, ⟨rest, by simp⟩)
    else .error (flawAt stop .expectedName (t :: rest))

/-- Reads a variable, or the tile that it points at. -/
def parsePlace (stop : Place) (ts : List Token) : Except SourceError (Var × Rest ts) :=
  match accept "*" ts with
  | (deref, ⟨rest, _⟩) =>
    match expectName stop rest with
    | .error e => .error e
    | .ok (name, ⟨rest, _⟩) => .ok (⟨name, deref, lineAt stop ts⟩, ⟨rest, by omega⟩)

/-- The direction of a bump operator. -/
def Token.bump? (t : Token) : Option Bump :=
  if t.is "++" then some .up else if t.is "--" then some .down else none

/-- The value of a number token. -/
def Token.value (t : Token) : Except SourceError Nat :=
  match Numeral.read .plain t.text.toList with
  | .ok n => .ok n.toNat
  | .error e => .error (.numeral e)

/-! ## Expressions -/

mutual

/-- Reads an expression. -/
def expression (stop : Place) (ts : List Token) : Except SourceError (Expr × Rest ts) :=
  match conjunction stop ts with
  | .error e => .error e
  | .ok (first, ⟨rest, _⟩) =>
    match disjuncts stop rest with
    | .error e => .error e
    | .ok (others, ⟨rest, _⟩) =>
      .ok (.join .or (lineAt stop ts) first others, ⟨rest, by omega⟩)
termination_by (ts.length, 4)

/-- Reads the parts of a disjunction after the first one. -/
def disjuncts (stop : Place) (ts : List Token) : Except SourceError (List Expr × Kept ts) :=
  match ts with
  | [] => .ok ([], ⟨[], Nat.le_refl _⟩)
  | t :: tail =>
    if t.is "||" then
      match conjunction stop tail with
      | .error e => .error e
      | .ok (e, ⟨rest, _⟩) =>
        match disjuncts stop rest with
        | .error e => .error e
        | .ok (others, ⟨rest, _⟩) =>
          .ok (e :: others, ⟨rest, by simp only [List.length_cons]; omega⟩)
    else .ok ([], ⟨t :: tail, Nat.le_refl _⟩)
termination_by (ts.length, 0)
decreasing_by
  all_goals apply Prod.Lex.left; simp only [List.length_cons]; omega

/-- Reads conditions of which all have to hold. -/
def conjunction (stop : Place) (ts : List Token) : Except SourceError (Expr × Rest ts) :=
  match comparison stop ts with
  | .error e => .error e
  | .ok (first, ⟨rest, _⟩) =>
    match conjuncts stop rest with
    | .error e => .error e
    | .ok (others, ⟨rest, _⟩) =>
      .ok (.join .and (lineAt stop ts) first others, ⟨rest, by omega⟩)
termination_by (ts.length, 3)

/-- Reads the parts of a conjunction after the first one. -/
def conjuncts (stop : Place) (ts : List Token) : Except SourceError (List Expr × Kept ts) :=
  match ts with
  | [] => .ok ([], ⟨[], Nat.le_refl _⟩)
  | t :: tail =>
    if t.is "&&" then
      match comparison stop tail with
      | .error e => .error e
      | .ok (e, ⟨rest, _⟩) =>
        match conjuncts stop rest with
        | .error e => .error e
        | .ok (others, ⟨rest, _⟩) =>
          .ok (e :: others, ⟨rest, by simp only [List.length_cons]; omega⟩)
    else .ok ([], ⟨t :: tail, Nat.le_refl _⟩)
termination_by (ts.length, 0)
decreasing_by
  all_goals apply Prod.Lex.left; simp only [List.length_cons]; omega

/-- Reads a comparison, or a single side of one. -/
def comparison (stop : Place) (ts : List Token) : Except SourceError (Expr × Rest ts) :=
  match additive stop ts with
  | .error e => .error e
  | .ok (left, ⟨[], _⟩) => .ok (left, ⟨[], by simp only [List.length_nil] at *; omega⟩)
  | .ok (left, ⟨t :: tail, _⟩) =>
    match if t.kind = .op then Comparison.ofText? t.text else none with
    | none => .ok (left, ⟨t :: tail, by omega⟩)
    | some op =>
      match additive stop tail with
      | .error e => .error e
      | .ok (right, ⟨rest, _⟩) =>
        .ok (.compare op left right t.place.line,
          ⟨rest, by simp only [List.length_cons] at *; omega⟩)
termination_by (ts.length, 2)
decreasing_by
  · exact Prod.Lex.right _ (by decide)
  · apply Prod.Lex.left; simp only [List.length_cons] at *; omega

/-- Reads a sum. -/
def additive (stop : Place) (ts : List Token) : Except SourceError (Expr × Rest ts) :=
  match unary stop ts with
  | .error e => .error e
  | .ok (first, ⟨rest, _⟩) =>
    match addends stop first rest with
    | .error e => .error e
    | .ok (e, ⟨rest, _⟩) => .ok (e, ⟨rest, by omega⟩)
termination_by (ts.length, 1)

/-- Reads the parts of a sum after the first one, which is `left`. -/
def addends (stop : Place) (left : Expr) (ts : List Token) : Except SourceError (Expr × Kept ts) :=
  match ts with
  | [] => .ok (left, ⟨[], Nat.le_refl _⟩)
  | t :: tail =>
    match if t.isOp "+" then some SumOp.plus else if t.isOp "-" then some SumOp.minus else none with
    | some op =>
      match unary stop tail with
      | .error e => .error e
      | .ok (right, ⟨rest, _⟩) =>
        match addends stop (.sum op left right t.place.line) rest with
        | .error e => .error e
        | .ok (e, ⟨rest, _⟩) => .ok (e, ⟨rest, by simp only [List.length_cons]; omega⟩)
    | none =>
      if t.isOp "*" || t.isOp "/" || t.isOp "%" then .error (flawAt stop .noProducts (t :: tail))
      else .ok (left, ⟨t :: tail, Nat.le_refl _⟩)
termination_by (ts.length, 0)
decreasing_by
  all_goals apply Prod.Lex.left; simp only [List.length_cons]; omega

/-- Reads an operand. -/
def unary (stop : Place) (ts : List Token) : Except SourceError (Expr × Rest ts) :=
  match ts with
  | [] => .error (flawAt stop .expectedExpression [])
  | t :: tail =>
    let line := t.place.line
    if t.kind = .number then
      match t.value with
      | .error e => .error e
      | .ok n => .ok (.num n line, ⟨tail, by simp⟩)
    else if t.is "true" then .ok (.bool true line, ⟨tail, by simp⟩)
    else if t.is "false" then .ok (.bool false line, ⟨tail, by simp⟩)
    else if t.is "(" then
      match expression stop tail with
      | .error e => .error e
      | .ok (inner, ⟨rest, _⟩) =>
        match expect stop ")" rest with
        | .error e => .error e
        | .ok ⟨rest, _⟩ => .ok (inner, ⟨rest, by simp only [List.length_cons]; omega⟩)
    else if t.kind = .name ∧ tail.head?.any (·.is "(") then
      have : tail.tail.length ≤ tail.length := by simp
      if tail.tail.head?.any (·.is ")") then
        .ok (.call t.text line,
          ⟨tail.tail.tail, by simp only [List.length_cons, List.length_tail]; omega⟩)
      else
        match expression stop tail.tail with
        | .error e => .error e
        | .ok (arg, ⟨rest, _⟩) =>
          match expect stop ")" rest with
          | .error e => .error e
          | .ok ⟨rest, _⟩ =>
            .ok (.callWith t.text arg line, ⟨rest, by simp only [List.length_cons]; omega⟩)
    else
      match t.bump? with
      | some direction =>
        match parsePlace stop tail with
        | .error e => .error e
        | .ok (target, ⟨rest, _⟩) =>
          .ok (.bump target direction false line, ⟨rest, by simp only [List.length_cons]; omega⟩)
      | none =>
        if t.kind = .name ∨ t.is "*" then
          match parsePlace stop (t :: tail) with
          | .error e => .error e
          | .ok (target, ⟨[], h⟩) => .ok (.var target, ⟨[], h⟩)
          | .ok (target, ⟨u :: rest, h⟩) =>
            if u.is "=" then
              match expression stop rest with
              | .error e => .error e
              | .ok (value, ⟨rest, _⟩) =>
                .ok (.assign target value line, ⟨rest, by simp only [List.length_cons] at *; omega⟩)
            else
              match u.bump? with
              | some direction =>
                .ok (.bump target direction true line,
                  ⟨rest, by simp only [List.length_cons] at *; omega⟩)
              | none => .ok (.var target, ⟨u :: rest, h⟩)
        else .error (flawAt stop .expectedExpression (t :: tail))
termination_by (ts.length, 0)
decreasing_by
  all_goals apply Prod.Lex.left; simp only [List.length_cons] at *; omega

end

/-! ## Statements -/

/-- Reads a declaration. -/
def declaration (stop : Place) (ts : List Token) : Except SourceError (Decl × Rest ts) :=
  match accept "const" ts with
  | (constant, ⟨rest, _⟩) =>
    match expect stop "int" rest with
    | .error e => .error e
    | .ok ⟨rest, _⟩ =>
      match accept "*" rest with
      | (pointer, ⟨rest, _⟩) =>
        match accept "const" rest with
        | (constantToo, ⟨rest, _⟩) =>
          match expectName stop rest with
          | .error e => .error e
          | .ok (name, ⟨rest, _⟩) =>
            match initializer rest with
            | .error e => .error e
            | .ok (init, ⟨rest, _⟩) =>
              match expect stop ";" rest with
              | .error e => .error e
              | .ok ⟨rest, _⟩ =>
                .ok (⟨name, pointer, constant || constantToo, init, lineAt stop ts⟩,
                  ⟨rest, by omega⟩)
where
  /-- Reads the value that a variable starts with, if one is given. -/
  initializer (ts : List Token) : Except SourceError (Option Expr × Kept ts) :=
    match accept "=" ts with
    | (false, kept) => .ok (none, kept)
    | (true, ⟨rest, _⟩) =>
      match expression stop rest with
      | .error e => .error e
      | .ok (e, ⟨rest, _⟩) => .ok (some e, ⟨rest, by omega⟩)

/-- Reads a condition in parentheses. -/
def condition (stop : Place) (ts : List Token) : Except SourceError (Expr × Rest ts) :=
  match expect stop "(" ts with
  | .error e => .error e
  | .ok ⟨rest, _⟩ =>
    match expression stop rest with
    | .error e => .error e
    | .ok (cond, ⟨rest, _⟩) =>
      match expect stop ")" rest with
      | .error e => .error e
      | .ok ⟨rest, _⟩ => .ok (cond, ⟨rest, by omega⟩)

mutual

/-- Reads a statement; an empty one leaves nothing. -/
def statement (stop : Place) (ts : List Token) : Except SourceError (Option Stmt × Rest ts) :=
  match ts with
  | [] => .error (flawAt stop .expectedExpression [])
  | t :: tail =>
    let line := t.place.line
    if t.is ";" then .ok (none, ⟨tail, by simp⟩)
    else if t.is "\x7b" then
      match blockBody stop tail with
      | .error e => .error e
      | .ok (body, ⟨rest, _⟩) =>
        .ok (some (.block body line), ⟨rest, by simp only [List.length_cons]; omega⟩)
    else if t.is "int" || t.is "const" then
      match declaration stop (t :: tail) with
      | .error e => .error e
      | .ok (d, rest) => .ok (some (.decl d), rest)
    else if t.is "if" then
      match condition stop tail with
      | .error e => .error e
      | .ok (cond, ⟨rest, _⟩) =>
        match body stop rest with
        | .error e => .error e
        | .ok (yes, ⟨rest, _⟩) =>
          match accept "else" rest with
          | (false, ⟨rest, _⟩) =>
            .ok (some (.ifThen cond yes line), ⟨rest, by simp only [List.length_cons]; omega⟩)
          | (true, ⟨rest, _⟩) =>
            match body stop rest with
            | .error e => .error e
            | .ok (no, ⟨rest, _⟩) =>
              .ok (some (.ifElse cond yes no line), ⟨rest, by simp only [List.length_cons]; omega⟩)
    else if t.is "while" then
      match condition stop tail with
      | .error e => .error e
      | .ok (cond, ⟨rest, _⟩) =>
        match body stop rest with
        | .error e => .error e
        | .ok (again, ⟨rest, _⟩) =>
          .ok (some (.whileDo cond again line), ⟨rest, by simp only [List.length_cons]; omega⟩)
    else
      match expression stop (t :: tail) with
      | .error e => .error e
      | .ok (e, ⟨rest, _⟩) =>
        match expect stop ";" rest with
        | .error e => .error e
        | .ok ⟨rest, _⟩ => .ok (some (.expr e line), ⟨rest, by omega⟩)
termination_by (ts.length, 0)
decreasing_by
  all_goals apply Prod.Lex.left; simp only [List.length_cons] at *; omega

/-- Reads the statement that a branch or a loop governs.  In place of an empty one there is an empty
block, with the line of what follows. -/
def body (stop : Place) (ts : List Token) : Except SourceError (Stmt × Rest ts) :=
  match statement stop ts with
  | .error e => .error e
  | .ok (some s, rest) => .ok (s, rest)
  | .ok (none, ⟨rest, h⟩) => .ok (.block [] (lineAt stop rest), ⟨rest, h⟩)
termination_by (ts.length, 1)

/-- Reads statements up to the brace that closes their block. -/
def blockBody (stop : Place) (ts : List Token) : Except SourceError (List Stmt × Rest ts) :=
  match ts with
  | [] => .error (flawAt stop (.expected "\x7d") [])
  | t :: tail =>
    if t.is "\x7d" then .ok ([], ⟨tail, by simp⟩)
    else
      match statement stop (t :: tail) with
      | .error e => .error e
      | .ok (s, ⟨rest, _⟩) =>
        match blockBody stop rest with
        | .error e => .error e
        | .ok (later, ⟨rest, _⟩) => .ok (s.toList ++ later, ⟨rest, by omega⟩)
termination_by (ts.length, 1)

end

/-- Reads statements up to the end. -/
def program (stop : Place) (ts : List Token) : Except SourceError (List Stmt) :=
  match ts with
  | [] => .ok []
  | t :: tail =>
    match statement stop (t :: tail) with
    | .error e => .error e
    | .ok (s, ⟨rest, _⟩) =>
      match program stop rest with
      | .error e => .error e
      | .ok later => .ok (s.toList ++ later)
termination_by ts.length
decreasing_by assumption

/-- The program that a text spells. -/
def parse (text : List Char) : Except SourceError (List Stmt) :=
  match tokenize text with
  | .error e => .error (.stray e)
  | .ok ⟨tokens, stop⟩ => program stop tokens

end Mailroom.Source
