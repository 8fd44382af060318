import Mailroom.Text.Digit
import Mailroom.Text.Numeral
import Mailroom.Text.Word

/-!
# Tokens of the source language

A text is cut into tokens from left to right.  Between tokens there may be blanks, line ends and
comments, which run from two slashes to the end of the line or from `/*` to the next `*/`.  A `/*`
that is never closed starts no comment.

This follows the program's `tokenize`.

- `Token`: a piece of text with its kind and its place.
- `lexeme`: what starts at a place of the text.
- `tokenize`: all tokens of a text, or the first character that starts none.
-/

namespace Mailroom.Source

open Text

/-- A line and a column, both counted from one. -/
structure Place where
  line : Nat
  column : Nat
  deriving DecidableEq, Repr

/-- The place after one more character. -/
def Place.advance (p : Place) (c : Char) : Place :=
  if c = '\n' then ⟨p.line + 1, 1⟩ else ⟨p.line, p.column + 1⟩

/-- The start of a text. -/
def Place.start : Place := ⟨1, 1⟩

/-- A place as messages give it. -/
def Place.text (p : Place) : String :=
  "line " ++ Numeral.natText p.line ++ ":" ++ Numeral.natText p.column

/-- The kinds of tokens. -/
inductive TokenKind where
  | number
  | name
  | keyword
  | op
  deriving DecidableEq, Repr

/-- A piece of text with its kind and its place. -/
structure Token where
  kind : TokenKind
  text : String
  place : Place
  deriving DecidableEq, Repr

/-- The names that are no names. -/
def keywords : List String :=
  ["int", "const", "if", "else", "while", "true", "false"]

/-- The operators of two characters, which win over those of one. -/
def longOperators : List (Char × Char) :=
  [('+', '+'), ('-', '-'), ('=', '='), ('!', '='), ('<', '='), ('>', '='), ('&', '&'), ('|', '|')]

/-- The operators of one character. -/
def shortOperators : List Char :=
  ['-', '+', '*', '/', '%', '=', '<', '>', '(', ')', '\x7b', '\x7d', ';']

/-- What starts at a place of the text. -/
inductive Lexeme where
  /-- Blanks, a line end or a comment of so many characters. -/
  | gap (size : Nat)
  /-- A token of so many characters. -/
  | token (kind : TokenKind) (size : Nat)
  /-- Nothing that the language knows. -/
  | unknown
  deriving DecidableEq, Repr

/-- A name starts with an ASCII letter or an underscore. -/
def isNameStart (c : Char) : Bool :=
  c.isAlpha || c == '_'

/-- How many characters there are up to the end of a block comment, given what follows its start. -/
def commentSize? : List Char → Option Nat
  | [] => none
  | c :: cs =>
    if c = '*' ∧ cs.head? = some '/' then some 2
    else (commentSize? cs).map (· + 1)

/-- The comment that starts with `c`. -/
def comment? (c : Char) (cs : List Char) : Option Nat :=
  if c = '/' then
    match cs with
    | '/' :: rest => some (2 + (rest.takeWhile (· ≠ '\n')).length)
    | '*' :: rest => (commentSize? rest).map (· + 2)
    | _ => none
  else none

/-- What starts with `c`. -/
def lexeme (c : Char) (cs : List Char) : Lexeme :=
  match comment? c cs with
  | some size => .gap size
  | none =>
    if isDecimalDigit c then .token .number (1 + (cs.takeWhile isDecimalDigit).length)
    else if isNameStart c then
      let tail := cs.takeWhile isWordChar
      let kind := if keywords.contains (String.ofList (c :: tail)) then TokenKind.keyword else .name
      .token kind (1 + tail.length)
    else if cs.head?.any (fun d => longOperators.contains (c, d)) then .token .op 2
    else if shortOperators.contains c then .token .op 1
    else if c = '\n' ∨ c = ' ' ∨ c = '\t' ∨ c = '\r' then .gap 1
    else .unknown

/-- A character at which no token, blank or comment starts. -/
structure StrayChar where
  place : Place
  char : Char
  deriving DecidableEq, Repr

/-- The wording for a stray character. -/
def StrayChar.message (e : StrayChar) : String :=
  e.place.text ++ ": unexpected character " ++ String.ofList (quote [e.char])

/-- The tokens of a text, and the place where it ends. -/
structure Tokens where
  tokens : List Token
  stop : Place
  deriving DecidableEq, Repr

/-- The tokens from a place on.  The first `skip` characters belong to a lexeme that has been read.

The place moves on with every character, so it is always `Place.behind` what has been read.  That is
the closed form of a line number and a line start that are brought up to date lexeme by lexeme, as
only line ends and comments hold a line feed. -/
def tokensFrom (place : Place) (skip : Nat) : List Char → Except StrayChar Tokens
  | [] => .ok ⟨[], place⟩
  | c :: cs =>
    match skip with
    | k + 1 => tokensFrom (place.advance c) k cs
    | 0 =>
      match lexeme c cs with
      | .unknown => .error ⟨place, c⟩
      | .gap size => tokensFrom (place.advance c) (size - 1) cs
      | .token kind size =>
        (tokensFrom (place.advance c) (size - 1) cs).map fun later =>
          { later with
            tokens := ⟨kind, String.ofList ((c :: cs).take size), place⟩ :: later.tokens }

/-- The tokens of a text. -/
def tokenize (text : List Char) : Except StrayChar Tokens :=
  tokensFrom .start 0 text

end Mailroom.Source
