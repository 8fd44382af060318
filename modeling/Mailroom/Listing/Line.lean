import Mailroom.Listing.Op
import Mailroom.Text.Blank
import Mailroom.Text.Case
import Mailroom.Text.Search

/-!
# Lines of a listing

A line may end in a comment, which `--`, `#` or `;` starts.  What is left is nothing, a label, which
is a name with a colon behind it, or an instruction, whose word may be written in any mix of capital
and small letters.

This follows the program's `strip_comment`, `label_name`, `parse_line` and `parse_program`, with
`ParseError`.

- `stripComment`: a line without its comment and the blanks around.
- `labelName?`: the label that a line holds.
- `parseLine`: what a line holds, or what is wrong with it.
- `parseProgram`: what the lines of a listing hold.
-/

namespace Mailroom

open Text

/-- Why a tile operand cannot be read. -/
inductive TileError where
  | numeral (e : Numeral.Error)
  | negative (address : Int)
  deriving DecidableEq, Repr

/-- The wording of an error in a tile operand. -/
def TileError.message : TileError → String
  | .numeral e => e.message
  | .negative address =>
    match Numeral.text? address with
    | .ok digits => "negative tile address " ++ digits
    | .error e => e.message

/-- What is wrong with a line. -/
inductive LineFlaw where
  | malformedLabel
  | takesNoOperand (mnemonic : String)
  | needsTile (mnemonic : String)
  | badTile (e : TileError)
  | needsLabel (mnemonic : String)
  | unknownInstruction (word : String)
  deriving DecidableEq, Repr

/-- The wording of a flaw. -/
def LineFlaw.message : LineFlaw → String
  | .malformedLabel => "malformed label"
  | .takesNoOperand mnemonic => mnemonic ++ " takes no operand"
  | .needsTile mnemonic => mnemonic ++ " needs one tile operand"
  | .badTile e => "bad tile operand: " ++ e.message
  | .needsLabel mnemonic => mnemonic ++ " needs one label"
  | .unknownInstruction word => "unknown instruction " ++ quoted word

/-- A flaw with the line it is in, and the line's number if it has one. -/
structure LineError where
  flaw : LineFlaw
  number : Option Int
  line : String
  deriving DecidableEq, Repr

/-- The wording of an error: the line's number, the flaw and the line itself, unless it is blank. -/
def LineError.message (e : LineError) : String :=
  let place := match e.number with
    | some n => "line " ++ Numeral.text n ++ ": "
    | none => ""
  let shown := trim e.line.toList
  place ++ e.flaw.message
    ++ (if shown.isEmpty then "" else " (" ++ String.ofList (quote shown) ++ ")")

/-- A line without its comment and without the blanks around. -/
def stripComment (line : List Char) : List Char :=
  trim (before [';'] (before ['#'] (before ['-', '-'] line)))

/-- The name of a text that ends with its only colon. -/
def labelOf? (cs : List Char) : Option (List Char) :=
  if cs.getLast? = some ':' ∧ ':' ∉ cs.dropLast then
    let name := trim cs.dropLast
    if name.isEmpty then none else some name
  else none

/-- The label of a line that holds nothing else. -/
def labelName? (line : List Char) : Option (List Char) :=
  labelOf? (stripComment line)

/-- The words for instructions, with the other spellings that are allowed, and an instruction of
each kind with its operand left open. -/
inductive Mnemonic where
  | inbox
  | outbox
  | tile (op : TileOp)
  | jump (kind : JumpKind)
  deriving DecidableEq, Repr

/-- Every spelling of every word. -/
def mnemonics : List (String × Mnemonic) :=
  [("INBOX", .inbox), ("OUTBOX", .outbox),
    ("COPYFROM", .tile .copyFrom), ("COPYTO", .tile .copyTo),
    ("ADD", .tile .add), ("SUB", .tile .sub),
    ("BUMPUP", .tile .bumpUp), ("BUMPDN", .tile .bumpDown),
    ("JUMP", .jump .always), ("JUMPZ", .jump .ifZero), ("JUMPN", .jump .ifNegative),
    ("JUMPLZ", .jump .ifNegative), ("JUMPNEG", .jump .ifNegative),
    ("BUMP+", .tile .bumpUp), ("BUMP-", .tile .bumpDown)]

/-- The word meant by a spelling in any mix of capital and small letters. -/
def mnemonic? (word : List Char) : Option Mnemonic :=
  mnemonics.lookup (String.ofList (upper word))

/-- A tile operand: a numeral, or a numeral in brackets. -/
def parseTile (operand : List Char) : Except TileError Tile :=
  let indirect := operand.head? = some '[' ∧ operand.getLast? = some ']'
  let digits := if indirect then trim operand.tail.dropLast else operand
  match Numeral.read .tagged digits with
  | .error e => .error (.numeral e)
  | .ok address =>
    if address < 0 then .error (.negative address) else .ok ⟨address.toNat, indirect⟩

/-- An instruction, given its word and its operands. -/
def parseInstr (word : List Char) (operands : List (List Char)) : Except LineFlaw Instr :=
  match mnemonic? word, operands with
  | none, _ => .error (.unknownInstruction (String.ofList word))
  | some .inbox, [] => .ok .inbox
  | some .outbox, [] => .ok .outbox
  | some .inbox, _ => .error (.takesNoOperand "INBOX")
  | some .outbox, _ => .error (.takesNoOperand "OUTBOX")
  | some (.tile op), [operand] =>
    match parseTile operand with
    | .error e => .error (.badTile e)
    | .ok t => .ok (.tile op t)
  | some (.tile op), _ => .error (.needsTile op.mnemonic)
  | some (.jump kind), [operand] => .ok (.jump kind (String.ofList operand))
  | some (.jump kind), _ => .error (.needsLabel kind.mnemonic)

/-- What a text without comment holds. -/
def parseStripped (cs : List Char) : Except LineFlaw Op :=
  match words cs with
  | [] => .ok .blank
  | word :: operands =>
    match labelName? cs with
    | some name => .ok (.label (String.ofList name))
    | none =>
      if cs.getLast? = some ':' then .error .malformedLabel
      else (parseInstr word operands).map .instr

/-- What a line holds. -/
def parseLine (number : Option Int) (line : String) : Except LineError Op :=
  match parseStripped (stripComment line.toList) with
  | .ok op => .ok op
  | .error flaw => .error ⟨flaw, number, line⟩

/-- What lines hold, the first of which has the given number. -/
def parseFrom (number : Nat) : List String → Except LineError (List Op)
  | [] => .ok []
  | line :: rest =>
    match parseLine (some number) line with
    | .error e => .error e
    | .ok op => (parseFrom (number + 1) rest).map (op :: ·)

/-- What the lines of a listing hold, up to the first line with a flaw. -/
def parseProgram (lines : List String) : Except LineError (List Op) :=
  parseFrom 1 lines

/-- The line of a trace for a line that holds an instruction. -/
def parseTrace? (line : String) : Except Numeral.Error (Option String) :=
  let cs := stripComment line.toList
  match parseStripped cs with
  | .ok (.instr i) =>
    if i.fits then
      .ok (some ("[PARSE] " ++ String.ofList (quote cs) ++ " -> [" ++ (Op.instr i).parts ++ "]"))
    else .error .unwritable
  | _ => .ok none

end Mailroom
