import Mailroom.Text.Numeral

/-!
# The instructions of the mailroom machine

A listing is made of blank lines, labels and instructions.  An instruction takes nothing, a tile of
the floor or a label.  A tile operand in brackets means the tile whose address lies on the named
tile.

These are the operations that the program's listing parser returns, and its `format_op`.

- `Instr`: an instruction.
- `Op`: what a line of a listing holds.
- `Op.text`: its canonical spelling.
-/

namespace Mailroom

open Text

/-- What an instruction does with a tile. -/
inductive TileOp where
  | copyFrom
  | copyTo
  | add
  | sub
  | bumpUp
  | bumpDown
  deriving DecidableEq, Repr

/-- When a jump is taken. -/
inductive JumpKind where
  | always
  | ifZero
  | ifNegative
  deriving DecidableEq, Repr

/-- A tile operand: the tile at an address, or the tile whose address lies there. -/
structure Tile where
  address : Nat
  indirect : Bool
  deriving DecidableEq, Repr

/-- An instruction. -/
inductive Instr where
  | inbox
  | outbox
  | tile (op : TileOp) (tile : Tile)
  | jump (kind : JumpKind) (label : String)
  deriving DecidableEq, Repr

/-- What a line of a listing holds. -/
inductive Op where
  /-- Nothing. -/
  | blank
  /-- The name of the place where it stands. -/
  | label (name : String)
  | instr (i : Instr)
  deriving DecidableEq, Repr

/-- The word for an instruction on a tile. -/
def TileOp.mnemonic : TileOp → String
  | .copyFrom => "COPYFROM"
  | .copyTo => "COPYTO"
  | .add => "ADD"
  | .sub => "SUB"
  | .bumpUp => "BUMPUP"
  | .bumpDown => "BUMPDN"

/-- The word for a jump. -/
def JumpKind.mnemonic : JumpKind → String
  | .always => "JUMP"
  | .ifZero => "JUMPZ"
  | .ifNegative => "JUMPN"

/-- The word that an instruction starts with. -/
def Instr.mnemonic : Instr → String
  | .inbox => "INBOX"
  | .outbox => "OUTBOX"
  | .tile op _ => op.mnemonic
  | .jump kind _ => kind.mnemonic

/-- A tile operand as it is written. -/
def tileText (address : Int) (indirect : Bool) : String :=
  if indirect then "[" ++ Numeral.text address ++ "]" else Numeral.text address

/-- A word with its operand. -/
def spelled (mnemonic operand : String) : String :=
  mnemonic ++ " " ++ operand

/-- A label as it is written. -/
def labelText (name : String) : String :=
  name ++ ":"

/-- The canonical spelling of an instruction. -/
def Instr.text (i : Instr) : String :=
  match i with
  | .inbox | .outbox => i.mnemonic
  | .tile _ t => spelled i.mnemonic (tileText t.address t.indirect)
  | .jump _ label => spelled i.mnemonic label

/-- The canonical spelling of what a line holds. -/
def Op.text : Op → String
  | .blank => "NOP"
  | .label name => labelText name
  | .instr i => i.text

/-- Whether an instruction can be written within the limit on digits. -/
def Instr.fits : Instr → Bool
  | .tile _ t => Numeral.fits t.address
  | _ => true

/-- Whether what a line holds can be written, judged by the digits that would be written. -/
def Op.writable : Op → Bool
  | .instr (.tile _ t) => (Nat.toDigits 10 t.address).length ≤ Numeral.digitLimit
  | _ => true

/-- What a line holds, taken apart into a word and its operands. -/
def Op.parts : Op → String
  | .blank => "(\x27NOP\x27, ())"
  | .label name => "(\x27LABEL\x27, (" ++ quoted name ++ ",))"
  | .instr (.tile op t) =>
    "(" ++ quoted op.mnemonic ++ ", (" ++ Numeral.natText t.address ++ ", "
      ++ (if t.indirect then "True" else "False") ++ "))"
  | .instr (.jump kind target) => "(" ++ quoted kind.mnemonic ++ ", (" ++ quoted target ++ ",))"
  | .instr i => "(" ++ quoted i.mnemonic ++ ", ())"

end Mailroom
