import Mailroom.Assoc
import Mailroom.Listing.Line

/-!
# Listings loaded for a run

Only instructions take an address.  A label stands for the address of the next instruction, and the
first line with a label decides.

This follows the program's `ProgramMemory`, and `build_listing` for the listing with addresses.

- `Program`: a loaded listing.
- `Program.load`: loading, which on a flawed line keeps what the lines before it gave.
- `Program.fetch?`, `Program.address?`: what a run asks for.
-/

namespace Mailroom

open Text

/-- An instruction with the line it stands on. -/
structure Row where
  line : String
  number : Nat
  instr : Instr
  deriving DecidableEq, Repr

/-- A loaded listing: its lines, its instructions by address and its labels. -/
structure Program where
  lines : List String := []
  rows : Array Row := #[]
  labels : Assoc String Nat := []
  deriving Repr

namespace Program

/-- How many instructions there are. -/
def size (p : Program) : Nat :=
  p.rows.size

/-- The instruction at an address. -/
def fetch? (p : Program) (address : Nat) : Option Row :=
  p.rows[address]?

/-- The address that a label stands for. -/
def address? (p : Program) (label : String) : Option Nat :=
  p.labels.get? label

/-- What a line with the given number adds.  Labels and blank lines are told first, and what is left
is read as an instruction.  So the last case, in which it is read as a label or a blank line after
all, never comes up, as `addLine_eq` shows. -/
def addLine (p : Program) (number : Nat) (line : String) : Except LineError Program :=
  match labelName? line.toList with
  | some name => .ok { p with labels := p.labels.putNew (String.ofList name) p.size }
  | none =>
    match stripComment line.toList with
    | [] => .ok p
    | _ :: _ =>
      match parseLine (some number) line with
      | .error e => .error e
      | .ok (.instr i) => .ok { p with rows := p.rows.push ⟨line, number, i⟩ }
      | .ok _ => .ok p

/-- What lines add, the first of which has the given number, and the flaw that ends it. -/
def addLines (p : Program) (number : Nat) : List String → Program × Option LineError
  | [] => (p, none)
  | line :: rest =>
    match p.addLine number line with
    | .error e => (p, some e)
    | .ok p => p.addLines (number + 1) rest

/-- A line without the characters of a line end behind it. -/
def dropLineEnd (line : String) : String :=
  String.ofList (dropEndWhile (fun c => c == '\n' || c == '\r') line.toList)

/-- A listing loaded line by line, and the flaw that ends it. -/
def load (lines : List String) : Program × Option LineError :=
  let lines := lines.map dropLineEnd
  ({ lines } : Program).addLines 1 lines

end Program

/-! ## A listing with addresses -/

namespace Program

/-- The comment of a line, after the mark that it is kept with. -/
def note (line : String) : String :=
  match after? ['-', '-'] line.toList with
  | none => ""
  | some comment => "-- " ++ String.ofList (trim comment)

/-- An address in at least two digits. -/
def addressText (address : Nat) : String :=
  String.ofList (padStart 2 '0' (Nat.toDigits 10 address))

/-- The row of an instruction: its address, its canonical spelling and its comment. -/
def instrRow (address : Nat) (row : Row) : String :=
  let text := "  " ++ addressText address ++ "  "
    ++ String.ofList (padEnd 16 ' ' row.instr.text.toList) ++ " " ++ note row.line
  String.ofList (dropEndWhile isBlank text.toList)

/-- The rows of the labels that stand for an address.  Looking through all labels for each address
comes to the same as grouping them by address once, because a group keeps their order. -/
def labelRows (p : Program) (address : Nat) : List String :=
  (p.labels.filter (·.2 = address)).map fun (name, _) => labelText name

/-- The rows from an address on. -/
def rowsFrom (p : Program) (address : Nat) : List Row → List String
  | [] => p.labelRows address
  | row :: rest => p.labelRows address ++ instrRow address row :: p.rowsFrom (address + 1) rest

/-- The listing with an address in front of every instruction, and every label in front of the
instruction that it stands for. -/
def printout (p : Program) : List String :=
  p.rowsFrom 0 p.rows.toList

end Program

/-- Why a listing cannot be printed. -/
inductive ListingError where
  | line (e : LineError)
  | numeral (e : Numeral.Error)
  deriving DecidableEq, Repr

/-- The rows of a listing with addresses, within the limit on digits. -/
def printout (lines : List String) : Except ListingError (List String) :=
  match Program.load lines with
  | (_, some e) => .error (.line e)
  | (p, none) =>
    if p.rows.all (·.instr.fits) then .ok p.printout else .error (.numeral .unwritable)

end Mailroom
