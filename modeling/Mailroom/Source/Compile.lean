import Mailroom.Source.Grammar
import Mailroom.Source.Lowering
import Mailroom.Source.Peephole

/-!
# From a text to a listing

This follows the program's `compile_source` and `render`.

- `compile`: the listing for a program text, with the instructions that were found on the way.
- `render`: how a listing is set.
-/

namespace Mailroom.Source

open Text

/-- Why there is no listing for a text. -/
inductive CompileError where
  | source (e : SourceError)
  | rejected (diagnostics : List Diagnostic)
  | lowering (e : LoweringError)
  /-- A complaint or a line of the listing would hold an integer with too many digits. -/
  | numeral (e : Numeral.Error)
  deriving DecidableEq, Repr

/-- Labels stand at the margin and all else four blanks to the right. -/
def renderOp : Op → String
  | .label name => labelText name
  | op => "    " ++ op.text

/-- The lines of a listing. -/
def render (ops : List Op) : List String :=
  ops.map renderOp

/-- The lines of a listing, within the limit on digits. -/
def render? (ops : List Op) : Except CompileError (List String) :=
  if ops.all Op.writable then .ok (render ops) else .error (.numeral .unwritable)

/-- How a text is turned into a listing. -/
structure CompileOptions where
  floorSize : Int := 100
  optimize : Bool := true

/-- The instructions that were found, and the listing unless something is wrong. -/
structure Compilation where
  emitted : List Op
  outcome : Except CompileError (List String)

/-- A line about an instruction that was found. -/
def emittedLine (op : Op) : String :=
  "[CGEN] " ++ op.text

/-- The listing for a program text. -/
def compile (options : CompileOptions) (text : List Char) : Compilation :=
  match parse text with
  | .error e => ⟨[], .error (.source e)⟩
  | .ok program =>
    match check options.floorSize program with
    | ⟨symbols, []⟩ =>
      match lower options.floorSize symbols program with
      | (some e, s) => ⟨s.ops, .error (.lowering e)⟩
      | (none, s) =>
        ⟨s.ops, render? (if options.optimize then Peephole.peephole s.ops else s.ops)⟩
    | ⟨_, diagnostics⟩ =>
      if diagnostics.all (·.complaint.fits) then ⟨[], .error (.rejected diagnostics)⟩
      else ⟨[], .error (.numeral .unwritable)⟩

end Mailroom.Source
