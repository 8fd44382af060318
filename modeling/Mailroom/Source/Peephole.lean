import Mailroom.Assoc
import Mailroom.Listing.Op

/-!
# Shorter listings

Five passes over a listing, each of which leaves out what makes no difference.  They are run in turn
until nothing more is left out.  A pass that leaves out nothing changes nothing, so a sweep that
does not make the listing shorter has come to rest.

This follows the program's `peephole` and its passes.

- `dropUnreachable`, `dropJumpToNext`, `mergeLabels`, `dropUnusedLabels`, `dropRedundantLoads`: the
  passes.
- `peephole`: all passes until they come to rest.
-/

namespace Mailroom.Peephole

/-- The label that a jump leads to. -/
def jumpTarget? : Op → Option String
  | .instr (.jump _ label) => some label
  | _ => none

/-- Leaves out what stands between a jump that is always taken and the next label.  `dead` says that
such a jump has been passed. -/
def dropUnreachableFrom (dead : Bool) : List Op → List Op
  | [] => []
  | .label name :: rest => .label name :: dropUnreachableFrom false rest
  | .instr (.jump .always label) :: rest =>
    let rest := dropUnreachableFrom true rest
    if dead then rest else .instr (.jump .always label) :: rest
  | op :: rest =>
    let rest := dropUnreachableFrom dead rest
    if dead then rest else op :: rest

/-- Leaves out what stands between a jump that is always taken and the next label. -/
def dropUnreachable (ops : List Op) : List Op :=
  dropUnreachableFrom false ops

/-- The labels that a listing starts with. -/
def leadingLabels : List Op → List String
  | .label name :: rest => name :: leadingLabels rest
  | _ => []

/-- Leaves out jumps that lead to what follows anyway. -/
def dropJumpToNext : List Op → List Op
  | [] => []
  | .instr (.jump .always label) :: rest =>
    if label ∈ leadingLabels rest then dropJumpToNext rest
    else .instr (.jump .always label) :: dropJumpToNext rest
  | op :: rest => op :: dropJumpToNext rest

/-- Leaves out all but the first of labels that stand together.  `first` is the label that the
listing so far ends with. -/
def firstLabels (first : Option String) : List Op → List Op
  | [] => []
  | .label name :: rest =>
    match first with
    | some _ => firstLabels first rest
    | none => .label name :: firstLabels (some name) rest
  | op :: rest => op :: firstLabels none rest

/-- Which labels are left out, each with the one that stands for it. -/
def labelRenames (first : Option String) : List Op → List (String × String)
  | [] => []
  | .label name :: rest =>
    match first with
    | some kept => (name, kept) :: labelRenames first rest
    | none => labelRenames (some name) rest
  | _ :: rest => labelRenames none rest

/-- Makes a jump lead to the label that stands for its own. -/
def retarget (renames : Assoc String String) : Op → Op
  | .instr (.jump kind label) => .instr (.jump kind ((renames.get? label).getD label))
  | op => op

/-- Keeps the first of labels that stand together and makes the jumps lead there. -/
def mergeLabels (ops : List Op) : List Op :=
  (firstLabels none ops).map (retarget (Assoc.ofPairs (labelRenames none ops)))

/-- Leaves out labels to which no jump leads. -/
def dropUnusedLabels (ops : List Op) : List Op :=
  let used := ops.filterMap jumpTarget?
  ops.filter fun
    | .label name => used.contains name
    | _ => true

/-- Leaves out loads of a tile whose value the hand holds already.  `same` are the tiles that are
known to hold what the hand holds. -/
def dropRedundantLoadsFrom (same : List Nat) : List Op → List Op
  | [] => []
  | .instr (.tile .copyFrom ⟨address, false⟩) :: rest =>
    if address ∈ same then dropRedundantLoadsFrom same rest
    else .instr (.tile .copyFrom ⟨address, false⟩) :: dropRedundantLoadsFrom [address] rest
  | op :: rest => op :: dropRedundantLoadsFrom (after op) rest
where
  /-- The tiles that hold what the hand holds after an operation. -/
  after : Op → List Nat
    | .instr (.tile .copyTo tile) => if tile.indirect then same else tile.address :: same
    | .instr (.tile .bumpUp tile) | .instr (.tile .bumpDown tile) =>
      if tile.indirect then [] else [tile.address]
    | .instr (.jump .ifZero _) | .instr (.jump .ifNegative _) => same
    | _ => []

/-- Leaves out loads of a tile whose value the hand holds already. -/
def dropRedundantLoads (ops : List Op) : List Op :=
  dropRedundantLoadsFrom [] ops

/-- All passes, one after the other. -/
def sweep (ops : List Op) : List Op :=
  dropRedundantLoads (dropUnusedLabels (mergeLabels (dropJumpToNext (dropUnreachable ops))))

/-- Sweeps until nothing more is left out. -/
def peephole (ops : List Op) : List Op :=
  if (sweep ops).length < ops.length then peephole (sweep ops) else sweep ops
termination_by ops.length

end Mailroom.Peephole
