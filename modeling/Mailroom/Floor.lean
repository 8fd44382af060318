import Mailroom.Text.Numeral

/-!
# The floor

The floor has tiles with the addresses from zero on, each holding an integer, at first zero.  A
floor may have been given a negative size: then it has no tiles, and reports that size.

This follows the program's `DataMemory` and `FloorError`.

- `Floor.get`, `Floor.set`: one tile.
- `Floor.resolve`: the tile that an operand means.
- `Floor.ofPresets`: a floor with some tiles set.
- `Floor.lay`: the same, if there is room for it.
-/

namespace Mailroom

open Text

/-- An address without a tile. -/
structure FloorError where
  address : Int
  size : Int
  deriving DecidableEq, Repr

/-- The wording of an error. -/
def FloorError.message (e : FloorError) : String :=
  "tile " ++ Numeral.text e.address ++ " is off the floor (size " ++ Numeral.text e.size ++ ")"

/-- Why there is no floor. -/
inductive LayError where
  | offFloor (e : FloorError)
  /-- The size does not fit into a machine word. -/
  | uncountable
  /-- There is no room for so many tiles. -/
  | noRoom
  deriving DecidableEq, Repr

/-- The tiles of a floor, and its size as it was given. -/
structure Floor where
  size : Int
  tiles : Array Int
  size_tiles : tiles.size = size.toNat

namespace Floor

/-- A floor of zeros. -/
def ofSize (size : Int) : Floor :=
  ⟨size, Array.replicate size.toNat 0, Array.size_replicate⟩

/-- Whether an address has a tile. -/
abbrev Has (floor : Floor) (address : Int) : Prop :=
  0 ≤ address ∧ address < floor.size

theorem toNat_lt_size {floor : Floor} {address : Int} (h : floor.Has address) :
    address.toNat < floor.tiles.size := by
  rw [floor.size_tiles]
  omega

/-- What lies on a tile. -/
def get (floor : Floor) (address : Int) : Except FloorError Int :=
  if h : floor.Has address then
    have := toNat_lt_size h
    .ok floor.tiles[address.toNat]
  else .error ⟨address, floor.size⟩

/-- The floor with something else on a tile. -/
def set (floor : Floor) (address v : Int) : Except FloorError Floor :=
  if h : floor.Has address then
    .ok
      { size := floor.size
        tiles := floor.tiles.set address.toNat v (toNat_lt_size h)
        size_tiles := by rw [Array.size_set]; exact floor.size_tiles }
  else .error ⟨address, floor.size⟩

/-- The address itself, if it has a tile. -/
def check (floor : Floor) (address : Int) : Except FloorError Int :=
  if floor.Has address then .ok address else .error ⟨address, floor.size⟩

/-- The address that an operand means: the one it names, or the one that lies on that tile. -/
def resolve (floor : Floor) (address : Int) (indirect : Bool) : Except FloorError Int :=
  if indirect then
    match floor.get address with
    | .error e => .error e
    | .ok inner => floor.check inner
  else floor.check address

/-- The floor with tiles set one after the other. -/
def setAll (floor : Floor) : List (Int × Int) → Except FloorError Floor
  | [] => .ok floor
  | (address, v) :: rest =>
    match floor.set address v with
    | .error e => .error e
    | .ok floor => floor.setAll rest

/-- A floor of zeros with some tiles set. -/
def ofPresets (size : Int) (presets : List (Int × Int)) : Except FloorError Floor :=
  (ofSize size).setAll presets

/-- How many tiles there is room for. -/
def capacity : Int := 4294967296

/-- What a machine word with a sign does not reach. -/
def wordRange : Int := 9223372036854775808

/-- A floor of zeros with some tiles set, if there is room for it.  The size is a machine word with a
sign, so one that is far below zero is refused as well. -/
def lay (size : Int) (presets : List (Int × Int)) : Except LayError Floor :=
  if size < -wordRange ∨ wordRange ≤ size then .error .uncountable
  else if capacity < size then .error .noRoom
  else
    match ofPresets size presets with
    | .ok floor => .ok floor
    | .error e => .error (.offFloor e)

/-- The tiles that do not hold zero, with their addresses. -/
def nonZero (floor : Floor) : List (Nat × Int) :=
  (floor.tiles.toList.zipIdx.filter (·.1 ≠ 0)).map fun (v, i) => (i, v)

end Floor

end Mailroom
