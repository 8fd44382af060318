/-!
# Tables in order of first entry

A table is a list of pairs.  Putting a value under a key that is there already replaces the value
and keeps the key's place, so the order is the one in which the keys were first entered.

The program keeps its labels, symbols, colours and map fields in tables like this.

- `Assoc.get?`: the value under a key.
- `Assoc.put`: a value entered or replaced.
- `Assoc.putNew`: a value entered unless the key is there already.
- `Assoc.ofPairs`: a table made by putting pairs one after the other.
-/

namespace Mailroom

/-- Pairs of keys and values, each key once, in order of first entry. -/
abbrev Assoc (κ ν : Type) := List (κ × ν)

namespace Assoc

variable {κ ν : Type} [DecidableEq κ]

/-- The value under a key. -/
def get? (key : κ) : Assoc κ ν → Option ν
  | [] => none
  | (k, v) :: rest => if k = key then some v else get? key rest

/-- Whether a key has been entered. -/
def has (key : κ) (table : Assoc κ ν) : Bool :=
  (table.get? key).isSome

/-- The table with `value` under `key`: in the key's old place, or at the end. -/
def put (key : κ) (value : ν) : Assoc κ ν → Assoc κ ν
  | [] => [(key, value)]
  | (k, v) :: rest => if k = key then (k, value) :: rest else (k, v) :: put key value rest

/-- The table with `value` under `key`, unless the key has a value already. -/
def putNew (key : κ) (value : ν) (table : Assoc κ ν) : Assoc κ ν :=
  if table.has key then table else table ++ [(key, value)]

/-- The pairs put one after the other into an empty table. -/
def ofPairs (pairs : List (κ × ν)) : Assoc κ ν :=
  pairs.foldl (fun table (k, v) => table.put k v) []

end Assoc

end Mailroom
