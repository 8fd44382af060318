/-!
# Sets of characters as intervals of code points

A class of characters (blanks, letters, printable characters) is a table of closed intervals.  The
tables stand in the modules named for their property; this file says how one is read.

- `Ranges`: a table of closed intervals.
- `Ranges.contains`: whether a character lies in one of them.
-/

namespace Mailroom.Text

/-- Closed intervals of code points, lowest first. -/
abbrev Ranges := List (Nat × Nat)

/-- A character belongs to a table when one of its intervals holds the character's code point. -/
def Ranges.contains (ranges : Ranges) (c : Char) : Bool :=
  ranges.any fun (low, high) => low ≤ c.toNat && c.toNat ≤ high

end Mailroom.Text
