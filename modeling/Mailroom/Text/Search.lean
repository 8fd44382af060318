/-!
# Looking for a text inside another one

The program takes comments off lines and compares the names of lights by these.

- `before`: what stands in front of the first occurrence of a mark.
- `after?`: what follows it.
- `hasInfix`: whether the mark occurs at all.
- `replaceAll`: every occurrence, from left to right and without overlaps, replaced.
-/

namespace Mailroom.Text

/-- What stands in front of the first occurrence of `mark`; the whole text when there is none. -/
def before (mark : List Char) : List Char → List Char
  | [] => []
  | c :: cs => if mark.isPrefixOf (c :: cs) then [] else c :: before mark cs

/-- What follows the first occurrence of `mark`. -/
def after? (mark : List Char) : List Char → Option (List Char)
  | [] => none
  | c :: cs =>
    if mark.isPrefixOf (c :: cs) then some ((c :: cs).drop mark.length) else after? mark cs

/-- Whether `needle` occurs as a run of neighbouring characters. -/
def hasInfix (needle : List Char) : List Char → Bool
  | [] => needle.isEmpty
  | c :: cs => needle.isPrefixOf (c :: cs) || hasInfix needle cs

/-- Replaces the occurrences of `old` after the first `skip` characters, which belong to an
occurrence that has been replaced already. -/
def replaceFrom (old new : List Char) (skip : Nat) : List Char → List Char
  | [] => []
  | c :: cs =>
    match skip with
    | k + 1 => replaceFrom old new k cs
    | 0 =>
      if old.isPrefixOf (c :: cs) then new ++ replaceFrom old new (old.length - 1) cs
      else c :: replaceFrom old new 0 cs

/-- Every occurrence of the non-empty `old`, taken from left to right without overlaps, becomes
`new`. -/
def replaceAll (old new : List Char) (cs : List Char) : List Char :=
  replaceFrom old new 0 cs

end Mailroom.Text
