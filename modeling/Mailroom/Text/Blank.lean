import Mailroom.Text.Ranges

/-!
# Blanks

What separates words.  The class is the one of the Unicode standard, so a no-break space or an
ideographic space parts two words just as a plain space does.

This is what the program's parsers of lines, slips and settings strip and split by.

- `isBlank`: the class.
- `trim`: a text without the blanks at its two ends.
- `words`: the maximal runs of characters that are not blank.
-/

namespace Mailroom.Text

/-- The blanks: controls that separate text, spaces and line separators. -/
def blankRanges : Ranges :=
  [
    (0x9, 0xD), (0x1C, 0x20), (0x85, 0x85), (0xA0, 0xA0), (0x1680, 0x1680), (0x2000, 0x200A),
    (0x2028, 0x2029), (0x202F, 0x202F), (0x205F, 0x205F), (0x3000, 0x3000)]

/-- A blank separates words and is dropped at the ends of a text. -/
def isBlank (c : Char) : Bool :=
  blankRanges.contains c

/-- A text without the characters of a class at its end. -/
def dropEndWhile (p : Char → Bool) (cs : List Char) : List Char :=
  (cs.reverse.dropWhile p).reverse

/-- A text without the blanks at its two ends. -/
def trim (cs : List Char) : List Char :=
  dropEndWhile isBlank (cs.dropWhile isBlank)

/-- The words of `cs`, where `word` holds, last character first, what has been read of the word
that is still open. -/
def wordsFrom (word : List Char) : List Char → List (List Char)
  | [] => if word.isEmpty then [] else [word.reverse]
  | c :: cs =>
    if isBlank c then
      if word.isEmpty then wordsFrom [] cs else word.reverse :: wordsFrom [] cs
    else wordsFrom (c :: word) cs

/-- The maximal runs of characters that are not blank, in order. -/
def words (cs : List Char) : List (List Char) :=
  wordsFrom [] cs

/-- `trim` on strings. -/
def trimmed (s : String) : String :=
  String.ofList (trim s.toList)

end Mailroom.Text
