import Mailroom.Text.Printable

/-!
# Quoted text

Messages quote what they talk about.  The quotes are single ones, unless the text holds a single
quote and no double one.  Inside, the quote in use and the backslash are escaped, line ends and tabs
have short escapes, and every other character that is not printable is spelled by its code point in
two, four or eight hexadecimal digits.

This is how the messages of the program's parsers and of its inbox quote.

- `quoteMark`: the quote that a text is put in.
- `quote`: the quoted text.
-/

namespace Mailroom.Text

/-- The single quote, also known as the apostrophe. -/
def singleQuote : Char := Char.ofNat 0x27

/-- A text put in double quotes is one that holds a single quote and no double one. -/
def quoteMark (cs : List Char) : Char :=
  if cs.contains singleQuote && !cs.contains '"' then '"' else singleQuote

/-- Characters are put in front until the text is `width` long. -/
def padStart (width : Nat) (fill : Char) (cs : List Char) : List Char :=
  List.replicate (width - cs.length) fill ++ cs

/-- Characters are put behind until the text is `width` long. -/
def padEnd (width : Nat) (fill : Char) (cs : List Char) : List Char :=
  cs ++ List.replicate (width - cs.length) fill

/-- A code point as a hexadecimal escape of the shortest of the three widths. -/
def codePointEscape (n : Nat) : List Char :=
  let digits := Nat.toDigits 16 n
  if n < 0x100 then '\\' :: 'x' :: padStart 2 '0' digits
  else if n < 0x10000 then '\\' :: 'u' :: padStart 4 '0' digits
  else '\\' :: 'U' :: padStart 8 '0' digits

/-- How one character is written between quotes of the kind `mark`. -/
def escapeChar (mark c : Char) : List Char :=
  if c = mark ∨ c = '\\' then ['\\', c]
  else if c = '\n' then ['\\', 'n']
  else if c = '\r' then ['\\', 'r']
  else if c = '\t' then ['\\', 't']
  else if isPrintable c then [c]
  else codePointEscape c.toNat

/-- A text in quotes. -/
def quote (cs : List Char) : List Char :=
  let mark := quoteMark cs
  mark :: cs.flatMap (escapeChar mark) ++ [mark]

/-- `quote` on strings. -/
def quoted (s : String) : String :=
  String.ofList (quote s.toList)

end Mailroom.Text
