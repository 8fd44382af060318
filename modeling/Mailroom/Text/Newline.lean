/-!
# Lines of a text

Texts that come from outside end their lines in three ways.  Inside there is one line end only.

The program reads its files like this.

- `unifyNewlines`: every line end becomes a line feed.
- `lines`: the stretches between line feeds.
-/

namespace Mailroom.Text

/-- A carriage return, with or without a line feed behind it, becomes a line feed. -/
def unifyNewlines : List Char → List Char
  | [] => []
  | '\r' :: '\n' :: cs => '\n' :: unifyNewlines cs
  | '\r' :: cs => '\n' :: unifyNewlines cs
  | c :: cs => c :: unifyNewlines cs

/-- The stretches between line feeds, where `line` holds, last character first, what has been read
of the stretch that is still open. -/
def linesFrom (line : List Char) : List Char → List (List Char)
  | [] => [line.reverse]
  | c :: cs => if c = '\n' then line.reverse :: linesFrom [] cs else linesFrom (c :: line) cs

/-- The stretches between line feeds; the last one is empty when the text ends with a line feed. -/
def lines (cs : List Char) : List (List Char) :=
  linesFrom [] cs

end Mailroom.Text
