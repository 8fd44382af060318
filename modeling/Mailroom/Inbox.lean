import Mailroom.Text.Blank
import Mailroom.Text.Newline
import Mailroom.Text.Numeral
import Mailroom.Text.Search
import Mailroom.Text.Utf8

/-!
# The inbox

An inbox is a pile of slips.  A slip carries an integer, or it is spoiled: then reading it fails,
and nothing behind it can be read any more.  Integers may come as they are, or as text in which
blanks and commas part them and `#` starts a comment that runs to the end of its line.

This follows the program's `Inbox` and `TextInbox` with their `EndOfInput` and `InboxFormatError`.

- `Inbox.ofValues`, `Inbox.ofText`, `Inbox.ofBytes`: where slips come from.
- `Inbox.next`: reading one slip.
-/

namespace Mailroom

open Text

/-- Why a slip cannot be read. -/
inductive InboxError where
  /-- A token that is no integer, with its line. -/
  | notInteger (line : Nat) (token : String)
  /-- A token with too many digits. -/
  | numeral (e : Numeral.Error)
  /-- Bytes that are no text. -/
  | undecodable
  deriving DecidableEq, Repr

/-- The wording of an error. -/
def InboxError.message : InboxError → String
  | .notInteger line token =>
    "line " ++ Numeral.natText line ++ ": not an integer: " ++ quoted token
  | .numeral e => e.message
  | .undecodable => "undecodable text"

/-- One item of an inbox. -/
inductive Slip where
  | value (v : Int)
  | spoiled (e : InboxError)
  deriving DecidableEq, Repr

/-- The slips that have not been read yet, next one first. -/
structure Inbox where
  pending : List Slip
  deriving DecidableEq, Repr

/-- What reading gives. -/
inductive Reading where
  | value (v : Int)
  | empty
  | failed (e : InboxError)
  deriving DecidableEq, Repr

namespace Inbox

/-- Reads the next slip.  A spoiled one takes all that is behind it with it. -/
def next (inbox : Inbox) : Reading × Inbox :=
  match inbox.pending with
  | [] => (.empty, inbox)
  | .value v :: rest => (.value v, ⟨rest⟩)
  | .spoiled e :: _ => (.failed e, ⟨[]⟩)

/-- How many slips are left. -/
def remaining (inbox : Inbox) : Nat :=
  inbox.pending.length

/-- An inbox of integers. -/
def ofValues (values : List Int) : Inbox :=
  ⟨values.map .value⟩

/-! ## Slips from text -/

/-- The tokens of a line: the comment is cut off, and commas count as blanks. -/
def tokens (line : List Char) : List (List Char) :=
  words ((before ['#'] line).map fun c => if c = ',' then ' ' else c)

/-- A token is an integer when it consists of ASCII digits, with at most a minus sign in front. -/
def isIntegerToken (token : List Char) : Bool :=
  let digits := if token.head? = some '-' then token.tail else token
  !digits.isEmpty && digits.all fun c => '0' ≤ c && c ≤ '9'

/-- The slip of a token on a line. -/
def slip (line : Nat) (token : List Char) : Slip :=
  if isIntegerToken token then
    match Numeral.read .plain token with
    | .ok v => .value v
    | .error e => .spoiled (.numeral e)
  else .spoiled (.notInteger line (String.ofList token))

/-- The slips of lines, the first of which has the number `line`. -/
def slips (line : Nat) : List (List Char) → List Slip
  | [] => []
  | cs :: rest => (tokens cs).map (slip line) ++ slips (line + 1) rest

/-- An inbox of integers written in a text. -/
def ofText (text : List Char) : Inbox :=
  ⟨slips 1 (lines text)⟩

/-- How many bytes of a file are taken in at a time. -/
def chunkSize : Nat := 8192

/-- The bytes of a file in chunks; `fuel` bounds their number. -/
def chunks (fuel : Nat) (bytes : List UInt8) : List (List UInt8) :=
  match fuel with
  | 0 => []
  | fuel + 1 =>
    if bytes.isEmpty then []
    else bytes.take chunkSize :: chunks fuel (bytes.drop chunkSize)

/-- An inbox of integers written in a file.  Where the bytes are no text, the lines that are
complete by then can still be read. -/
def ofBytes (bytes : List UInt8) : Inbox :=
  let (text, flawed) := Utf8.decodeChunks [] (chunks bytes.length bytes)
  if flawed then
    -- a carriage return at the very end may still turn out to be half of a line end
    let text := if text.getLast? = some '\r' then text.dropLast else text
    ⟨slips 1 (lines (unifyNewlines text)).dropLast ++ [.spoiled .undecodable]⟩
  else ofText (unifyNewlines text)

end Inbox

end Mailroom
