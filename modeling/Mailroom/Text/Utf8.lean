import Mailroom.Text.Numeral

/-!
# Bytes read as text

Text files hold UTF-8.  A stretch of bytes that spells no character is reported with its place, its
extent and what is wrong with it: a byte that starts no character, a byte that does not go on with
one, or a character that the end of the data cuts off.

The program's inbox takes a file in chunk by chunk, and all its other files are read at once.

- `Utf8.decode`: the text of a file, or what is wrong with its bytes.
- `Utf8.decodeChunks`: the text of a file that is taken in chunk by chunk.
-/

namespace Mailroom.Text.Utf8

/-- What is wrong with a stretch of bytes. -/
inductive Flaw where
  | invalidStart
  | invalidContinuation
  | unexpectedEnd
  deriving DecidableEq, Repr

/-- The wording of a flaw. -/
def Flaw.message : Flaw → String
  | .invalidStart => "invalid start byte"
  | .invalidContinuation => "invalid continuation byte"
  | .unexpectedEnd => "unexpected end of data"

/-- A flaw with the place and the number of the bytes that it spans. -/
structure Error where
  flaw : Flaw
  position : Nat
  extent : Nat
  firstByte : UInt8
  deriving DecidableEq, Repr

/-- The wording of an error; a single byte is shown, a longer stretch is given by its ends. -/
def Error.message (e : Error) : String :=
  let bytes :=
    if e.extent = 1 then
      "byte 0x" ++ String.ofList (padStart 2 '0' (Nat.toDigits 16 e.firstByte.toNat))
        ++ " in position " ++ Numeral.natText e.position
    else
      "bytes in position " ++ Numeral.natText e.position ++ "-"
        ++ Numeral.natText (e.position + e.extent - 1)
  "\x27utf-8\x27 codec can\x27t decode " ++ bytes ++ ": " ++ e.flaw.message

/-- What stands at the start of a stretch of bytes. -/
inductive Head where
  /-- A character, spelled with so many bytes. -/
  | char (c : Char) (size : Nat)
  /-- The start of a character whose end is missing. -/
  | cut
  /-- Bytes that spell no character. -/
  | bad (flaw : Flaw) (extent : Nat)

/-- The last six bits of a byte that goes on with a character. -/
def continuation? (b : UInt8) : Option Nat :=
  if 0x80 ≤ b ∧ b < 0xC0 then some (b.toNat - 0x80) else none

/-- Whether a byte may come second after the given first one: overlong spellings, surrogates and
code points beyond the last one are excluded. -/
def second? (first b : UInt8) : Option Nat :=
  (continuation? b).filter fun _ =>
    !((first = 0xE0 && b < 0xA0) || (first = 0xED && 0xA0 ≤ b)
      || (first = 0xF0 && b < 0x90) || (first = 0xF4 && 0x90 ≤ b))

/-- The character of three bytes after the first one, whose bits are `lead`. -/
def headFour (lead : Nat) (first : UInt8) : List UInt8 → Head
  | [] => .cut
  | b2 :: rest =>
    match second? first b2, rest with
    | none, _ => .bad .invalidContinuation 1
    | some _, [] => .cut
    | some n2, b3 :: rest =>
      match continuation? b3, rest with
      | none, _ => .bad .invalidContinuation 2
      | some _, [] => .cut
      | some n3, b4 :: _ =>
        match continuation? b4 with
        | none => .bad .invalidContinuation 3
        | some n4 => .char (Char.ofNat (((lead * 64 + n2) * 64 + n3) * 64 + n4)) 4

/-- Whether two bytes start a surrogate, which is no character. -/
def startsSurrogate (first b : UInt8) : Bool :=
  first = 0xED && 0xA0 ≤ b && b < 0xC0

/-- The character of two bytes after the first one, whose bits are `lead`.  A surrogate that is cut
off is told from a character only when no more bytes can come. -/
def headThree (lead : Nat) (first : UInt8) : List UInt8 → Head
  | [] => .cut
  | b2 :: rest =>
    match second? first b2, rest with
    | none, [] => if startsSurrogate first b2 then .cut else .bad .invalidContinuation 1
    | none, _ => .bad .invalidContinuation 1
    | some _, [] => .cut
    | some n2, b3 :: _ =>
      match continuation? b3 with
      | none => .bad .invalidContinuation 2
      | some n3 => .char (Char.ofNat ((lead * 64 + n2) * 64 + n3)) 3

/-- What stands at the start of a stretch that begins with `b`. -/
def head (b : UInt8) (rest : List UInt8) : Head :=
  if b < 0x80 then .char (Char.ofNat b.toNat) 1
  else if b < 0xC2 then .bad .invalidStart 1
  else if b < 0xE0 then
    match rest with
    | [] => .cut
    | b2 :: _ =>
      match continuation? b2 with
      | none => .bad .invalidContinuation 1
      | some n2 => .char (Char.ofNat ((b.toNat - 0xC0) * 64 + n2)) 2
  else if b < 0xF0 then headThree (b.toNat - 0xE0) b rest
  else if b < 0xF5 then headFour (b.toNat - 0xF0) b rest
  else .bad .invalidStart 1

/-- What a stretch of bytes holds: its characters, and the bytes at its end that only start one. -/
structure Decoded where
  text : List Char
  pending : List UInt8

/-- Decodes the bytes after the first `skip`, which belong to a character that has been read.
`position` counts all bytes that have been passed. -/
def decodeFrom (position skip : Nat) : List UInt8 → Except Error Decoded
  | [] => .ok ⟨[], []⟩
  | b :: rest =>
    match skip with
    | k + 1 => decodeFrom (position + 1) k rest
    | 0 =>
      match head b rest with
      | .char c size =>
        (decodeFrom (position + 1) (size - 1) rest).map fun d => { d with text := c :: d.text }
      | .cut => .ok ⟨[], b :: rest⟩
      | .bad flaw extent => .error ⟨flaw, position, extent, b⟩

/-- What is wrong with bytes at the end, the first of which is `b`, that only start a character. -/
def cutError (position : Nat) (b : UInt8) (rest : List UInt8) : Error :=
  if rest.head?.any (startsSurrogate b) then ⟨.invalidContinuation, position, 1, b⟩
  else ⟨.unexpectedEnd, position, rest.length + 1, b⟩

/-- The text of a file whose bytes are all there. -/
def decode (bytes : List UInt8) : Except Error (List Char) :=
  match decodeFrom 0 0 bytes with
  | .error e => .error e
  | .ok ⟨text, []⟩ => .ok text
  | .ok ⟨_, b :: rest⟩ => .error (cutError (bytes.length - (rest.length + 1)) b rest)

/-- The text of a file that is taken in chunk by chunk, up to the first chunk with a flaw, and
whether there is one.  `pending` is what the chunk before has left over. -/
def decodeChunks (pending : List UInt8) : List (List UInt8) → List Char × Bool
  | [] => ([], !pending.isEmpty)
  | chunk :: chunks =>
    match decodeFrom 0 0 (pending ++ chunk) with
    | .error _ => ([], true)
    | .ok d =>
      let (text, flawed) := decodeChunks d.pending chunks
      (d.text ++ text, flawed)

end Mailroom.Text.Utf8
