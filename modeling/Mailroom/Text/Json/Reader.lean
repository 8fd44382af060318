import Mailroom.Assoc
import Mailroom.Text.Json.Basic

/-!
# Reading the JSON format

A recursive descent over the characters.  Every part that reads something returns what is left of
the text with the fact that it is shorter, which is what makes the descent end.  An error keeps what
was left of the text where it arose, and gets its line and column from that.

Brackets and braces can be nested only so deep, because a descent needs room for each of them.  How
much room there is depends on who reads, so it is a parameter.  The first bracket or brace that
finds no room ends the reading, whatever is wrong with the text behind it.

This is how the program reads a map.

- `Json.parseValue`: a value at the start of a text, with some room left.
- `Json.parse`: the value that a text spells, or what is wrong with it.
-/

namespace Mailroom.Text.Json

/-- What is wrong with a text. -/
inductive Flaw where
  | expectedValue
  | expectedName
  | expectedColon
  | expectedComma
  | unterminated
  | badEscape
  | badCodePoint
  | controlCharacter
  | extraData
  | byteOrderMark
  deriving DecidableEq, Repr

/-- The wording of a flaw. -/
def Flaw.message : Flaw → String
  | .expectedValue => "Expecting value"
  | .expectedName => "Expecting property name enclosed in double quotes"
  | .expectedColon => "Expecting \x27:\x27 delimiter"
  | .expectedComma => "Expecting \x27,\x27 delimiter"
  | .unterminated => "Unterminated string starting at"
  | .badEscape => "Invalid \\escape"
  | .badCodePoint => "Invalid \\uXXXX escape"
  | .controlCharacter => "Invalid control character at"
  | .extraData => "Extra data"
  | .byteOrderMark => "Unexpected UTF-8 BOM (decode using utf-8-sig)"

/-- What holds other values. -/
inductive Container where
  | array
  | object
  deriving DecidableEq, Repr

/-- The name of a container. -/
def Container.name : Container → String
  | .array => "array"
  | .object => "object"

/-- Why a text spells no value. -/
inductive ParseError where
  /-- A flaw, with its line, its column and the number of characters in front of it. -/
  | flaw (what : Flaw) (line column offset : Nat)
  /-- An integer with too many digits. -/
  | numeral (e : Numeral.Error)
  /-- A container that is nested too deep. -/
  | tooDeep (opened : Container)
  deriving DecidableEq, Repr

/-- The wording of an error. -/
def ParseError.message : ParseError → String
  | .flaw what line column offset =>
    what.message ++ ": line " ++ Numeral.natText line ++ " column " ++ Numeral.natText column
      ++ " (char " ++ Numeral.natText offset ++ ")"
  | .numeral e => e.message
  | .tooDeep opened =>
    "maximum recursion depth exceeded while decoding a JSON " ++ opened.name
      ++ " from a unicode string"

/-- An error where it arises: a flaw in front of so many characters. -/
inductive Failure where
  | flaw (what : Flaw) (left : Nat)
  | numeral (e : Numeral.Error)
  | tooDeep (opened : Container)

/-- What is left of a text after a part of it has been read. -/
abbrev Rest (cs : List Char) := { rest : List Char // rest.length < cs.length }

/-- White space of the format. -/
def isSpace (c : Char) : Bool :=
  c == ' ' || c == '\t' || c == '\n' || c == '\r'

/-- A text without the white space in front. -/
def skipSpace (cs : List Char) : { rest : List Char // rest.length ≤ cs.length } :=
  ⟨cs.dropWhile isSpace, (List.dropWhile_sublist isSpace).length_le⟩

/-! ## Strings -/

/-- The number that four hexadecimal digits spell. -/
def fourHex? : List Char → Option Nat
  | [a, b, c, d] => do
    let a ← hex? a
    let b ← hex? b
    let c ← hex? c
    let d ← hex? d
    return ((a * 16 + b) * 16 + c) * 16 + d
  | _ => none
where
  /-- The value of a hexadecimal digit. -/
  hex? (c : Char) : Option Nat :=
    if '0' ≤ c ∧ c ≤ '9' then some (c.toNat - '0'.toNat)
    else if 'a' ≤ c ∧ c ≤ 'f' then some (c.toNat - 'a'.toNat + 10)
    else if 'A' ≤ c ∧ c ≤ 'F' then some (c.toNat - 'A'.toNat + 10)
    else none

/-- The character that a short escape stands for. -/
def shortEscape? (c : Char) : Option Char :=
  match c with
  | '"' => some '"'
  | '\\' => some '\\'
  | '/' => some '/'
  | 'b' => some (Char.ofNat 8)
  | 'f' => some (Char.ofNat 12)
  | 'n' => some '\n'
  | 'r' => some '\r'
  | 't' => some '\t'
  | _ => none

/-- The first half of a pair that spells a code point beyond 16 bits. -/
def isHighSurrogate (n : Nat) : Bool :=
  0xD800 ≤ n && n < 0xDC00

/-- The second half of such a pair. -/
def isLowSurrogate (n : Nat) : Bool :=
  0xDC00 ≤ n && n < 0xE000

/-- The code point of an escape with four digits, given what follows the letter of the escape, and
the number of characters that the escape takes up after that letter.  Two escapes may spell one
code point.  At least one character has to follow the digits. -/
def codePoint (cs : List Char) : Except Failure (Nat × Nat) :=
  if cs.length ≤ 4 then .error (.flaw .badCodePoint (cs.length + 1))
  else
    match fourHex? (cs.take 4) with
    | none => .error (.flaw .badCodePoint (cs.length + 1))
    | some high =>
      let more := cs.drop 4
      if isHighSurrogate high && 6 < more.length && more.take 2 = ['\\', 'u'] then
        match fourHex? ((more.drop 2).take 4) with
        | none => .error (.flaw .badCodePoint (more.length - 1))
        | some low =>
          if isLowSurrogate low then .ok (0x10000 + (high - 0xD800) * 0x400 + (low - 0xDC00), 10)
          else .ok (high, 4)
      else .ok (high, 4)

/-- The character that is spelled by `c` and what follows it inside a string, and how many of the
characters that follow belong to it.  `left` counts the characters from the opening quote on. -/
def stringChar (left : Nat) (c : Char) (cs : List Char) : Except Failure (Char × Nat) :=
  if c = '\\' then
    match cs with
    | [] => .error (.flaw .unterminated left)
    | e :: rest =>
      if e = 'u' then (codePoint rest).map fun (point, width) => (Char.ofNat point, width + 1)
      else
        match shortEscape? e with
        | none => .error (.flaw .badEscape (cs.length + 1))
        | some plain => .ok (plain, 1)
  else if c.toNat < 32 then .error (.flaw .controlCharacter (cs.length + 1))
  else .ok (c, 0)

/-- The characters of a string up to its closing quote, and what follows it.  The first `skip`
characters belong to an escape that has been read. -/
def stringTail (left skip : Nat) : List Char → Except Failure (List Char × List Char)
  | [] => .error (.flaw .unterminated left)
  | c :: cs =>
    match skip with
    | k + 1 => stringTail left k cs
    | 0 =>
      if c = '"' then .ok ([], cs)
      else
        match stringChar left c cs with
        | .error f => .error f
        | .ok (spelled, width) =>
          (stringTail left width cs).map fun (text, rest) => (spelled :: text, rest)

theorem stringTail_length {left skip : Nat} {cs text rest : List Char}
    (h : stringTail left skip cs = .ok (text, rest)) : rest.length < cs.length := by
  induction cs generalizing skip text rest with
  | nil => simp [stringTail] at h
  | cons c cs ih =>
    simp only [List.length_cons]
    unfold stringTail at h
    split at h
    · have := ih h
      omega
    · split at h
      · simp only [Except.ok.injEq, Prod.mk.injEq] at h
        rw [← h.2]
        omega
      · split at h
        · simp at h
        · rename_i width _
          cases ht : stringTail left width cs with
          | error f => simp [ht, Except.map] at h
          | ok q =>
            have := ih ht
            simp only [ht, Except.map, Except.ok.injEq, Prod.mk.injEq] at h
            rw [← h.2]
            omega

/-- A string, given what follows its opening quote. -/
def parseString (cs : List Char) : Except Failure (String × Rest cs) :=
  match h : stringTail (cs.length + 1) 0 cs with
  | .error f => .error f
  | .ok (text, rest) => .ok (String.ofList text, ⟨rest, stringTail_length h⟩)

/-! ## Numbers -/

/-- Digits of the format. -/
def isDigit (c : Char) : Bool :=
  '0' ≤ c && c ≤ '9'

/-- The number that digits of the format spell. -/
def digitsValue (ds : List Char) : Nat :=
  ds.foldl (fun n d => n * 10 + (d.toNat - '0'.toNat)) 0

/-- The digits in front of the point: one zero, or digits that start with none. -/
def wholeDigits : List Char → List Char
  | [] => []
  | c :: cs =>
    if c = '0' then ['0']
    else if isDigit c then c :: cs.takeWhile isDigit
    else []

/-- The digits behind a point, if a point with digits comes next. -/
def fractionDigits : List Char → List Char
  | '.' :: cs => cs.takeWhile isDigit
  | _ => []

/-- The sign and the digits of an exponent, if one comes next. -/
def exponentPart : List Char → Option (List Char × List Char)
  | e :: cs =>
    if e = 'e' ∨ e = 'E' then
      let sign := cs.take (if cs.head? = some '-' ∨ cs.head? = some '+' then 1 else 0)
      let digits := (cs.drop sign.length).takeWhile isDigit
      if digits.isEmpty then none else some (sign, digits)
    else none
  | [] => none

/-- A number at the start of a text, and how many characters it takes up. -/
def number? (cs : List Char) : Except Failure (Option (Json × Nat)) :=
  let sign := cs.take (if cs.head? = some '-' then 1 else 0)
  let negative := !sign.isEmpty
  let whole := wholeDigits (cs.drop sign.length)
  if whole.isEmpty then .ok none
  else
    let afterWhole := cs.drop (sign.length + whole.length)
    let fraction := fractionDigits afterWhole
    let fractionWidth := if fraction.isEmpty then 0 else fraction.length + 1
    let exponent := exponentPart (afterWhole.drop fractionWidth)
    let width := sign.length + whole.length + fractionWidth
    match fraction, exponent with
    | [], none =>
      if Numeral.digitLimit < whole.length then
        .error (.numeral (.tooManyDigits whole.length))
      else
        let n : Int := digitsValue whole
        .ok (some (.int (if negative then -n else n), width))
    | _, _ =>
      let (power, exponentWidth) : Int × Nat :=
        match exponent with
        | none => (0, 0)
        | some (esign, digits) =>
          let n : Int := digitsValue digits
          (if esign = ['-'] then -n else n, 1 + esign.length + digits.length)
      .ok (some (.decimal ⟨negative, digitsValue (whole ++ fraction), power - fraction.length⟩,
        width + exponentWidth))

/-- Words that stand for values. -/
def literals : List (String × Json) :=
  [("null", .null), ("true", .bool true), ("false", .bool false), ("NaN", .nan),
    ("Infinity", .infinity false), ("-Infinity", .infinity true)]

/-- A word or a number at the start of a text, and how many characters it takes up. -/
def scalar? (cs : List Char) : Except Failure (Option (Json × Nat)) :=
  match literals.find? fun (word, _) => word.toList.isPrefixOf cs with
  | some (word, value) => .ok (some (value, word.length))
  | none => number? cs

/-! ## Values -/

mutual

/-- A value at the start of a text, with room for so many containers inside one another. -/
def parseValue (room : Nat) (cs : List Char) : Except Failure (Json × Rest cs) :=
  match cs with
  | [] => .error (.flaw .expectedValue 0)
  | c :: tail =>
    if c = '"' then
      match parseString tail with
      | .error f => .error f
      | .ok (s, ⟨rest, _⟩) => .ok (.str s, ⟨rest, by simp only [List.length_cons]; omega⟩)
    else if c = '\x7b' then
      match room with
      | 0 => .error (.tooDeep .object)
      | inside + 1 =>
        match parseFields inside true [] tail with
        | .error f => .error f
        | .ok (fields, ⟨rest, _⟩) =>
          .ok (.obj fields, ⟨rest, by simp only [List.length_cons]; omega⟩)
    else if c = '[' then
      match room with
      | 0 => .error (.tooDeep .array)
      | inside + 1 =>
        match parseItems inside true tail with
        | .error f => .error f
        | .ok (items, ⟨rest, _⟩) =>
          .ok (.arr items, ⟨rest, by simp only [List.length_cons]; omega⟩)
    else
      match scalar? (c :: tail) with
      | .error f => .error f
      | .ok none => .error (.flaw .expectedValue (tail.length + 1))
      | .ok (some (value, width)) =>
        .ok (value, ⟨tail.drop (width - 1), by
          simp only [List.length_drop, List.length_cons]; omega⟩)
termination_by (cs.length, 0)

/-- The items of an array up to its closing bracket.  Only `first` of all may the bracket stand in
place of an item. -/
def parseItems (room : Nat) (first : Bool) (cs : List Char) :
    Except Failure (List Json × Rest cs) :=
  match skipSpace cs with
  | ⟨[], _⟩ => .error (.flaw .expectedValue 0)
  | ⟨c :: tail, _⟩ =>
    if first ∧ c = ']' then .ok ([], ⟨tail, by simp only [List.length_cons] at *; omega⟩)
    else
      match parseValue room (c :: tail) with
      | .error f => .error f
      | .ok (item, ⟨rest, _⟩) =>
        match skipSpace rest with
        | ⟨[], _⟩ => .error (.flaw .expectedComma 0)
        | ⟨d :: tail, _⟩ =>
          if d = ']' then .ok ([item], ⟨tail, by simp only [List.length_cons] at *; omega⟩)
          else if d = ',' then
            match parseItems room false tail with
            | .error f => .error f
            | .ok (items, ⟨rest, _⟩) =>
              .ok (item :: items, ⟨rest, by simp only [List.length_cons] at *; omega⟩)
          else .error (.flaw .expectedComma (tail.length + 1))
termination_by (cs.length, 1)
decreasing_by
  · simp only [Prod.lex_def, List.length_cons] at *
    omega
  · apply Prod.Lex.left
    simp only [List.length_cons] at *
    omega

/-- The fields of an object up to its closing brace; a name that comes again gets the later value.
Only `first` of all may the brace stand in place of a field. -/
def parseFields (room : Nat) (first : Bool) (done : Assoc String Json) (cs : List Char) :
    Except Failure (Assoc String Json × Rest cs) :=
  match skipSpace cs with
  | ⟨[], _⟩ => .error (.flaw .expectedName 0)
  | ⟨c :: tail, _⟩ =>
    if first ∧ c = '\x7d' then .ok (done, ⟨tail, by simp only [List.length_cons] at *; omega⟩)
    else if c = '"' then
      match parseString tail with
      | .error f => .error f
      | .ok (name, ⟨rest, _⟩) =>
        match skipSpace rest with
        | ⟨[], _⟩ => .error (.flaw .expectedColon 0)
        | ⟨d :: tail, _⟩ =>
          if d = ':' then
            match skipSpace tail with
            | ⟨inner, _⟩ =>
              match parseValue room inner with
              | .error f => .error f
              | .ok (value, ⟨rest, _⟩) =>
                match skipSpace rest with
                | ⟨[], _⟩ => .error (.flaw .expectedComma 0)
                | ⟨e :: tail, _⟩ =>
                  if e = '\x7d' then
                    .ok (done.put name value, ⟨tail, by simp only [List.length_cons] at *; omega⟩)
                  else if e = ',' then
                    match parseFields room false (done.put name value) tail with
                    | .error f => .error f
                    | .ok (fields, ⟨rest, _⟩) =>
                      .ok (fields, ⟨rest, by simp only [List.length_cons] at *; omega⟩)
                  else .error (.flaw .expectedComma (tail.length + 1))
          else .error (.flaw .expectedColon (tail.length + 1))
    else .error (.flaw .expectedName (tail.length + 1))
termination_by (cs.length, 1)
decreasing_by
  all_goals apply Prod.Lex.left
  all_goals simp only [List.length_cons] at *
  all_goals omega

end

/-! ## Whole texts -/

/-- The line and the column, both counted from one, of the place that `offset` characters precede.
-/
def place (text : List Char) (offset : Nat) : Nat × Nat :=
  let front := text.take offset
  (front.count '\n' + 1, (front.reverse.takeWhile (· != '\n')).length + 1)

/-- An error of a text, with its place. -/
def Failure.locate (text : List Char) : Failure → ParseError
  | .flaw what left =>
    let offset := text.length - left
    let (line, column) := place text offset
    .flaw what line column offset
  | .numeral e => .numeral e
  | .tooDeep opened => .tooDeep opened

/-- The value that a text spells, white space around it apart, with room for so many containers
inside one another. -/
def parse (room : Nat) (text : List Char) : Except ParseError Json :=
  if text.head? = some (Char.ofNat 0xFEFF) then
    .error (Failure.locate text (.flaw .byteOrderMark text.length))
  else
    match parseValue room (text.dropWhile isSpace) with
    | .error f => .error (f.locate text)
    | .ok (value, ⟨rest, _⟩) =>
      let rest := rest.dropWhile isSpace
      if rest.isEmpty then .ok value
      else .error (Failure.locate text (.flaw .extraData rest.length))

end Mailroom.Text.Json
