import Mailroom.Text.Blank
import Mailroom.Text.Digit
import Mailroom.Text.Quoted

/-!
# Integers as text

Reading allows a sign, blanks around, decimal digits of any script and single underscores between
digits.  A *plain* numeral is decimal.  A *tagged* one may start with `0x`, `0o` or `0b`, and then a
decimal one may not start with a zero, unless it is zero.  A decimal text of more than 4300 digits
is refused in both directions, because the work grows with the square of its length.

The program reads slips and the numbers of program texts as plain numerals, and tiles of listings
and values of settings as tagged ones.

- `Numeral.read`: the integer that a text spells, or why it spells none.
- `Numeral.write`: the decimal text of an integer.
- `Numeral.fits`: whether that text keeps within the limit.
-/

namespace Mailroom.Text.Numeral

/-- How a numeral may be spelled. -/
inductive Form where
  /-- Decimal digits only. -/
  | plain
  /-- The base may be given by a tag in front. -/
  | tagged
  deriving DecidableEq, Repr

/-- Why a text spells no integer, or an integer gets no text. -/
inductive Error where
  /-- The text is no numeral of this form. -/
  | malformed (form : Form) (text : String)
  /-- The text has too many decimal digits. -/
  | tooManyDigits (count : Nat)
  /-- The integer has too many decimal digits to be written. -/
  | unwritable
  deriving DecidableEq, Repr

/-- The most decimal digits that are read or written. -/
def digitLimit : Nat := 4300

/-- The number that a message names for a form: the base, or zero where the text gives it. -/
def Form.baseText : Form → String
  | .plain => "10"
  | .tagged => "0"

/-- Longer texts are cut in messages. -/
def shownLength : Nat := 200

/-- The decimal digits of a natural number. -/
def natText (n : Nat) : String :=
  String.ofList (Nat.toDigits 10 n)

/-- The wording of an error. -/
def Error.message : Error → String
  | .malformed form text =>
    "invalid literal for int() with base " ++ form.baseText ++ ": "
      ++ String.ofList ((quote text.toList).take shownLength)
  | .tooManyDigits count =>
    "Exceeds the limit (" ++ natText digitLimit
      ++ " digits) for integer string conversion: value has " ++ natText count
      ++ " digits; use sys.set_int_max_str_digits() to increase the limit"
  | .unwritable =>
    "Exceeds the limit (" ++ natText digitLimit
      ++ " digits) for integer string conversion"
      ++ "; use sys.set_int_max_str_digits() to increase the limit"

/-! ## Writing -/

/-- The decimal text of an integer. -/
def write : Int → List Char
  | .ofNat n => Nat.toDigits 10 n
  | .negSucc n => '-' :: Nat.toDigits 10 (n + 1)

/-- `write` as a string. -/
def text (n : Int) : String :=
  String.ofList (write n)

/-- The smallest natural number with too many digits. -/
def writeLimit : Nat := Nat.pow 10 digitLimit

/-- Whether an integer keeps within the limit on digits. -/
def fits (n : Int) : Bool :=
  n.natAbs < writeLimit

/-- The decimal text of an integer, within the limit on digits. -/
def text? (n : Int) : Except Error String :=
  if fits n then .ok (text n) else .error .unwritable

/-! ## Reading -/

/-- A blank that may stand around a numeral: the separators among the ASCII controls are none. -/
def isMargin (c : Char) : Bool :=
  isBlank c && (c.toNat < 28 || 32 ≤ c.toNat)

/-- The value of a digit: a decimal digit of any script, or a Latin letter from ten on. -/
def digit? (c : Char) : Option Nat :=
  match digitValue? c with
  | some d => some d
  | none =>
    if 'a' ≤ c ∧ c ≤ 'z' then some (c.toNat - 'a'.toNat + 10)
    else if 'A' ≤ c ∧ c ≤ 'Z' then some (c.toNat - 'A'.toNat + 10)
    else none

/-- The value of a digit below the base. -/
def digitBelow? (base : Nat) (c : Char) : Option Nat :=
  (digit? c).filter (· < base)

/-- The digits at the start of a text and what follows them.  Each underscore stands between two
digits; `mayPause` says that a digit has just been read. -/
def takeDigits (base : Nat) (mayPause : Bool) : List Char → Option (List Nat × List Char)
  | [] => if mayPause then some ([], []) else none
  | c :: cs =>
    match digitBelow? base c with
    | some d => (takeDigits base true cs).map fun (ds, rest) => (d :: ds, rest)
    | none =>
      if c = '_' then if mayPause then takeDigits base false cs else none
      else if mayPause then some ([], c :: cs) else none

/-- The number that digits spell, highest first. -/
def ofDigits (base : Nat) (ds : List Nat) : Nat :=
  ds.foldl (fun n d => n * base + d) 0

/-- The base that a letter after a zero stands for. -/
def tagBase? (c : Char) : Option Nat :=
  if c = 'x' ∨ c = 'X' then some 16
  else if c = 'o' ∨ c = 'O' then some 8
  else if c = 'b' ∨ c = 'B' then some 2
  else none

/-- How the digits of a numeral are to be read: their base, whether they may spell zero only, and
the digits themselves with all that follows. -/
structure Body where
  base : Nat
  zeroOnly : Bool
  digits : List Char

/-- The body of a numeral after its sign.  One underscore may follow a tag. -/
def body (form : Form) (cs : List Char) : Body :=
  match form, cs with
  | .tagged, z :: t :: rest =>
    if digitValue? z = some 0 then
      match tagBase? t with
      | some base => ⟨base, false, if rest.head? = some '_' then rest.tail else rest⟩
      | none => ⟨10, true, cs⟩
    else ⟨10, false, cs⟩
  | _, _ => ⟨10, false, cs⟩

/-- The natural number that a text without sign spells, apart from blanks behind it. -/
def readNat (form : Form) (malformed : Error) (cs : List Char) : Except Error Nat :=
  let b := body form cs
  match takeDigits b.base false b.digits with
  | none => .error malformed
  | some (ds, rest) =>
    let value := ofDigits b.base ds
    if b.base = 10 ∧ digitLimit < ds.length then .error (.tooManyDigits ds.length)
    else if b.zeroOnly ∧ value ≠ 0 then .error malformed
    else if rest.all isMargin then .ok value
    else .error malformed

/-- The integer that a text spells. -/
def read (form : Form) (cs : List Char) : Except Error Int :=
  let malformed := Error.malformed form (String.ofList cs)
  match cs.dropWhile isMargin with
  | '-' :: rest => (readNat form malformed rest).map fun n => -(n : Int)
  | '+' :: rest => (readNat form malformed rest).map Int.ofNat
  | rest => (readNat form malformed rest).map Int.ofNat

end Mailroom.Text.Numeral
