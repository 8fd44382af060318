import Mailroom.Source.Bundled
import Mailroom.Text.Digit
import Mailroom.Text.Quoted
import Mailroom.Text.Search

/-!
# Arguments of the command line

Words that start with a dash are options, unless they look like negative numbers or hold a blank.  A
long option may be shortened as long as it can be told from the others.  The value of an option is
the next word, or what follows an equals sign, or the rest of a short option.  The first run of
words that are no options holds the input values; what else there is is not recognized.  After two
dashes there are no more options, and two dashes as a value leave an option without one.

The options are those of the program's `build_parser`.

- `Flag`: the options.
- `Setting`: what an option is set to.
- `classify`: what a word is taken for.
- `Arguments.read`: the arguments that words spell, or what is wrong with them.
-/

namespace Mailroom.CommandLine

open Text

/-- The options. -/
inductive Flag where
  | help
  | file
  | machine
  | program
  | listing
  | source
  | led
  | ledMap
  | exportMap
  | debug
  deriving DecidableEq, Repr

namespace Flag

/-- All options, in the order in which messages list them. -/
def all : List Flag :=
  [.help, .file, .machine, .program, .listing, .source, .led, .ledMap, .exportMap, .debug]

/-- How an option is spelled. -/
def spellings : Flag → List String
  | .help => ["-h", "--help"]
  | .file => ["-f", "--file"]
  | .machine => ["--machine"]
  | .program => ["--program"]
  | .listing => ["--listing"]
  | .source => ["--source"]
  | .led => ["--led"]
  | .ledMap => ["--led-map"]
  | .exportMap => ["--export-map"]
  | .debug => ["--debug"]

/-- Whether an option has a value. -/
def takesValue : Flag → Bool
  | .file | .program | .source | .ledMap => true
  | .help | .machine | .listing | .led | .exportMap | .debug => false

/-- An option as messages name it. -/
def title (f : Flag) : String :=
  "/".intercalate f.spellings

/-- All spellings, each with its option. -/
def table : List (String × Flag) :=
  all.flatMap fun f => f.spellings.map fun spelling => (spelling, f)

end Flag

/-- What is wrong with the words of a command line. -/
inductive UsageError where
  | ambiguous (word : String) (spellings : List String)
  | expectedValue (f : Flag)
  | ignoredValue (f : Flag) (value : String)
  | unknownProgram (value : String)
  | unrecognized (words : List String)
  deriving DecidableEq, Repr

/-- The wording of an error. -/
def UsageError.message : UsageError → String
  | .ambiguous word spellings =>
    "ambiguous option: " ++ word ++ " could match " ++ ", ".intercalate spellings
  | .expectedValue f => "argument " ++ f.title ++ ": expected one argument"
  | .ignoredValue f value =>
    "argument " ++ f.title ++ ": ignored explicit argument " ++ quoted value
  | .unknownProgram value =>
    "argument " ++ Flag.program.title ++ ": invalid choice: " ++ quoted value ++ " (choose from "
      ++ ", ".intercalate (Source.bundled.map fun (name, _) => quoted name) ++ ")"
  | .unrecognized words => "unrecognized arguments: " ++ " ".intercalate words

/-! ## Words -/

/-- What a word is taken for. -/
inductive Word where
  /-- An option, with the value that is part of the word. -/
  | option (f : Flag) (value : Option String)
  /-- An option that there is not. -/
  | unknown
  /-- The two dashes that end the options. -/
  | dashes
  | plain
  deriving DecidableEq, Repr

/-- A word like `-5` or `-1.5`; a line end behind it does not matter. -/
def isNegativeNumber (word : List Char) : Bool :=
  match word with
  | '-' :: body =>
    let body := if body.getLast? = some '\n' then body.dropLast else body
    let digits := body.takeWhile isDecimalDigit
    match body.drop digits.length with
    | [] => !digits.isEmpty
    | '.' :: fraction => !fraction.isEmpty && fraction.all isDecimalDigit
    | _ => false
  | _ => false

/-- A word divided at its first equals sign. -/
def divide (word : List Char) : List Char × Option (List Char) :=
  (before ['='] word, after? ['='] word)

/-- The options that a word may be short for, with the value that is part of it. -/
def candidates (word : List Char) : List (String × Flag × Option String) :=
  if word.take 2 = ['-', '-'] then
    let (stem, value) := divide word
    (Flag.table.filter fun (spelling, _) => stem.isPrefixOf spelling.toList).map
      fun (spelling, f) => (spelling, f, value.map String.ofList)
  else
    (Flag.table.filter fun (spelling, _) => spelling.toList = word.take 2).map
      fun (spelling, f) => (spelling, f, some (String.ofList (word.drop 2)))

/-- What a word in front of the two dashes is taken for. -/
def classify (word : String) : Except UsageError Word :=
  let cs := word.toList
  let (stem, value) := divide cs
  if cs.head? ≠ some '-' then .ok .plain
  else
    match Flag.table.lookup word with
    | some f => .ok (.option f none)
    | none =>
      if cs.length = 1 then .ok .plain
      else
        match value, Flag.table.lookup (String.ofList stem) with
        | some value, some f => .ok (.option f (some (String.ofList value)))
        | _, _ =>
          match candidates cs with
          | [] => .ok (if isNegativeNumber cs || cs.contains ' ' then .plain else .unknown)
          | [(_, f, value)] => .ok (.option f value)
          | several => .error (.ambiguous word (several.map (·.1)))

/-- What words are taken for. -/
def classifyAll : List String → Except UsageError (List (String × Word))
  | [] => .ok []
  | word :: rest =>
    if word = "--" then .ok ((word, .dashes) :: rest.map fun w => (w, .plain))
    else do
      let kind ← classify word
      return (word, kind) :: (← classifyAll rest)

/-! ## Arguments -/

/-- What an option with a value is set to. -/
inductive Setting where
  /-- The option is not given. -/
  | absent
  /-- The option is given, but two dashes stand for its value. -/
  | hollow
  | text (value : String)
  deriving DecidableEq, Repr

namespace Setting

/-- What the value of an option sets it to. -/
def ofValue (value : String) : Setting :=
  if value = "--" then .hollow else .text value

/-- The value, unless it is empty. -/
def value? : Setting → Option String
  | .text value => if value.isEmpty then none else some value
  | .absent | .hollow => none

/-- A setting as messages give it. -/
def shown : Setting → String
  | .absent => "None"
  | .hollow => "[]"
  | .text value => value

end Setting

/-- The arguments of a command line. -/
structure Arguments where
  values : List String := []
  file : Setting := .absent
  machine : Bool := false
  program : Setting := .text "digit_exploder"
  listing : Bool := false
  source : Setting := .absent
  led : Bool := false
  ledMap : Setting := .absent
  exportMap : Bool := false
  debug : Bool := false
  help : Bool := false
  deriving DecidableEq, Repr

namespace Arguments

/-- An option without a value is given. -/
def switchOn (a : Arguments) : Flag → Arguments
  | .help => { a with help := true }
  | .machine => { a with machine := true }
  | .listing => { a with listing := true }
  | .led => { a with led := true }
  | .exportMap => { a with exportMap := true }
  | .debug => { a with debug := true }
  | .file | .program | .source | .ledMap => a

/-- An option with a value is given. -/
def give (a : Arguments) (f : Flag) (value : String) : Except UsageError Arguments :=
  match f with
  | .file => .ok { a with file := .ofValue value }
  | .source => .ok { a with source := .ofValue value }
  | .ledMap => .ok { a with ledMap := .ofValue value }
  | .program =>
    let setting := Setting.ofValue value
    if setting = .hollow ∨ (Source.bundled.lookup value).isSome then
      .ok { a with program := setting }
    else .error (.unknownProgram value)
  | .help | .machine | .listing | .led | .exportMap | .debug => .ok a

end Arguments

/-- How far the input values have come. -/
inductive Phase where
  | before
  | inside
  | past
  deriving DecidableEq, Repr

/-- What has been read of a command line. -/
structure Progress where
  arguments : Arguments
  phase : Phase := .before
  extras : List String := []

namespace Progress

/-- An option ends a run of input values. -/
def pass (p : Progress) : Progress :=
  if p.phase = .inside then { p with phase := .past } else p

/-- A word that is no option is an input value, unless the run of these is over. -/
def take (p : Progress) (word : String) (dashes : Bool) : Progress :=
  if p.phase = .past then { p with extras := p.extras ++ [word] }
  else if dashes then { p with phase := .inside }
  else
    { p with
      phase := .inside
      arguments := { p.arguments with values := p.arguments.values ++ [word] } }

/-- Reads words one after the other.  Asking for help ends the reading. -/
def readAll (p : Progress) : List (String × Word) → Except UsageError Progress
  | [] => .ok p
  | (word, .unknown) :: rest => readAll { p.pass with extras := p.extras ++ [word] } rest
  | (word, .dashes) :: rest => readAll (p.take word true) rest
  | (word, .plain) :: rest => readAll (p.take word false) rest
  | (_, .option f value) :: rest =>
    if f.takesValue then
      match value, rest with
      | some value, rest => do readAll { p.pass with arguments := ← p.arguments.give f value } rest
      | none, (value, .plain) :: rest => do
        readAll { p.pass with arguments := ← p.arguments.give f value } rest
      | none, _ => .error (.expectedValue f)
    else
      match value with
      | some value =>
        if f = .help ∧ value.toList.head?.any (· ≠ '-') then
          .ok { p with arguments := p.arguments.switchOn .help }
        else .error (.ignoredValue f value)
      | none =>
        let p := { p.pass with arguments := p.arguments.switchOn f }
        if f = .help then .ok p else readAll p rest

end Progress

/-- The arguments that words spell; `debug` is what holds if the words say nothing about it. -/
def Arguments.read (debug : Bool) (words : List String) : Except UsageError Arguments := do
  let p ← Progress.readAll { arguments := { debug } } (← classifyAll words)
  if p.arguments.help || p.extras.isEmpty then return p.arguments
  else throw (.unrecognized p.extras)

end Mailroom.CommandLine
