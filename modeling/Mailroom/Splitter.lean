import Mailroom.Inbox

/-!
# Numbers split into digits

The splitter takes one integer after the other from its inbox and sends its digits on: the hundreds
if there are any, the tens if hundreds or tens are there, and the ones.

    123 -> 1, 2, 3        40 -> 4, 0
    100 -> 1, 0, 0         5 -> 5

Nothing keeps the integers below a thousand: 1234 has twelve hundreds.  Nothing is taken from a
negative integer, which is sent on as it is.

What happens on the way is kept as a list of events, in order, for whoever shows the stages, the
digits or a trace.

This follows the program's `Decomposer` with its `Stage` and `DigitCounters`, and `explode` and
`explode_all`.

- `takeAway`: the loop that counts how often a hundred or ten can be taken.
- `Splitter.step`: one integer read and split.
- `Splitter.run`: integers read and split until the inbox is empty or enough have been done.
- `explode`, `explodeAll`: the digits of one integer and of many.
-/

namespace Mailroom

open Text

/-- The stages that splitting an integer goes through. -/
inductive Stage where
  | extractingHundreds
  | extractingTens
  | emitting
  deriving DecidableEq, Repr

namespace Stage

/-- The name of a stage. -/
def name : Stage → String
  | .extractingHundreds => "EXTRACTING_HUNDREDS"
  | .extractingTens => "EXTRACTING_TENS"
  | .emitting => "EMITTING"

/-- All stages in order. -/
def all : List Stage := [.extractingHundreds, .extractingTens, .emitting]

/-- The stage with a name. -/
def ofName? (name : String) : Option Stage :=
  all.find? (·.name == name)

end Stage

/-- What is taken from an integer again and again. -/
inductive Denomination where
  | hundred
  | ten
  deriving DecidableEq, Repr

/-- How much that is. -/
def Denomination.worth : Denomination → Int
  | .hundred => 100
  | .ten => 10

theorem Denomination.worth_pos (d : Denomination) : 0 < d.worth := by
  cases d <;> decide

/-- A denomination is taken from `n` for as long as there is enough left, and each time the counter
goes up by one.  The result is what is left, and the counter. -/
def takeAway (d : Denomination) (n counter : Int) : Int × Int :=
  if d.worth ≤ n then takeAway d (n - d.worth) (counter + 1) else (n, counter)
termination_by n.toNat
decreasing_by
  have := d.worth_pos
  omega

/-- What happens while integers are split. -/
inductive SplitEvent where
  /-- An integer has been read. -/
  | read (n : Int)
  /-- A stage begins. -/
  | entered (stage : Stage)
  /-- A digit is sent on. -/
  | emitted (v : Int)
  /-- A run is over, after so many integers. -/
  | finished (count : Nat)
  deriving DecidableEq, Repr

namespace SplitEvent

/-- The line of a trace; entering a stage leaves none. -/
def traceLine? : SplitEvent → Option String
  | .read n => some ("[TRACE] read " ++ Numeral.text n)
  | .entered _ => none
  | .emitted v => some ("[TRACE] emit " ++ Numeral.text v)
  | .finished count => some ("[RUN] processed=" ++ Numeral.natText count)

end SplitEvent

/-- A splitter with its inbox.  The counters are those of the last integer, or zero where none could
be read; what was left of the last integer stays until the next one has been read. -/
structure Splitter where
  inbox : Inbox
  hundreds : Int := 0
  tens : Int := 0
  ones : Int := 0
  stage : Option Stage := none
  deriving DecidableEq, Repr

namespace Splitter

/-- How a step ended. -/
inductive Outcome where
  /-- An integer has been split. -/
  | split
  /-- The inbox is empty. -/
  | dry
  /-- The next slip is spoiled. -/
  | failed (e : InboxError)
  deriving DecidableEq, Repr

/-- What a step leaves behind. -/
structure Turn where
  splitter : Splitter
  events : List SplitEvent
  outcome : Outcome

/-- The counters start over. -/
def reset (s : Splitter) : Splitter :=
  { s with hundreds := 0, tens := 0 }

/-- What happens on the way from an integer to its counters and what is left.  A zero for the tens
is sent only behind hundreds. -/
def splitEvents (n hundreds tens ones : Int) : List SplitEvent :=
  [.read n, .entered .extractingHundreds]
    ++ (if hundreds ≠ 0 then [.emitted hundreds] else [])
    ++ [.entered .extractingTens, .entered .emitting]
    ++ (if hundreds ≠ 0 then [.emitted tens] else if tens ≠ 0 then [.emitted tens] else [])
    ++ [.emitted ones]

/-- Splits an integer that has been read: hundreds are taken from it and counted, and tens are taken
from what they leave and counted. -/
def split (n : Int) (s : Splitter) : Splitter × List SplitEvent :=
  let (afterHundreds, hundreds) := takeAway .hundred n s.hundreds
  let (ones, tens) := takeAway .ten afterHundreds s.tens
  ({ s with hundreds, tens, ones, stage := some .emitting }, splitEvents n hundreds tens ones)

/-- One integer is read and split. -/
def step (s : Splitter) : Turn :=
  match s.inbox.next with
  | (.empty, inbox) => ⟨{ s.reset with inbox, stage := none }, [], .dry⟩
  | (.failed e, inbox) => ⟨{ s.reset with inbox }, [], .failed e⟩
  | (.value n, inbox) =>
    let (s, events) := { s.reset with inbox }.split n
    ⟨s, events, .split⟩

theorem step_remaining {s : Splitter} (h : s.step.outcome = .split) :
    s.step.splitter.inbox.remaining < s.inbox.remaining := by
  obtain ⟨⟨pending⟩, _, _, _, _⟩ := s
  match pending with
  | [] => simp [step, Inbox.next] at h
  | .value v :: rest => simp [step, split, Inbox.next, Inbox.remaining]
  | .spoiled e :: rest => simp [step, Inbox.next] at h

/-- What a run leaves behind: all that happened in order, and how many integers were split or which
slip was spoiled. -/
structure Run where
  splitter : Splitter
  events : List SplitEvent
  outcome : Except InboxError Nat

/-- Whether a limit on the number of integers is reached. -/
def enough (limit : Option Int) (count : Nat) : Bool :=
  match limit with
  | none => false
  | some most => most ≤ count

/-- Steps on until the inbox is empty, a slip is spoiled or `limit` integers are done; `count` of
them are done already. -/
def runFrom (limit : Option Int) (count : Nat) (s : Splitter) : Run :=
  if enough limit count then ⟨s, [.finished count], .ok count⟩
  else
    match h : s.step.outcome with
    | .dry => ⟨s.step.splitter, [.finished count], .ok count⟩
    | .failed e => ⟨s.step.splitter, [], .error e⟩
    | .split =>
      let later := runFrom limit (count + 1) s.step.splitter
      { later with events := s.step.events ++ later.events }
termination_by s.inbox.remaining
decreasing_by exact step_remaining h

/-- A run of at most `limit` integers, or of all there are. -/
def run (limit : Option Int) (s : Splitter) : Run :=
  runFrom limit 0 s

end Splitter

/-- The digits that are sent on, among all that happens. -/
def SplitEvent.sent : List SplitEvent → List Int :=
  List.filterMap fun
    | .emitted v => some v
    | _ => none

/-- The digits of one integer: what a splitter sends for it. -/
def explode (n : Int) : List Int :=
  SplitEvent.sent (Splitter.step { inbox := .ofValues [n] }).events

/-- The digits of integers, one after the other. -/
def explodeAll (values : List Int) : List Int :=
  SplitEvent.sent (Splitter.run none { inbox := .ofValues values }).events

end Mailroom
