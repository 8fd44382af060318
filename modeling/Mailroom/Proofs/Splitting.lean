import Mathlib.Tactic.Common
import Mailroom.Splitter

/-!
# What a splitter sends

A splitter takes one value after the other from its inbox until there is none, or until a slip is
spoiled.  In both cases the digits of all values in front have been sent by then.  What it counts
for a value depends on the value alone: the counters start over, and the loops count quotients.

- `takeAway_keeps`: what every round of a loop leaves as it was.
- `takeAway_eq`: a loop counts a quotient and leaves a remainder.
- `Split.of`: what is counted for a value, and `step_value`: what a step comes to.
- `runFrom_value`, `runFrom_values`: what one step and many of them leave of a run.
- `explodeAll_eq`: the digits of many values are those of each, one after the other.
-/

namespace Mailroom

/-! ## Units taken away -/

/-- How often `unit` can be taken from `n` while at least `unit` is left. -/
def timesTaken (unit n : Int) : Int :=
  if n < unit then 0 else n / unit

section Units

variable {unit n : Int}

lemma timesTaken_of_lt (h : n < unit) : timesTaken unit n = 0 :=
  if_pos h

/-- Where a unit can be taken away, it is taken once more than from what is left. -/
lemma timesTaken_of_le (hunit : 0 < unit) (h : unit ≤ n) :
    timesTaken unit n = timesTaken unit (n - unit) + 1 := by
  rw [timesTaken, if_neg (by omega), timesTaken]
  split
  · rename_i hlt
    rw [Int.ediv_eq_iff_of_pos hunit]
    omega
  · rw [Int.sub_ediv_of_dvd _ (Int.dvd_refl unit), Int.ediv_self (by omega)]
    omega

lemma timesTaken_nonneg (hunit : 0 < unit) : 0 ≤ timesTaken unit n := by
  rw [timesTaken]
  split
  · exact Int.le_refl 0
  · exact Int.ediv_nonneg (by omega) (by omega)

/-- Less than a unit is left. -/
lemma sub_timesTaken_lt (hunit : 0 < unit) : n - unit * timesTaken unit n < unit := by
  rw [timesTaken]
  split
  · omega
  · have := Int.emod_lt_of_pos n hunit
    rw [Int.emod_def] at this
    exact this

end Units

/-- **What a loop keeps.**  What has been counted and what is left make up the same in every round,
the counter never goes down, and in the end there is less left than could be taken. -/
lemma takeAway_keeps (d : Denomination) (n counter : Int) :
    d.worth * (takeAway d n counter).2 + (takeAway d n counter).1 = d.worth * counter + n ∧
      counter ≤ (takeAway d n counter).2 ∧ (takeAway d n counter).1 < d.worth := by
  fun_induction takeAway d n counter with
  | case1 n counter hle ih =>
      obtain ⟨hsum, hcounter, hleft⟩ := ih
      rw [Int.mul_add, Int.mul_one] at hsum
      exact ⟨by omega, by omega, hleft⟩
  | case2 n counter hlt => exact ⟨rfl, Int.le_refl counter, Int.not_le.mp hlt⟩

/-- **What a loop counts.**  As often as the denomination can be taken, the counter goes up. -/
lemma takeAway_eq (d : Denomination) (n counter : Int) :
    takeAway d n counter
      = (n - d.worth * timesTaken d.worth n, counter + timesTaken d.worth n) := by
  fun_induction takeAway d n counter with
  | case1 n counter hle ih =>
      have htaken := timesTaken_of_le d.worth_pos hle
      rw [ih, htaken, Int.mul_add, Int.mul_one, Prod.mk.injEq]
      exact ⟨by omega, by omega⟩
  | case2 n counter hlt =>
      rw [timesTaken_of_lt (Int.not_le.mp hlt), Int.mul_zero, Int.sub_zero, Int.add_zero]

/-! ## One value -/

/-- How many hundreds and tens are taken from an integer, and what is left of it. -/
structure Split where
  hundreds : Int
  tens : Int
  ones : Int
  deriving DecidableEq, Repr

namespace Split

/-- What both loops come to when the counters start from zero. -/
def of (n : Int) : Split :=
  ⟨(takeAway .hundred n 0).2, (takeAway .ten (takeAway .hundred n 0).1 0).2,
    (takeAway .ten (takeAway .hundred n 0).1 0).1⟩

/-- The parts of an integer as quotients. -/
lemma of_eq (n : Int) :
    of n = ⟨timesTaken 100 n, timesTaken 10 (n - 100 * timesTaken 100 n),
      n - 100 * timesTaken 100 n - 10 * timesTaken 10 (n - 100 * timesTaken 100 n)⟩ := by
  simp only [of, takeAway_eq, Denomination.worth, Int.zero_add]

/-- The parts of an integer make up the integer.  No hundreds or tens are less than none, and what
remains in the end is less than ten. -/
lemma of_parts (n : Int) :
    100 * (of n).hundreds + 10 * (of n).tens + (of n).ones = n ∧
      0 ≤ (of n).hundreds ∧ 0 ≤ (of n).tens ∧ (of n).ones < 10 := by
  obtain ⟨hsum, hhundreds, -⟩ := takeAway_keeps .hundred n 0
  obtain ⟨hsum', htens, hones⟩ := takeAway_keeps .ten (takeAway .hundred n 0).1 0
  simp only [Denomination.worth] at hsum hsum' hones
  simp only [of]
  omega

/-- The digits that are sent on. -/
def digits (s : Split) : List Int :=
  (if s.hundreds ≠ 0 then [s.hundreds] else [])
    ++ (if s.hundreds ≠ 0 ∨ s.tens ≠ 0 then [s.tens] else [])
    ++ [s.ones]

/-- What happens while an integer is split. -/
def events (n : Int) : List SplitEvent :=
  Splitter.splitEvents n (of n).hundreds (of n).tens (of n).ones

end Split

/-- **A step.**  The next integer is split, with nothing of the one before in the counters. -/
lemma Splitter.step_value {s : Splitter} {v : Int} {later : List Slip}
    (h : s.inbox.pending = .value v :: later) :
    s.step = ⟨⟨⟨later⟩, (Split.of v).hundreds, (Split.of v).tens, (Split.of v).ones,
      some .emitting⟩, Split.events v, .split⟩ := by
  simp only [step, Inbox.next, h]
  rfl

/-- The digits among what happens while a value is split. -/
lemma sent_events_eq_digits (n : Int) :
    SplitEvent.sent (Split.events n) = (Split.of n).digits := by
  rw [Split.digits, Split.events, Splitter.splitEvents, SplitEvent.sent]
  by_cases hhundreds : (Split.of n).hundreds = 0 <;> by_cases htens : (Split.of n).tens = 0 <;>
    simp [hhundreds, htens]

lemma sent_events (n : Int) : SplitEvent.sent (Split.events n) = explode n := by
  have hpending : (Inbox.ofValues [n]).pending = .value n :: [] := rfl
  rw [explode, Splitter.step_value hpending]

lemma explode_eq (n : Int) : explode n = (Split.of n).digits := by
  rw [← sent_events, sent_events_eq_digits]

lemma sent_flatMap_events (values : List Int) :
    SplitEvent.sent (values.flatMap Split.events) = values.flatMap explode := by
  induction values with
  | nil => rfl
  | cons v values ih =>
      rw [List.flatMap_cons, List.flatMap_cons, ← sent_events v, ← ih]
      exact List.filterMap_append

/-! ## Runs -/

namespace Splitter

/-- A run that is not over yet, by how its next step ends. -/
lemma runFrom_unfold {limit : Option Int} {count : Nat} (h : enough limit count = false)
    (s : Splitter) :
    s.runFrom limit count =
      match s.step.outcome with
      | .dry => ⟨s.step.splitter, [.finished count], .ok count⟩
      | .failed e => ⟨s.step.splitter, [], .error e⟩
      | .split =>
        let later := s.step.splitter.runFrom limit (count + 1)
        { later with events := s.step.events ++ later.events } := by
  rw [runFrom, if_neg (by simp [h])]
  split <;> rename_i h <;> rw [h]

/-- **One step.**  A value is split, and the run goes on behind it. -/
lemma runFrom_value {s : Splitter} {v : Int} {later : List Slip}
    (hpending : s.inbox.pending = .value v :: later) (count : Nat) :
    ∃ s' : Splitter, s'.inbox.pending = later ∧
      (s.runFrom none count).events = Split.events v ++ (s'.runFrom none (count + 1)).events ∧
      (s.runFrom none count).outcome = (s'.runFrom none (count + 1)).outcome := by
  refine ⟨s.step.splitter, by rw [step_value hpending], ?_⟩
  rw [runFrom_unfold rfl, step_value hpending]
  exact ⟨rfl, rfl⟩

/-- **Runs.**  All values are split, and the run goes on behind them. -/
lemma runFrom_values {values : List Int} {behind : List Slip} {s : Splitter}
    (hpending : s.inbox.pending = values.map .value ++ behind) (count : Nat) :
    ∃ s' : Splitter, s'.inbox.pending = behind ∧
      (s.runFrom none count).events
        = values.flatMap Split.events ++ (s'.runFrom none (count + values.length)).events ∧
      (s.runFrom none count).outcome = (s'.runFrom none (count + values.length)).outcome := by
  induction values generalizing s count with
  | nil => exact ⟨s, hpending, rfl, rfl⟩
  | cons v values ih =>
      obtain ⟨s1, hpending1, hevents1, houtcome1⟩ := runFrom_value hpending count
      obtain ⟨s2, hpending2, hevents2, houtcome2⟩ := ih hpending1 (count + 1)
      have hcount : count + 1 + values.length = count + (v :: values).length := by
        rw [List.length_cons]
        omega
      rw [hcount] at hevents2 houtcome2
      refine ⟨s2, hpending2, ?_, houtcome1.trans houtcome2⟩
      rw [hevents1, hevents2, List.flatMap_cons, List.append_assoc]

lemma runFrom_empty {s : Splitter} (hpending : s.inbox.pending = []) (count : Nat) :
    (s.runFrom none count).events = [.finished count] ∧
      (s.runFrom none count).outcome = .ok count := by
  have hstep : s.step.outcome = .dry := by simp only [step, Inbox.next, hpending]
  rw [runFrom_unfold rfl, hstep]
  exact ⟨rfl, rfl⟩

lemma runFrom_spoiled {s : Splitter} {e : InboxError} {later : List Slip}
    (hpending : s.inbox.pending = .spoiled e :: later) (count : Nat) :
    (s.runFrom none count).events = [] ∧ (s.runFrom none count).outcome = .error e := by
  have hstep : s.step.outcome = .failed e := by simp only [step, Inbox.next, hpending]
  rw [runFrom_unfold rfl, hstep]
  exact ⟨rfl, rfl⟩

/-- A run up to a spoiled slip sends the digits of the values in front of it, and fails. -/
lemma run_spoiled {s : Splitter} {values : List Int} {e : InboxError} {later : List Slip}
    (hpending : s.inbox.pending = values.map .value ++ .spoiled e :: later) :
    SplitEvent.sent (s.run none).events = values.flatMap explode ∧
      (s.run none).outcome = .error e := by
  obtain ⟨s', hpending', hevents, houtcome⟩ := runFrom_values hpending 0
  obtain ⟨hevents', houtcome'⟩ := runFrom_spoiled hpending' (0 + values.length)
  rw [run, hevents, hevents', List.append_nil, sent_flatMap_events]
  exact ⟨rfl, houtcome.trans houtcome'⟩

end Splitter

/-- The digits of values are those of each of them, one after the other. -/
theorem explodeAll_eq (values : List Int) : explodeAll values = values.flatMap explode := by
  obtain ⟨s', hpending, hevents, -⟩ := Splitter.runFrom_values
    (s := { inbox := .ofValues values }) (List.append_nil _).symm 0
  rw [explodeAll, Splitter.run, hevents, (Splitter.runFrom_empty hpending _).1]
  refine Eq.trans ?_ (sent_flatMap_events values)
  simp [SplitEvent.sent]

end Mailroom
