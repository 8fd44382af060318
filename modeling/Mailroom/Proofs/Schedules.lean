import Mailroom.Proofs.Splitting

/-!
# A splitter that is asked again and again

A splitter may be asked for one step, for a run of at most so many integers, or for a run of all
there are, in any order.  How the integers are parted among the requests makes no difference to what
comes out: the digits of those that are taken, in order, and nothing is taken twice or left out
between two requests.

- `Request`, `serveAll`: requests, and a splitter that is asked one after the other.
- `Request.takes`, `Request.answer`: what a request comes to, by how many integers are left.
- `step_ofValues`, `step_empty`: what one step does.
- `runFrom_takes`: what a run does, by induction on the integers that are left.
- `serveAll_splits`: what any requests come to.
-/

namespace Mailroom

/-- The stages that begin, among all that happens. -/
def SplitEvent.stages : List SplitEvent → List Stage :=
  List.filterMap fun
    | .entered stage => some stage
    | _ => none

namespace Splitter

/-! ## Requests -/

/-- What can be asked of a splitter. -/
inductive Request where
  | step
  | run (limit : Option Int)
  deriving DecidableEq, Repr

/-- What a splitter answers. -/
inductive Answer where
  /-- Whether there was an integer to split. -/
  | found (any : Bool)
  /-- How many integers were split. -/
  | count (n : Nat)
  | failed (e : InboxError)
  deriving DecidableEq, Repr

/-- The answer to a step. -/
def Outcome.answer : Outcome → Answer
  | .split => .found true
  | .dry => .found false
  | .failed e => .failed e

/-- The answer to a run. -/
def Run.answer (r : Run) : Answer :=
  match r.outcome with
  | .ok n => .count n
  | .error e => .failed e

/-- A splitter after some requests, with all that happened and all answers in order. -/
structure Session where
  splitter : Splitter
  events : List SplitEvent
  answers : List Answer

/-- A splitter that is asked once. -/
def serve (s : Splitter) : Request → Session
  | .step => ⟨s.step.splitter, s.step.events, [s.step.outcome.answer]⟩
  | .run limit => ⟨(s.run limit).splitter, (s.run limit).events, [(s.run limit).answer]⟩

/-- A splitter that is asked one request after the other. -/
def serveAll (s : Splitter) : List Request → Session
  | [] => ⟨s, [], []⟩
  | request :: rest =>
    let first := s.serve request
    let later := first.splitter.serveAll rest
    ⟨later.splitter, first.events ++ later.events, first.answers ++ later.answers⟩

/-! ## What requests come to -/

/-- How many of the integers that are left a limit lets through. -/
def allowed (limit : Option Int) (left : Nat) : Nat :=
  match limit with
  | none => left
  | some most => min (max most 0).toNat left

/-- How many of the integers that are left a request takes. -/
def Request.takes (left : Nat) : Request → Nat
  | .step => min 1 left
  | .run limit => allowed limit left

/-- What is answered to a request when so many integers are left. -/
def Request.answer (left : Nat) : Request → Answer
  | .step => .found (0 < left)
  | .run limit => .count (allowed limit left)

/-- How many integers requests take together. -/
def takesAll (left : Nat) : List Request → Nat
  | [] => 0
  | request :: rest => request.takes left + takesAll (left - request.takes left) rest

/-- What is answered to requests. -/
def answersAll (left : Nat) : List Request → List Answer
  | [] => []
  | request :: rest => request.answer left :: answersAll (left - request.takes left) rest

/-- What is to be seen of a splitter that took `taken` and has `left` before it. -/
structure Session.Shows (taken left : List Int) (t : Session) : Prop where
  inbox : t.splitter.inbox = .ofValues left
  sent : SplitEvent.sent t.events = taken.flatMap explode
  stages : SplitEvent.stages t.events = taken.flatMap fun _ => Stage.all

/-! ## Steps -/

lemma sent_append (events later : List SplitEvent) :
    SplitEvent.sent (events ++ later) = SplitEvent.sent events ++ SplitEvent.sent later :=
  List.filterMap_append

lemma stages_append (events later : List SplitEvent) :
    SplitEvent.stages (events ++ later) = SplitEvent.stages events ++ SplitEvent.stages later :=
  List.filterMap_append

/-- One integer goes through the three stages. -/
lemma stages_events (n : Int) : SplitEvent.stages (Split.events n) = Stage.all := by
  rw [Split.events, splitEvents, SplitEvent.stages]
  by_cases hhundreds : (Split.of n).hundreds = 0 <;> by_cases htens : (Split.of n).tens = 0 <;>
    simp [hhundreds, htens, Stage.all]

lemma stages_flatMap_events (values : List Int) :
    SplitEvent.stages (values.flatMap Split.events) = values.flatMap fun _ => Stage.all := by
  rw [SplitEvent.stages, List.filterMap_flatMap]
  exact congrArg values.flatMap (funext stages_events)

section Steps

variable {s : Splitter} {v : Int} {rest : List Int}

lemma step_ofValues (h : s.inbox = .ofValues (v :: rest)) :
    s.step = ⟨⟨.ofValues rest, (Split.of v).hundreds, (Split.of v).tens, (Split.of v).ones,
      some .emitting⟩, Split.events v, .split⟩ :=
  step_value (by rw [h]; rfl)

lemma step_empty (h : s.inbox = .ofValues []) :
    s.step = ⟨{ s.reset with stage := none }, [], .dry⟩ := by
  rw [step, h]
  simp [Inbox.next, Inbox.ofValues, reset, h]

end Steps

/-! ## Runs -/

section Runs

variable {limit : Option Int} {count : Nat}

lemma allowed_of_enough (h : enough limit count = true) (left : Nat) :
    allowed (limit.map (· - (count : Int))) left = 0 := by
  cases limit with
  | none => cases h
  | some most =>
      have hmost : most ≤ count := of_decide_eq_true h
      simp only [Option.map_some, allowed]
      omega

/-- While a limit is not reached, it lets one more through than it does after the next one. -/
lemma allowed_succ (h : enough limit count = false) (left : Nat) :
    allowed (limit.map (· - (count : Int))) (left + 1)
      = allowed (limit.map (· - ((count + 1 : Nat) : Int))) left + 1 := by
  cases limit with
  | none => rfl
  | some most =>
      have hmost : ¬ most ≤ count := of_decide_eq_false h
      simp only [Option.map_some, allowed]
      omega

lemma runFrom_enough (h : enough limit count = true) (s : Splitter) :
    s.runFrom limit count = ⟨s, [.finished count], .ok count⟩ := by
  rw [runFrom, if_pos h]

/-- **A run.**  As many integers are split as the limit lets through, `count` having been split
before, and the others stay in the inbox. -/
lemma runFrom_takes {left : List Int} {s : Splitter} (h : s.inbox = .ofValues left)
    (limit : Option Int) (count : Nat) :
    let n := allowed (limit.map (· - (count : Int))) left.length
    (s.runFrom limit count).splitter.inbox = .ofValues (left.drop n) ∧
      (s.runFrom limit count).events
        = (left.take n).flatMap Split.events ++ [.finished (count + n)] ∧
      (s.runFrom limit count).outcome = .ok (count + n) := by
  induction left generalizing s count with
  | nil =>
      have hnone : allowed (limit.map (· - (count : Int))) 0 = 0 := by
        cases limit <;> simp [allowed]
      rw [List.length_nil, hnone]
      cases henough : enough limit count with
      | true =>
          rw [runFrom_enough henough]
          exact ⟨h, rfl, rfl⟩
      | false =>
          rw [runFrom_unfold henough, step_empty h]
          exact ⟨h, rfl, rfl⟩
  | cons v left ih =>
      cases henough : enough limit count with
      | true =>
          rw [runFrom_enough henough, allowed_of_enough henough]
          exact ⟨h, rfl, rfl⟩
      | false =>
          rw [runFrom_unfold henough, step_ofValues h, List.length_cons, allowed_succ henough]
          obtain ⟨hinbox, hevents, houtcome⟩ := ih (s := s.step.splitter) (by rw [step_ofValues h])
            (count + 1)
          rw [step_ofValues h] at hinbox hevents houtcome
          rw [Nat.add_right_comm, Nat.add_assoc] at hevents houtcome
          refine ⟨hinbox, ?_, houtcome⟩
          rw [List.take_succ_cons, List.flatMap_cons, List.append_assoc, ← hevents]

end Runs

/-! ## Any requests -/

/-- What comes of one request. -/
lemma serve_shows {left : List Int} {s : Splitter} (h : s.inbox = .ofValues left)
    (request : Request) :
    (s.serve request).Shows (left.take (request.takes left.length))
        (left.drop (request.takes left.length)) ∧
      (s.serve request).answers = [request.answer left.length] := by
  cases request with
  | step =>
      cases left with
      | nil =>
          rw [serve, step_empty h]
          exact ⟨⟨h, rfl, rfl⟩, rfl⟩
      | cons v left =>
          have htakes : Request.step.takes (v :: left).length = 1 := by
            simp [Request.takes]
          rw [serve, step_ofValues h, htakes]
          refine ⟨⟨rfl, ?_, ?_⟩, ?_⟩
          · simpa using sent_events v
          · simpa using stages_events v
          · simp [Request.answer, Outcome.answer]
  | run limit =>
      obtain ⟨hinbox, hevents, houtcome⟩ := runFrom_takes h limit 0
      have hlimit : limit.map (· - ((0 : Nat) : Int)) = limit := by
        cases limit <;> simp
      rw [hlimit] at hinbox hevents houtcome
      refine ⟨⟨hinbox, ?_, ?_⟩, ?_⟩
      · rw [serve, run, hevents, sent_append, sent_flatMap_events]
        exact List.append_nil _
      · rw [serve, run, hevents, stages_append, stages_flatMap_events]
        exact List.append_nil _
      · rw [serve, Run.answer, run, houtcome, Nat.zero_add]
        rfl

/-- What comes of requests, one after the other. -/
lemma serveAll_shows {left : List Int} {s : Splitter} (h : s.inbox = .ofValues left)
    (requests : List Request) :
    (s.serveAll requests).Shows (left.take (takesAll left.length requests))
        (left.drop (takesAll left.length requests)) ∧
      (s.serveAll requests).answers = answersAll left.length requests := by
  induction requests generalizing s left with
  | nil => exact ⟨⟨h, rfl, rfl⟩, rfl⟩
  | cons request requests ih =>
      obtain ⟨hfirst, hanswer⟩ := serve_shows h request
      obtain ⟨hlater, hanswers⟩ := ih hfirst.inbox
      rw [List.length_drop] at hlater hanswers
      rw [serveAll, takesAll, List.take_add, ← List.drop_drop]
      refine ⟨⟨hlater.inbox, ?_, ?_⟩, ?_⟩
      · rw [sent_append, hfirst.sent, hlater.sent, List.flatMap_append]
      · rw [stages_append, hfirst.stages, hlater.stages, List.flatMap_append]
      · rw [hanswer, hanswers]
        rfl

lemma takesAll_le (left : Nat) (requests : List Request) : takesAll left requests ≤ left := by
  induction requests generalizing left with
  | nil => exact Nat.zero_le _
  | cons request requests ih =>
      have hfirst : request.takes left ≤ left := by
        cases request with
        | step => exact Nat.min_le_right 1 left
        | run limit =>
            cases limit with
            | none => exact Nat.le_refl left
            | some most => exact Nat.min_le_right _ left
      have hlater := ih (left - request.takes left)
      rw [takesAll]
      omega

/-- **Splitting is the same however it is asked for.**  After any steps and runs some first part of
the integers has been split: their digits have been sent, all of one before any of the next, each has
gone through the three stages once, and the inbox holds the others.  A run splits as many integers as
its limit says, if there are as many, and says how many they were.  The next step splits the next
integer, and its counters and what it leaves make up that integer whatever was split before.
The integers may be of any size; which of them can be written is another matter. -/
theorem serveAll_splits (values : List Int) (requests : List Request) :
    let after := serveAll { inbox := .ofValues values } requests
    let n := takesAll values.length requests
    n ≤ values.length ∧
      SplitEvent.sent after.events = (values.take n).flatMap explode ∧
      after.splitter.inbox = .ofValues (values.drop n) ∧
      after.answers = answersAll values.length requests ∧
      SplitEvent.stages after.events = (values.take n).flatMap (fun _ => Stage.all) ∧
      ∀ v rest, values.drop n = v :: rest →
        let next := after.splitter.step
        next.outcome = .split ∧
          100 * next.splitter.hundreds + 10 * next.splitter.tens + next.splitter.ones = v ∧
          0 ≤ next.splitter.hundreds ∧ 0 ≤ next.splitter.tens ∧ next.splitter.ones < 10 := by
  intro after n
  obtain ⟨hshows, hanswers⟩ := serveAll_shows (s := { inbox := .ofValues values }) rfl requests
  refine ⟨takesAll_le _ requests, hshows.sent, hshows.inbox, hanswers, hshows.stages, ?_⟩
  intro v rest hnext
  have hinbox : after.splitter.inbox = .ofValues (v :: rest) := hshows.inbox.trans (by rw [hnext])
  simp only [step_ofValues hinbox]
  exact ⟨trivial, Split.of_parts v⟩

/-- A run that stops at its limit, one that is not to split anything, and a step; forty comes
next. -/
theorem serveAll_splits_forty :
    let values : List Int := [1204, -7, 305, 40]
    let after := serveAll { inbox := .ofValues values } [.run (some 2), .run (some (-3)), .step]
    SplitEvent.sent after.events = [12, 0, 4, -7, 3, 0, 5] ∧
      after.answers = [.count 2, .count 0, .found true] ∧
      values.drop 3 = [40] ∧
      100 * after.splitter.step.splitter.hundreds + 10 * after.splitter.step.splitter.tens
        + after.splitter.step.splitter.ones = 40 := by
  intro values after
  obtain ⟨-, hsent, -, hanswers, -, hnext⟩ :=
    serveAll_splits values [.run (some 2), .run (some (-3)), .step]
  have hdigits : [1204, -7, 305].flatMap explode = [12, 0, 4, -7, 3, 0, 5] := by decide +kernel
  exact ⟨hsent.trans hdigits, hanswers, rfl, (hnext 40 [] rfl).2.1⟩

end Splitter

end Mailroom
