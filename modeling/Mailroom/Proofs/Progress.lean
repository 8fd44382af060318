import Mathlib
import Mailroom.Proofs.CursorWalk

/-!
# The descent makes progress

The descent ends because it hands on fewer tokens than it was given.  A walk over the same tokens
has only its cursor to go by, so it could go round a loop without reading anything, or read on
behind the end.  That it does neither comes from following the descent: wherever fewer tokens are
left than rounds, each step of the walk does what the step of the descent does with them.

- `Trail.Sound`: a trail that leads forward and not behind the end.
- `Tracks`, `Follows`: a walk does what the descent does.
- `noted_follows`: over a phrase, the cursor goes on.
- `expression_follows`, `statement_follows`, `program_follows`: the walk follows the descent.
- `descent_progresses`: the descent ends, each phrase takes tokens, and the end is not passed.
-/

namespace Mailroom.Source

/-! ## Trails -/

/-- A trail that leads forward over a number of tokens.  The end stands behind the last of them, at
the position that is their number. -/
structure Trail.Sound (s : Trail) (size : Nat) : Prop where
  start : s.visited.head? = some 0
  stop : s.visited.getLast? = some s.position
  forward : s.visited.IsChain (· < ·)
  bound : ∀ p ∈ s.visited, p ≤ size
  read : ∀ r ∈ s.read, r.start < r.stop ∧ r.stop ≤ size

namespace Trail

variable {s : Trail} {size : Nat}

lemma sound_start (size : Nat) : Sound {} size := by
  refine ⟨rfl, rfl, .singleton 0, ?_, ?_⟩ <;> simp

lemma Sound.position_mem (h : s.Sound size) : s.position ∈ s.visited :=
  List.mem_of_getLast? h.stop

lemma Sound.position_le (h : s.Sound size) : s.position ≤ size :=
  h.bound _ h.position_mem

lemma Sound.moved (h : s.Sound size) {n : Nat} (hn : 0 < n) (hsize : s.position + n ≤ size) :
    (s.moved n).Sound size := by
  have hne : s.visited ≠ [] := List.ne_nil_of_mem h.position_mem
  refine ⟨?_, by simp [Trail.moved], ?_, ?_, h.read⟩
  · rw [Trail.moved, List.head?_append_of_ne_nil _ hne]
    exact h.start
  · refine List.isChain_append.mpr ⟨h.forward, .singleton _, fun p hp q hq => ?_⟩
    rw [h.stop] at hp
    cases hp
    cases hq
    omega
  · simp only [Trail.moved, List.forall_mem_append, List.forall_mem_singleton]
    exact ⟨h.bound, hsize⟩

lemma Sound.noting (h : s.Sound size) {start : Nat} (hlt : start < s.position) (phrase : Phrase) :
    (s.noting phrase start).Sound size := by
  refine ⟨h.start, h.stop, h.forward, h.bound, ?_⟩
  simp only [Trail.noting, List.forall_mem_append, List.forall_mem_singleton]
  exact ⟨h.read, hlt, h.position_le⟩

end Trail

/-- The tokens that are left at a trail's end. -/
def Tokens.left (tape : Tokens) (s : Trail) : List Token :=
  tape.tokens.drop s.position

/-- What a step of the descent returns, without the fact about the tokens that are left. -/
def plain {α : Type} {P : List Token → Prop}
    (outcome : Except SourceError (α × { rest : List Token // P rest })) :
    Except SourceError (α × List Token) :=
  outcome.map fun found => (found.1, found.2.1)

variable {tape : Tokens} {s : Trail} {α β : Type}

lemma length_left (tape : Tokens) (s : Trail) :
    (tape.left s).length = tape.tokens.length - s.position :=
  List.length_drop

lemma left_moved (tape : Tokens) (s : Trail) (n : Nat) :
    tape.left (s.moved n) = (tape.left s).drop n := by
  rw [Tokens.left, Tokens.left, List.drop_drop]
  rfl

lemma sound_moved (hs : s.Sound tape.tokens.length) {n : Nat} (hn : 0 < n)
    (hle : n ≤ (tape.left s).length) : (s.moved n).Sound tape.tokens.length := by
  rw [length_left] at hle
  exact hs.moved hn (by omega)

lemma left_moved_one {t : Token} {tail : List Token} (h : tape.left s = t :: tail) :
    tape.left (s.moved 1) = tail := by
  rw [left_moved, h]
  rfl

lemma sound_moved_one (hs : s.Sound tape.tokens.length) {t : Token} {tail : List Token}
    (h : tape.left s = t :: tail) : (s.moved 1).Sound tape.tokens.length := by
  refine sound_moved hs Nat.one_pos ?_
  rw [h]
  exact Nat.succ_le_succ (Nat.zero_le _)

/-! ## Walks and the descent -/

/-- A walk ends as a step of the descent does, with the same result or the same error, and not
because it is cut off.  What the step leaves is left behind the cursor, and the trail is sound. -/
inductive Tracks (tape : Tokens) : EStateM.Result WalkError Trail α →
    Except SourceError (α × List Token) → Prop
  | ok {a : α} {s : Trail} {rest : List Token} : s.Sound tape.tokens.length →
      tape.left s = rest → Tracks tape (.ok a s) (.ok (a, rest))
  | error {e : SourceError} {s : Trail} : s.Sound tape.tokens.length →
      Tracks tape (.error (.source e) s) (.error e)

/-- A walk tracks a step of the descent wherever fewer than `bound` tokens are left. -/
def Follows (tape : Tokens) (bound : Nat) (x : Walk α) {P : List Token → List Token → Prop}
    (f : (ts : List Token) → Except SourceError (α × { rest : List Token // P ts rest })) : Prop :=
  ∀ (s : Trail) (ts : List Token), s.Sound tape.tokens.length → tape.left s = ts →
    ts.length < bound → Tracks tape (x s) (plain (f ts))

lemma Follows.zero {x : Walk α} {P : List Token → List Token → Prop}
    {f : (ts : List Token) → Except SourceError (α × { rest : List Token // P ts rest })} :
    Follows tape 0 x f :=
  fun _ _ _ _ hlt => absurd hlt (Nat.not_lt_zero _)

/-- One step behind another: both are tracked if the first one is, and the second one from wherever
that leads. -/
lemma Tracks.step {x : Walk α} {f : α → Walk β} {P : List Token → Prop}
    {outcome : Except SourceError (α × { rest : List Token // P rest })}
    {whole : Except SourceError (β × List Token)} (hx : Tracks tape (x s) (plain outcome))
    (herror : ∀ e, outcome = .error e → whole = .error e)
    (hok : ∀ a rest h s', outcome = .ok (a, ⟨rest, h⟩) → s'.Sound tape.tokens.length →
      tape.left s' = rest → Tracks tape (f a s') whole) : Tracks tape ((x >>= f) s) whole := by
  change Tracks tape (EStateM.bind x f s) whole
  rw [EStateM.bind]
  cases outcome with
  | error e =>
      rw [herror e rfl]
      generalize x s = r at hx
      cases hx with
      | error hs => exact .error hs
  | ok found =>
      obtain ⟨a, rest, hrest⟩ := found
      change Tracks tape (x s) (.ok (a, rest)) at hx
      generalize x s = r at hx
      cases hx with
      | ok hs hleft => exact hok a rest hrest _ rfl hs hleft

/-! ## Single tokens -/

section Tokens

variable {ts : List Token}

lemma peek_bind (hleft : tape.left s = ts) (offset : Nat) (f : Option Token → Walk α) :
    (Walk.peek tape offset >>= f) s = f ts[offset]? s := by
  have hpeek : Walk.peek tape offset s = .ok ts[offset]? s := by
    rw [← hleft, Tokens.left, List.getElem?_drop]
    rfl
  change EStateM.bind (Walk.peek tape offset) f s = _
  rw [EStateM.bind, hpeek]

lemma comes_bind (hleft : tape.left s = ts) (offset : Nat) (text : String) (f : Bool → Walk α) :
    (Walk.comes tape offset text >>= f) s = f (ts[offset]?.any (·.is text)) s := by
  rw [Walk.comes, bind_assoc, peek_bind hleft]
  rfl

lemma lineHere_bind (hleft : tape.left s = ts) (f : Nat → Walk α) :
    (Walk.lineHere tape >>= f) s = f (lineAt tape.stop ts) s := by
  rw [Walk.lineHere, bind_assoc, peek_bind hleft, pure_bind]
  cases ts <;> rfl

lemma move_bind (n : Nat) (f : Unit → Walk α) : (Walk.move n >>= f) s = f () (s.moved n) := rfl

lemma refuse_tracks (hs : s.Sound tape.tokens.length) (hleft : tape.left s = ts)
    (flaw : SyntaxFlaw) :
    Tracks tape (Walk.refuse tape flaw s : EStateM.Result WalkError Trail α)
      (.error (flawAt tape.stop flaw ts)) := by
  rw [Walk.refuse, peek_bind hleft]
  cases ts <;> exact .error hs

lemma accept_tracks (hs : s.Sound tape.tokens.length) (hleft : tape.left s = ts) (text : String) :
    Tracks tape (Walk.accept tape text s) (plain (.ok (accept text ts))) := by
  rw [Walk.accept, comes_bind hleft]
  cases ts with
  | nil => exact .ok hs hleft
  | cons t tail =>
      simp only [List.getElem?_cons_zero, Option.any_some]
      by_cases ht : t.is text = true
      · simp only [accept, ht, if_true]
        exact .ok (sound_moved_one hs hleft) (left_moved_one hleft)
      · simp only [accept, ht]
        exact .ok hs hleft

lemma expect_tracks (hs : s.Sound tape.tokens.length) (hleft : tape.left s = ts) (text : String) :
    Tracks tape (Walk.expect tape text s) (plain ((expect tape.stop text ts).map ((), ·))) := by
  rw [Walk.expect, comes_bind hleft]
  cases ts with
  | nil => exact refuse_tracks hs hleft (.expected text)
  | cons t tail =>
      simp only [List.getElem?_cons_zero, Option.any_some]
      by_cases ht : t.is text = true
      · simp only [expect, ht, if_true]
        exact .ok (sound_moved_one hs hleft) (left_moved_one hleft)
      · simp only [expect, ht]
        exact refuse_tracks hs hleft (.expected text)

/-- A token with a fixed text, and what is behind it. -/
lemma expect_step {text : String} {f : Unit → Walk β} {whole : Except SourceError (β × List Token)}
    (hs : s.Sound tape.tokens.length) (hleft : tape.left s = ts)
    (herror : ∀ e, expect tape.stop text ts = .error e → whole = .error e)
    (hok : ∀ rest h s', expect tape.stop text ts = .ok ⟨rest, h⟩ → s'.Sound tape.tokens.length →
      tape.left s' = rest → Tracks tape (f () s') whole) :
    Tracks tape ((Walk.expect tape text >>= f) s) whole := by
  refine (expect_tracks hs hleft text).step (fun e he => herror e ?_)
    fun _ rest h s' he => hok rest h s' ?_
  · cases hexpect : expect tape.stop text ts <;> rw [hexpect] at he <;> cases he
    rfl
  · cases hexpect : expect tape.stop text ts <;> rw [hexpect] at he <;> cases he
    rfl

/-- A token with a fixed text that may be missing, and what is behind it. -/
lemma accept_step {text : String} {f : Bool → Walk β} {whole : Except SourceError (β × List Token)}
    (hs : s.Sound tape.tokens.length) (hleft : tape.left s = ts)
    (hok : ∀ found rest h s', accept text ts = (found, ⟨rest, h⟩) → s'.Sound tape.tokens.length →
      tape.left s' = rest → Tracks tape (f found s') whole) :
    Tracks tape ((Walk.accept tape text >>= f) s) whole := by
  refine (accept_tracks hs hleft text).step (fun e he => ?_) fun found rest h s' he => ?_
  · cases he
  · exact hok found rest h s' (Except.ok.inj he)

lemma expectName_follows (tape : Tokens) (bound : Nat) :
    Follows tape bound (Walk.expectName tape) (expectName tape.stop) := by
  intro s ts hs hleft _
  rw [Walk.expectName, peek_bind hleft]
  cases ts with
  | nil => exact refuse_tracks hs hleft .expectedName
  | cons t tail =>
      simp only [List.getElem?_cons_zero]
      by_cases ht : t.kind = .name
      · simp only [expectName, ht, if_true]
        exact .ok (sound_moved_one hs hleft) (left_moved_one hleft)
      · simp only [expectName, ht, if_false]
        exact refuse_tracks hs hleft .expectedName

lemma place_follows (tape : Tokens) (bound : Nat) :
    Follows tape bound (Walk.place tape) (parsePlace tape.stop) := by
  intro s ts hs hleft hbound
  rw [Walk.place, lineHere_bind hleft, parsePlace]
  refine accept_step hs hleft fun deref a ha s1 haccept hs1 hleft1 => ?_
  rw [haccept]
  dsimp only
  refine (expectName_follows tape bound s1 a hs1 hleft1 (by omega)).step
    (fun e he => ?_) fun name b hb s2 hname hs2 hleft2 => ?_
  · rw [he]
    rfl
  · rw [hname]
    exact .ok hs2 hleft2

end Tokens

/-! ## Expressions -/

section Expressions

variable {bound : Nat} {expr : Walk Expr}

/-- An expression and a token with a fixed text, and what is behind them. -/
lemma Follows.closed_step (hexpr : Follows tape bound expr (expression tape.stop)) {ts : List Token}
    {text : String} {f : Expr → Walk β} {whole : Except SourceError (β × List Token)}
    (hs : s.Sound tape.tokens.length) (hleft : tape.left s = ts) (hlt : ts.length < bound)
    (herror : ∀ e, expression tape.stop ts = .error e → whole = .error e)
    (hopen : ∀ a rest h e, expression tape.stop ts = .ok (a, ⟨rest, h⟩) →
      expect tape.stop text rest = .error e → whole = .error e)
    (hok : ∀ a rest h rest' h' s', expression tape.stop ts = .ok (a, ⟨rest, h⟩) →
      expect tape.stop text rest = .ok ⟨rest', h'⟩ → s'.Sound tape.tokens.length →
      tape.left s' = rest' → Tracks tape (f a s') whole) :
    Tracks tape ((expr >>= fun a => Walk.expect tape text >>= fun _ => f a) s) whole := by
  refine (hexpr s ts hs hleft hlt).step herror fun a rest h s1 ha hs1 hleft1 => ?_
  exact expect_step hs1 hleft1 (hopen a rest h · ha) fun rest' h' s2 => hok a rest h rest' h' s2 ha

/-! An operand by its first token. -/

section Operands

variable {t : Token} {tail : List Token} (hexpr : Follows tape bound expr (expression tape.stop))
  (hs : s.Sound tape.tokens.length) (hleft : tape.left s = t :: tail)

include hs hleft in
lemma operand_number (ht : t.kind = .number) :
    Tracks tape (Walk.operand tape expr s) (plain (unary tape.stop (t :: tail))) := by
  have hs1 := sound_moved_one hs hleft
  rw [Walk.operand, peek_bind hleft, unary]
  simp only [List.getElem?_cons_zero, ht, if_true, move_bind]
  cases t.value with
  | error e => exact .error hs1
  | ok n => exact .ok hs1 (left_moved_one hleft)

include hexpr hs hleft

lemma operand_parenthesis (hlt : tail.length < bound) (ht : t.is "(" = true) :
    Tracks tape (Walk.operand tape expr s) (plain (unary tape.stop (t :: tail))) := by
  rw [Walk.operand, peek_bind hleft, unary]
  simp only [List.getElem?_cons_zero, (Token.kind_of_is ht).1, Token.is_of_is ht,
    String.reduceBEq, Bool.false_eq_true, if_false, if_true, move_bind]
  refine hexpr.closed_step (sound_moved_one hs hleft) (left_moved_one hleft) hlt (fun e he => ?_)
    (fun inner mid hmid e hinner he => ?_)
    fun inner mid hmid rest hrest s2 hinner he hs2 hleft2 => ?_
  · simp only [he]
    rfl
  · simp only [hinner, he]
    rfl
  · simp only [hinner, he]
    exact .ok hs2 hleft2

lemma operand_call (hlt : tail.length < bound) (ht : t.kind = .name)
    (hopen : tail.head?.any (·.is "(") = true) :
    Tracks tape (Walk.operand tape expr s) (plain (unary tape.stop (t :: tail))) := by
  obtain ⟨u, more, rfl, hu⟩ : ∃ u more, tail = u :: more ∧ u.is "(" = true := by
    cases tail with
    | nil => cases hopen
    | cons u more => exact ⟨u, more, rfl, hopen⟩
  have hs2 : (s.moved 2).Sound tape.tokens.length :=
    sound_moved hs (by decide) (by simp [hleft])
  have hleft2 : tape.left (s.moved 2) = more := by
    rw [left_moved, hleft]
    rfl
  rw [Walk.operand, peek_bind hleft, unary]
  simp only [List.head?_cons, Token.is_of_kind (.inr ht), ht, reduceCtorEq, if_false,
    Bool.false_eq_true, comes_bind hleft, List.getElem?_cons_succ, ← List.head?_eq_getElem?,
    Option.any_some, hu, and_self, if_true, Walk.call, move_bind, comes_bind hleft2, List.tail_cons]
  by_cases hclose : more.head?.any (·.is ")") = true
  · simp only [hclose, if_true]
    cases more with
    | nil => cases hclose
    | cons v rest => exact .ok (sound_moved_one hs2 hleft2) (left_moved_one hleft2)
  · simp only [hclose, Bool.false_eq_true, if_false]
    refine hexpr.closed_step hs2 hleft2 (Nat.lt_of_succ_lt hlt) (fun e he => ?_)
      (fun arg mid hmid e harg he => ?_) fun arg mid hmid rest hrest s3 harg he hs3 hleft3 => ?_
    · simp only [he]
      rfl
    · simp only [harg, he]
      rfl
    · simp only [harg, he]
      exact .ok hs3 hleft3

lemma operand_target (hlt : tail.length < bound) (ht : t.kind = .name ∨ t.is "*" = true)
    (hcall : ¬(t.kind = .name ∧ tail.head?.any (·.is "(") = true)) :
    Tracks tape (Walk.operand tape expr s) (plain (unary tape.stop (t :: tail))) := by
  have hnumber : t.kind ≠ .number := by
    rcases ht with ht | ht
    · simp [ht]
    · exact (Token.kind_of_is ht).1
  have hother : ∀ text, text ≠ "*" → t.is text = false := by
    intro text htext
    rcases ht with ht | ht
    · exact Token.is_of_kind (.inr ht) text
    · rw [Token.is_of_is ht, beq_eq_false_iff_ne]
      exact htext.symm
  have hbump : t.bump? = none := by simp [Token.bump?, hother]
  rw [Walk.operand, peek_bind hleft, unary]
  simp only [List.head?_cons, hnumber, hother "true" (by decide), hother "false" (by decide),
    hother "(" (by decide), hbump, if_false, Bool.false_eq_true, comes_bind hleft,
    List.getElem?_cons_succ, ← List.head?_eq_getElem?, hcall, ht, if_true, Walk.target]
  refine (place_follows tape (bound + 1) s _ hs hleft (Nat.succ_lt_succ hlt)).step (fun e he => ?_)
    fun target mid hmid s2 htarget hs2 hleft2 => ?_
  · simp only [he]
    rfl
  rw [htarget, peek_bind hleft2]
  cases mid with
  | nil => exact .ok hs2 hleft2
  | cons u rest =>
      have hs3 := sound_moved_one hs2 hleft2
      have hleft3 := left_moved_one hleft2
      simp only [List.getElem?_cons_zero]
      by_cases hassign : u.is "=" = true
      · simp only [hassign, if_true, move_bind]
        refine (hexpr _ rest hs3 hleft3 ?_).step (fun e he => ?_)
          fun value after hafter s4 hvalue hs4 hleft4 => ?_
        · simp only [List.length_cons] at hmid
          omega
        · rw [he]
          rfl
        · rw [hvalue]
          exact .ok hs4 hleft4
      · simp only [hassign, Bool.false_eq_true, if_false]
        cases u.bump? with
        | some direction => exact .ok hs3 hleft3
        | none => exact .ok hs2 hleft2

end Operands

lemma operand_follows (hexpr : Follows tape bound expr (expression tape.stop)) :
    Follows tape (bound + 1) (Walk.operand tape expr) (unary tape.stop) := by
  intro s ts hs hleft hbound
  cases ts with
  | nil =>
      rw [Walk.operand, peek_bind hleft, unary]
      exact refuse_tracks hs hleft .expectedExpression
  | cons t tail =>
      have hs1 := sound_moved_one hs hleft
      have hleft1 := left_moved_one hleft
      have hlt : tail.length < bound := Nat.lt_of_succ_lt_succ hbound
      by_cases hnumber : t.kind = .number
      · exact operand_number hs hleft hnumber
      by_cases hparen : t.is "(" = true
      · exact operand_parenthesis hexpr hs hleft hlt hparen
      by_cases hcall : t.kind = .name ∧ tail.head?.any (·.is "(") = true
      · exact operand_call hexpr hs hleft hlt hcall.1 hcall.2
      by_cases hplace : t.kind = .name ∨ t.is "*" = true
      · exact operand_target hexpr hs hleft hlt hplace hcall
      -- what is left are the truth values, a bump in front of a variable, and what is no operand
      rw [Walk.operand, peek_bind hleft, unary]
      simp only [List.getElem?_cons_zero, hnumber, hparen, hplace, if_false, Bool.false_eq_true]
      by_cases htrue : t.is "true" = true
      · simp only [htrue, if_true]
        exact .ok hs1 hleft1
      by_cases hfalse : t.is "false" = true
      · simp only [htrue, hfalse, Bool.false_eq_true, if_false, if_true]
        exact .ok hs1 hleft1
      simp only [htrue, hfalse, Bool.false_eq_true, if_false, comes_bind hleft,
        List.getElem?_cons_succ, ← List.head?_eq_getElem?, hcall]
      cases t.bump? with
      | some direction =>
          refine (place_follows tape bound _ tail hs1 hleft1 hlt).step (fun e he => ?_)
            fun target a ha s2 htarget hs2 hleft2 => ?_
          · simp only [he]
            rfl
          · simp only [htarget]
            exact .ok hs2 hleft2
      | none => exact refuse_tracks hs hleft .expectedExpression

lemma addends_follows {operand : Walk Expr}
    (hoperand : Follows tape bound operand (unary tape.stop)) (left : Expr) {fuel : Nat}
    (hfuel : fuel ≤ bound) :
    Follows tape fuel (Walk.addends tape operand left fuel) (addends tape.stop left) := by
  induction fuel generalizing left with
  | zero => exact .zero
  | succ fuel ih =>
      intro s ts hs hleft hlt
      rw [Walk.addends, peek_bind hleft, addends.eq_def]
      cases ts with
      | nil => exact .ok hs hleft
      | cons t tail =>
          simp only [List.getElem?_cons_zero]
          rw [← Token.sum?, ← Token.isProduct]
          cases t.sum? with
          | some op =>
              -- the sign that is read pays for the round
              have hs1 := sound_moved_one hs hleft
              have hleft1 := left_moved_one hleft
              simp only [List.length_cons] at hlt
              dsimp only
              rw [move_bind]
              refine (hoperand _ tail hs1 hleft1 (by omega)).step (fun e he => ?_)
                fun right mid hmid s2 hright hs2 hleft2 => ?_
              · rw [he]
                rfl
              have hmore :=
                ih (.sum op left right t.place.line) (by omega) s2 mid hs2 hleft2 (by omega)
              rw [hright]
              dsimp only
              cases haddends : addends tape.stop (.sum op left right t.place.line) mid <;>
                rw [haddends] at hmore <;> exact hmore
          | none =>
              by_cases hproduct : t.isProduct = true
              · simp only [hproduct, if_true]
                exact refuse_tracks hs hleft .noProducts
              · simp only [hproduct, Bool.false_eq_true, if_false]
                exact .ok hs hleft

lemma additive_follows {operand : Walk Expr}
    (hoperand : Follows tape (bound + 1) operand (unary tape.stop)) :
    Follows tape (bound + 1) (Walk.additive tape operand bound) (additive tape.stop) := by
  intro s ts hs hleft hlt
  rw [Walk.additive, additive]
  refine (hoperand s ts hs hleft hlt).step (fun e he => ?_)
    fun first mid hmid s1 hfirst hs1 hleft1 => ?_
  · rw [he]
    rfl
  have hmore := addends_follows hoperand first (Nat.le_succ bound) s1 mid hs1 hleft1 (by omega)
  rw [hfirst]
  dsimp only
  cases haddends : addends tape.stop first mid <;> rw [haddends] at hmore <;> exact hmore

lemma comparison_follows {operand : Walk Expr}
    (hoperand : Follows tape (bound + 1) operand (unary tape.stop)) :
    Follows tape (bound + 1) (Walk.comparison tape operand bound) (comparison tape.stop) := by
  have hadditive := additive_follows hoperand
  intro s ts hs hleft hlt
  rw [Walk.comparison, comparison]
  refine (hadditive s ts hs hleft hlt).step (fun e he => ?_)
    fun left mid hmid s1 hfirst hs1 hleft1 => ?_
  · rw [he]
    rfl
  rw [hfirst, peek_bind hleft1]
  cases mid with
  | nil => exact .ok hs1 hleft1
  | cons t tail =>
      simp only [List.getElem?_cons_zero]
      rw [← Token.comparison?]
      cases t.comparison? with
      | none => exact .ok hs1 hleft1
      | some op =>
          have hs2 := sound_moved_one hs1 hleft1
          have hleft2 := left_moved_one hleft1
          simp only [List.length_cons] at hmid
          dsimp only
          rw [move_bind]
          refine (hadditive _ tail hs2 hleft2 (by omega)).step (fun e he => ?_)
            fun right rest hrest s3 hright hs3 hleft3 => ?_
          · rw [he]
            rfl
          · rw [hright]
            exact .ok hs3 hleft3

section Joined

variable {op : Connective} {text : String} {part : Walk Expr}
  {one whole : (ts : List Token) → Except SourceError (Expr × Rest ts)}
  {more : (ts : List Token) → Except SourceError (List Expr × Kept ts)}

lemma parts_follows (hmore : Repeats text one more) (hpart : Follows tape bound part one)
    {fuel : Nat} (hfuel : fuel ≤ bound) :
    Follows tape fuel (Walk.parts tape text part fuel) more := by
  induction fuel with
  | zero => exact .zero
  | succ fuel ih =>
      intro s ts hs hleft hlt
      rw [Walk.parts]
      refine accept_step hs hleft fun found rest h s1 haccept hs1 hleft1 => ?_
      cases ts with
      | nil =>
          cases haccept
          rw [hmore.nil]
          exact .ok hs1 hleft1
      | cons t tail =>
          simp only [List.length_cons] at hlt
          rw [hmore.cons]
          by_cases ht : t.is text = true
          · simp only [accept, ht, if_true, Prod.mk.injEq, Subtype.mk.injEq] at haccept
            obtain ⟨rfl, rfl⟩ := haccept
            simp only [ht, if_true]
            refine (hpart s1 tail hs1 hleft1 (by omega)).step (fun e he => ?_)
              fun e mid hmid s2 he hs2 hleft2 => ?_
            · rw [he]
              rfl
            rw [he]
            refine (ih (by omega) s2 mid hs2 hleft2 (by omega)).step (fun e he => ?_)
              fun others rest hrest s3 hothers hs3 hleft3 => ?_
            · simp only [Except.bind, he]
              rfl
            · simp only [Except.bind, hothers]
              exact .ok hs3 hleft3
          · simp only [accept, ht, Bool.false_eq_true, if_false] at haccept
            cases haccept
            simp only [ht, Bool.false_eq_true, if_false]
            exact .ok hs1 hleft1

lemma joined_follows (hwhole : Joins tape.stop op one more whole) (hmore : Repeats op.text one more)
    (hpart : Follows tape (bound + 1) part one) :
    Follows tape (bound + 1) (Walk.joined tape op part bound) whole := by
  intro s ts hs hleft hlt
  rw [Walk.joined, lineHere_bind hleft, hwhole]
  refine (hpart s ts hs hleft hlt).step (fun e he => ?_)
    fun first mid hmid s1 hfirst hs1 hleft1 => ?_
  · rw [he]
    rfl
  rw [hfirst]
  refine (parts_follows hmore hpart (Nat.le_succ bound) s1 mid hs1 hleft1 (by omega)).step
    (fun e he => ?_) fun others rest hrest s2 hothers hs2 hleft2 => ?_
  · simp only [Except.bind, he]
    rfl
  · simp only [Except.bind, hothers]
    exact .ok hs2 hleft2

end Joined

/-- A phrase is noted behind the cursor only if tokens of it were read. -/
lemma noted_follows {x : Walk α} {f : (ts : List Token) → Except SourceError (α × Rest ts)}
    (hx : Follows tape bound x f) (phrase : Phrase) :
    Follows tape bound (Walk.noted phrase x) f := by
  intro s ts hs hleft hlt
  change Tracks tape ((x >>= fun a => (do
    modify (·.noting phrase s.position)
    return a)) s) _
  refine (hx s ts hs hleft hlt).step (fun e he => ?_) fun a rest hrest s1 ha hs1 hleft1 => ?_
  · rw [he]
    rfl
  -- fewer tokens are left, and the cursor was not behind the end before
  have hadvance : s.position < s1.position := by
    have hle := hs.position_le
    rw [← hleft, ← hleft1, length_left, length_left] at hrest
    omega
  rw [ha]
  exact .ok (hs1.noting hadvance phrase) hleft1

lemma expression_follows (tape : Tokens) (fuel : Nat) :
    Follows tape fuel (Walk.expression tape fuel) (expression tape.stop) := by
  induction fuel with
  | zero => exact .zero
  | succ fuel ih =>
      -- what is nested in an operand has a token before it, so one round less is enough for it
      have hcomparison := comparison_follows (operand_follows ih)
      have hconjunction :=
        joined_follows (conjunction_joins tape.stop) (conjuncts_repeats tape.stop) hcomparison
      have hdisjunction :=
        joined_follows (expression_joins tape.stop) (disjuncts_repeats tape.stop) hconjunction
      exact noted_follows hdisjunction .expression

end Expressions

/-! ## Statements -/

section Statements

variable {bound : Nat} {expr : Walk Expr} {stmt : Walk (Option Stmt)}

lemma initializer_follows (hexpr : Follows tape bound expr (expression tape.stop)) :
    Follows tape bound (Walk.initializer tape expr) (declaration.initializer tape.stop) := by
  intro s ts hs hleft hlt
  rw [Walk.initializer, declaration.initializer]
  refine accept_step hs hleft fun found a ha s1 haccept hs1 hleft1 => ?_
  rw [haccept]
  cases found with
  | false => exact .ok hs1 hleft1
  | true =>
      refine (hexpr s1 a hs1 hleft1 (by omega)).step (fun e he => ?_)
        fun e rest hrest s2 he hs2 hleft2 => ?_
      · simp only [he]
        rfl
      · simp only [he]
        exact .ok hs2 hleft2

lemma declaration_follows (hexpr : Follows tape bound expr (expression tape.stop)) :
    Follows tape bound (Walk.declaration tape expr) (declaration tape.stop) := by
  intro s ts hs hleft hlt
  rw [Walk.declaration, lineHere_bind hleft, declaration]
  refine accept_step hs hleft fun constant a ha s1 hconstant hs1 hleft1 => ?_
  rw [hconstant]
  refine expect_step hs1 hleft1 (fun e he => ?_) fun b hb s2 hint hs2 hleft2 => ?_
  · simp only [he]
    rfl
  simp only [hint]
  refine accept_step hs2 hleft2 fun pointer c hc s3 hpointer hs3 hleft3 => ?_
  rw [hpointer]
  dsimp only
  refine accept_step hs3 hleft3 fun constantToo d hd s4 hconstantToo hs4 hleft4 => ?_
  rw [hconstantToo]
  dsimp only
  refine (expectName_follows tape bound s4 d hs4 hleft4 (by omega)).step (fun e he => ?_)
    fun name f hf s5 hname hs5 hleft5 => ?_
  · rw [he]
    rfl
  simp only [hname]
  refine (initializer_follows hexpr s5 f hs5 hleft5 (by omega)).step (fun e he => ?_)
    fun init g hg s6 hinit hs6 hleft6 => ?_
  · rw [he]
    rfl
  simp only [hinit]
  refine expect_step hs6 hleft6 (fun e he => ?_) fun rest hrest s7 hsemicolon hs7 hleft7 => ?_
  · rw [he]
    rfl
  · rw [hsemicolon]
    exact .ok hs7 hleft7

lemma condition_follows (hexpr : Follows tape bound expr (expression tape.stop)) :
    Follows tape bound (Walk.condition tape expr) (condition tape.stop) := by
  intro s ts hs hleft hlt
  rw [Walk.condition, condition]
  refine expect_step hs hleft (fun e he => ?_) fun a ha s1 hopen hs1 hleft1 => ?_
  · rw [he]
    rfl
  simp only [hopen]
  refine hexpr.closed_step hs1 hleft1 (by omega) (fun e he => ?_) (fun cond b hb e hcond he => ?_)
    fun cond b hb rest hrest s2 hcond he hs2 hleft2 => ?_
  · simp only [he]
    rfl
  · simp only [hcond, he]
    rfl
  · simp only [hcond, he]
    exact .ok hs2 hleft2

lemma body_follows (hstmt : Follows tape bound stmt (statement tape.stop)) :
    Follows tape bound (Walk.body tape stmt) (body tape.stop) := by
  intro s ts hs hleft hlt
  rw [Walk.body, body]
  refine (hstmt s ts hs hleft hlt).step (fun e he => ?_)
    fun found rest hrest s1 hfound hs1 hleft1 => ?_
  · rw [he]
    rfl
  rw [hfound]
  cases found with
  | some found => exact .ok hs1 hleft1
  | none =>
      dsimp only
      rw [lineHere_bind hleft1]
      exact .ok hs1 hleft1

lemma block_follows (hstmt : Follows tape bound stmt (statement tape.stop)) {fuel : Nat}
    (hfuel : fuel ≤ bound) :
    Follows tape fuel (Walk.block tape stmt fuel) (blockBody tape.stop) := by
  induction fuel with
  | zero => exact .zero
  | succ fuel ih =>
      intro s ts hs hleft hlt
      rw [Walk.block, peek_bind hleft, blockBody.eq_def]
      cases ts with
      | nil => exact refuse_tracks hs hleft (.expected "\x7d")
      | cons t tail =>
          simp only [List.getElem?_cons_zero]
          by_cases hclose : t.is "\x7d" = true
          · simp only [hclose, if_true]
            exact .ok (sound_moved_one hs hleft) (left_moved_one hleft)
          -- also an empty statement leaves fewer tokens, so the round before is paid for
          simp only [hclose, Bool.false_eq_true, if_false]
          refine (hstmt s _ hs hleft (by omega)).step (fun e he => ?_)
            fun found mid hmid s1 hfound hs1 hleft1 => ?_
          · rw [he]
            rfl
          simp only [hfound]
          refine (ih (by omega) s1 mid hs1 hleft1 (by omega)).step (fun e he => ?_)
            fun later rest hrest s2 hlater hs2 hleft2 => ?_
          · rw [he]
            rfl
          · rw [hlater]
            exact .ok hs2 hleft2

/-! A statement by its first token. -/

section Kinds

variable {t : Token} {tail : List Token}
  (hexpr : Follows tape (bound + 1) expr (expression tape.stop))
  (hstmt : Follows tape bound stmt (statement tape.stop)) (hs : s.Sound tape.tokens.length)
  (hleft : tape.left s = t :: tail) (hlt : tail.length < bound)
include hstmt hs hleft hlt

lemma oneOf_block (ht : t.is "\x7b" = true) :
    Tracks tape (Walk.oneOf tape expr stmt bound s) (plain (statement tape.stop (t :: tail))) := by
  rw [Walk.oneOf, peek_bind hleft, statement]
  simp only [List.getElem?_cons_zero, Token.is_of_is ht, String.reduceBEq, Bool.false_eq_true,
    if_false, if_true, move_bind]
  refine (block_follows hstmt le_rfl _ tail (sound_moved_one hs hleft) (left_moved_one hleft)
    hlt).step (fun e he => ?_) fun stmts rest hrest s2 hstmts hs2 hleft2 => ?_
  · rw [he]
    rfl
  · rw [hstmts]
    exact .ok hs2 hleft2

include hexpr

lemma oneOf_if (ht : t.is "if" = true) :
    Tracks tape (Walk.oneOf tape expr stmt bound s) (plain (statement tape.stop (t :: tail))) := by
  have hcondition := condition_follows hexpr
  have hbody := body_follows hstmt
  rw [Walk.oneOf, peek_bind hleft, statement]
  simp only [List.getElem?_cons_zero, Token.is_of_is ht, String.reduceBEq, Bool.or_self,
    Bool.false_eq_true, if_false, if_true, Walk.branches, move_bind]
  refine (hcondition _ tail (sound_moved_one hs hleft) (left_moved_one hleft)
    (Nat.lt_succ_of_lt hlt)).step (fun e he => ?_) fun cond a ha s2 hcond hs2 hleft2 => ?_
  · rw [he]
    rfl
  simp only [hcond]
  refine (hbody s2 a hs2 hleft2 (by omega)).step (fun e he => ?_)
    fun yes b hb s3 hyes hs3 hleft3 => ?_
  · rw [he]
    rfl
  simp only [hyes]
  refine accept_step hs3 hleft3 fun found c hc s4 helse hs4 hleft4 => ?_
  simp only [helse]
  cases found with
  | false => exact .ok hs4 hleft4
  | true =>
      refine (hbody s4 c hs4 hleft4 (by omega)).step (fun e he => ?_)
        fun no rest hrest s5 hno hs5 hleft5 => ?_
      · simp only [he]
        rfl
      · simp only [hno]
        exact .ok hs5 hleft5

lemma oneOf_while (ht : t.is "while" = true) :
    Tracks tape (Walk.oneOf tape expr stmt bound s) (plain (statement tape.stop (t :: tail))) := by
  rw [Walk.oneOf, peek_bind hleft, statement]
  simp only [List.getElem?_cons_zero, Token.is_of_is ht, String.reduceBEq, Bool.or_self,
    Bool.false_eq_true, if_false, if_true, move_bind]
  refine (condition_follows hexpr _ tail (sound_moved_one hs hleft) (left_moved_one hleft)
    (Nat.lt_succ_of_lt hlt)).step (fun e he => ?_) fun cond a ha s2 hcond hs2 hleft2 => ?_
  · rw [he]
    rfl
  simp only [hcond]
  refine (body_follows hstmt s2 a hs2 hleft2 (by omega)).step (fun e he => ?_)
    fun again rest hrest s3 hagain hs3 hleft3 => ?_
  · rw [he]
    rfl
  · rw [hagain]
    exact .ok hs3 hleft3

end Kinds

lemma oneOf_follows (hexpr : Follows tape (bound + 1) expr (expression tape.stop))
    (hstmt : Follows tape bound stmt (statement tape.stop)) :
    Follows tape (bound + 1) (Walk.oneOf tape expr stmt bound) (statement tape.stop) := by
  intro s ts hs hleft hlt
  cases ts with
  | nil =>
      rw [Walk.oneOf, peek_bind hleft, statement]
      exact refuse_tracks hs hleft .expectedExpression
  | cons t tail =>
      have htail : tail.length < bound := Nat.lt_of_succ_lt_succ hlt
      by_cases hblock : t.is "\x7b" = true
      · exact oneOf_block hstmt hs hleft htail hblock
      by_cases hif : t.is "if" = true
      · exact oneOf_if hexpr hstmt hs hleft htail hif
      by_cases hwhile : t.is "while" = true
      · exact oneOf_while hexpr hstmt hs hleft htail hwhile
      rw [Walk.oneOf, peek_bind hleft, statement]
      simp only [List.getElem?_cons_zero, hblock, hif, hwhile, Bool.false_eq_true, if_false]
      by_cases hempty : t.is ";" = true
      · simp only [hempty, if_true]
        exact .ok (sound_moved_one hs hleft) (left_moved_one hleft)
      by_cases hdecl : (t.is "int" || t.is "const") = true
      · simp only [hempty, hdecl, Bool.false_eq_true, if_false, if_true]
        refine (declaration_follows hexpr s _ hs hleft hlt).step (fun e he => ?_)
          fun d rest hrest s1 hd hs1 hleft1 => ?_
        · rw [he]
          rfl
        · rw [hd]
          exact .ok hs1 hleft1
      simp only [hempty, hdecl, Bool.false_eq_true, if_false]
      refine hexpr.closed_step hs hleft hlt (fun e he => ?_) (fun a mid hmid e ha he => ?_)
        fun a mid hmid rest hrest s1 ha he hs1 hleft1 => ?_
      · simp only [he]
        rfl
      · simp only [ha, he]
        rfl
      · simp only [ha, he]
        exact .ok hs1 hleft1

lemma statement_follows (tape : Tokens) (fuel : Nat) :
    Follows tape fuel (Walk.statement tape fuel) (statement tape.stop) := by
  induction fuel with
  | zero => exact .zero
  | succ fuel ih =>
      exact noted_follows (oneOf_follows (expression_follows tape (fuel + 1)) ih) .statement

/-- The end of the tokens is left behind a program. -/
lemma program_follows (tape : Tokens) (fuel : Nat) :
    Follows tape fuel (Walk.program tape fuel) fun ts =>
      (program tape.stop ts).map fun p =>
        (p, (⟨[], rfl⟩ : { rest : List Token // rest = [] })) := by
  induction fuel with
  | zero => exact .zero
  | succ fuel ih =>
      intro s ts hs hleft hlt
      rw [Walk.program, peek_bind hleft]
      dsimp only
      rw [program.eq_def]
      cases ts with
      | nil => exact .ok hs hleft
      | cons t tail =>
          refine (statement_follows tape (fuel + 1) s _ hs hleft hlt).step (fun e he => ?_)
            fun found mid hmid s1 hfound hs1 hleft1 => ?_
          · simp only [he]
            rfl
          simp only [hfound]
          refine (ih s1 mid hs1 hleft1 (by omega)).step (fun e he => ?_)
            fun later rest hrest s2 hlater hs2 hleft2 => ?_
          · dsimp only at he
            cases hprogram : program tape.stop mid <;> rw [hprogram] at he <;> cases he
            rfl
          · dsimp only at hlater
            cases hprogram : program tape.stop mid <;> rw [hprogram] at hlater <;> cases hlater
            exact .ok hs2 hleft2

end Statements

/-! ## All of a program -/

/-- A walk with more rounds than tokens is not cut off. -/
lemma walk_sound (tape : Tokens) {fuel : Nat} (h : tape.tokens.length < fuel) :
    (walk tape fuel).1 = (program tape.stop tape.tokens).mapError .source ∧
      (walk tape fuel).2.Sound tape.tokens.length := by
  have htracks := program_follows tape fuel {} tape.tokens (Trail.sound_start _) rfl h
  change Tracks tape ((Walk.program tape fuel).run {}) _ at htracks
  rw [walk]
  dsimp only at htracks
  generalize (Walk.program tape fuel).run {} = result at htracks
  cases hprogram : program tape.stop tape.tokens with
  | error e =>
      rw [hprogram] at htracks
      cases htracks with
      | error hs => exact ⟨rfl, hs⟩
  | ok p =>
      rw [hprogram] at htracks
      cases htracks with
      | ok hs => exact ⟨rfl, hs⟩

/-- A phrase ends behind its start and not behind the end of the tokens. -/
lemma Phrase.Splits.advances {phrase : Phrase} {tokens rest : List Token} {start : Nat}
    (h : phrase.Splits (tokens.drop start) rest) (hlt : rest.length < (tokens.drop start).length) :
    ∃ stop, start < stop ∧ stop ≤ tokens.length ∧ rest = tokens.drop stop := by
  obtain ⟨u, hu, -⟩ := h
  have hlength : tokens.length - start = u.length + rest.length := by
    rw [← List.length_drop, hu, List.length_append]
  rw [List.length_drop] at hlt
  refine ⟨start + u.length, by omega, by omega, ?_⟩
  rw [← List.drop_drop, hu, List.drop_left]

/-- The descent makes progress, on tokens that spell a program and on all others.  With a cursor and
with as many rounds as there are tokens, and one more, it comes to an end of its own, which is the
end that it has with the tokens that are left.  Up to there the cursor has only gone forward, never
behind the end of the tokens, and over every statement and expression that was read.  Wherever one
is read, at least one token is. -/
theorem descent_progresses (tape : Tokens) :
    (∀ fuel, tape.tokens.length < fuel →
      (walk tape fuel).1 = (program tape.stop tape.tokens).mapError .source ∧
        (walk tape fuel).2.Sound tape.tokens.length) ∧
      ∀ start rest,
        (∀ e, Reads (expression tape.stop (tape.tokens.drop start)) e rest →
          ∃ stop, start < stop ∧ stop ≤ tape.tokens.length ∧ rest = tape.tokens.drop stop) ∧
        ∀ s, Reads (statement tape.stop (tape.tokens.drop start)) s rest →
          ∃ stop, start < stop ∧ stop ≤ tape.tokens.length ∧ rest = tape.tokens.drop stop := by
  refine ⟨fun fuel => walk_sound tape, fun start rest => ⟨fun e he => ?_, fun s hs => ?_⟩⟩
  · exact ((readsPhrases _).expression he).advances he.lt
  · exact ((readsStatements _).statement hs).advances hs.lt

/-- A block with an empty statement that is not closed: `while (a) { ; a++`. -/
def unclosed : Tokens where
  tokens := [⟨.keyword, "while", ⟨1, 1⟩⟩, ⟨.op, "(", ⟨1, 7⟩⟩, ⟨.name, "a", ⟨1, 8⟩⟩,
    ⟨.op, ")", ⟨1, 9⟩⟩, ⟨.op, "\x7b", ⟨1, 11⟩⟩, ⟨.op, ";", ⟨1, 13⟩⟩, ⟨.name, "a", ⟨1, 15⟩⟩,
    ⟨.op, "++", ⟨1, 16⟩⟩]
  stop := ⟨1, 18⟩

example : walk unclosed 9 = (.error (.source (.flawed (.expected ";") ⟨1, 18⟩ none)),
    { position := 8, visited := [0, 1, 2, 3, 4, 5, 6, 7, 8],
      read := [⟨.expression, 2, 3⟩, ⟨.statement, 5, 6⟩, ⟨.expression, 6, 8⟩] }) := by
  cbv

theorem descent_progresses_unclosed :
    unclosed.tokens.length < 9 ∧
      (walk unclosed 9).1 = (program unclosed.stop unclosed.tokens).mapError .source ∧
      (walk unclosed 9).2.Sound 8 ∧
      (∃ e, Reads (expression unclosed.stop (unclosed.tokens.drop 6)) e [] ∧
        ∃ stop, 6 < stop ∧ stop ≤ 8 ∧ [] = unclosed.tokens.drop stop) ∧
      Reads (statement unclosed.stop (unclosed.tokens.drop 5)) none (unclosed.tokens.drop 6) ∧
        ∃ stop, 5 < stop ∧ stop ≤ 8 ∧ unclosed.tokens.drop 6 = unclosed.tokens.drop stop := by
  have hlt : unclosed.tokens.length < 9 := by decide
  have hbump : Reads (expression unclosed.stop (unclosed.tokens.drop 6))
      (.bump ⟨"a", false, 1⟩ .up true 1) [] := ⟨by decide, by cbv⟩
  have hempty : Reads (statement unclosed.stop (unclosed.tokens.drop 5)) none
      (unclosed.tokens.drop 6) := ⟨by decide, by cbv⟩
  obtain ⟨hends, hsound⟩ := (descent_progresses unclosed).1 9 hlt
  exact ⟨hlt, hends, hsound, ⟨_, hbump, ((descent_progresses unclosed).2 6 _).1 _ hbump⟩,
    hempty, ((descent_progresses unclosed).2 5 _).2 _ hempty⟩

end Mailroom.Source
