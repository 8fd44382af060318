import Mathlib.Tactic.Common
import Mailroom.Source.Lowering

/-!
# The instructions for the parts of a program

Lowering adds instructions step by step to a state.  Here the same is said without the state: which
instructions stand for an expression, a condition or a statement, given the tiles of the variables,
all tiles in use and the number of labels so far.

- `ValueCode`, `EffectCode`: the instructions for an expression.
- `CondCode`: those for a condition that jumps.
- `StmtCode`: those for statements.

What lowering adds is described by these relations (`value_code`, `branch_code`,
`statementOps_code`, the last from `Produces` for each kind of statement), and everything about
compiled code is proved by induction on them.
-/

namespace Mailroom.Source

open Text

/-! ## Relations -/

/-- The tile operand of a variable. -/
def operand? (t : Target) (tiles : Assoc String Nat) (v : Var) : Option Tile :=
  match t.symbols.get? v.name with
  | none => none
  | some sym =>
    match sym.address with
    | some address => some ⟨address, false⟩
    | none => (tiles.get? v.name).map (⟨·, v.deref⟩)

/-- The tile that is given out next. -/
def Target.fresh? (t : Target) (used : List Nat) : Option Nat :=
  lowestFree? t.size (used ++ t.symbols.reserved)

/-- The line for an instruction on a tile. -/
def onTile (op : TileOp) (x : Tile) : Op :=
  .instr (.tile op x)

/-- The line for an instruction on a tile that is named itself. -/
def onCell (op : TileOp) (address : Nat) : Op :=
  onTile op ⟨address, false⟩

/-- The line for a jump. -/
def jumpTo (kind : JumpKind) (label : String) : Op :=
  .instr (.jump kind label)

/-- The label with a number. -/
def labelAt (stem : String) (n : Nat) : String :=
  stem ++ Numeral.natText n

/-- The instructions that leave the value of an expression in the hand, while the tiles in `used`
are in use. -/
inductive ValueCode (t : Target) (tiles : Assoc String Nat) : List Nat → Expr → List Op → Prop
  | var {used v x} : operand? t tiles v = some x →
      ValueCode t tiles used (.var v) [onTile .copyFrom x]
  | call {used function line} : ValueCode t tiles used (.call function line) [.instr .inbox]
  | callWith {used function arg line} :
      ValueCode t tiles used (.callWith function arg line) [.instr .inbox]
  | assign {used target e line code x} : ValueCode t tiles used e code →
      operand? t tiles target = some x →
      ValueCode t tiles used (.assign target e line) (code ++ [onTile .copyTo x])
  | pre {used target direction line x} : operand? t tiles target = some x →
      ValueCode t tiles used (.bump target direction false line) [onTile direction.op x]
  | post {used target direction line x kept} : operand? t tiles target = some x →
      t.fresh? used = some kept →
      ValueCode t tiles used (.bump target direction true line)
        [onTile .copyFrom x, onCell .copyTo kept, onTile direction.op x, onCell .copyFrom kept]
  | sumVar {used op left v line code x} : ValueCode t tiles used left code →
      operand? t tiles v = some x →
      ValueCode t tiles used (.sum op left (.var v) line) (code ++ [onTile op.op x])
  | sum {used op left right line kept rightCode leftCode} : right.var? = none →
      t.fresh? used = some kept → ValueCode t tiles (kept :: used) right rightCode →
      ValueCode t tiles (kept :: used) left leftCode →
      ValueCode t tiles used (.sum op left right line)
        (rightCode ++ onCell .copyTo kept :: (leftCode ++ [onCell op.op kept]))

/-- The instructions for an expression whose value nobody wants. -/
inductive EffectCode (t : Target) (tiles : Assoc String Nat) (used : List Nat) :
    Expr → List Op → Prop
  | output {arg line code} : ValueCode t tiles used arg code →
      EffectCode t tiles used (.callWith "output" arg line) (code ++ [.instr .outbox])
  | inputWith {arg line} : EffectCode t tiles used (.callWith "input" arg line) [.instr .inbox]
  | nothingWith {function arg line} : function ≠ "output" → function ≠ "input" →
      EffectCode t tiles used (.callWith function arg line) []
  | input {line} : EffectCode t tiles used (.call "input" line) [.instr .inbox]
  | nothing {function line} : function ≠ "input" → EffectCode t tiles used (.call function line) []
  | bump {target direction post line x} : operand? t tiles target = some x →
      EffectCode t tiles used (.bump target direction post line) [onTile direction.op x]
  | value {e code} : (∀ target direction post line, e ≠ .bump target direction post line) →
      (∀ function line, e ≠ .call function line) →
      (∀ function arg line, e ≠ .callWith function arg line) → ValueCode t tiles used e code →
      EffectCode t tiles used e code

/-- The instructions that leave the difference of two sides in the hand, and how it compares with
zero. -/
inductive DifferenceCode (t : Target) (tiles : Assoc String Nat) (used : List Nat)
    (op : Comparison) : Expr → Expr → Comparison → List Op → Prop
  | right {left n line code} : ValueCode t tiles used left code →
      DifferenceCode t tiles used op left (.num n line) op code
  | left {right n line code} : ValueCode t tiles used right code →
      DifferenceCode t tiles used op (.num n line) right op.swap code
  | both {left right line code} : ValueCode t tiles used (.sum .minus left right line) code →
      DifferenceCode t tiles used op left right op code

/-- The jumps to a label if the value in the hand compares so with zero.  Some skip a jump with a
label of their own. -/
def jumpOps (op : Comparison) (target skip : String) : List Op :=
  match op with
  | .eq => [jumpTo .ifZero target]
  | .lt => [jumpTo .ifNegative target]
  | .le => [jumpTo .ifNegative target, jumpTo .ifZero target]
  | .ne => [jumpTo .ifZero skip, jumpTo .always target, .label skip]
  | .ge => [jumpTo .ifNegative skip, jumpTo .always target, .label skip]
  | .gt => [jumpTo .ifZero skip, jumpTo .ifNegative skip, jumpTo .always target, .label skip]

/-- Whether such jumps need a label of their own. -/
def jumpSkips : Comparison → Bool
  | .eq | .lt | .le => false
  | .ne | .ge | .gt => true

/-- A condition, or conditions behind the first one of those that are joined. -/
inductive CondPart where
  | one (e : Expr)
  /-- One of them is enough. -/
  | any (others : Operands)
  /-- All of them are needed; the first that fails leads to a label. -/
  | all (skip : String) (others : Operands)

/-- The instructions that jump to a label if a condition comes out as wanted.  The numbers are those
of labels before and behind. -/
inductive CondCode (t : Target) (tiles : Assoc String Nat) (used : List Nat) :
    CondPart → String → Bool → Nat → List Op → Nat → Prop
  | jump {b line target n} :
      CondCode t tiles used (.one (.bool b line)) target b n [jumpTo .always target] n
  | fall {b line target wanted n} : b ≠ wanted →
      CondCode t tiles used (.one (.bool b line)) target wanted n [] n
  | compare {op left right line target wanted n sign code} :
      DifferenceCode t tiles used (if wanted then op else op.negate) left right sign code →
      CondCode t tiles used (.one (.compare op left right line)) target wanted n
        (code ++ jumpOps sign target (labelAt "skip" (n + 1)))
        (if jumpSkips sign then n + 1 else n)
  | anyOf {op first others line target wanted n m k code code'} : (op == .or) = wanted →
      CondCode t tiles used (.one first) target wanted n code m →
      CondCode t tiles used (.any others) target wanted m code' k →
      CondCode t tiles used (.one (.logical op first others line)) target wanted n
        (code ++ code') k
  | allOf {op first others line target wanted n m k code code'} : (op == .or) ≠ wanted →
      CondCode t tiles used (.one first) (labelAt "skip" (n + 1)) (!wanted) (n + 1) code m →
      CondCode t tiles used (.all (labelAt "skip" (n + 1)) others) target wanted m code' k →
      CondCode t tiles used (.one (.logical op first others line)) target wanted n
        (code ++ (code' ++ [.label (labelAt "skip" (n + 1))])) k
  | anyLast {e target wanted n code m} : CondCode t tiles used (.one e) target wanted n code m →
      CondCode t tiles used (.any (.last e)) target wanted n code m
  | anyMore {e others target wanted n code m code' k} :
      CondCode t tiles used (.one e) target wanted n code m →
      CondCode t tiles used (.any others) target wanted m code' k →
      CondCode t tiles used (.any (.more e others)) target wanted n (code ++ code') k
  | allLast {e skip target wanted n code m} : CondCode t tiles used (.one e) target wanted n code m →
      CondCode t tiles used (.all skip (.last e)) target wanted n code m
  | allMore {e others skip target wanted n code m code' k} :
      CondCode t tiles used (.one e) skip (!wanted) n code m →
      CondCode t tiles used (.all skip others) target wanted m code' k →
      CondCode t tiles used (.all skip (.more e others)) target wanted n (code ++ code') k

/-- What has been given out: the tiles of the variables, all tiles in use, and labels. -/
structure Stock where
  tiles : Assoc String Nat
  used : List Nat
  labels : Nat

/-- The stock without the tile of a new variable. -/
def Stock.place (k : Stock) (name : String) (address : Nat) : Stock :=
  { k with tiles := k.tiles.put name address, used := address :: k.used }

/-- One label more. -/
def Stock.label (k : Stock) : Stock :=
  { k with labels := k.labels + 1 }

/-- A statement, or statements one after the other. -/
inductive Part where
  | one (s : Stmt)
  | many (body : List Stmt)

/-- Whether a condition is a constant. -/
def Expr.isBool : Expr → Bool
  | .bool _ _ => true
  | _ => false

/-- The value of a constant condition. -/
def Expr.literal? : Expr → Option Bool
  | .bool b _ => some b
  | _ => none

/-- The instructions for statements, with the stock before and behind. -/
inductive StmtCode (t : Target) : Part → Stock → List Op → Stock → Prop
  | constant {d k} : d.constant = true → StmtCode t (.one (.decl d)) k [] k
  | declare {d k address} : d.constant = false → d.init = none →
      t.fresh? k.used = some address →
      StmtCode t (.one (.decl d)) k [] (k.place d.name address)
  | define {d k address e code} : d.constant = false → d.init = some e →
      t.fresh? k.used = some address →
      ValueCode t (k.place d.name address).tiles (k.place d.name address).used e code →
      StmtCode t (.one (.decl d)) k (code ++ [onCell .copyTo address]) (k.place d.name address)
  | expr {e line k code} : EffectCode t k.tiles k.used e code →
      StmtCode t (.one (.expr e line)) k code k
  | ifTrue {b body line k code k'} : StmtCode t (.one body) k code k' →
      StmtCode t (.one (.ifThen (.bool true b) body line)) k code k'
  | ifFalse {b body line k} : StmtCode t (.one (.ifThen (.bool false b) body line)) k [] k
  | ifThen {cond body line k code n code' k'} : cond.isBool = false →
      CondCode t k.tiles k.used (.one cond) (labelAt "else" (k.labels + 1)) false (k.labels + 1)
        code n →
      StmtCode t (.one body) { k with labels := n } code' k' →
      StmtCode t (.one (.ifThen cond body line)) k
        (code ++ (code' ++ [.label (labelAt "else" (k.labels + 1))])) k'
  | elseTrue {b body other line k code k'} : StmtCode t (.one body) k code k' →
      StmtCode t (.one (.ifElse (.bool true b) body other line)) k code k'
  | elseFalse {b body other line k code k'} : StmtCode t (.one other) k code k' →
      StmtCode t (.one (.ifElse (.bool false b) body other line)) k code k'
  | ifElse {cond body other line k code n code' k' code'' k''} : cond.isBool = false →
      CondCode t k.tiles k.used (.one cond) (labelAt "else" (k.labels + 1)) false (k.labels + 1)
        code n →
      StmtCode t (.one body) { k with labels := n } code' k' →
      StmtCode t (.one other) k'.label code'' k'' →
      StmtCode t (.one (.ifElse cond body other line)) k
        (code ++ (code' ++ jumpTo .always (labelAt "endif" (k'.labels + 1)) ::
          .label (labelAt "else" (k.labels + 1)) ::
            (code'' ++ [.label (labelAt "endif" (k'.labels + 1))]))) k''
  | forever {b body line k code k'} : StmtCode t (.one body) k.label code k' →
      StmtCode t (.one (.whileDo (.bool true b) body line)) k
        (.label (labelAt "loop" (k.labels + 1)) ::
          (code ++ [jumpTo .always (labelAt "loop" (k.labels + 1))])) k'
  | never {b body line k} : StmtCode t (.one (.whileDo (.bool false b) body line)) k [] k
  | whileDo {cond body line k code n code' k'} : cond.isBool = false →
      CondCode t k.tiles k.used (.one cond) (labelAt "end" (k.labels + 2)) false (k.labels + 2)
        code n →
      StmtCode t (.one body) { k with labels := n } code' k' →
      StmtCode t (.one (.whileDo cond body line)) k
        (.label (labelAt "loop" (k.labels + 1)) :: (code ++ (code' ++
          [jumpTo .always (labelAt "loop" (k.labels + 1)),
            .label (labelAt "end" (k.labels + 2))]))) k'
  | block {body line k code k'} : StmtCode t (.many body) k code k' →
      StmtCode t (.one (.block body line)) k code k'
  | done {k} : StmtCode t (.many []) k [] k
  | next {s rest k code k' code' k''} : StmtCode t (.one s) k code k' →
      StmtCode t (.many rest) k' code' k'' →
      StmtCode t (.many (s :: rest)) k (code ++ code') k''

/-! ## Steps of the lowering -/

/-- A step behind another one succeeds when both do. -/
lemma bind_eq_ok {ε σ α β : Type} {x : EStateM ε σ α} {f : α → EStateM ε σ β} {s s' : σ} {b : β} :
    (x >>= f) s = .ok b s' ↔ ∃ a s1, x s = .ok a s1 ∧ f a s1 = .ok b s' := by
  change EStateM.bind x f s = .ok b s' ↔ _
  rw [EStateM.bind]
  cases x s with
  | ok a s1 =>
      constructor
      · exact fun h => ⟨a, s1, rfl, h⟩
      · rintro ⟨_, _, ⟨⟩, h⟩
        exact h
  | error e s1 =>
      constructor
      · intro h
        cases h
      · rintro ⟨_, _, ⟨⟩, _⟩

/-- The state with more instructions. -/
def Lowering.push (s : Lowering) (code : List Op) : Lowering :=
  { s with ops := s.ops ++ code }

lemma push_push (s : Lowering) (code code' : List Op) :
    (s.push code).push code' = s.push (code ++ code') := by
  simp [Lowering.push]

lemma tileOf_ok {t : Target} {v : Var} {s s' : Lowering} {x : Tile}
    (h : tileOf t v s = .ok x s') : operand? t s.tiles v = some x ∧ s' = s := by
  rw [operand?]
  rw [tileOf] at h
  rcases hget : t.symbols.get? v.name with _ | ⟨name, pointer, constant, address, initialized⟩
  · rw [hget] at h
    cases h
  · rw [hget] at h
    cases address with
    | some address =>
        cases h
        exact ⟨rfl, rfl⟩
    | none =>
        obtain ⟨s0, s1, hs, h⟩ := bind_eq_ok.mp h
        cases hs
        cases htile : s.tiles.get? v.name with
        | none =>
            rw [htile] at h
            cases h
        | some address =>
            rw [htile] at h
            cases h
            exact ⟨rfl, rfl⟩

/-- A tile that is given out is in use until it is taken back. -/
lemma alloc_ok {t : Target} {line : Nat} {s s' : Lowering} {address : Nat}
    (h : alloc t line s = .ok address s') :
    t.fresh? s.used = some address ∧ s' = { s with used := address :: s.used } := by
  rw [Target.fresh?]
  obtain ⟨s0, s1, hs, h⟩ := bind_eq_ok.mp h
  cases hs
  cases hfree : lowestFree? t.size (s.used ++ t.symbols.reserved) with
  | none =>
      rw [hfree] at h
      cases h
  | some found =>
      rw [hfree] at h
      obtain ⟨_, s2, hs2, h⟩ := bind_eq_ok.mp h
      cases hs2
      cases h
      exact ⟨rfl, rfl⟩

lemma lowestFree?_spec {size : Int} {taken : List Nat} {address : Nat}
    (h : lowestFree? size taken = some address) : address ∉ taken ∧ (address : Int) < size := by
  rw [lowestFree?] at h
  have hmem := List.mem_of_find?_eq_some h
  have hfree := List.find?_some h
  rw [List.mem_range] at hmem
  simp only [Bool.not_eq_true', List.contains_eq_mem, decide_eq_false_iff_not] at hfree
  exact ⟨hfree, by omega⟩

lemma fresh?_spec {t : Target} {used : List Nat} {address : Nat}
    (h : t.fresh? used = some address) :
    address ∉ used ∧ address ∉ t.symbols.reserved ∧ (address : Int) < t.size := by
  obtain ⟨hfree, hlt⟩ := lowestFree?_spec h
  rw [List.mem_append, not_or] at hfree
  exact ⟨hfree.1, hfree.2, hlt⟩

/-- Taking a tile back leaves in use what was in use before. -/
lemma free_eq {t : Target} {used : List Nat} {address : Nat} (h : t.fresh? used = some address)
    {s : Lowering} (hs : s.used = address :: used) :
    free address s = .ok () { s with used } := by
  have hfilter : s.used.filter (· != address) = used := by
    rw [hs, List.filter_cons_of_neg (by simp), List.filter_eq_self]
    intro a ha
    simp only [bne_iff_ne]
    rintro rfl
    exact (fresh?_spec h).1 ha
  change EStateM.Result.ok () { s with used := s.used.filter (· != address) } = _
  rw [hfilter]

/-! ## Expressions -/

/-- The instructions for two sides, given those for each of them. -/
lemma combine_code {t : Target} {op : TileOp} {line : Nat} {left right : Lower Unit}
    {leftExpr rightExpr : Expr} {s s' : Lowering}
    (hleft : ∀ s s', left s = .ok () s' →
      ∃ code, ValueCode t s.tiles s.used leftExpr code ∧ s' = s.push code)
    (hright : ∀ s s', right s = .ok () s' →
      ∃ code, ValueCode t s.tiles s.used rightExpr code ∧ s' = s.push code)
    (h : combine t op line left right rightExpr.var? s = .ok () s') :
    (∃ v x code, rightExpr = .var v ∧ operand? t s.tiles v = some x ∧
        ValueCode t s.tiles s.used leftExpr code ∧ s' = s.push (code ++ [onTile op x])) ∨
      (∃ kept rightCode leftCode, rightExpr.var? = none ∧ t.fresh? s.used = some kept ∧
        ValueCode t s.tiles (kept :: s.used) rightExpr rightCode ∧
        ValueCode t s.tiles (kept :: s.used) leftExpr leftCode ∧
        s' = s.push (rightCode ++ onCell .copyTo kept :: (leftCode ++ [onCell op kept]))) := by
  cases hvar : rightExpr.var? with
  | some v =>
      left
      rw [hvar, combine] at h
      obtain ⟨_, s1, h1, h⟩ := bind_eq_ok.mp h
      obtain ⟨x, s2, h2, h⟩ := bind_eq_ok.mp h
      obtain ⟨code, hcode, rfl⟩ := hleft _ _ h1
      obtain ⟨hx, rfl⟩ := tileOf_ok h2
      cases h
      have hright : rightExpr = .var v := by
        cases rightExpr <;> cases hvar
        rfl
      exact ⟨v, x, code, hright, hx, hcode, push_push _ _ _⟩
  | none =>
      right
      rw [hvar, combine] at h
      obtain ⟨kept, s1, h1, h⟩ := bind_eq_ok.mp h
      obtain ⟨_, s2, h2, h⟩ := bind_eq_ok.mp h
      obtain ⟨_, s3, h3, h⟩ := bind_eq_ok.mp h
      obtain ⟨_, s4, h4, h⟩ := bind_eq_ok.mp h
      obtain ⟨_, s5, h5, h⟩ := bind_eq_ok.mp h
      obtain ⟨hfresh, rfl⟩ := alloc_ok h1
      obtain ⟨rightCode, hrightCode, rfl⟩ := hright _ _ h2
      cases h3
      obtain ⟨leftCode, hleftCode, rfl⟩ := hleft _ _ h4
      cases h5
      rw [free_eq hfresh (by rfl)] at h
      cases h
      refine ⟨kept, rightCode, leftCode, rfl, hfresh, hrightCode, hleftCode, ?_⟩
      simp [Lowering.push, onCell, onTile]

/-- **Values.**  What is added for an expression leaves its value in the hand, and nothing else is
given out for good. -/
lemma value_code {t : Target} : ∀ (e : Expr) {s s' : Lowering}, value t e s = .ok () s' →
    ∃ code, ValueCode t s.tiles s.used e code ∧ s' = s.push code
  | .num _ _, _, _, h => nomatch h
  | .bool _ _, _, _, h => nomatch h
  | .compare _ _ _ _, _, _, h => nomatch h
  | .logical _ _ _ _, _, _, h => nomatch h
  | .call _ _, s, s', h => by
      cases h
      exact ⟨_, .call, rfl⟩
  | .callWith _ _ _, s, s', h => by
      cases h
      exact ⟨_, .callWith, rfl⟩
  | .var v, s, s', h => by
      rw [value] at h
      obtain ⟨x, s1, h1, h2⟩ := bind_eq_ok.mp h
      obtain ⟨hx, rfl⟩ := tileOf_ok h1
      cases h2
      exact ⟨_, .var hx, rfl⟩
  | .assign target e _, s, s', h => by
      rw [value] at h
      obtain ⟨_, s1, h1, h2⟩ := bind_eq_ok.mp h
      obtain ⟨x, s2, h2, h3⟩ := bind_eq_ok.mp h2
      obtain ⟨code, hcode, rfl⟩ := value_code e h1
      obtain ⟨hx, rfl⟩ := tileOf_ok h2
      cases h3
      exact ⟨_, .assign hcode hx, push_push _ _ _⟩
  | .bump target direction post line, s, s', h => by
      rw [value] at h
      obtain ⟨x, s1, h1, h2⟩ := bind_eq_ok.mp h
      obtain ⟨hx, rfl⟩ := tileOf_ok h1
      cases post with
      | false =>
          cases h2
          exact ⟨_, .pre hx, rfl⟩
      | true =>
          obtain ⟨kept, s2, h2, h3⟩ := bind_eq_ok.mp h2
          obtain ⟨_, s3, h3, h4⟩ := bind_eq_ok.mp h3
          obtain ⟨_, s4, h4, h5⟩ := bind_eq_ok.mp h4
          obtain ⟨_, s5, h5, h6⟩ := bind_eq_ok.mp h5
          obtain ⟨_, s6, h6, h7⟩ := bind_eq_ok.mp h6
          obtain ⟨hfresh, rfl⟩ := alloc_ok h2
          cases h3
          cases h4
          cases h5
          cases h6
          rw [free_eq hfresh (by rfl)] at h7
          cases h7
          refine ⟨_, .post hx hfresh, ?_⟩
          simp [Lowering.push, onCell, onTile]
  | .sum op left right line, s, s', h => by
      rw [value] at h
      rcases combine_code (fun _ _ => value_code left) (fun _ _ => value_code right) h with
        ⟨v, x, code, rfl, hx, hcode, rfl⟩ | ⟨kept, rightCode, leftCode, hvar, hfresh, hr, hl, rfl⟩
      · exact ⟨_, .sumVar hcode hx, rfl⟩
      · exact ⟨_, .sum hvar hfresh hr hl, rfl⟩

lemma effect_code {t : Target} {e : Expr} {s s' : Lowering} (h : effect t e s = .ok () s') :
    ∃ code, EffectCode t s.tiles s.used e code ∧ s' = s.push code := by
  have hvalue : ∀ {e}, value t e s = .ok () s' →
      (∀ target direction post line, e ≠ .bump target direction post line) →
      (∀ function line, e ≠ .call function line) →
      (∀ function arg line, e ≠ .callWith function arg line) →
      ∃ code, EffectCode t s.tiles s.used e code ∧ s' = s.push code := by
    intro e h h1 h2 h3
    obtain ⟨code, hcode, rfl⟩ := value_code e h
    exact ⟨code, .value h1 h2 h3 hcode, rfl⟩
  cases e with
  | call function line =>
      rw [effect] at h
      by_cases hout : function = "output"
      · rw [if_pos hout] at h
        cases h
      · rw [if_neg hout] at h
        by_cases hin : function = "input"
        · rw [if_pos hin] at h
          subst hin
          cases h
          exact ⟨_, .input, rfl⟩
        · rw [if_neg hin] at h
          cases h
          exact ⟨_, .nothing hin, by simp [Lowering.push]⟩
  | callWith function arg line =>
      rw [effect] at h
      by_cases hout : function = "output"
      · rw [if_pos hout] at h
        subst hout
        obtain ⟨_, s1, h1, h⟩ := bind_eq_ok.mp h
        obtain ⟨code, hcode, rfl⟩ := value_code arg h1
        cases h
        exact ⟨_, .output hcode, push_push _ _ _⟩
      · rw [if_neg hout] at h
        by_cases hin : function = "input"
        · rw [if_pos hin] at h
          subst hin
          cases h
          exact ⟨_, .inputWith, rfl⟩
        · rw [if_neg hin] at h
          cases h
          exact ⟨_, .nothingWith hout hin, by simp [Lowering.push]⟩
  | bump target direction post line =>
      rw [effect] at h
      obtain ⟨x, s1, h1, h2⟩ := bind_eq_ok.mp h
      obtain ⟨hx, rfl⟩ := tileOf_ok h1
      cases h2
      exact ⟨_, .bump hx, rfl⟩
  | _ => exact hvalue h (by simp) (by simp) (by simp)

/-! ## Conditions -/

lemma difference_code {t : Target} {op sign : Comparison} {left right : Expr} {line : Nat}
    {s s' : Lowering} (h : difference t op left right line s = .ok sign s') :
    ∃ code, DifferenceCode t s.tiles s.used op left right sign code ∧ s' = s.push code := by
  rw [difference.eq_def] at h
  split at h
  · obtain ⟨_, s1, h1, h2⟩ := bind_eq_ok.mp h
    obtain ⟨code, hcode, rfl⟩ := value_code _ h1
    cases h2
    exact ⟨code, .right hcode, rfl⟩
  · obtain ⟨_, s1, h1, h2⟩ := bind_eq_ok.mp h
    obtain ⟨code, hcode, rfl⟩ := value_code _ h1
    cases h2
    exact ⟨code, .left hcode, rfl⟩
  · obtain ⟨_, s1, h1, h2⟩ := bind_eq_ok.mp h
    cases h2
    -- the sides are combined as those of a difference are
    have hsum : value t (.sum .minus left right line) s = .ok () s' := by
      rw [value]
      exact h1
    obtain ⟨code, hcode, rfl⟩ := value_code _ hsum
    exact ⟨code, .both hcode, rfl⟩

/-- The state with another number of labels. -/
def Lowering.withLabels (s : Lowering) (n : Nat) : Lowering :=
  { s with labels := n }

lemma newLabel_eq (stem : String) (s : Lowering) :
    newLabel stem s = .ok (labelAt stem (s.labels + 1)) (s.withLabels (s.labels + 1)) := rfl

lemma jumpIf_code {op : Comparison} {target : String} {s s' : Lowering}
    (h : jumpIf op target s = .ok () s') :
    s' = (s.push (jumpOps op target (labelAt "skip" (s.labels + 1)))).withLabels
      (if jumpSkips op then s.labels + 1 else s.labels) := by
  cases op <;> cases h <;> simp [Lowering.push, Lowering.withLabels, jumpOps, jumpSkips, jumpTo,
    labelAt]

mutual

/-- **Conditions.** -/
lemma branch_code {t : Target} : ∀ (e : Expr) {target : String} {wanted : Bool} {s s' : Lowering},
    branch t target wanted e s = .ok () s' → ∃ code n,
      CondCode t s.tiles s.used (.one e) target wanted s.labels code n ∧
        s' = (s.push code).withLabels n
  | .num _ _, _, _, _, _, h => nomatch h
  | .var _, _, _, _, _, h => nomatch h
  | .call _ _, _, _, _, _, h => nomatch h
  | .callWith _ _ _, _, _, _, _, h => nomatch h
  | .assign _ _ _, _, _, _, _, h => nomatch h
  | .bump _ _ _ _, _, _, _, _, h => nomatch h
  | .sum _ _ _ _, _, _, _, _, h => nomatch h
  | .bool b _, target, wanted, s, s', h => by
      rw [branch] at h
      by_cases hb : b = wanted
      · subst hb
        rw [if_pos rfl] at h
        cases h
        exact ⟨_, _, .jump, rfl⟩
      · rw [if_neg hb] at h
        cases h
        exact ⟨_, _, .fall hb, by simp [Lowering.push, Lowering.withLabels]⟩
  | .compare op left right line, target, wanted, s, s', h => by
      rw [branch] at h
      obtain ⟨sign, s1, h1, h2⟩ := bind_eq_ok.mp h
      obtain ⟨code, hcode, rfl⟩ := difference_code h1
      refine ⟨_, _, .compare hcode, ?_⟩
      rw [jumpIf_code h2]
      simp [Lowering.push, Lowering.withLabels]
  | .logical op first others line, target, wanted, s, s', h => by
      rw [branch] at h
      by_cases hop : (op = .or) = (wanted = true)
      · rw [if_pos hop] at h
        obtain ⟨_, s1, h1, h2⟩ := bind_eq_ok.mp h
        obtain ⟨code, n, hcode, rfl⟩ := branch_code first h1
        obtain ⟨code', m, hcode', rfl⟩ := branchAny_code others h2
        have hwanted : (op == .or) = wanted := by cases op <;> cases wanted <;> simp_all
        refine ⟨_, _, .anyOf hwanted hcode hcode', ?_⟩
        simp [Lowering.push, Lowering.withLabels]
      · rw [if_neg hop] at h
        obtain ⟨skip, s1, h1, h2⟩ := bind_eq_ok.mp h
        obtain ⟨_, s2, h2, h3⟩ := bind_eq_ok.mp h2
        obtain ⟨_, s3, h3, h4⟩ := bind_eq_ok.mp h3
        rw [newLabel_eq] at h1
        cases h1
        obtain ⟨code, n, hcode, rfl⟩ := branch_code first h2
        obtain ⟨code', m, hcode', rfl⟩ := branchAll_code others h3
        cases h4
        have hwanted : (op == .or) ≠ wanted := by cases op <;> cases wanted <;> simp_all
        refine ⟨_, _, .allOf hwanted hcode hcode', ?_⟩
        simp [Lowering.push, Lowering.withLabels]

/-- Conditions one of which is enough. -/
lemma branchAny_code {t : Target} : ∀ (others : Operands) {target : String} {wanted : Bool}
    {s s' : Lowering}, branchAny t target wanted others s = .ok () s' → ∃ code n,
      CondCode t s.tiles s.used (.any others) target wanted s.labels code n ∧
        s' = (s.push code).withLabels n
  | .last e, target, wanted, s, s', h => by
      obtain ⟨code, n, hcode, rfl⟩ := branch_code e h
      exact ⟨_, _, .anyLast hcode, rfl⟩
  | .more e others, target, wanted, s, s', h => by
      rw [branchAny] at h
      obtain ⟨_, s1, h1, h2⟩ := bind_eq_ok.mp h
      obtain ⟨code, n, hcode, rfl⟩ := branch_code e h1
      obtain ⟨code', m, hcode', rfl⟩ := branchAny_code others h2
      refine ⟨_, _, .anyMore hcode hcode', ?_⟩
      simp [Lowering.push, Lowering.withLabels]

/-- Conditions all of which are needed. -/
lemma branchAll_code {t : Target} : ∀ (others : Operands) {target skip : String} {wanted : Bool}
    {s s' : Lowering}, branchAll t target skip wanted others s = .ok () s' → ∃ code n,
      CondCode t s.tiles s.used (.all skip others) target wanted s.labels code n ∧
        s' = (s.push code).withLabels n
  | .last e, target, skip, wanted, s, s', h => by
      obtain ⟨code, n, hcode, rfl⟩ := branch_code e h
      exact ⟨_, _, .allLast hcode, rfl⟩
  | .more e others, target, skip, wanted, s, s', h => by
      rw [branchAll] at h
      obtain ⟨_, s1, h1, h2⟩ := bind_eq_ok.mp h
      obtain ⟨code, n, hcode, rfl⟩ := branch_code e h1
      obtain ⟨code', m, hcode', rfl⟩ := branchAll_code others h2
      refine ⟨_, _, .allMore hcode hcode', ?_⟩
      simp [Lowering.push, Lowering.withLabels]

end

/-! ## Statements -/

lemma statementOps_ifThen {t : Target} {cond : Expr} (h : cond.isBool = false) (body : Stmt)
    (line : Nat) :
    statementOps t (.ifThen cond body line) = (do
      let no ← newLabel "else"
      branch t no false cond
      statementOps t body
      emit (.label no)) := by
  cases cond <;> first | rfl | cases h

lemma statementOps_ifElse {t : Target} {cond : Expr} (h : cond.isBool = false) (body other : Stmt)
    (line : Nat) :
    statementOps t (.ifElse cond body other line) = (do
      let no ← newLabel "else"
      branch t no false cond
      statementOps t body
      let stop ← newLabel "endif"
      emitJump .always stop
      emit (.label no)
      statementOps t other
      emit (.label stop)) := by
  cases cond <;> first | rfl | cases h

lemma statementOps_whileDo {t : Target} {cond : Expr} (h : cond.isBool = false) (body : Stmt)
    (line : Nat) :
    statementOps t (.whileDo cond body line) = (do
      let top ← newLabel "loop"
      emit (.label top)
      let stop ← newLabel "end"
      branch t stop false cond
      statementOps t body
      emitJump .always top
      emit (.label stop)) := by
  cases cond <;> first | rfl | cases h

lemma isBool_eq_true {e : Expr} (h : e.isBool = true) : ∃ b line, e = .bool b line := by
  cases e <;> first | exact ⟨_, _, rfl⟩ | cases h

lemma literal?_eq_none {e : Expr} (h : e.isBool = false) : e.literal? = none := by
  cases e <;> first | rfl | cases h

/-- What has been given out in a state. -/
def Lowering.stock (s : Lowering) : Stock :=
  ⟨s.tiles, s.used, s.labels⟩

/-- The state with more instructions and another stock. -/
def Lowering.grow (s : Lowering) (code : List Op) (k : Stock) : Lowering :=
  ⟨s.ops ++ code, k.tiles, k.used, k.labels⟩

/-- Whenever a step succeeds it adds the instructions for statements. -/
def Produces (t : Target) (part : Part) (step : Lower Unit) : Prop :=
  ∀ ⦃s s' : Lowering⦄, step s = .ok () s' →
    ∃ code k, StmtCode t part s.stock code k ∧ s' = s.grow code k

section Statements

variable {t : Target} {cond : Expr} {body other : Stmt}

lemma decl_code (d : Decl) : Produces t (.one (.decl d)) (statementOps t (.decl d)) := by
  intro s s' h
  rw [statementOps] at h
  cases hconst : d.constant with
  | true =>
      rw [hconst, if_pos rfl] at h
      cases h
      exact ⟨[], s.stock, .constant hconst, by simp [Lowering.grow, Lowering.stock]⟩
  | false =>
      rw [hconst, if_neg (by simp)] at h
      obtain ⟨address, s1, h1, r1⟩ := bind_eq_ok.mp h
      obtain ⟨_, s2, h2, r2⟩ := bind_eq_ok.mp r1
      obtain ⟨hfresh, rfl⟩ := alloc_ok h1
      cases h2
      cases hinit : d.init with
      | none =>
          rw [hinit] at r2
          cases r2
          exact ⟨[], s.stock.place d.name address, .declare hconst hinit hfresh,
            by simp [Lowering.grow, Lowering.stock, Stock.place]⟩
      | some e =>
          rw [hinit] at r2
          obtain ⟨_, s3, h3, r3⟩ := bind_eq_ok.mp r2
          obtain ⟨code, hcode, rfl⟩ := value_code e h3
          cases r3
          refine ⟨_, s.stock.place d.name address, .define hconst hinit hfresh hcode, ?_⟩
          simp [Lowering.grow, Lowering.stock, Stock.place, Lowering.push, onCell, onTile]

lemma ifThen_code (hbody : Produces t (.one body) (statementOps t body)) (line : Nat) :
    Produces t (.one (.ifThen cond body line)) (statementOps t (.ifThen cond body line)) := by
  intro s s' h
  cases hbool : cond.isBool with
  | true =>
      obtain ⟨b, _, rfl⟩ := isBool_eq_true hbool
      rw [statementOps] at h
      cases b with
      | true =>
          obtain ⟨code, k, hcode, rfl⟩ := hbody h
          exact ⟨code, k, .ifTrue hcode, rfl⟩
      | false =>
          cases h
          exact ⟨[], s.stock, .ifFalse, by simp [Lowering.grow, Lowering.stock]⟩
  | false =>
      rw [statementOps_ifThen hbool] at h
      obtain ⟨no, s1, h1, r1⟩ := bind_eq_ok.mp h
      obtain ⟨_, s2, h2, r2⟩ := bind_eq_ok.mp r1
      obtain ⟨_, s3, h3, r3⟩ := bind_eq_ok.mp r2
      cases h1
      obtain ⟨code, n, hcode, rfl⟩ := branch_code cond h2
      obtain ⟨code', k, hcode', rfl⟩ := hbody h3
      cases r3
      refine ⟨_, k, .ifThen hbool hcode hcode', ?_⟩
      simp [Lowering.grow, Lowering.push, Lowering.withLabels, Lowering.stock, labelAt]

lemma ifElse_code (hbody : Produces t (.one body) (statementOps t body))
    (hother : Produces t (.one other) (statementOps t other)) (line : Nat) :
    Produces t (.one (.ifElse cond body other line))
      (statementOps t (.ifElse cond body other line)) := by
  intro s s' h
  cases hbool : cond.isBool with
  | true =>
      obtain ⟨b, _, rfl⟩ := isBool_eq_true hbool
      rw [statementOps] at h
      cases b with
      | true =>
          obtain ⟨code, k, hcode, rfl⟩ := hbody h
          exact ⟨code, k, .elseTrue hcode, rfl⟩
      | false =>
          obtain ⟨code, k, hcode, rfl⟩ := hother h
          exact ⟨code, k, .elseFalse hcode, rfl⟩
  | false =>
      rw [statementOps_ifElse hbool] at h
      obtain ⟨no, s1, h1, r1⟩ := bind_eq_ok.mp h
      obtain ⟨_, s2, h2, r2⟩ := bind_eq_ok.mp r1
      obtain ⟨_, s3, h3, r3⟩ := bind_eq_ok.mp r2
      obtain ⟨stop, s4, h4, r4⟩ := bind_eq_ok.mp r3
      obtain ⟨_, s5, h5, r5⟩ := bind_eq_ok.mp r4
      obtain ⟨_, s6, h6, r6⟩ := bind_eq_ok.mp r5
      obtain ⟨_, s7, h7, r7⟩ := bind_eq_ok.mp r6
      cases h1
      obtain ⟨code, n, hcode, rfl⟩ := branch_code cond h2
      obtain ⟨code', k, hcode', rfl⟩ := hbody h3
      cases h4
      cases h5
      cases h6
      obtain ⟨code'', k', hcode'', rfl⟩ := hother h7
      cases r7
      refine ⟨_, k', .ifElse hbool hcode hcode' hcode'', ?_⟩
      simp [Lowering.grow, Lowering.push, Lowering.withLabels, Lowering.stock, jumpTo, labelAt]

lemma whileDo_code (hbody : Produces t (.one body) (statementOps t body)) (line : Nat) :
    Produces t (.one (.whileDo cond body line)) (statementOps t (.whileDo cond body line)) := by
  intro s s' h
  cases hbool : cond.isBool with
  | true =>
      obtain ⟨b, _, rfl⟩ := isBool_eq_true hbool
      rw [statementOps] at h
      cases b with
      | true =>
          obtain ⟨top, s1, h1, r1⟩ := bind_eq_ok.mp h
          obtain ⟨_, s2, h2, r2⟩ := bind_eq_ok.mp r1
          obtain ⟨_, s3, h3, r3⟩ := bind_eq_ok.mp r2
          cases h1
          cases h2
          obtain ⟨code, k, hcode, rfl⟩ := hbody h3
          cases r3
          refine ⟨_, k, .forever hcode, ?_⟩
          simp [Lowering.grow, Lowering.stock, jumpTo, labelAt]
      | false =>
          cases h
          exact ⟨[], s.stock, .never, by simp [Lowering.grow, Lowering.stock]⟩
  | false =>
      rw [statementOps_whileDo hbool] at h
      obtain ⟨top, s1, h1, r1⟩ := bind_eq_ok.mp h
      obtain ⟨_, s2, h2, r2⟩ := bind_eq_ok.mp r1
      obtain ⟨stop, s3, h3, r3⟩ := bind_eq_ok.mp r2
      obtain ⟨_, s4, h4, r4⟩ := bind_eq_ok.mp r3
      obtain ⟨_, s5, h5, r5⟩ := bind_eq_ok.mp r4
      obtain ⟨_, s6, h6, r6⟩ := bind_eq_ok.mp r5
      cases h1
      cases h2
      cases h3
      obtain ⟨code, n, hcode, rfl⟩ := branch_code cond h4
      obtain ⟨code', k, hcode', rfl⟩ := hbody h5
      cases h6
      cases r6
      refine ⟨_, k, .whileDo hbool hcode hcode', ?_⟩
      simp [Lowering.grow, Lowering.push, Lowering.withLabels, Lowering.stock, jumpTo, labelAt]

end Statements

mutual

/-- **Statements.** -/
lemma statementOps_code {t : Target} : ∀ p : Stmt, Produces t (.one p) (statementOps t p)
  | .decl d => decl_code d
  | .expr e _ => by
      intro s s' h
      rw [statementOps] at h
      obtain ⟨code, hcode, rfl⟩ := effect_code h
      exact ⟨code, s.stock, .expr hcode, rfl⟩
  | .ifThen _ body line => ifThen_code (statementOps_code body) line
  | .ifElse _ body other line => ifElse_code (statementOps_code body) (statementOps_code other) line
  | .whileDo _ body line => whileDo_code (statementOps_code body) line
  | .block body _ => by
      intro s s' h
      rw [statementOps] at h
      obtain ⟨code, k, hcode, rfl⟩ := programOps_code body h
      exact ⟨code, k, .block hcode, rfl⟩

/-- Statements one after the other. -/
lemma programOps_code {t : Target} : ∀ body : List Stmt, Produces t (.many body) (programOps t body)
  | [] => by
      intro s s' h
      cases h
      exact ⟨[], s.stock, .done, by simp [Lowering.grow, Lowering.stock]⟩
  | p :: rest => by
      intro s s' h
      rw [programOps] at h
      obtain ⟨_, s1, h1, r1⟩ := bind_eq_ok.mp h
      obtain ⟨code, k, hcode, rfl⟩ := statementOps_code p h1
      obtain ⟨code', k', hcode', rfl⟩ := programOps_code rest r1
      refine ⟨_, k', .next hcode hcode', ?_⟩
      simp [Lowering.grow]

end

/-- The instructions of a whole program. -/
theorem lower_code {size : Int} {symbols : Symbols} {program : List Stmt} {final : Lowering}
    (h : lower size symbols program = (none, final)) :
    StmtCode ⟨symbols, size⟩ (.many program) ⟨[], [], 0⟩ final.ops final.stock := by
  rw [lower] at h
  cases hrun : (programOps ⟨symbols, size⟩ program).run {} with
  | error e s =>
      rw [hrun] at h
      cases h
  | ok u s =>
      rw [hrun] at h
      cases h
      obtain ⟨code, k, hcode, rfl⟩ := programOps_code program hrun
      simpa [Lowering.grow, Lowering.stock] using hcode

end Mailroom.Source
