import Mathlib
import Mailroom.Proofs.Lowerable
import Mailroom.Proofs.Resemblance

/-!
# Listings of programs of the same structure

Neither lines nor names reach a listing: tiles are given out by what is in use, and labels by how
many there are.  To see this, two steps that look for instructions are run side by side, from states
that agree in all but the names of variables (`Parallel`).  Both find the same, or both fail.

* `value_parallel`, `branch_parallel`, `statementOps_parallel`: the parts of a program.
* `lower_resembles`: whole programs.
* `listing_structural`: hence the listings are the same, shortened or not.
-/

namespace Mailroom.Source

open Peephole

/-! ## Steps side by side -/

/-- States with the same lines, the same tiles and labels given out, and corresponding names. -/
structure Lowering.Resembles (R : String → String → Prop) (l l' : Lowering) : Prop where
  ops : l.ops = l'.ops
  tiles : TablesResemble R Eq l.tiles l'.tiles
  used : l.used = l'.used
  labels : l.labels = l'.labels

/-- Floors of the same size for corresponding variables. -/
structure Target.Resembles (R : String → String → Prop) (t t' : Target) : Prop where
  symbols : TablesResemble R Symbol.Resembles t.symbols t'.symbols
  size : t.size = t'.size

/-- Both steps succeed with the same result, or both fail. -/
inductive EndsLike (R : String → String → Prop) {α : Type} :
    EStateM.Result LoweringError Lowering α → EStateM.Result LoweringError Lowering α → Prop
  | ok {a : α} {l l' : Lowering} : l.Resembles R l' → EndsLike R (.ok a l) (.ok a l')
  | error {e e' : LoweringError} {l l' : Lowering} : l.Resembles R l' →
      EndsLike R (.error e l) (.error e' l')

/-- Steps that end alike from states that resemble each other. -/
def Parallel (R : String → String → Prop) {α : Type} (x y : Lower α) : Prop :=
  ∀ ⦃l l' : Lowering⦄, l.Resembles R l' → EndsLike R (x l) (y l')

section Steps

variable {R : String → String → Prop} {α β : Type} {t t' : Target}

lemma Parallel.bind {x y : Lower α} {f g : α → Lower β} (hx : Parallel R x y)
    (hf : ∀ a, Parallel R (f a) (g a)) : Parallel R (x >>= f) (y >>= g) := by
  intro l l' hl
  have hstep := hx hl
  change EndsLike R (EStateM.bind x f l) (EStateM.bind y g l')
  rw [EStateM.bind, EStateM.bind]
  generalize x l = r, y l' = r' at hstep ⊢
  cases hstep with
  | ok hl' => exact hf _ hl'
  | error hl' => exact .error hl'

lemma parallel_pure (a : α) : Parallel R (pure a : Lower α) (pure a) :=
  fun _ _ hl => .ok hl

lemma parallel_throw (e e' : LoweringError) : Parallel R (throw e : Lower α) (throw e') :=
  fun _ _ hl => .error hl

lemma parallel_emit (op : Op) : Parallel R (emit op) (emit op) :=
  fun _ _ hl => .ok ⟨congrArg (· ++ [op]) hl.ops, hl.tiles, hl.used, hl.labels⟩

lemma parallel_newLabel (stem : String) : Parallel R (newLabel stem) (newLabel stem) := by
  intro l l' hl
  rw [newLabel_eq, newLabel_eq, hl.labels]
  exact .ok ⟨hl.ops, hl.tiles, hl.used, rfl⟩

lemma parallel_free (address : Nat) : Parallel R (free address) (free address) :=
  fun _ _ hl => .ok ⟨hl.ops, hl.tiles, congrArg (List.filter (· != address)) hl.used, hl.labels⟩

/-- The same tiles are reserved. -/
lemma TablesResemble.reserved {symbols symbols' : Symbols}
    (h : TablesResemble R Symbol.Resembles symbols symbols') :
    symbols.reserved = symbols'.reserved := by
  rw [Symbols.reserved, Symbols.reserved]
  induction h with
  | nil => rfl
  | cons hentry _ ih => rw [List.filterMap_cons, List.filterMap_cons, hentry.2.address, ih]

/-- The lowest free tile depends on the tiles in use and reserved, and on the size of the floor. -/
lemma parallel_alloc (ht : t.Resembles R t') (line line' : Nat) :
    Parallel R (alloc t line) (alloc t' line') := by
  intro l l' hl
  have hfresh : t.fresh? l.used = t'.fresh? l'.used := by
    rw [Target.fresh?, Target.fresh?, ht.size, hl.used, ht.symbols.reserved]
  rw [alloc_eq, alloc_eq, hfresh]
  cases t'.fresh? l'.used with
  | none => exact .error hl
  | some address => exact .ok ⟨hl.ops, hl.tiles, by rw [hl.used], hl.labels⟩

lemma parallel_tileOf (hR : Relator.BiUnique R) (ht : t.Resembles R t') {v v' : Var}
    (hv : v.Resembles R v') : Parallel R (tileOf t v) (tileOf t' v') := by
  intro l l' hl
  have hoperand : operand? t l.tiles v = operand? t' l'.tiles v' := by
    have hsym := ht.symbols.get? hR hv.name
    have htile := hl.tiles.get? hR hv.name
    rw [operand?, operand?, hv.deref]
    generalize t.symbols.get? v.name = sym, t'.symbols.get? v'.name = sym' at hsym ⊢
    generalize l.tiles.get? v.name = tile, l'.tiles.get? v'.name = tile' at htile ⊢
    cases hsym with
    | none => rfl
    | some hsym =>
        dsimp only
        rw [hsym.address]
        cases htile with
        | none => rfl
        | some htile => rw [htile]
  rw [tileOf_eq, tileOf_eq, hoperand]
  cases operand? t' l'.tiles v' with
  | none => exact .error hl
  | some x => exact .ok hl

end Steps

/-! ## Lowering -/

section Lower

variable {R : String → String → Prop} {t t' : Target}

lemma parallel_combine (hR : Relator.BiUnique R) (ht : t.Resembles R t')
    {left left' right right' : Lower Unit} (hleft : Parallel R left left')
    (hright : Parallel R right right') {v? v?' : Option Var}
    (hv : Option.Rel (Var.Resembles R) v? v?') (op : TileOp) (line line' : Nat) :
    Parallel R (combine t op line left right v?) (combine t' op line' left' right' v?') := by
  cases hv with
  | some hv =>
      exact hleft.bind fun _ => (parallel_tileOf hR ht hv).bind fun _ => parallel_emit _
  | none =>
      exact (parallel_alloc ht line line').bind fun _ => hright.bind fun _ =>
        (parallel_emit _).bind fun _ => hleft.bind fun _ => (parallel_emit _).bind fun _ =>
          parallel_free _

lemma var?_resembles {e e' : Expr} (h : e.Resembles R e') :
    Option.Rel (Var.Resembles R) e.var? e'.var? := by
  cases h with
  | var hv => exact .some hv
  | _ => exact .none

/-- **Expressions.**  Values of corresponding expressions. -/
lemma value_parallel (hR : Relator.BiUnique R) (ht : t.Resembles R t') (e : Expr) {e' : Expr}
    (he : e.Resembles R e') : Parallel R (value t e) (value t' e') := by
  cases he with
  | num => exact parallel_throw ..
  | bool => exact parallel_throw ..
  | var hv => exact (parallel_tileOf hR ht hv).bind fun _ => parallel_emit _
  | call => exact parallel_emit _
  | callWith => exact parallel_emit _
  | @assign _ _ e _ _ _ htarget he =>
      exact (value_parallel hR ht e he).bind fun _ =>
        (parallel_tileOf hR ht htarget).bind fun _ => parallel_emit _
  | @bump _ _ _ post _ _ htarget =>
      refine (parallel_tileOf hR ht htarget).bind fun _ => ?_
      cases post with
      | true =>
          exact (parallel_alloc ht ..).bind fun _ => (parallel_emit _).bind fun _ =>
            (parallel_emit _).bind fun _ => (parallel_emit _).bind fun _ =>
              (parallel_emit _).bind fun _ => parallel_free _
      | false => exact parallel_emit _
  | @sum _ left _ right _ _ _ hleft hright =>
      exact parallel_combine hR ht (value_parallel hR ht left hleft)
        (value_parallel hR ht right hright) (var?_resembles hright) ..
  | compare => exact parallel_throw ..
  | logical => exact parallel_throw ..
termination_by structural e

lemma effect_parallel (hR : Relator.BiUnique R) (ht : t.Resembles R t') {e e' : Expr}
    (he : e.Resembles R e') : Parallel R (effect t e) (effect t' e') := by
  cases he with
  | call =>
      rw [effect, effect]
      split
      · exact parallel_throw ..
      split
      · exact parallel_emit _
      · exact parallel_pure ()
  | callWith harg =>
      rw [effect, effect]
      split
      · exact (value_parallel hR ht _ harg).bind fun _ => parallel_emit _
      split
      · exact parallel_emit _
      · exact parallel_pure ()
  | bump htarget => exact (parallel_tileOf hR ht htarget).bind fun _ => parallel_emit _
  | _ => exact value_parallel hR ht _ (by constructor <;> assumption)

/-- The three ways to compare, by which side is a literal. -/
lemma difference_eq (t : Target) (op : Comparison) (left right : Expr) (line : Nat) :
    difference t op left right line =
      if Scope.isLiteral right then value t left >>= fun _ => pure op
      else if Scope.isLiteral left then value t right >>= fun _ => pure op.swap
      else combine t .sub line (value t left) (value t right) right.var? >>= fun _ => pure op := by
  rw [difference.eq_def]
  split <;> simp_all [Scope.isLiteral]

lemma difference_parallel (hR : Relator.BiUnique R) (ht : t.Resembles R t')
    {left left' right right' : Expr} (hleft : left.Resembles R left')
    (hright : right.Resembles R right') (op : Comparison) (line line' : Nat) :
    Parallel R (difference t op left right line) (difference t' op left' right' line') := by
  have hl := value_parallel hR ht _ hleft
  have hr := value_parallel hR ht _ hright
  rw [difference_eq, difference_eq, isLiteral_resembles hleft, isLiteral_resembles hright]
  split
  · exact hl.bind fun _ => parallel_pure op
  split
  · exact hr.bind fun _ => parallel_pure op.swap
  · exact (parallel_combine hR ht hl hr (var?_resembles hright) ..).bind fun _ => parallel_pure op

lemma jumpIf_parallel (op : Comparison) (target : String) :
    Parallel R (jumpIf op target) (jumpIf op target) := by
  cases op with
  | eq => exact parallel_emit _
  | lt => exact parallel_emit _
  | le => exact (parallel_emit _).bind fun _ => parallel_emit _
  | ne | ge =>
      exact (parallel_newLabel _).bind fun _ => (parallel_emit _).bind fun _ =>
        (parallel_emit _).bind fun _ => parallel_emit _
  | gt =>
      exact (parallel_newLabel _).bind fun _ => (parallel_emit _).bind fun _ =>
        (parallel_emit _).bind fun _ => (parallel_emit _).bind fun _ => parallel_emit _

mutual

/-- **Conditions.**  Labels are given out by number, so both go to the same ones. -/
lemma branch_parallel (hR : Relator.BiUnique R) (ht : t.Resembles R t') (e : Expr) {e' : Expr}
    (he : e.Resembles R e') (target : String) (wanted : Bool) :
    Parallel R (branch t target wanted e) (branch t' target wanted e') := by
  cases he with
  | bool =>
      rw [branch, branch]
      split
      · exact parallel_emit _
      · exact parallel_pure ()
  | compare hleft hright =>
      exact (difference_parallel hR ht hleft hright ..).bind fun _ => jumpIf_parallel ..
  | @logical _ first _ others _ _ _ hfirst hothers =>
      rw [branch, branch]
      split
      · have hone := branch_parallel hR ht first hfirst target wanted
        exact hone.bind fun _ => branchAny_parallel hR ht others hothers target wanted
      · refine (parallel_newLabel _).bind fun skip => ?_
        have hone := branch_parallel hR ht first hfirst skip (!wanted)
        have hall := branchAll_parallel hR ht others hothers target skip wanted
        exact hone.bind fun _ => hall.bind fun _ => parallel_emit _
  | _ => exact parallel_throw ..
termination_by structural e

lemma branchAny_parallel (hR : Relator.BiUnique R) (ht : t.Resembles R t') (others : Operands)
    {others' : Operands} (hothers : others.Resembles R others') (target : String)
    (wanted : Bool) :
    Parallel R (branchAny t target wanted others) (branchAny t' target wanted others') := by
  cases hothers with
  | @last e _ he => exact branch_parallel hR ht e he target wanted
  | @more e _ others _ he hothers =>
      have hone := branch_parallel hR ht e he target wanted
      exact hone.bind fun _ => branchAny_parallel hR ht others hothers target wanted
termination_by structural others

lemma branchAll_parallel (hR : Relator.BiUnique R) (ht : t.Resembles R t') (others : Operands)
    {others' : Operands} (hothers : others.Resembles R others') (target skip : String)
    (wanted : Bool) :
    Parallel R (branchAll t target skip wanted others)
      (branchAll t' target skip wanted others') := by
  cases hothers with
  | @last e _ he => exact branch_parallel hR ht e he target wanted
  | @more e _ others _ he hothers =>
      have hone := branch_parallel hR ht e he skip (!wanted)
      exact hone.bind fun _ => branchAll_parallel hR ht others hothers target skip wanted
termination_by structural others

end

lemma parallel_put (hR : Relator.BiUnique R) {name name' : String} (hname : R name name')
    (tile : Nat) :
    Parallel R (modify fun l => { l with tiles := l.tiles.put name tile } : Lower PUnit)
      (modify fun l => { l with tiles := l.tiles.put name' tile }) :=
  fun _ _ hl => .ok ⟨hl.ops, hl.tiles.put hR hname rfl, hl.used, hl.labels⟩

lemma declOps_parallel (hR : Relator.BiUnique R) (ht : t.Resembles R t') {d d' : Decl}
    (hd : d.Resembles R d') :
    Parallel R (statementOps t (.decl d)) (statementOps t' (.decl d')) := by
  have hinit := hd.init
  rw [statementOps, statementOps, hd.constant]
  split
  · exact parallel_pure ()
  refine (parallel_alloc ht ..).bind fun tile => (parallel_put hR hd.name tile).bind fun _ => ?_
  generalize d.init = init, d'.init = init' at hinit ⊢
  cases hinit with
  | none => exact parallel_pure ()
  | some he => exact (value_parallel hR ht _ he).bind fun _ => parallel_emit _

/-- There are no instructions for a statement that does nothing. -/
lemma Stmt.Silent.statementOps {s : Stmt} (h : s.Silent) (t : Target) :
    statementOps t s = pure () := by
  cases h with
  | empty => rfl
  | debug => rfl

lemma isBool_resembles {e e' : Expr} (h : e.Resembles R e') : e.isBool = e'.isBool := by
  cases h <;> rfl

section Compound

variable {cond cond' : Expr} {body body' other other' : Stmt}

lemma ifThen_parallel (hR : Relator.BiUnique R) (ht : t.Resembles R t')
    (hcond : cond.Resembles R cond')
    (hbody : Parallel R (statementOps t body) (statementOps t' body')) (line line' : Nat) :
    Parallel R (statementOps t (.ifThen cond body line))
      (statementOps t' (.ifThen cond' body' line')) := by
  -- a literal is settled at once and takes no label, so it must be one on both sides
  cases hbool : cond.isBool with
  | true =>
      obtain ⟨b, _, rfl⟩ := isBool_eq_true hbool
      cases hcond
      rw [statementOps, statementOps]
      split
      · exact hbody
      · exact parallel_pure ()
  | false =>
      rw [statementOps_ifThen hbool, statementOps_ifThen (isBool_resembles hcond ▸ hbool)]
      exact (parallel_newLabel _).bind fun no =>
        (branch_parallel hR ht cond hcond no false).bind fun _ => hbody.bind fun _ =>
          parallel_emit _

lemma ifElse_parallel (hR : Relator.BiUnique R) (ht : t.Resembles R t')
    (hcond : cond.Resembles R cond')
    (hbody : Parallel R (statementOps t body) (statementOps t' body'))
    (hother : Parallel R (statementOps t other) (statementOps t' other')) (line line' : Nat) :
    Parallel R (statementOps t (.ifElse cond body other line))
      (statementOps t' (.ifElse cond' body' other' line')) := by
  cases hbool : cond.isBool with
  | true =>
      obtain ⟨b, _, rfl⟩ := isBool_eq_true hbool
      cases hcond
      rw [statementOps, statementOps]
      split
      · exact hbody
      · exact hother
  | false =>
      rw [statementOps_ifElse hbool, statementOps_ifElse (isBool_resembles hcond ▸ hbool)]
      exact (parallel_newLabel _).bind fun no =>
        (branch_parallel hR ht cond hcond no false).bind fun _ => hbody.bind fun _ =>
          (parallel_newLabel _).bind fun _ => (parallel_emit _).bind fun _ =>
            (parallel_emit _).bind fun _ => hother.bind fun _ => parallel_emit _

lemma whileDo_parallel (hR : Relator.BiUnique R) (ht : t.Resembles R t')
    (hcond : cond.Resembles R cond')
    (hbody : Parallel R (statementOps t body) (statementOps t' body')) (line line' : Nat) :
    Parallel R (statementOps t (.whileDo cond body line))
      (statementOps t' (.whileDo cond' body' line')) := by
  cases hbool : cond.isBool with
  | true =>
      obtain ⟨b, _, rfl⟩ := isBool_eq_true hbool
      cases hcond
      rw [statementOps, statementOps]
      split
      · exact (parallel_newLabel _).bind fun _ => (parallel_emit _).bind fun _ =>
          hbody.bind fun _ => parallel_emit _
      · exact parallel_pure ()
  | false =>
      rw [statementOps_whileDo hbool, statementOps_whileDo (isBool_resembles hcond ▸ hbool)]
      exact (parallel_newLabel _).bind fun _ => (parallel_emit _).bind fun _ =>
        (parallel_newLabel _).bind fun stop =>
          (branch_parallel hR ht cond hcond stop false).bind fun _ =>
            hbody.bind fun _ => (parallel_emit _).bind fun _ => parallel_emit _

end Compound

mutual

/-- **Statements.**  All tiles and labels are given out in the same order. -/
lemma statementOps_parallel (hR : Relator.BiUnique R) (ht : t.Resembles R t') (s : Stmt)
    {s' : Stmt} (hs : s.Resembles R s') : Parallel R (statementOps t s) (statementOps t' s') := by
  cases hs with
  | silent h h' =>
      rw [h.statementOps, h'.statementOps]
      exact parallel_pure ()
  | decl hd => exact declOps_parallel hR ht hd
  | expr he => exact effect_parallel hR ht he
  | @ifThen _ _ body _ _ _ hcond hbody =>
      exact ifThen_parallel hR ht hcond (statementOps_parallel hR ht body hbody) ..
  | @ifElse _ _ body _ other _ _ _ hcond hbody hother =>
      exact ifElse_parallel hR ht hcond (statementOps_parallel hR ht body hbody)
        (statementOps_parallel hR ht other hother) ..
  | @whileDo _ _ body _ _ _ hcond hbody =>
      exact whileDo_parallel hR ht hcond (statementOps_parallel hR ht body hbody) ..
  | @block body _ _ _ hbody => exact programOps_parallel hR ht body hbody
termination_by structural s

lemma programOps_parallel (hR : Relator.BiUnique R) (ht : t.Resembles R t') (p : List Stmt)
    {p' : List Stmt} (hp : ResembleAll R p p') :
    Parallel R (programOps t p) (programOps t' p') := by
  cases hp with
  | nil => exact parallel_pure ()
  | @cons s _ p _ hs hp =>
      have hone := statementOps_parallel hR ht s hs
      exact hone.bind fun _ => programOps_parallel hR ht p hp
termination_by structural p

end

end Lower

/-- Programs that resemble each other get the same instructions, as far as they can be found. -/
lemma lower_resembles {R : String → String → Prop} (hR : Relator.BiUnique R) {p p' : List Stmt}
    (h : ResembleAll R p p') (size : Int) :
    ((lower size (check size p).symbols p).1 = none ↔
      (lower size (check size p').symbols p').1 = none) ∧
    (lower size (check size p).symbols p).2.ops =
      (lower size (check size p').symbols p').2.ops := by
  have htarget : Target.Resembles R ⟨(check size p).symbols, size⟩
      ⟨(check size p').symbols, size⟩ :=
    ⟨(check_resembles hR h size).symbols, rfl⟩
  have hends := programOps_parallel hR htarget p h
    (⟨rfl, .nil, rfl, rfl⟩ : Lowering.Resembles R {} {})
  rw [lower, lower, EStateM.run, EStateM.run]
  generalize programOps ⟨(check size p).symbols, size⟩ p {} = r,
    programOps ⟨(check size p').symbols, size⟩ p' {} = r' at hends ⊢
  cases hends with
  | ok hl => exact ⟨Iff.rfl, hl.ops⟩
  | error hl => exact ⟨by simp, hl.ops⟩

/-- The listing for a text with a program, from what is found for the program. -/
lemma compile_eq_ok {options : CompileOptions} {text : List Char} {program : List Stmt}
    {listing : List String} (hparse : parse text = .ok program) :
    (compile options text).outcome = .ok listing ↔
      (check options.floorSize program).diagnostics = [] ∧
      (lower options.floorSize (check options.floorSize program).symbols program).1 = none ∧
      render? (if options.optimize then
          peephole (lower options.floorSize (check options.floorSize program).symbols program).2.ops
        else (lower options.floorSize (check options.floorSize program).symbols program).2.ops) =
          .ok listing := by
  constructor
  · intro h
    obtain ⟨_, final, hprogram, haccepted, hlower, -, hrender⟩ := compile_render h
    cases hparse.symm.trans hprogram
    rw [hlower]
    exact ⟨haccepted, rfl, hrender⟩
  · rintro ⟨haccepted, hfound, hrender⟩
    rw [compile, hparse]
    dsimp only
    generalize check options.floorSize program = s at haccepted hfound hrender ⊢
    obtain ⟨symbols, diagnostics⟩ := s
    cases haccepted
    dsimp only at hfound hrender ⊢
    generalize lower options.floorSize symbols program = l at hfound hrender ⊢
    obtain ⟨_, final⟩ := l
    cases hfound
    exact hrender

/-- An injective renaming is a one-to-one correspondence. -/
lemma biUnique_renaming {ρ : String → String} (hρ : Function.Injective ρ) :
    Relator.BiUnique fun x y => ρ x = y :=
  ⟨fun _ _ _ hx hy => hρ (hx.trans hy.symm), fun _ _ _ hx hy => hx.symm.trans hy⟩

/-- **Structure.**  Programs that are the same up to lines, a one-to-one correspondence `R` of the
names of variables, and ways to do nothing: they get as many complaints; instructions are found for
both or for neither; the lines found for them are set alike, shortened or not; and so texts for them
have the same listing, if any. -/
theorem listing_structural {R : String → String → Prop} (hR : Relator.BiUnique R)
    {p p' : List Stmt} (h : ResembleAll R p p') (size : Int) :
    (check size p).diagnostics.length = (check size p').diagnostics.length ∧
    ((lower size (check size p).symbols p).1 = none ↔
      (lower size (check size p').symbols p').1 = none) ∧
    render? (lower size (check size p).symbols p).2.ops =
      render? (lower size (check size p').symbols p').2.ops ∧
    render? (peephole (lower size (check size p).symbols p).2.ops) =
      render? (peephole (lower size (check size p').symbols p').2.ops) ∧
    ∀ (optimize : Bool) ⦃text text' : List Char⦄, parse text = .ok p → parse text' = .ok p' →
      ∀ listing, (compile ⟨size, optimize⟩ text).outcome = .ok listing ↔
        (compile ⟨size, optimize⟩ text').outcome = .ok listing := by
  have hcomplaints := (check_resembles hR h size).complaints
  obtain ⟨hfound, hops⟩ := lower_resembles hR h size
  refine ⟨hcomplaints, hfound, by rw [hops], by rw [hops], ?_⟩
  intro optimize text text' hparse hparse' listing
  rw [compile_eq_ok hparse, compile_eq_ok hparse', ← List.length_eq_zero_iff, hcomplaints,
    List.length_eq_zero_iff, hfound, hops]

/-- Two variables that trade their names, on other lines, and nothing in place of a call. -/
theorem listing_structural_swap :
    (compile ⟨10, true⟩
      "int x=input();\nint y=x;\ndebug(7);\nwhile(x!=0) x=x-y;\noutput(y);".toList).outcome =
      .ok ["    INBOX", "    COPYTO 0", "    COPYTO 1", "loop1:", "    COPYFROM 0",
        "    JUMPZ end2", "    SUB 1", "    COPYTO 0", "    JUMP loop1", "end2:",
        "    COPYFROM 1", "    OUTBOX"] ∧
    (compile ⟨10, true⟩
      "int y=input(); int x=y; \x7b\x7d while(y!=0) y=y-x; output(x);".toList).outcome =
      .ok ["    INBOX", "    COPYTO 0", "    COPYTO 1", "loop1:", "    COPYFROM 0",
        "    JUMPZ end2", "    SUB 1", "    COPYTO 0", "    JUMP loop1", "end2:",
        "    COPYFROM 1", "    OUTBOX"] := by
  have hparse : parse
      "int x=input();\nint y=x;\ndebug(7);\nwhile(x!=0) x=x-y;\noutput(y);".toList =
      .ok [.decl ⟨"x", false, false, some (.call "input" 1), 1⟩,
        .decl ⟨"y", false, false, some (.var ⟨"x", false, 2⟩), 2⟩,
        .expr (.callWith "debug" (.num 7 3) 3) 3,
        .whileDo (.compare .ne (.var ⟨"x", false, 4⟩) (.num 0 4) 4)
          (.expr (.assign ⟨"x", false, 4⟩
            (.sum .minus (.var ⟨"x", false, 4⟩) (.var ⟨"y", false, 4⟩) 4) 4) 4) 4,
        .expr (.callWith "output" (.var ⟨"y", false, 5⟩) 5) 5] := by cbv
  have hparse' : parse
      "int y=input(); int x=y; \x7b\x7d while(y!=0) y=y-x; output(x);".toList =
      .ok [.decl ⟨"y", false, false, some (.call "input" 1), 1⟩,
        .decl ⟨"x", false, false, some (.var ⟨"y", false, 1⟩), 1⟩,
        .block [] 1,
        .whileDo (.compare .ne (.var ⟨"y", false, 1⟩) (.num 0 1) 1)
          (.expr (.assign ⟨"y", false, 1⟩
            (.sum .minus (.var ⟨"y", false, 1⟩) (.var ⟨"x", false, 1⟩) 1) 1) 1) 1,
        .expr (.callWith "output" (.var ⟨"x", false, 1⟩) 1) 1] := by cbv
  have hcompile : (compile ⟨10, true⟩
      "int x=input();\nint y=x;\ndebug(7);\nwhile(x!=0) x=x-y;\noutput(y);".toList).outcome =
      .ok ["    INBOX", "    COPYTO 0", "    COPYTO 1", "loop1:", "    COPYFROM 0",
        "    JUMPZ end2", "    SUB 1", "    COPYTO 0", "    JUMP loop1", "end2:",
        "    COPYFROM 1", "    OUTBOX"] := by
    rw [compile, hparse]
    cbv
  have hx : Equiv.swap "x" "y" "x" = "y" := Equiv.swap_apply_left ..
  have hy : Equiv.swap "x" "y" "y" = "x" := Equiv.swap_apply_right ..
  refine ⟨hcompile, ((listing_structural (biUnique_renaming (Equiv.swap "x" "y").injective) ?_
    10).2.2.2.2 true hparse hparse' _).mp hcompile⟩
  exact .cons (.decl ⟨hx, rfl, rfl, .some .call⟩)
    (.cons (.decl ⟨hy, rfl, rfl, .some (.var ⟨hx, rfl⟩)⟩)
    (.cons (.silent .debug .empty)
    (.cons (.whileDo (.compare (.var ⟨hx, rfl⟩) .num)
      (.expr (.assign ⟨hx, rfl⟩ (.sum (.var ⟨hx, rfl⟩) (.var ⟨hy, rfl⟩)))))
    (.cons (.expr (.callWith (.var ⟨hy, rfl⟩))) .nil))))

end Mailroom.Source
