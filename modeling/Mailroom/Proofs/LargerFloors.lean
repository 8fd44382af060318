import Mathlib
import Mailroom.Proofs.SameListing

/-!
# Listings on larger floors

The size of the floor is asked for in two places: an address has to lie on the floor, and a tile
that is given out has to.  What passes on a floor passes on a larger one, and in the same way: the
check enters the same variables, and the lowest free tile of the smaller floor is that of the larger
one.  So neither the instructions nor the listing change.

- `stmts_larger`: the check of a program without complaints.
- `Sustains`: a step that does what another one does, wherever that succeeds.
- `statementOps_larger`: the lowering for a larger floor sustains that for a smaller one.
- `compile_larger`: so a listing is the listing for every larger floor.
-/

namespace Mailroom.Source

/-! ## The check -/

namespace Scope

variable {size size' : Int}

/-- An address on a floor lies on every larger one. -/
lemma decl_larger (hle : size ≤ size') (s : Scope) (d : Decl)
    (h : (s.decl size d).diagnostics = []) : s.decl size' d = s.decl size d := by
  rw [decl] at h ⊢
  rw [decl]
  by_cases hknown : s.symbols.has d.name = true
  · rw [if_pos hknown, if_pos hknown]
  · rw [if_neg hknown] at h ⊢
    rw [if_neg hknown]
    dsimp only at h ⊢
    by_cases hconst : d.constant = true
    · rw [if_pos hconst] at h ⊢
      rw [if_pos hconst]
      split
      · rename_i n line hpointer hinit
        simp only [hpointer, hinit] at h
        by_cases hn : (n : Int) < size
        · rw [if_pos hn, if_pos (by omega)]
        · rw [if_neg hn] at h
          exact absurd h (report_ne s d.line (.offFloor n size))
      · rfl
    · rw [if_neg hconst, if_neg hconst]

mutual

/-- **Statements.**  Without complaints on a floor there are none on a larger one, and the same
variables are entered. -/
lemma stmt_larger (hle : size ≤ size') : ∀ (p : Stmt) (s : Scope),
    (s.stmt size p).diagnostics = [] → s.stmt size' p = s.stmt size p
  | .decl d, s, h => decl_larger hle s d h
  | .expr _ _, _, _ => rfl
  | .ifThen c body _, s, h => stmt_larger hle body (s.cond c) h
  | .whileDo c body _, s, h => stmt_larger hle body (s.cond c) h
  | .ifElse c body other _, s, h => by
      have hbody := stmt_larger hle body (s.cond c) ((stmt_grown size other _).clean h)
      rw [stmt, stmt, hbody]
      exact stmt_larger hle other _ h
  | .block body _, s, h => stmts_larger hle body s h

lemma stmts_larger (hle : size ≤ size') : ∀ (body : List Stmt) (s : Scope),
    (s.stmts size body).diagnostics = [] → s.stmts size' body = s.stmts size body
  | [], _, _ => rfl
  | p :: rest, s, h => by
      have hp := stmt_larger hle p s ((stmts_grown size rest _).clean h)
      rw [stmts, stmts, hp]
      exact stmts_larger hle rest _ h

end

end Scope

/-! ## Steps that do what others do -/

/-- Wherever `x` succeeds, `y` does so with the same result and leaves the same behind. -/
def Sustains {α : Type} (x y : Lower α) : Prop :=
  ∀ ⦃l : Lowering⦄ ⦃a : α⦄ ⦃l' : Lowering⦄, x l = .ok a l' → y l = .ok a l'

section Steps

variable {α β : Type} {t t' : Target}

lemma Sustains.refl (x : Lower α) : Sustains x x :=
  fun _ _ _ h => h

lemma Sustains.bind {x y : Lower α} {f g : α → Lower β} (hx : Sustains x y)
    (hf : ∀ a, Sustains (f a) (g a)) : Sustains (x >>= f) (y >>= g) := by
  intro l b l' h
  obtain ⟨a, l1, hfirst, hrest⟩ := bind_eq_ok.mp h
  exact bind_eq_ok.mpr ⟨a, l1, hx hfirst, hf a hrest⟩

/-- Steps of which only the first ones differ. -/
lemma Sustains.andThen {x y : Lower α} (hx : Sustains x y) (f : α → Lower β) :
    Sustains (x >>= f) (y >>= f) :=
  hx.bind fun a => .refl (f a)

/-- The same step with different ones behind it. -/
lemma Sustains.after {f g : α → Lower β} (x : Lower α) (hf : ∀ a, Sustains (f a) (g a)) :
    Sustains (x >>= f) (x >>= g) :=
  (Sustains.refl x).bind hf

/-- The same variables on a floor that is at least as large. -/
structure Target.Larger (t t' : Target) : Prop where
  symbols : t'.symbols = t.symbols
  size : t.size ≤ t'.size

/-- The lowest free tile of a floor is the lowest free tile of a larger one. -/
lemma lowestFree?_larger {size size' : Int} (hle : size ≤ size') {taken : List Nat} {a : Nat}
    (h : lowestFree? size taken = some a) : lowestFree? size' taken = some a := by
  rw [lowestFree?, List.find?_range_eq_some] at h ⊢
  obtain ⟨hfree, hmem, hlow⟩ := h
  rw [List.mem_range] at hmem
  exact ⟨hfree, List.mem_range.mpr (by omega), hlow⟩

lemma alloc_larger (ht : t.Larger t') (line : Nat) : Sustains (alloc t line) (alloc t' line) := by
  intro l a l' h
  obtain ⟨hfresh, rfl⟩ := alloc_ok h
  rw [Target.fresh?] at hfresh
  rw [alloc_eq, Target.fresh?, ht.symbols, lowestFree?_larger ht.size hfresh]

/-- Operands have nothing to do with the size of the floor. -/
lemma tileOf_larger (ht : t.Larger t') (v : Var) : Sustains (tileOf t v) (tileOf t' v) := by
  intro l x l' h
  rw [tileOf_eq, operand?] at h ⊢
  rwa [ht.symbols]

end Steps

/-! ## Lowering -/

section Lower

variable {t t' : Target}

lemma combine_larger (ht : t.Larger t') {left left' right right' : Lower Unit}
    (hleft : Sustains left left') (hright : Sustains right right') (op : TileOp) (line : Nat)
    (v? : Option Var) :
    Sustains (combine t op line left right v?) (combine t' op line left' right' v?) := by
  cases v? with
  | some v => exact hleft.bind fun _ => (tileOf_larger ht v).andThen _
  | none =>
      exact (alloc_larger ht line).bind fun _ => hright.bind fun _ => .after _ fun _ =>
        hleft.andThen _

/-- **Expressions.** -/
lemma value_larger (ht : t.Larger t') : ∀ e : Expr, Sustains (value t e) (value t' e)
  | .var v => (tileOf_larger ht v).andThen _
  | .call _ _ | .callWith _ _ _ => .refl _
  | .assign target e _ =>
      (value_larger ht e).bind fun _ => (tileOf_larger ht target).andThen _
  | .bump target direction post line => by
      rw [value, value]
      refine (tileOf_larger ht target).bind fun tile => ?_
      cases post with
      | true => exact (alloc_larger ht line).andThen _
      | false => exact .refl _
  | .sum op left right line =>
      combine_larger ht (value_larger ht left) (value_larger ht right) op.op line right.var?
  | .num _ _ | .bool _ _ | .compare _ _ _ _ | .logical _ _ _ _ => .refl _

lemma effect_larger (ht : t.Larger t') (e : Expr) : Sustains (effect t e) (effect t' e) := by
  cases e with
  | call function line => exact .refl _
  | callWith function arg line =>
      rw [effect, effect]
      split
      · exact (value_larger ht arg).andThen _
      · exact .refl _
  | bump target direction post line => exact (tileOf_larger ht target).andThen _
  | _ => exact value_larger ht _

lemma difference_larger (ht : t.Larger t') (op : Comparison) (left right : Expr) (line : Nat) :
    Sustains (difference t op left right line) (difference t' op left right line) := by
  have hleft := value_larger ht left
  have hright := value_larger ht right
  rw [difference_eq, difference_eq]
  split
  · exact hleft.andThen _
  split
  · exact hright.andThen _
  · exact (combine_larger ht hleft hright .sub line right.var?).andThen _

mutual

/-- **Conditions.** -/
lemma branch_larger (ht : t.Larger t') : ∀ (e : Expr) (target : String) (wanted : Bool),
    Sustains (branch t target wanted e) (branch t' target wanted e)
  | .bool _ _, _, _ => .refl _
  | .compare op left right line, _, _ => (difference_larger ht _ left right line).andThen _
  | .logical op first others _, target, wanted => by
      rw [branch, branch]
      split
      · exact (branch_larger ht first target wanted).bind fun _ =>
          branchAny_larger ht others target wanted
      · refine .after _ fun skip => ?_
        exact (branch_larger ht first skip (!wanted)).bind fun _ =>
          (branchAll_larger ht others target skip wanted).andThen _
  | .num _ _, _, _ | .var _, _, _ | .call _ _, _, _ | .callWith _ _ _, _, _
  | .assign _ _ _, _, _ | .bump _ _ _ _, _, _ | .sum _ _ _ _, _, _ => .refl _

lemma branchAny_larger (ht : t.Larger t') : ∀ (others : Operands) (target : String)
    (wanted : Bool), Sustains (branchAny t target wanted others) (branchAny t' target wanted others)
  | .last e, target, wanted => branch_larger ht e target wanted
  | .more e others, target, wanted =>
      (branch_larger ht e target wanted).bind fun _ => branchAny_larger ht others target wanted

lemma branchAll_larger (ht : t.Larger t') : ∀ (others : Operands) (target skip : String)
    (wanted : Bool),
    Sustains (branchAll t target skip wanted others) (branchAll t' target skip wanted others)
  | .last e, target, _, wanted => branch_larger ht e target wanted
  | .more e others, target, skip, wanted =>
      (branch_larger ht e skip (!wanted)).bind fun _ =>
        branchAll_larger ht others target skip wanted

end

lemma declOps_larger (ht : t.Larger t') (d : Decl) :
    Sustains (statementOps t (.decl d)) (statementOps t' (.decl d)) := by
  rw [statementOps, statementOps]
  split
  · exact .refl _
  refine (alloc_larger ht d.line).bind fun tile => .after _ fun _ => ?_
  cases d.init with
  | none => exact .refl _
  | some e => exact (value_larger ht e).andThen _

mutual

/-- **Statements.**  Every tile that is found is found on the larger floor as well, and then the
same ones are in use. -/
lemma statementOps_larger (ht : t.Larger t') : ∀ s : Stmt,
    Sustains (statementOps t s) (statementOps t' s)
  | .decl d => declOps_larger ht d
  | .expr e _ => effect_larger ht e
  | .ifThen cond body line => by
      have hbody := statementOps_larger ht body
      cases hbool : cond.isBool with
      | true =>
          obtain ⟨b, _, rfl⟩ := isBool_eq_true hbool
          rw [statementOps, statementOps]
          split
          · exact hbody
          · exact .refl _
      | false =>
          rw [statementOps_ifThen hbool, statementOps_ifThen hbool]
          exact .after _ fun no => (branch_larger ht cond no false).bind fun _ => hbody.andThen _
  | .ifElse cond body other line => by
      have hbody := statementOps_larger ht body
      have hother := statementOps_larger ht other
      cases hbool : cond.isBool with
      | true =>
          obtain ⟨b, _, rfl⟩ := isBool_eq_true hbool
          rw [statementOps, statementOps]
          split
          · exact hbody
          · exact hother
      | false =>
          rw [statementOps_ifElse hbool, statementOps_ifElse hbool]
          exact .after _ fun no => (branch_larger ht cond no false).bind fun _ =>
            hbody.bind fun _ => .after _ fun _ => .after _ fun _ => .after _ fun _ =>
              hother.andThen _
  | .whileDo cond body line => by
      have hbody := statementOps_larger ht body
      cases hbool : cond.isBool with
      | true =>
          obtain ⟨b, _, rfl⟩ := isBool_eq_true hbool
          rw [statementOps, statementOps]
          split
          · exact .after _ fun _ => .after _ fun _ => hbody.andThen _
          · exact .refl _
      | false =>
          rw [statementOps_whileDo hbool, statementOps_whileDo hbool]
          exact .after _ fun _ => .after _ fun _ => .after _ fun stop =>
            (branch_larger ht cond stop false).bind fun _ => hbody.andThen _
  | .block body _ => programOps_larger ht body

lemma programOps_larger (ht : t.Larger t') : ∀ p : List Stmt,
    Sustains (programOps t p) (programOps t' p)
  | [] => .refl _
  | s :: rest => (statementOps_larger ht s).bind fun _ => programOps_larger ht rest

end

/-- Lowering that comes to an end on a floor does so on a larger one, with the same left behind. -/
lemma lower_larger {size size' : Int} (hle : size ≤ size') {symbols : Symbols}
    {program : List Stmt} {final : Lowering} (h : lower size symbols program = (none, final)) :
    lower size' symbols program = (none, final) := by
  have hmore : Target.Larger ⟨symbols, size⟩ ⟨symbols, size'⟩ := ⟨rfl, hle⟩
  rw [lower, EStateM.run] at h ⊢
  cases hrun : programOps ⟨symbols, size⟩ program {} with
  | ok a l =>
      rw [programOps_larger hmore program hrun]
      rwa [hrun] at h
  | error e l =>
      rw [hrun] at h
      cases h

end Lower

/-! ## Listings -/

/-- **Larger floors.**  A text that has a listing for a floor has the same listing for every larger
floor, shortened or not, and the same instructions are found for it on the way. -/
theorem compile_larger {size size' : Int} (hle : size ≤ size') (optimize : Bool)
    {text : List Char} {listing : List String}
    (h : (compile ⟨size, optimize⟩ text).outcome = .ok listing) :
    (compile ⟨size', optimize⟩ text).outcome = .ok listing ∧
      (compile ⟨size', optimize⟩ text).emitted = (compile ⟨size, optimize⟩ text).emitted := by
  obtain ⟨program, final, hparse, haccepted, hlower, hemitted, hrender⟩ := compile_render h
  have hcheck : check size' program = check size program :=
    Scope.stmts_larger hle program {} haccepted
  have hlower' := lower_larger hle hlower
  have h' : (compile ⟨size', optimize⟩ text).outcome = .ok listing := by
    rw [compile_eq_ok hparse]
    dsimp only
    rw [hcheck, hlower']
    exact ⟨haccepted, rfl, hrender⟩
  obtain ⟨program', final', hparse', -, hlower'', hemitted', -⟩ := compile_render h'
  cases hparse.symm.trans hparse'
  dsimp only at hlower''
  rw [hcheck, hlower'] at hlower''
  cases hlower''
  exact ⟨h', hemitted'.trans hemitted.symm⟩

/-- A temporary takes the last of three tiles, and the same one of a thousand. -/
theorem compile_larger_three :
    (3 : Int) ≤ 1000 ∧
    (compile ⟨3, true⟩
      "const int *P=1; int x=input(); output(x-input()); output(*P);".toList).outcome =
      .ok ["    INBOX", "    COPYTO 0", "    INBOX", "    COPYTO 2", "    COPYFROM 0", "    SUB 2",
        "    OUTBOX", "    COPYFROM 1", "    OUTBOX"] ∧
    (compile ⟨1000, true⟩
      "const int *P=1; int x=input(); output(x-input()); output(*P);".toList).outcome =
      .ok ["    INBOX", "    COPYTO 0", "    INBOX", "    COPYTO 2", "    COPYFROM 0", "    SUB 2",
        "    OUTBOX", "    COPYFROM 1", "    OUTBOX"] := by
  have hsmall : (compile ⟨3, true⟩
      "const int *P=1; int x=input(); output(x-input()); output(*P);".toList).outcome =
      .ok ["    INBOX", "    COPYTO 0", "    INBOX", "    COPYTO 2", "    COPYFROM 0", "    SUB 2",
        "    OUTBOX", "    COPYFROM 1", "    OUTBOX"] := by cbv
  exact ⟨by decide, hsmall, (compile_larger (by decide) true hsmall).1⟩

end Mailroom.Source
