import Mathlib
import Mailroom.Source.Check

/-!
# Programs of the same structure

Two programs resemble each other if they differ in three respects only: the lines that their parts
stand on, the names of their variables, and the ways in which their statements do nothing.  The
names correspond by a relation `R` that is one to one (`Relator.BiUnique`); an injective renaming is
one such.

* `Expr.Resembles`, `Stmt.Resembles`, `ResembleAll`: resemblance, by recursion on the trees.
* `TablesResemble`: tables with corresponding names, in the same order.
* `check_resembles`: a check finds corresponding variables and makes as many complaints.
-/

namespace Mailroom.Source

/-! ## Trees that resemble each other -/

/-- Variables with corresponding names. -/
structure Var.Resembles (R : String → String → Prop) (v w : Var) : Prop where
  name : R v.name w.name
  deref : v.deref = w.deref

mutual

/-- Expressions that differ in lines only, and in the names of variables as `R` says. -/
inductive Expr.Resembles (R : String → String → Prop) : Expr → Expr → Prop
  | num {n line line' : Nat} : Expr.Resembles R (.num n line) (.num n line')
  | bool {b : Bool} {line line' : Nat} : Expr.Resembles R (.bool b line) (.bool b line')
  | var {v v' : Var} : v.Resembles R v' → Expr.Resembles R (.var v) (.var v')
  | call {function : String} {line line' : Nat} :
      Expr.Resembles R (.call function line) (.call function line')
  | callWith {function : String} {arg arg' : Expr} {line line' : Nat} : Expr.Resembles R arg arg' →
      Expr.Resembles R (.callWith function arg line) (.callWith function arg' line')
  | assign {target target' : Var} {value value' : Expr} {line line' : Nat} :
      target.Resembles R target' → Expr.Resembles R value value' →
      Expr.Resembles R (.assign target value line) (.assign target' value' line')
  | bump {target target' : Var} {direction : Bump} {post : Bool} {line line' : Nat} :
      target.Resembles R target' →
      Expr.Resembles R (.bump target direction post line) (.bump target' direction post line')
  | sum {op : SumOp} {left left' right right' : Expr} {line line' : Nat} :
      Expr.Resembles R left left' → Expr.Resembles R right right' →
      Expr.Resembles R (.sum op left right line) (.sum op left' right' line')
  | compare {op : Comparison} {left left' right right' : Expr} {line line' : Nat} :
      Expr.Resembles R left left' → Expr.Resembles R right right' →
      Expr.Resembles R (.compare op left right line) (.compare op left' right' line')
  | logical {op : Connective} {first first' : Expr} {others others' : Operands} {line line' : Nat} :
      Expr.Resembles R first first' → Operands.Resembles R others others' →
      Expr.Resembles R (.logical op first others line) (.logical op first' others' line')

/-- Conditions that resemble each other one by one. -/
inductive Operands.Resembles (R : String → String → Prop) : Operands → Operands → Prop
  | last {e e' : Expr} : Expr.Resembles R e e' → Operands.Resembles R (.last e) (.last e')
  | more {e e' : Expr} {others others' : Operands} : Expr.Resembles R e e' →
      Operands.Resembles R others others' →
      Operands.Resembles R (.more e others) (.more e' others')

end

/-- Declarations that resemble each other. -/
structure Decl.Resembles (R : String → String → Prop) (d d' : Decl) : Prop where
  name : R d.name d'.name
  pointer : d.pointer = d'.pointer
  constant : d.constant = d'.constant
  init : Option.Rel (Expr.Resembles R) d.init d'.init

/-- Statements that do nothing: an empty block, or a call of `debug` with a literal. -/
inductive Stmt.Silent : Stmt → Prop
  | empty {line : Nat} : Stmt.Silent (.block [] line)
  | debug {n line line' line'' : Nat} :
      Stmt.Silent (.expr (.callWith "debug" (.num n line) line') line'')

mutual

/-- Statements that differ in lines only, in the names of variables as `R` says, and in the way in
which they do nothing. -/
inductive Stmt.Resembles (R : String → String → Prop) : Stmt → Stmt → Prop
  | silent {s s' : Stmt} : s.Silent → s'.Silent → Stmt.Resembles R s s'
  | decl {d d' : Decl} : d.Resembles R d' → Stmt.Resembles R (.decl d) (.decl d')
  | expr {e e' : Expr} {line line' : Nat} : e.Resembles R e' →
      Stmt.Resembles R (.expr e line) (.expr e' line')
  | ifThen {cond cond' : Expr} {body body' : Stmt} {line line' : Nat} : cond.Resembles R cond' →
      Stmt.Resembles R body body' →
      Stmt.Resembles R (.ifThen cond body line) (.ifThen cond' body' line')
  | ifElse {cond cond' : Expr} {body body' other other' : Stmt} {line line' : Nat} :
      cond.Resembles R cond' → Stmt.Resembles R body body' → Stmt.Resembles R other other' →
      Stmt.Resembles R (.ifElse cond body other line) (.ifElse cond' body' other' line')
  | whileDo {cond cond' : Expr} {body body' : Stmt} {line line' : Nat} : cond.Resembles R cond' →
      Stmt.Resembles R body body' →
      Stmt.Resembles R (.whileDo cond body line) (.whileDo cond' body' line')
  | block {body body' : List Stmt} {line line' : Nat} : ResembleAll R body body' →
      Stmt.Resembles R (.block body line) (.block body' line')

/-- Statements that resemble each other one by one. -/
inductive ResembleAll (R : String → String → Prop) : List Stmt → List Stmt → Prop
  | nil : ResembleAll R [] []
  | cons {s s' : Stmt} {p p' : List Stmt} : Stmt.Resembles R s s' → ResembleAll R p p' →
      ResembleAll R (s :: p) (s' :: p')

end

/-! ## Tables -/

/-- Tables with corresponding names, in the same order. -/
def TablesResemble (R : String → String → Prop) {ν : Type} (Q : ν → ν → Prop)
    (table table' : Assoc String ν) : Prop :=
  List.Forall₂ (fun entry entry' => R entry.1 entry'.1 ∧ Q entry.2 entry'.2) table table'

section Tables

variable {R : String → String → Prop} {ν : Type} {Q : ν → ν → Prop} {table table' : Assoc String ν}
  {name name' : String}

/-- Corresponding names have the same entry, or none. -/
lemma TablesResemble.get? (h : TablesResemble R Q table table') (hR : Relator.BiUnique R)
    (hname : R name name') : Option.Rel Q (table.get? name) (table'.get? name') := by
  induction h with
  | nil => exact .none
  | @cons entry entry' table table' hentry _ ih =>
      rw [Assoc.get?, Assoc.get?]
      -- names are the same on one side just if they are on the other, for `R` is one to one
      by_cases heq : entry.1 = name
      · rw [if_pos heq, if_pos ((Relator.rel_eq hR hentry.1 hname).mp heq)]
        exact .some hentry.2
      · rw [if_neg heq, if_neg fun heq' => heq ((Relator.rel_eq hR hentry.1 hname).mpr heq')]
        exact ih

lemma TablesResemble.put (h : TablesResemble R Q table table') (hR : Relator.BiUnique R)
    (hname : R name name') {x x' : ν} (hx : Q x x') :
    TablesResemble R Q (table.put name x) (table'.put name' x') := by
  induction h with
  | nil => exact .cons ⟨hname, hx⟩ .nil
  | @cons entry entry' table table' hentry htable ih =>
      rw [Assoc.put, Assoc.put]
      by_cases heq : entry.1 = name
      · rw [if_pos heq, if_pos ((Relator.rel_eq hR hentry.1 hname).mp heq)]
        exact .cons ⟨hentry.1, hx⟩ htable
      · rw [if_neg heq, if_neg fun heq' => heq ((Relator.rel_eq hR hentry.1 hname).mpr heq')]
        exact .cons hentry ih

end Tables

/-! ## The check -/

/-- Variables of which the same is known, apart from their names. -/
structure Symbol.Resembles (x y : Symbol) : Prop where
  pointer : x.pointer = y.pointer
  constant : x.constant = y.constant
  address : x.address = y.address
  initialized : x.initialized = y.initialized

/-- Walks that have found corresponding variables and as many complaints. -/
structure Scope.Resembles (R : String → String → Prop) (s s' : Scope) : Prop where
  symbols : TablesResemble R Symbol.Resembles s.symbols s'.symbols
  complaints : s.diagnostics.length = s'.diagnostics.length

section Check

variable {R : String → String → Prop} {s s' : Scope} {v v' : Var} {e e' : Expr}

lemma isLiteral_resembles (h : e.Resembles R e') : Scope.isLiteral e = Scope.isLiteral e' := by
  cases h <;> rfl

namespace Scope.Resembles

lemma report (h : s.Resembles R s') (line line' : Nat) (complaint complaint' : Complaint) :
    (s.report line complaint).Resembles R (s'.report line' complaint') where
  symbols := h.symbols
  complaints := by simp [Scope.report, h.complaints]

lemma reportIf (h : s.Resembles R s') {reason reason' : Bool} (hreason : reason = reason')
    (line line' : Nat) (complaint complaint' : Complaint) :
    (s.reportIf reason line complaint).Resembles R (s'.reportIf reason' line' complaint') := by
  subst hreason
  cases reason with
  | true => exact h.report ..
  | false => exact h

lemma enter (h : s.Resembles R s') (hR : Relator.BiUnique R) {name name' : String}
    (hname : R name name') {x x' : Symbol} (hx : x.Resembles x') :
    Scope.Resembles R { s with symbols := s.symbols.put name x }
      { s' with symbols := s'.symbols.put name' x' } :=
  ⟨h.symbols.put hR hname hx, h.complaints⟩

end Scope.Resembles

variable (hR : Relator.BiUnique R)
include hR

lemma mention_resembles (h : s.Resembles R s') (hv : v.Resembles R v') :
    (s.mention v).Resembles R (s'.mention v') := by
  have hget := h.symbols.get? hR hv.name
  rw [Scope.mention, Scope.mention]
  generalize s.symbols.get? v.name = sym, s'.symbols.get? v'.name = sym' at hget ⊢
  cases hget with
  | none => exact h.report ..
  | some hsym => exact h.reportIf (by rw [hv.deref, hsym.pointer]) ..

lemma read_resembles (h : s.Resembles R s') (hv : v.Resembles R v') :
    (s.read v).Resembles R (s'.read v') := by
  have hget := h.symbols.get? hR hv.name
  have hmention := mention_resembles hR h hv
  rw [Scope.read, Scope.read]
  generalize s.symbols.get? v.name = sym, s'.symbols.get? v'.name = sym' at hget ⊢
  cases hget with
  | none => exact hmention
  | some hsym =>
      dsimp only
      rw [hsym.initialized, hsym.address, hv.deref]
      split
      · exact hmention.report ..
      · exact hmention.reportIf rfl ..

lemma write_resembles (h : s.Resembles R s') (hv : v.Resembles R v') :
    (s.write v).Resembles R (s'.write v') := by
  have hget := h.symbols.get? hR hv.name
  have hmention := mention_resembles hR h hv
  rw [Scope.write, Scope.write]
  generalize s.symbols.get? v.name = sym, s'.symbols.get? v'.name = sym' at hget ⊢
  cases hget with
  | none => exact hmention
  | some hsym =>
      dsimp only
      rw [hsym.initialized, hsym.constant, hv.deref]
      split
      · exact hmention.report ..
      · exact hmention.reportIf rfl ..

lemma assigned_resembles (h : s.Resembles R s') (hv : v.Resembles R v') :
    (s.assigned v).Resembles R (s'.assigned v') := by
  have hget := h.symbols.get? hR hv.name
  rw [Scope.assigned, Scope.assigned]
  generalize s.symbols.get? v.name = sym, s'.symbols.get? v'.name = sym' at hget ⊢
  cases hget with
  | none => exact h
  | some hsym =>
      dsimp only
      rw [hv.deref]
      split
      · exact h
      · exact h.enter hR hv.name ⟨hsym.pointer, hsym.constant, hsym.address, rfl⟩

/-- **Expressions.**  The recursion is on the first expression; the second has the same form. -/
lemma expr_resembles (e : Expr) {e' : Expr} (statement : Bool) {s s' : Scope}
    (he : e.Resembles R e') (h : s.Resembles R s') :
    (s.expr statement e).Resembles R (s'.expr statement e') := by
  cases he with
  | num => exact h.report ..
  | bool => exact h.report ..
  | var hv => exact read_resembles hR h hv
  | call =>
      rw [Scope.expr, Scope.expr]
      split
      · exact h
      split
      · exact (h.report ..).reportIf rfl ..
      split
      · exact (h.report ..).reportIf rfl ..
      · exact h.report ..
  | @callWith _ arg _ _ _ harg =>
      rw [Scope.expr, Scope.expr]
      split
      · exact h.report ..
      split
      · exact (expr_resembles arg false harg h).reportIf rfl ..
      split
      · exact (h.reportIf (by rw [isLiteral_resembles harg]) ..).reportIf rfl ..
      · exact h.report ..
  | @assign _ _ value _ _ _ htarget hvalue =>
      exact assigned_resembles hR
        (write_resembles hR (expr_resembles value false hvalue h) htarget) htarget
  | bump htarget => exact write_resembles hR (read_resembles hR h htarget) htarget
  | @sum _ left _ right _ _ _ hleft hright =>
      exact expr_resembles right false hright (expr_resembles left false hleft h)
  | compare => exact h.report ..
  | logical => exact h.report ..
termination_by structural e

lemma side_resembles (h : s.Resembles R s') (he : e.Resembles R e') (line line' : Nat) :
    (s.side line e).Resembles R (s'.side line' e') := by
  cases he with
  | num => exact h.reportIf rfl ..
  | _ => exact expr_resembles hR _ false (by constructor <;> assumption) h

omit hR

mutual

lemma cond_resembles (hR : Relator.BiUnique R) (e : Expr) {e' : Expr} {s s' : Scope}
    (he : e.Resembles R e') (h : s.Resembles R s') :
    (s.cond e).Resembles R (s'.cond e') := by
  cases he with
  | bool => exact h
  | @logical _ first _ others _ _ _ hfirst hothers =>
      exact conds_resembles hR others hothers (cond_resembles hR first hfirst h)
  | @compare _ left left' right right' line line' hleft hright =>
      have hsides := side_resembles hR (side_resembles hR h hleft line line') hright line line'
      refine hsides.reportIf ?_ ..
      rw [isLiteral_resembles hleft, isLiteral_resembles hright]
  | _ => exact h.report ..
termination_by structural e

lemma conds_resembles (hR : Relator.BiUnique R) (others : Operands) {others' : Operands}
    {s s' : Scope} (hothers : others.Resembles R others') (h : s.Resembles R s') :
    (s.conds others).Resembles R (s'.conds others') := by
  cases hothers with
  | @last e _ he => exact cond_resembles hR e he h
  | @more e _ others _ he hothers =>
      have hrest := conds_resembles hR others hothers (cond_resembles hR e he h)
      exact hrest
termination_by structural others

end

lemma decl_resembles (hR : Relator.BiUnique R) {d d' : Decl} (h : s.Resembles R s')
    (hd : d.Resembles R d') (size : Int) : (s.decl size d).Resembles R (s'.decl size d') := by
  have hhas : s.symbols.has d.name = s'.symbols.has d'.name := by
    have hget := h.symbols.get? hR hd.name
    rw [Assoc.has, Assoc.has]
    generalize s.symbols.get? d.name = sym, s'.symbols.get? d'.name = sym' at hget ⊢
    cases hget <;> rfl
  obtain ⟨name, pointer, constant, init, line⟩ := d
  obtain ⟨name', pointer', constant', init', line'⟩ := d'
  obtain ⟨hname, hpointer, hconstant, hinit⟩ := hd
  dsimp only at hname hpointer hconstant hinit hhas
  subst hpointer hconstant
  have henter : ∀ {s s' : Scope}, s.Resembles R s' → ∀ address initialized,
      Scope.Resembles R
        { s with symbols := s.symbols.put name ⟨name, pointer, constant, address, initialized⟩ }
        { s' with
          symbols := s'.symbols.put name' ⟨name', pointer, constant, address, initialized⟩ } :=
    fun h _ _ => h.enter hR hname ⟨rfl, rfl, rfl, rfl⟩
  rw [Scope.decl, Scope.decl]
  dsimp only
  rw [hhas]
  split
  · exact h.report ..
  cases constant with
  | false =>
      cases hinit with
      | none => exact henter h ..
      | some he => exact henter (expr_resembles hR _ false he h) ..
  | true =>
      cases pointer with
      | false => exact henter (h.report ..) ..
      | true =>
          cases hinit with
          | none => exact henter (h.report ..) ..
          | some he =>
              cases he with
              | num =>
                  simp only [if_true]
                  split
                  · exact henter h ..
                  · exact henter (h.report ..) ..
              | _ => exact henter (h.report ..) ..

/-- Nothing is wrong with a statement that does nothing, and it declares nothing. -/
lemma Stmt.Silent.stmt {t : Stmt} (h : t.Silent) (s : Scope) (size : Int) : s.stmt size t = s := by
  cases h with
  | empty => rfl
  | debug => rfl

mutual

lemma stmt_resembles (hR : Relator.BiUnique R) (size : Int) (t : Stmt) {t' : Stmt} {s s' : Scope}
    (ht : t.Resembles R t') (h : s.Resembles R s') :
    (s.stmt size t).Resembles R (s'.stmt size t') := by
  cases ht with
  | silent hsilent hsilent' =>
      rw [hsilent.stmt, hsilent'.stmt]
      exact h
  | decl hd => exact decl_resembles hR h hd size
  | @expr e _ _ _ he => exact expr_resembles hR e true he h
  | @ifThen cond _ body _ _ _ hcond hbody =>
      have hrest := stmt_resembles hR size body hbody (cond_resembles hR cond hcond h)
      exact hrest
  | @ifElse cond _ body _ other _ _ _ hcond hbody hother =>
      have hyes := stmt_resembles hR size body hbody (cond_resembles hR cond hcond h)
      have hno := stmt_resembles hR size other hother hyes
      exact hno
  | @whileDo cond _ body _ _ _ hcond hbody =>
      have hrest := stmt_resembles hR size body hbody (cond_resembles hR cond hcond h)
      exact hrest
  | @block body _ _ _ hbody => exact stmts_resembles hR size body hbody h
termination_by structural t

lemma stmts_resembles (hR : Relator.BiUnique R) (size : Int) (p : List Stmt) {p' : List Stmt}
    {s s' : Scope} (hp : ResembleAll R p p') (h : s.Resembles R s') :
    (s.stmts size p).Resembles R (s'.stmts size p') := by
  cases hp with
  | nil => exact h
  | @cons t _ p _ ht hp =>
      have hrest := stmts_resembles hR size p hp (stmt_resembles hR size t ht h)
      exact hrest
termination_by structural p

end

end Check

/-- Programs that resemble each other get as many complaints, and have corresponding variables. -/
lemma check_resembles {R : String → String → Prop} (hR : Relator.BiUnique R) {p p' : List Stmt}
    (h : ResembleAll R p p') (size : Int) : (check size p).Resembles R (check size p') :=
  stmts_resembles hR size p h ⟨.nil, rfl⟩

end Mailroom.Source
