import Mathlib.Data.List.Nodup
import Mailroom.Proofs.Tables
import Mailroom.Source.Check

/-!
# What a program without complaints is like

The check walks a program with what it knows so far.  Here the same is said of the program as a
whole, in terms of the variables that are known at the end.

- `Expr.numeric`, `Expr.condition`, `Expr.action`: expressions with a value, conditions and
  expressions that make up a statement.
- `Stmt.proper`: statements made of these.
- `declaredAll`: the names that statements declare.
- `check_proper`: a program without complaints is proper and declares every name once.
-/

namespace Mailroom.Source

/-! ## Forms -/

/-- A variable is known.  It is followed to a tile if it is a constant, and only if it is a
pointer. -/
def Var.proper (symbols : Symbols) (v : Var) : Bool :=
  match symbols.get? v.name with
  | none => false
  | some sym => (sym.address.isNone || v.deref) && (!v.deref || sym.pointer)

/-- An expression with a value. -/
def Expr.numeric (symbols : Symbols) : Expr → Bool
  | .var v => v.proper symbols
  | .call function _ => function = "input"
  | .assign target e _ => target.proper symbols && e.numeric symbols
  | .bump target _ _ _ => target.proper symbols
  | .sum _ left right _ => left.numeric symbols && right.numeric symbols
  | _ => false

/-- A side of a comparison. -/
def Expr.comparable (symbols : Symbols) : Expr → Bool
  | .num n _ => n = 0
  | e => e.numeric symbols

mutual

/-- A condition. -/
def Expr.condition (symbols : Symbols) : Expr → Bool
  | .bool _ _ => true
  | .compare _ left right _ => left.comparable symbols && right.comparable symbols
  | .logical _ first others _ => first.condition symbols && others.conditions symbols
  | _ => false

/-- Conditions behind the first one. -/
def Operands.conditions (symbols : Symbols) : Operands → Bool
  | .last e => e.condition symbols
  | .more e others => e.condition symbols && others.conditions symbols

end

/-- An expression that makes up a statement. -/
def Expr.action (symbols : Symbols) : Expr → Bool
  | .callWith function arg _ =>
    (function = "output" && arg.numeric symbols) || (function = "debug" && Scope.isLiteral arg)
  | e => e.numeric symbols

mutual

/-- A statement made of these. -/
def Stmt.proper (symbols : Symbols) : Stmt → Bool
  | .decl d =>
    (d.constant && d.init.all Scope.isLiteral) || (d.init.all (·.numeric symbols) &&
      (symbols.get? d.name).any (·.address.isNone))
  | .expr e _ => e.action symbols
  | .ifThen cond body _ | .whileDo cond body _ => cond.condition symbols && body.proper symbols
  | .ifElse cond body other _ =>
    cond.condition symbols && body.proper symbols && other.proper symbols
  | .block body _ => properAll symbols body

/-- Statements made of these. -/
def properAll (symbols : Symbols) : List Stmt → Bool
  | [] => true
  | s :: rest => s.proper symbols && properAll symbols rest

end

mutual

/-- The names that a statement declares. -/
def Stmt.declared : Stmt → List String
  | .decl d => [d.name]
  | .expr _ _ => []
  | .ifThen _ body _ | .whileDo _ body _ => body.declared
  | .ifElse _ body other _ => body.declared ++ other.declared
  | .block body _ => declaredAll body

/-- The names that statements declare. -/
def declaredAll : List Stmt → List String
  | [] => []
  | s :: rest => s.declared ++ declaredAll rest

end

/-! ## Tables of variables that grow -/

/-- What never changes of a variable. -/
def Symbol.fixed (sym : Symbol) : Option Nat × Bool × Bool :=
  (sym.address, sym.constant, sym.pointer)

/-- What is known of a variable stays so, up to whether it has a value. -/
def Symbols.Extends (symbols symbols' : Symbols) : Prop :=
  ∀ name sym, symbols.get? name = some sym →
    ∃ sym', symbols'.get? name = some sym' ∧ sym'.fixed = sym.fixed

/-- Constants have an address, which is on the floor, and nothing else has one. -/
def Symbols.Fixed (size : Int) (symbols : Symbols) : Prop :=
  ∀ name sym, symbols.get? name = some sym →
    sym.constant = sym.address.isSome ∧ ∀ a, sym.address = some a → (a : Int) < size

section Growing

variable {symbols symbols' symbols'' : Symbols}

lemma Symbols.Extends.refl (symbols : Symbols) : symbols.Extends symbols :=
  fun _ sym h => ⟨sym, h, rfl⟩

lemma Symbols.Extends.trans (h : symbols.Extends symbols') (h' : symbols'.Extends symbols'') :
    symbols.Extends symbols'' := by
  intro name sym hget
  obtain ⟨sym1, hget1, hfixed1⟩ := h name sym hget
  obtain ⟨sym2, hget2, hfixed2⟩ := h' name sym1 hget1
  exact ⟨sym2, hget2, hfixed2.trans hfixed1⟩

lemma Var.proper_mono (h : symbols.Extends symbols') {v : Var} (hv : v.proper symbols = true) :
    v.proper symbols' = true := by
  rw [Var.proper] at hv ⊢
  cases hget : symbols.get? v.name with
  | none =>
      rw [hget] at hv
      cases hv
  | some sym =>
      obtain ⟨sym', hget', hfixed⟩ := h _ _ hget
      rw [Symbol.fixed, Symbol.fixed, Prod.mk.injEq, Prod.mk.injEq] at hfixed
      rw [hget] at hv
      rw [hget']
      dsimp only at hv ⊢
      rwa [hfixed.1, hfixed.2.2]

end Growing

/-! ## The walk -/

namespace Scope

/-- What the walk over an expression can do: it takes no complaint back, and only finds out that
variables have a value. -/
structure Walked (s s' : Scope) : Prop where
  clean : s'.diagnostics = [] → s.diagnostics = []
  same : ∀ name,
    (s'.symbols.get? name).map Symbol.fixed = (s.symbols.get? name).map Symbol.fixed

/-- What the walk over a statement can do: it takes no complaint back, keeps what is known, and
without complaints gives an address on the floor to constants only. -/
structure Grown (size : Int) (s s' : Scope) : Prop where
  clean : s'.diagnostics = [] → s.diagnostics = []
  known : s.symbols.Extends s'.symbols
  fixed : s'.diagnostics = [] → s.symbols.Fixed size → s'.symbols.Fixed size

variable {size : Int} {s s' s'' : Scope}

lemma Walked.refl (s : Scope) : Walked s s :=
  ⟨id, fun _ => rfl⟩

lemma Walked.trans (h : Walked s s') (h' : Walked s' s'') : Walked s s'' :=
  ⟨h.clean ∘ h'.clean, fun name => (h'.same name).trans (h.same name)⟩

lemma Walked.known (h : Walked s s') : s.symbols.Extends s'.symbols := by
  intro name sym hget
  have hsame := h.same name
  rw [hget, Option.map_some, Option.map_eq_some_iff] at hsame
  exact hsame

lemma Walked.fixed (h : Walked s s') (hfixed : s.symbols.Fixed size) : s'.symbols.Fixed size := by
  intro name sym hget
  have hsame := (h.same name).symm
  rw [hget, Option.map_some, Option.map_eq_some_iff] at hsame
  obtain ⟨sym', hget', hsym'⟩ := hsame
  rw [Symbol.fixed, Symbol.fixed, Prod.mk.injEq, Prod.mk.injEq] at hsym'
  rw [← hsym'.1, ← hsym'.2.1]
  exact hfixed name sym' hget'

lemma Walked.grown (h : Walked s s') : Grown size s s' :=
  ⟨h.clean, h.known, fun _ => h.fixed⟩

lemma Grown.refl (s : Scope) : Grown size s s :=
  (Walked.refl s).grown

lemma Grown.trans (h : Grown size s s') (h' : Grown size s' s'') : Grown size s s'' :=
  ⟨h.clean ∘ h'.clean, h.known.trans h'.known,
    fun hclean => h'.fixed hclean ∘ h.fixed (h'.clean hclean)⟩

lemma report_ne (s : Scope) (line : Nat) (complaint : Complaint) :
    (s.report line complaint).diagnostics ≠ [] := by
  simp [report]

lemma report_walked (s : Scope) (line : Nat) (complaint : Complaint) :
    Walked s (s.report line complaint) :=
  ⟨fun h => absurd h (report_ne s line complaint), fun _ => rfl⟩

lemma reportIf_walked (s : Scope) (reason : Bool) (line : Nat) (complaint : Complaint) :
    Walked s (s.reportIf reason line complaint) := by
  cases reason with
  | true => exact report_walked s line complaint
  | false => exact .refl s

lemma reportIf_clean {reason : Bool} {line : Nat} {complaint : Complaint}
    (h : (s.reportIf reason line complaint).diagnostics = []) : reason = false := by
  cases reason with
  | true => exact absurd h (report_ne s line complaint)
  | false => rfl

lemma mention_walked (s : Scope) (v : Var) : Walked s (s.mention v) := by
  rw [mention]
  split
  · exact report_walked ..
  · exact reportIf_walked ..

lemma read_walked (s : Scope) (v : Var) : Walked s (s.read v) := by
  rw [read]
  split
  · exact mention_walked s v
  · split
    · exact (mention_walked s v).trans (report_walked ..)
    · exact (mention_walked s v).trans (reportIf_walked ..)

lemma write_walked (s : Scope) (v : Var) : Walked s (s.write v) := by
  rw [write]
  split
  · exact mention_walked s v
  · split
    · exact (mention_walked s v).trans (report_walked ..)
    · exact (mention_walked s v).trans (reportIf_walked ..)

lemma assigned_walked (s : Scope) (v : Var) : Walked s (s.assigned v) := by
  rw [assigned]
  cases hget : s.symbols.get? v.name with
  | none => exact .refl s
  | some sym =>
      dsimp only
      split
      · exact .refl s
      · refine ⟨id, fun name => ?_⟩
        rw [Assoc.get?_put]
        split
        · rename_i hname
          rw [← hname, hget]
          rfl
        · rfl

lemma expr_walked :
    ∀ (e : Expr) (s : Scope) (statement : Bool), Walked s (s.expr statement e)
  | .var v, s, _ => read_walked s v
  | .num _ line, s, _ => report_walked s line _
  | .bool _ line, s, _ => report_walked s line _
  | .compare _ _ _ line, s, _ => report_walked s line _
  | .logical _ _ _ line, s, _ => report_walked s line _
  | .assign target value _, s, _ =>
      ((expr_walked value s false).trans (write_walked _ target)).trans (assigned_walked _ target)
  | .bump target _ _ _, s, _ => (read_walked s target).trans (write_walked _ target)
  | .sum _ left right _, s, _ => (expr_walked left s false).trans (expr_walked right _ false)
  | .call name line, s, statement => by
      rw [expr]
      repeat' split
      · exact .refl s
      · exact (report_walked ..).trans (reportIf_walked ..)
      · exact (report_walked ..).trans (reportIf_walked ..)
      · exact report_walked ..
  | .callWith name arg line, s, statement => by
      rw [expr]
      repeat' split
      · exact report_walked ..
      · exact (expr_walked arg s false).trans (reportIf_walked ..)
      · exact (reportIf_walked ..).trans (reportIf_walked ..)
      · exact report_walked ..

/-! ### Variables -/

/-- Only pointers may be followed. -/
lemma mention_pointer {v : Var} {sym : Symbol} (hget : s.symbols.get? v.name = some sym)
    (h : (s.mention v).diagnostics = []) : (!v.deref || sym.pointer) = true := by
  rw [mention, hget] at h
  have hreason := reportIf_clean h
  revert hreason
  cases v.deref <;> cases sym.pointer <;> simp

/-- A variable that may be read. -/
lemma read_proper {v : Var} (h : (s.read v).diagnostics = []) : v.proper s.symbols = true := by
  rw [read] at h
  rw [Var.proper]
  cases hget : s.symbols.get? v.name with
  | none =>
      simp only [mention, hget] at h
      exact absurd h (report_ne _ _ _)
  | some sym =>
      rw [hget] at h
      dsimp only at h ⊢
      by_cases hinit : (!sym.initialized) = true
      · rw [if_pos hinit] at h
        exact absurd h (report_ne _ _ _)
      · rw [if_neg hinit] at h
        have hbare := reportIf_clean h
        rw [mention_pointer hget ((reportIf_walked ..).clean h), Bool.and_true]
        revert hbare
        cases sym.address <;> cases v.deref <;> simp

/-- A variable that may be written. -/
lemma write_proper (hfixed : s.symbols.Fixed size) {v : Var} (h : (s.write v).diagnostics = []) :
    v.proper s.symbols = true := by
  rw [write] at h
  rw [Var.proper]
  cases hget : s.symbols.get? v.name with
  | none =>
      simp only [mention, hget] at h
      exact absurd h (report_ne _ _ _)
  | some sym =>
      rw [hget] at h
      dsimp only at h ⊢
      by_cases hconst : (sym.constant && !v.deref) = true
      · rw [if_pos hconst] at h
        exact absurd h (report_ne _ _ _)
      · rw [if_neg hconst] at h
        rw [mention_pointer hget ((reportIf_walked ..).clean h), Bool.and_true]
        rw [(hfixed _ _ hget).1] at hconst
        revert hconst
        cases sym.address <;> cases v.deref <;> simp

/-! ### Expressions and conditions -/

/-- An expression without complaints has a value, or makes up a statement. -/
lemma expr_proper : ∀ (e : Expr) {s : Scope} {statement : Bool}, s.symbols.Fixed size →
    (s.expr statement e).diagnostics = [] → ∀ {final : Symbols},
      (s.expr statement e).symbols.Extends final →
        (if statement then e.action final else e.numeric final) = true
  | .var v, s, statement, hfixed, h, final, hfinal => by
      have := Var.proper_mono ((read_walked s v).known.trans hfinal) (read_proper h)
      cases statement <;> exact this
  | .num _ _, s, statement, _, h, _, _ => absurd h (report_ne _ _ _)
  | .bool _ _, s, statement, _, h, _, _ => absurd h (report_ne _ _ _)
  | .compare _ _ _ _, s, statement, _, h, _, _ => absurd h (report_ne _ _ _)
  | .logical _ _ _ _, s, statement, _, h, _, _ => absurd h (report_ne _ _ _)
  | .assign target value _, s, statement, hfixed, h, final, hfinal => by
      have hs1 := expr_walked value s false
      have hs2 := write_walked (s.expr false value) target
      have hs3 := assigned_walked ((s.expr false value).write target) target
      have hclean2 := hs3.clean h
      have hknown2 := hs2.known.trans (hs3.known.trans hfinal)
      have hvalue : value.numeric final = true :=
        expr_proper value hfixed (hs2.clean hclean2) hknown2
      have htarget := Var.proper_mono hknown2 (write_proper (hs1.fixed hfixed) hclean2)
      have : (target.proper final && value.numeric final) = true := by
        rw [htarget, hvalue]
        rfl
      cases statement <;> exact this
  | .bump target _ _ _, s, statement, hfixed, h, final, hfinal => by
      have hs1 := read_walked s target
      have hs2 := write_walked (s.read target) target
      have := Var.proper_mono (hs1.known.trans (hs2.known.trans hfinal))
        (read_proper (hs2.clean h))
      cases statement <;> exact this
  | .sum _ left right _, s, statement, hfixed, h, final, hfinal => by
      have hs1 := expr_walked left s false
      have hs2 := expr_walked right (s.expr false left) false
      have hleft : left.numeric final = true :=
        expr_proper left hfixed (hs2.clean h) (hs2.known.trans hfinal)
      have hright : right.numeric final = true := expr_proper right (hs1.fixed hfixed) h hfinal
      have : (left.numeric final && right.numeric final) = true := by
        rw [hleft, hright]
        rfl
      cases statement <;> exact this
  | .call name line, s, statement, hfixed, h, final, hfinal => by
      rw [expr] at h
      by_cases hinput : name = "input"
      · cases statement <;> exact decide_eq_true hinput
      · have hne : ∀ {c c' : Complaint} {b},
            ((s.report line c).reportIf b line c').diagnostics ≠ [] :=
          fun h => report_ne _ _ _ ((reportIf_walked ..).clean h)
        rw [if_neg hinput] at h
        split at h
        · exact absurd h hne
        · split at h
          · exact absurd h hne
          · exact absurd h (report_ne _ _ _)
  | .callWith name arg line, s, statement, hfixed, h, final, hfinal => by
      rw [expr] at h hfinal
      by_cases hinput : name = "input"
      · rw [if_pos hinput] at h
        exact absurd h (report_ne _ _ _)
      · rw [if_neg hinput] at h hfinal
        by_cases houtput : name = "output"
        · rw [if_pos houtput] at h hfinal
          have hs := reportIf_walked (s.expr false arg) (!statement) line (.noValue name)
          have harg : arg.numeric final = true :=
            expr_proper arg hfixed (hs.clean h) (hs.known.trans hfinal)
          have hstatement := reportIf_clean h
          cases statement with
          | false => cases hstatement
          | true => simp [Expr.action, houtput, harg]
        · rw [if_neg houtput] at h
          by_cases hdebug : name = "debug"
          · rw [if_pos hdebug] at h
            have hstatement := reportIf_clean h
            cases statement with
            | false => cases hstatement
            | true =>
                have hliteral := reportIf_clean ((reportIf_walked ..).clean h)
                simpa [Expr.action, hdebug] using hliteral
          · rw [if_neg hdebug] at h
            exact absurd h (report_ne _ _ _)

lemma side_walked (s : Scope) (line : Nat) (e : Expr) :
    Walked s (s.side line e) := by
  cases e with
  | num n line' => exact reportIf_walked ..
  | _ => exact expr_walked _ s false

lemma side_proper (hfixed : s.symbols.Fixed size) {line : Nat} {e : Expr}
    (h : (s.side line e).diagnostics = []) {final : Symbols}
    (hfinal : (s.side line e).symbols.Extends final) : e.comparable final = true := by
  cases e with
  | num n line' =>
      have hzero := reportIf_clean h
      simpa [Expr.comparable] using hzero
  | _ => exact expr_proper _ hfixed h hfinal

mutual

lemma cond_walked : ∀ (e : Expr) (s : Scope), Walked s (s.cond e)
  | .bool _ _, s => .refl s
  | .logical _ first others _, s => (cond_walked first s).trans (conds_walked others _)
  | .compare _ left right line, s =>
      ((side_walked s line left).trans (side_walked _ line right)).trans
        (reportIf_walked _ _ _ _)
  | .num _ _, s => report_walked s _ _
  | .var _, s => report_walked s _ _
  | .call _ _, s => report_walked s _ _
  | .callWith _ _ _, s => report_walked s _ _
  | .assign _ _ _, s => report_walked s _ _
  | .bump _ _ _ _, s => report_walked s _ _
  | .sum _ _ _ _, s => report_walked s _ _

lemma conds_walked : ∀ (es : Operands) (s : Scope), Walked s (s.conds es)
  | .last e, s => cond_walked e s
  | .more e others, s => (cond_walked e s).trans (conds_walked others _)

end

mutual

lemma cond_proper : ∀ (e : Expr) {s : Scope}, s.symbols.Fixed size →
    (s.cond e).diagnostics = [] → ∀ {final : Symbols}, (s.cond e).symbols.Extends final →
      e.condition final = true
  | .bool _ _, _, _, _, _, _ => rfl
  | .logical _ first others _, s, hfixed, h, final, hfinal => by
      have hs1 := cond_walked first s
      have hs2 := conds_walked others (s.cond first)
      rw [Expr.condition, cond_proper first hfixed (hs2.clean h) (hs2.known.trans hfinal),
        conds_proper others (hs1.fixed hfixed) h hfinal]
      rfl
  | .compare _ left right line, s, hfixed, h, final, hfinal => by
      have hs1 := side_walked s line left
      have hs2 := side_walked (s.side line left) line right
      have hs3 := reportIf_walked ((s.side line left).side line right)
        (isLiteral left && isLiteral right) line .literalsOnly
      have hknown := hs3.known.trans hfinal
      rw [Expr.condition,
        side_proper hfixed (hs2.clean (hs3.clean h)) (hs2.known.trans hknown),
        side_proper (hs1.fixed hfixed) (hs3.clean h) hknown]
      rfl
  | .num _ _, _, _, h, _, _ => absurd h (report_ne _ _ _)
  | .var _, _, _, h, _, _ => absurd h (report_ne _ _ _)
  | .call _ _, _, _, h, _, _ => absurd h (report_ne _ _ _)
  | .callWith _ _ _, _, _, h, _, _ => absurd h (report_ne _ _ _)
  | .assign _ _ _, _, _, h, _, _ => absurd h (report_ne _ _ _)
  | .bump _ _ _ _, _, _, h, _, _ => absurd h (report_ne _ _ _)
  | .sum _ _ _ _, _, _, h, _, _ => absurd h (report_ne _ _ _)

lemma conds_proper : ∀ (es : Operands) {s : Scope}, s.symbols.Fixed size →
    (s.conds es).diagnostics = [] → ∀ {final : Symbols}, (s.conds es).symbols.Extends final →
      es.conditions final = true
  | .last e, _, hfixed, h, _, hfinal => cond_proper e hfixed h hfinal
  | .more e others, s, hfixed, h, final, hfinal => by
      have hs1 := cond_walked e s
      have hs2 := conds_walked others (s.cond e)
      rw [Operands.conditions, cond_proper e hfixed (hs2.clean h) (hs2.known.trans hfinal),
        conds_proper others (hs1.fixed hfixed) h hfinal]
      rfl

end

/-! ### Statements -/

lemma put_extends {symbols : Symbols} {name : String} (hnew : symbols.get? name = none)
    (sym : Symbol) : symbols.Extends (symbols.put name sym) := by
  intro other sym' hget
  rw [Assoc.get?_put, if_neg]
  · exact ⟨sym', hget, rfl⟩
  · rintro rfl
    rw [hnew] at hget
    cases hget

/-- A variable is entered that was not known. -/
lemma put_grown {name : String} {sym : Symbol} (hnew : s.symbols.get? name = none)
    (hfixed : s.diagnostics = [] →
      sym.constant = sym.address.isSome ∧ ∀ a, sym.address = some a → (a : Int) < size) :
    Grown size s { s with symbols := s.symbols.put name sym } := by
  refine ⟨id, put_extends hnew sym, ?_⟩
  intro hclean hs other sym' hget
  dsimp only at hget
  rw [Assoc.get?_put] at hget
  by_cases hname : name = other
  · rw [if_pos hname] at hget
    cases hget
    exact hfixed hclean
  · rw [if_neg hname] at hget
    exact hs other sym' hget

lemma decl_grown (s : Scope) (d : Decl) : Grown size s (s.decl size d) := by
  rw [decl]
  cases hget : s.symbols.get? d.name with
  | some sym =>
      rw [if_pos (by rw [Assoc.has, hget]; rfl)]
      exact (report_walked ..).grown
  | none =>
      rw [if_neg (by rw [Assoc.has, hget]; simp)]
      dsimp only
      cases hconst : d.constant with
      | true =>
          have hreport : ∀ (complaint : Complaint) (sym : Symbol), Grown size s
              { s.report d.line complaint with
                symbols := (s.report d.line complaint).symbols.put d.name sym } :=
            fun complaint sym => (report_walked ..).grown.trans
              (put_grown hget fun h => absurd h (report_ne _ _ _))
          rw [if_pos rfl]
          split
          · split
            · rename_i hlt
              refine put_grown hget fun _ => ⟨rfl, ?_⟩
              rintro a ⟨⟩
              exact hlt
            · exact hreport ..
          · exact hreport ..
      | false =>
          rw [if_neg Bool.false_ne_true]
          split
          · exact put_grown hget fun _ => ⟨rfl, by rintro a ⟨⟩⟩
          · have hwalked := expr_walked ‹_› s false
            refine hwalked.grown.trans (put_grown ?_ fun _ => ⟨rfl, by rintro a ⟨⟩⟩)
            have hsame := hwalked.same d.name
            rwa [hget, Option.map_none, Option.map_eq_none_iff] at hsame

mutual

lemma stmt_grown (size : Int) : ∀ (p : Stmt) (s : Scope), Grown size s (s.stmt size p)
  | .decl d, s => decl_grown s d
  | .expr e _, s => (expr_walked e s true).grown
  | .ifThen c body _, s => (cond_walked c s).grown.trans (stmt_grown size body _)
  | .ifElse c body other _, s =>
      ((cond_walked c s).grown.trans (stmt_grown size body _)).trans (stmt_grown size other _)
  | .whileDo c body _, s => (cond_walked c s).grown.trans (stmt_grown size body _)
  | .block body _, s => stmts_grown size body s

lemma stmts_grown (size : Int) : ∀ (body : List Stmt) (s : Scope), Grown size s (s.stmts size body)
  | [], s => .refl s
  | p :: rest, s => (stmt_grown size p s).trans (stmts_grown size rest _)

end

/-- The walk has come to know some names, each of them once. -/
structure Declares (s s' : Scope) (names : List String) : Prop where
  nodup : names.Nodup
  fresh : ∀ name ∈ names, s.symbols.get? name = none
  entered : ∀ name ∈ names, (s'.symbols.get? name).isSome

lemma Declares.nil : Declares s s' [] :=
  ⟨List.nodup_nil, by simp, by simp⟩

lemma Declares.before {names : List String} (hknown : s.symbols.Extends s'.symbols)
    (h : Declares s' s'' names) : Declares s s'' names := by
  refine ⟨h.nodup, fun name hname => ?_, h.entered⟩
  cases hget : s.symbols.get? name with
  | none => rfl
  | some sym =>
      obtain ⟨sym', hget', -⟩ := hknown name sym hget
      rw [h.fresh name hname] at hget'
      cases hget'

lemma Declares.append {names names' : List String} (h : Declares s s' names)
    (h' : Declares s' s'' names') (hknown : s.symbols.Extends s'.symbols)
    (hknown' : s'.symbols.Extends s''.symbols) : Declares s s'' (names ++ names') := by
  refine ⟨?_, ?_, ?_⟩
  · refine List.nodup_append.mpr ⟨h.nodup, h'.nodup, ?_⟩
    rintro name hname _ hname' rfl
    have hentered := h.entered name hname
    rw [h'.fresh name hname'] at hentered
    cases hentered
  · intro name hname
    rcases List.mem_append.mp hname with hname | hname
    · exact h.fresh name hname
    · exact (h'.before hknown).fresh name hname
  · intro name hname
    rcases List.mem_append.mp hname with hname | hname
    · obtain ⟨sym, hget⟩ := Option.isSome_iff_exists.mp (h.entered name hname)
      obtain ⟨sym', hget', -⟩ := hknown' name sym hget
      rw [hget']
      rfl
    · exact h'.entered name hname

lemma decl_proper (hfixed : s.symbols.Fixed size) {d : Decl}
    (h : (s.decl size d).diagnostics = []) :
    Declares s (s.decl size d) [d.name] ∧ ∀ {final : Symbols},
      (s.decl size d).symbols.Extends final → (Stmt.decl d).proper final = true := by
  rw [decl] at h ⊢
  cases hget : s.symbols.get? d.name with
  | some sym =>
      rw [if_pos (by rw [Assoc.has, hget]; rfl)] at h
      exact absurd h (report_ne _ _ _)
  | none =>
      rw [if_neg (by rw [Assoc.has, hget]; simp)] at h ⊢
      dsimp only at h ⊢
      have hdeclares : ∀ {s' : Scope} {sym : Symbol},
          Declares s { s' with symbols := s'.symbols.put d.name sym } [d.name] := by
        intro s' sym
        refine ⟨List.nodup_singleton _, ?_, ?_⟩
        · simpa using hget
        · simp [Assoc.get?_put]
      cases hconst : d.constant with
      | true =>
          rw [hconst, if_pos rfl] at h
          rw [if_pos rfl]
          split at h
          · rename_i n line hpointer hinit
            refine ⟨?_, fun {final} _ => by rw [Stmt.proper, hconst, hinit]; rfl⟩
            split
            · exact hdeclares
            · exact hdeclares
          · exact absurd h (report_ne _ _ _)
      | false =>
          rw [hconst, if_neg Bool.false_ne_true] at h
          rw [if_neg Bool.false_ne_true]
          -- a variable, which has no address
          have haddress : ∀ {symbols final : Symbols} {sym : Symbol},
              Symbols.Extends (symbols.put d.name sym) final → sym.address = none →
              (final.get? d.name).any (·.address.isNone) = true := by
            intro symbols final sym hfinal hnone
            obtain ⟨sym', hget', hfix⟩ := hfinal d.name sym (by rw [Assoc.get?_put, if_pos rfl])
            have : sym'.address = sym.address := congrArg Prod.fst hfix
            simp [hget', this, hnone]
          cases hinit : d.init with
          | none =>
              refine ⟨hdeclares, fun {final} hfinal => ?_⟩
              rw [Stmt.proper, hinit, haddress hfinal rfl]
              simp
          | some e =>
              rw [hinit] at h
              refine ⟨hdeclares, fun {final} hfinal => ?_⟩
              have hnew : (s.expr false e).symbols.get? d.name = none := by
                have hsame := (expr_walked e s false).same d.name
                rwa [hget, Option.map_none, Option.map_eq_none_iff] at hsame
              have hnumeric : e.numeric final = true :=
                expr_proper e hfixed h ((put_extends hnew _).trans hfinal)
              rw [Stmt.proper, hinit, haddress hfinal rfl]
              simp [hnumeric]

mutual

/-- **Statements.**  A statement without complaints is proper, and declares new names only. -/
lemma stmt_proper : ∀ (p : Stmt) {s : Scope}, s.symbols.Fixed size →
    (s.stmt size p).diagnostics = [] → Declares s (s.stmt size p) p.declared ∧
      ∀ {final : Symbols}, (s.stmt size p).symbols.Extends final → p.proper final = true
  | .decl d, _, hfixed, h => decl_proper hfixed h
  | .expr e _, s, hfixed, h =>
      ⟨.nil, fun hfinal => expr_proper e hfixed h hfinal⟩
  | .ifThen c body _, s, hfixed, h => by
      have hc := cond_walked c s
      have hbody := stmt_grown size body (s.cond c)
      obtain ⟨hdeclares, hproper⟩ := stmt_proper body (hc.fixed hfixed) h
      refine ⟨hdeclares.before hc.known, fun {final} hfinal => ?_⟩
      rw [Stmt.proper, hproper hfinal,
        cond_proper c hfixed (hbody.clean h) (hbody.known.trans hfinal)]
      rfl
  | .whileDo c body _, s, hfixed, h => by
      have hc := cond_walked c s
      have hbody := stmt_grown size body (s.cond c)
      obtain ⟨hdeclares, hproper⟩ := stmt_proper body (hc.fixed hfixed) h
      refine ⟨hdeclares.before hc.known, fun {final} hfinal => ?_⟩
      rw [Stmt.proper, hproper hfinal,
        cond_proper c hfixed (hbody.clean h) (hbody.known.trans hfinal)]
      rfl
  | .ifElse c body other _, s, hfixed, h => by
      have hc := cond_walked c s
      have hbody := stmt_grown size body (s.cond c)
      have hother := stmt_grown size other ((s.cond c).stmt size body)
      have hfixed1 := hc.fixed hfixed
      obtain ⟨hdeclares, hproper⟩ := stmt_proper body hfixed1 (hother.clean h)
      obtain ⟨hdeclares', hproper'⟩ := stmt_proper other (hbody.fixed (hother.clean h) hfixed1) h
      refine ⟨(hdeclares.append hdeclares' hbody.known hother.known).before hc.known,
        fun {final} hfinal => ?_⟩
      have hfinal1 := hother.known.trans hfinal
      rw [Stmt.proper, hproper' hfinal, hproper hfinal1,
        cond_proper c hfixed (hbody.clean (hother.clean h)) (hbody.known.trans hfinal1)]
      rfl
  | .block body _, _, hfixed, h => stmts_proper body hfixed h

lemma stmts_proper : ∀ (body : List Stmt) {s : Scope}, s.symbols.Fixed size →
    (s.stmts size body).diagnostics = [] → Declares s (s.stmts size body) (declaredAll body) ∧
      ∀ {final : Symbols}, (s.stmts size body).symbols.Extends final → properAll final body = true
  | [], s, _, _ =>
      ⟨.nil, fun _ => rfl⟩
  | p :: rest, s, hfixed, h => by
      have hp := stmt_grown size p s
      have hrest := stmts_grown size rest (s.stmt size p)
      obtain ⟨hdeclares, hproper⟩ := stmt_proper p hfixed (hrest.clean h)
      obtain ⟨hdeclares', hproper'⟩ := stmts_proper rest (hp.fixed (hrest.clean h) hfixed) h
      refine ⟨hdeclares.append hdeclares' hp.known hrest.known, fun {final} hfinal => ?_⟩
      rw [properAll, hproper' hfinal, hproper (hrest.known.trans hfinal)]
      rfl

end

end Scope

/-- **Acceptance.**  A program without complaints is proper with respect to the variables that are
known at its end, declares every name once, and has its constants on the floor. -/
theorem check_proper {size : Int} {program : List Stmt}
    (h : (check size program).diagnostics = []) :
    properAll (check size program).symbols program = true ∧ (declaredAll program).Nodup ∧
      (check size program).symbols.Fixed size := by
  have hfixed : Symbols.Fixed size ({} : Scope).symbols := fun _ _ hget => nomatch hget
  obtain ⟨hdeclares, hproper⟩ := Scope.stmts_proper program hfixed h
  exact ⟨hproper (.refl _), hdeclares.nodup, (Scope.stmts_grown size program {}).fixed h hfixed⟩

end Mailroom.Source
