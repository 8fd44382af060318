import Mailroom.Proofs.Acceptance

/-!
# What declarations make known

The check knows of a variable what its declaration says: whether it points at a tile, whether it is a
constant, and which tile it then names.  `Scope.Enters` says so of a walk.  Without complaints the
walk over a program knows the variables that are declared in it and no others (`check_enters`,
`check_symbol`).
-/

namespace Mailroom.Source

mutual

/-- The declarations in a statement. -/
def Stmt.decls : Stmt → List Decl
  | .decl d => [d]
  | .expr _ _ => []
  | .ifThen _ body _ | .whileDo _ body _ => body.decls
  | .ifElse _ body other _ => body.decls ++ other.decls
  | .block body _ => declsAll body

/-- The declarations in statements. -/
def declsAll : List Stmt → List Decl
  | [] => []
  | s :: rest => s.decls ++ declsAll rest

end

/-- The tile that a constant names. -/
def Decl.address? (d : Decl) : Option Nat :=
  match d.constant, d.init with
  | true, some (.num n _) => some n
  | _, _ => none

/-- What a declaration says of a variable that never changes. -/
def Decl.fixed (d : Decl) : Option Nat × Bool × Bool :=
  (d.address?, d.constant, d.pointer)

namespace Scope

/-- The walk has come to know what some declarations say, and nothing of other variables. -/
structure Enters (s s' : Scope) (decls : List Decl) : Prop where
  entered : ∀ d ∈ decls, (s'.symbols.get? d.name).map Symbol.fixed = some d.fixed
  origin : ∀ name, (∀ d ∈ decls, d.name ≠ name) →
    (s'.symbols.get? name).map Symbol.fixed = (s.symbols.get? name).map Symbol.fixed

section Walk

variable {s s' s'' : Scope} {decls decls' : List Decl} {size : Int}

lemma Walked.enters (h : Walked s s') : Enters s s' [] :=
  ⟨by simp, fun name _ => h.same name⟩

/-- What is known of a variable stays known. -/
lemma extends_fixed (h : s.symbols.Extends s'.symbols) {name : String}
    {fixed : Option Nat × Bool × Bool}
    (hget : (s.symbols.get? name).map Symbol.fixed = some fixed) :
    (s'.symbols.get? name).map Symbol.fixed = some fixed := by
  obtain ⟨sym, hsym, rfl⟩ := Option.map_eq_some_iff.mp hget
  obtain ⟨sym', hsym', hsame⟩ := h name sym hsym
  rw [hsym', Option.map_some, hsame]

lemma Enters.trans (h : Enters s s' decls) (h' : Enters s' s'' decls')
    (hknown : s'.symbols.Extends s''.symbols) : Enters s s'' (decls ++ decls') := by
  refine ⟨fun d hd => ?_, fun name hname => ?_⟩
  · rcases List.mem_append.mp hd with hd | hd
    · exact extends_fixed hknown (h.entered d hd)
    · exact h'.entered d hd
  · rw [List.forall_mem_append] at hname
    rw [h'.origin name hname.2, h.origin name hname.1]

lemma Enters.after (h : Walked s s') (h' : Enters s' s'' decls) : Enters s s'' decls :=
  ⟨h'.entered, fun name hname => (h'.origin name hname).trans (h.same name)⟩

/-- A variable is entered as its declaration says. -/
lemma put_enters (h : Walked s s') {d : Decl} {sym : Symbol} (hfixed : sym.fixed = d.fixed) :
    Enters s { s' with symbols := s'.symbols.put d.name sym } [d] := by
  refine ⟨List.forall_mem_singleton.mpr ?_, fun name hname => ?_⟩
  · simp [Assoc.get?_put, hfixed]
  · simp only [Assoc.get?_put, if_neg (hname d List.mem_cons_self)]
    exact h.same name

lemma decl_enters {d : Decl} (h : (s.decl size d).diagnostics = []) :
    Enters s (s.decl size d) [d] := by
  rw [decl] at h ⊢
  by_cases hhas : s.symbols.has d.name = true
  · rw [if_pos hhas] at h
    exact absurd h (report_ne _ _ _)
  rw [if_neg hhas] at h ⊢
  dsimp only at h ⊢
  cases hconst : d.constant with
  | true =>
      rw [hconst, if_pos rfl] at h
      rw [if_pos rfl]
      split at h
      · rename_i n line hpointer hinit
        by_cases hroom : (n : Int) < size
        · simp only [if_pos hroom]
          refine put_enters (.refl s) ?_
          simp [Symbol.fixed, Decl.fixed, Decl.address?, hconst, hinit]
        · rw [if_neg hroom] at h
          exact absurd h (report_ne _ _ _)
      · exact absurd h (report_ne _ _ _)
  | false =>
      have haddress : d.address? = none := by
        rw [Decl.address?, hconst]
      rw [if_neg Bool.false_ne_true]
      cases hinit : d.init with
      | none =>
          refine put_enters (.refl s) ?_
          simp [Symbol.fixed, Decl.fixed, haddress, hconst]
      | some e =>
          refine put_enters (expr_walked e s false) ?_
          simp [Symbol.fixed, Decl.fixed, haddress, hconst]

mutual

/-- **Statements.**  What a statement without complaints makes known. -/
lemma stmt_enters : ∀ (p : Stmt) {s : Scope}, (s.stmt size p).diagnostics = [] →
    Enters s (s.stmt size p) p.decls
  | .decl d, _, h => decl_enters h
  | .expr e _, s, _ => (expr_walked e s true).enters
  | .ifThen c body _, s, h => .after (cond_walked c s) (stmt_enters body h)
  | .whileDo c body _, s, h => .after (cond_walked c s) (stmt_enters body h)
  | .ifElse c body other _, s, h => by
      have hother := stmt_grown size other ((s.cond c).stmt size body)
      exact .after (cond_walked c s)
        ((stmt_enters body (hother.clean h)).trans (stmt_enters other h) hother.known)
  | .block body _, _, h => stmts_enters body h

lemma stmts_enters : ∀ (body : List Stmt) {s : Scope}, (s.stmts size body).diagnostics = [] →
    Enters s (s.stmts size body) (declsAll body)
  | [], s, _ => (Walked.refl s).enters
  | p :: rest, s, h => by
      have hrest := stmts_grown size rest (s.stmt size p)
      exact (stmt_enters p (hrest.clean h)).trans (stmts_enters rest h) hrest.known

end

end Walk

end Scope

section Programs

variable {size : Int} {program : List Stmt}

/-- Every declaration of an accepted program is known. -/
lemma check_enters (h : (check size program).diagnostics = []) {d : Decl}
    (hd : d ∈ declsAll program) :
    ∃ sym, (check size program).symbols.get? d.name = some sym ∧ sym.fixed = d.fixed :=
  Option.map_eq_some_iff.mp ((Scope.stmts_enters program h).entered d hd)

/-- What is declared as no constant names no tile. -/
lemma check_variable (h : (check size program).diagnostics = []) {d : Decl}
    (hd : d ∈ declsAll program) (hconst : d.constant = false) {sym : Symbol}
    (hget : (check size program).symbols.get? d.name = some sym) : sym.address = none := by
  obtain ⟨sym', hget', hfixed⟩ := check_enters h hd
  rw [hget] at hget'
  cases hget'
  have haddress : sym.address = d.address? := congrArg Prod.fst hfixed
  rw [haddress, Decl.address?, hconst]

/-- Every variable that is known has been declared. -/
lemma check_symbol (h : (check size program).diagnostics = []) {name : String} {sym : Symbol}
    (hget : (check size program).symbols.get? name = some sym) :
    ∃ d ∈ declsAll program, d.name = name ∧ sym.fixed = d.fixed := by
  by_contra hnone
  push Not at hnone
  have henters := Scope.stmts_enters program h
  have hempty : ∀ d ∈ declsAll program, d.name ≠ name := by
    rintro d hd rfl
    refine hnone d hd rfl ?_
    obtain ⟨sym', hget', hfixed⟩ := check_enters h hd
    rw [hget] at hget'
    cases hget'
    exact hfixed
  have horigin := henters.origin name hempty
  change ((check size program).symbols.get? name).map Symbol.fixed = _ at horigin
  rw [hget] at horigin
  cases horigin

end Programs

end Mailroom.Source
