import Mathlib
import Mailroom.Proofs.Descent

/-!
# What the descent reads of a statement

The steps that read statements, turned inside out like those that read expressions.

- `Utters`: what a statement can be.
- `statement_reads`: the step that reads a statement utters one of these.
- `program_ok`: a program is read statement by statement.
-/

namespace Mailroom.Source

variable {stop : Place} {ts rest : List Token}

/-! ## Declarations and conditions -/

lemma initializer_reads {init : Option Expr} :
    Reads (declaration.initializer stop ts) init rest ↔
      (init = none ∧ rest = ts ∧ NotNext "=" ts) ∨
        ∃ t tail e, t.is "=" = true ∧ ts = t :: tail ∧ Reads (expression stop tail) e rest ∧
          init = some e := by
  rw [declaration.initializer]
  constructor
  · rintro ⟨h, heq⟩
    split at heq
    · rename_i kept haccept
      obtain ⟨⟨⟩, -⟩ | ⟨-, hnot, hkept⟩ := accept_eq.mp haccept
      cases heq
      exact .inl ⟨rfl, hkept, hnot⟩
    · rename_i mid hmid haccept
      split at heq
      · cases heq
      · rename_i e rest' hrest he
        cases heq
        obtain ⟨-, t, ht, rfl⟩ | ⟨⟨⟩, -⟩ := accept_eq.mp haccept
        exact .inr ⟨t, mid, e, ht, rfl, ⟨_, he⟩, rfl⟩
  · rintro (⟨rfl, rfl, hnot⟩ | ⟨t, tail, e, ht, rfl, ⟨_, he⟩, rfl⟩)
    · have haccept : accept "=" rest = (false, ⟨rest, Nat.le_refl _⟩) :=
        accept_eq.mpr (.inr ⟨rfl, hnot, rfl⟩)
      rw [haccept]
      exact ⟨_, rfl⟩
    · have haccept : accept "=" (t :: tail) = (true, ⟨tail, by simp⟩) :=
        accept_eq.mpr (.inl ⟨rfl, t, ht, rfl⟩)
      rw [haccept]
      dsimp only
      rw [he]
      exact ⟨_, rfl⟩

lemma declaration_reads {d : Decl} : Reads (declaration stop ts) d rest ↔
    ∃ constant int a pointer b constantToo name c init s, Accepts "const" ts constant (int :: a) ∧
      int.is "int" = true ∧ Accepts "*" a pointer b ∧ Accepts "const" b constantToo (name :: c) ∧
      name.kind = .name ∧ Reads (declaration.initializer stop c) init (s :: rest) ∧
      s.is ";" = true ∧
      d = ⟨name.text, pointer, constant || constantToo, init, lineAt stop ts⟩ := by
  rw [declaration]
  constructor
  · rintro ⟨h, heq⟩
    split at heq
    rename_i constant mid hmid hconst
    split at heq
    · cases heq
    rename_i a ha hexpect
    obtain ⟨int, hint, rfl⟩ := expect_ok.mp hexpect
    split at heq
    rename_i pointer b hb hpointer
    split at heq
    rename_i constantToo mid hmid' hconst'
    split at heq
    · cases heq
    rename_i word c hc hword
    obtain ⟨name, hname, rfl, rfl⟩ := expectName_reads.mp ⟨_, hword⟩
    split at heq
    · cases heq
    rename_i init mid hmid'' hinit
    split at heq
    · cases heq
    rename_i rest' hrest hexpect'
    obtain ⟨s, hs, rfl⟩ := expect_ok.mp hexpect'
    cases heq
    exact ⟨constant, int, a, pointer, b, constantToo, name, c, init, s, accept_eq.mp hconst, hint,
      accept_eq.mp hpointer, accept_eq.mp hconst', hname, ⟨_, hinit⟩, hs, rfl⟩
  · rintro ⟨constant, int, a, pointer, b, constantToo, name, c, init, s, hconst, hint, hpointer,
      hconst', hname, ⟨_, hinit⟩, hs, rfl⟩
    obtain ⟨_, hconst⟩ := hconst.accept
    obtain ⟨_, hpointer⟩ := hpointer.accept
    obtain ⟨_, hconst'⟩ := hconst'.accept
    obtain ⟨_, hword⟩ : Reads (expectName stop (name :: c)) name.text c :=
      expectName_reads.mpr ⟨name, hname, rfl, rfl⟩
    rw [hconst]
    dsimp only
    rw [expect_cons hint]
    dsimp only
    rw [hpointer]
    dsimp only
    rw [hconst']
    simp only [hword, hinit, expect_cons hs]
    exact ⟨_, rfl⟩

lemma condition_reads {e : Expr} : Reads (condition stop ts) e rest ↔
    ∃ t tail u, t.is "(" = true ∧ ts = t :: tail ∧ Reads (expression stop tail) e (u :: rest) ∧
      u.is ")" = true := by
  rw [condition]
  constructor
  · rintro ⟨h, heq⟩
    split at heq
    · cases heq
    rename_i tail htail hexpect
    obtain ⟨t, ht, rfl⟩ := expect_ok.mp hexpect
    split at heq
    · cases heq
    rename_i cond mid hmid hcond
    split at heq
    · cases heq
    rename_i rest' hrest hexpect'
    obtain ⟨u, hu, rfl⟩ := expect_ok.mp hexpect'
    cases heq
    exact ⟨t, tail, u, ht, rfl, ⟨_, hcond⟩, hu⟩
  · rintro ⟨t, tail, u, ht, rfl, ⟨_, he⟩, hu⟩
    simp only [expect_cons ht, he, expect_cons hu]
    exact ⟨_, rfl⟩

/-! ## Statements -/

/-- What a statement can be. -/
inductive Utters (stop : Place) : List Token → Option Stmt → List Token → Prop
  | empty {t : Token} {rest : List Token} (ht : t.is ";" = true) : Utters stop (t :: rest) none rest
  | block {t : Token} {tail rest : List Token} {body : List Stmt} (ht : t.is "\x7b" = true)
      (hbody : Reads (blockBody stop tail) body rest) :
      Utters stop (t :: tail) (some (.block body t.place.line)) rest
  | decl {t : Token} {tail rest : List Token} {d : Decl}
      (ht : t.is "int" = true ∨ t.is "const" = true) (hd : Reads (declaration stop (t :: tail)) d rest) :
      Utters stop (t :: tail) (some (.decl d)) rest
  | ifThen {t : Token} {tail mid rest : List Token} {cond : Expr} {yes : Stmt}
      (ht : t.is "if" = true) (hcond : Reads (condition stop tail) cond mid)
      (hyes : Reads (body stop mid) yes rest) (hno : NotNext "else" rest) :
      Utters stop (t :: tail) (some (.ifThen cond yes t.place.line)) rest
  | ifElse {t u : Token} {tail mid mid' rest : List Token} {cond : Expr} {yes no : Stmt}
      (ht : t.is "if" = true) (hcond : Reads (condition stop tail) cond mid)
      (hyes : Reads (body stop mid) yes (u :: mid')) (hu : u.is "else" = true)
      (hno : Reads (body stop mid') no rest) :
      Utters stop (t :: tail) (some (.ifElse cond yes no t.place.line)) rest
  | whileDo {t : Token} {tail mid rest : List Token} {cond : Expr} {again : Stmt}
      (ht : t.is "while" = true) (hcond : Reads (condition stop tail) cond mid)
      (hagain : Reads (body stop mid) again rest) :
      Utters stop (t :: tail) (some (.whileDo cond again t.place.line)) rest
  | expr {t u : Token} {tail rest : List Token} {e : Expr}
      (ht : ∀ text ∈ [";", "\x7b", "int", "const", "if", "while"], t.is text = false)
      (he : Reads (expression stop (t :: tail)) e (u :: rest)) (hu : u.is ";" = true) :
      Utters stop (t :: tail) (some (.expr e t.place.line)) rest

lemma utters_of_statement {s : Option Stmt} (h : Reads (statement stop ts) s rest) :
    Utters stop ts s rest := by
  obtain ⟨h, heq⟩ := h
  cases ts with
  | nil =>
      rw [statement] at heq
      cases heq
  | cons t tail =>
      rw [statement] at heq
      dsimp only at heq
      split at heq
      · rename_i ht
        cases heq
        exact .empty ht
      rename_i hempty
      split at heq
      · rename_i ht
        split at heq
        · cases heq
        rename_i body rest' hrest hbody
        cases heq
        exact .block ht ⟨_, hbody⟩
      rename_i hblock
      split at heq
      · rename_i ht
        split at heq
        · cases heq
        rename_i d rest' hd
        cases heq
        exact .decl (by simpa using ht) ⟨_, hd⟩
      rename_i hdecl
      split at heq
      · rename_i ht
        split at heq
        · cases heq
        rename_i cond mid hmid hcond
        split at heq
        · cases heq
        rename_i yes mid' hmid' hyes
        split at heq
        · rename_i rest' hrest haccept
          cases heq
          obtain ⟨⟨⟩, -⟩ | ⟨-, hno, rfl⟩ := accept_eq.mp haccept
          exact .ifThen ht ⟨_, hcond⟩ ⟨_, hyes⟩ hno
        · rename_i mid'' hmid'' haccept
          obtain ⟨-, u, hu, rfl⟩ | ⟨⟨⟩, -⟩ := accept_eq.mp haccept
          split at heq
          · cases heq
          rename_i no rest' hrest hno
          cases heq
          exact .ifElse ht ⟨_, hcond⟩ ⟨_, hyes⟩ hu ⟨_, hno⟩
      rename_i hif
      split at heq
      · rename_i ht
        split at heq
        · cases heq
        rename_i cond mid hmid hcond
        split at heq
        · cases heq
        rename_i again rest' hrest hagain
        cases heq
        exact .whileDo ht ⟨_, hcond⟩ ⟨_, hagain⟩
      rename_i hwhile
      split at heq
      · cases heq
      rename_i e mid hmid he
      split at heq
      · cases heq
      rename_i rest' hrest hexpect
      obtain ⟨u, hu, rfl⟩ := expect_ok.mp hexpect
      cases heq
      refine .expr ?_ ⟨_, he⟩ hu
      simp only [Bool.or_eq_true, not_or, Bool.not_eq_true] at hempty hblock hdecl hif hwhile
      simp [hempty, hblock, hdecl, hif, hwhile]

lemma statement_of_utters {s : Option Stmt} (h : Utters stop ts s rest) :
    Reads (statement stop ts) s rest := by
  cases h with
  | empty ht =>
      rw [statement]
      simp only [ht, if_true]
      exact ⟨_, rfl⟩
  | block ht hbody =>
      obtain ⟨_, hbody⟩ := hbody
      rw [statement]
      simp only [Token.is_of_is ht, String.reduceBEq, Bool.false_eq_true, if_false, if_true, hbody]
      exact ⟨_, rfl⟩
  | decl ht hd =>
      obtain ⟨_, hd⟩ := hd
      rw [statement]
      rcases ht with ht | ht
      · simp only [Token.is_of_is ht, String.reduceBEq, Bool.false_eq_true, if_false, Bool.true_or,
          if_true, hd]
        exact ⟨_, rfl⟩
      · simp only [Token.is_of_is ht, String.reduceBEq, Bool.false_eq_true, if_false, Bool.or_true,
          if_true, hd]
        exact ⟨_, rfl⟩
  | ifThen ht hcond hyes hno =>
      obtain ⟨_, hcond⟩ := hcond
      obtain ⟨_, hyes⟩ := hyes
      have haccept : accept "else" rest = (false, ⟨rest, Nat.le_refl _⟩) :=
        accept_eq.mpr (.inr ⟨rfl, hno, rfl⟩)
      rw [statement]
      simp only [Token.is_of_is ht, String.reduceBEq, Bool.false_eq_true, if_false, Bool.or_self,
        if_true, hcond, hyes, haccept]
      exact ⟨_, rfl⟩
  | @ifElse t u tail mid mid' rest cond yes no ht hcond hyes hu hno =>
      obtain ⟨_, hcond⟩ := hcond
      obtain ⟨_, hyes⟩ := hyes
      obtain ⟨_, hno⟩ := hno
      have haccept : accept "else" (u :: mid') = (true, ⟨mid', by simp⟩) :=
        accept_eq.mpr (.inl ⟨rfl, u, hu, rfl⟩)
      rw [statement]
      simp only [Token.is_of_is ht, String.reduceBEq, Bool.false_eq_true, if_false, Bool.or_self,
        if_true, hcond, hyes, haccept, hno]
      exact ⟨_, rfl⟩
  | whileDo ht hcond hagain =>
      obtain ⟨_, hcond⟩ := hcond
      obtain ⟨_, hagain⟩ := hagain
      rw [statement]
      simp only [Token.is_of_is ht, String.reduceBEq, Bool.false_eq_true, if_false, Bool.or_self,
        if_true, hcond, hagain]
      exact ⟨_, rfl⟩
  | expr ht he hu =>
      obtain ⟨_, he⟩ := he
      simp only [List.forall_mem_cons] at ht
      obtain ⟨hempty, hblock, hint, hconst, hif, hwhile, -⟩ := ht
      rw [statement]
      simp only [hempty, hblock, hint, hconst, hif, hwhile, Bool.false_eq_true, if_false,
        Bool.or_self, he, expect_cons hu]
      exact ⟨_, rfl⟩

lemma statement_reads {s : Option Stmt} :
    Reads (statement stop ts) s rest ↔ Utters stop ts s rest :=
  ⟨utters_of_statement, statement_of_utters⟩

lemma body_reads {s : Stmt} : Reads (body stop ts) s rest ↔
    Reads (statement stop ts) (some s) rest ∨
      (Reads (statement stop ts) none rest ∧ s = .block [] (lineAt stop rest)) := by
  rw [body]
  constructor
  · rintro ⟨h, heq⟩
    split at heq
    · cases heq
    · rename_i s' rest' hs
      cases heq
      exact .inl ⟨_, hs⟩
    · rename_i rest' hrest hs
      cases heq
      exact .inr ⟨⟨_, hs⟩, rfl⟩
  · rintro (⟨_, hs⟩ | ⟨⟨_, hs⟩, rfl⟩)
    · rw [hs]
      exact ⟨_, rfl⟩
    · rw [hs]
      exact ⟨_, rfl⟩

lemma blockBody_reads {body : List Stmt} : Reads (blockBody stop ts) body rest ↔
    (∃ t, t.is "\x7d" = true ∧ ts = t :: rest ∧ body = []) ∨
      (NotNext "\x7d" ts ∧ ∃ s mid later, Reads (statement stop ts) s mid ∧
        Reads (blockBody stop mid) later rest ∧ body = s.toList ++ later) := by
  cases ts with
  | nil =>
      rw [blockBody, statement]
      simp [Reads]
  | cons t tail =>
      rw [blockBody]
      by_cases ht : t.is "\x7d" = true
      · rw [if_pos ht]
        constructor
        · rintro ⟨h, heq⟩
          cases heq
          exact .inl ⟨t, ht, rfl, rfl⟩
        · rintro (⟨u, -, heq, rfl⟩ | ⟨hnot, -⟩)
          · cases heq
            exact ⟨_, rfl⟩
          · exact absurd ht (by simp [hnot t rfl])
      · rw [if_neg ht]
        constructor
        · rintro ⟨h, heq⟩
          split at heq
          · cases heq
          rename_i s mid hmid hs
          split at heq
          · cases heq
          rename_i later rest' hrest hlater
          cases heq
          exact .inr ⟨by simpa [NotNext] using ht, s, mid, later, ⟨_, hs⟩, ⟨_, hlater⟩, rfl⟩
        · rintro (⟨u, hu, heq, -⟩ | ⟨-, s, mid, later, ⟨_, hs⟩, ⟨_, hlater⟩, rfl⟩)
          · cases heq
            exact absurd hu ht
          · rw [hs]
            dsimp only
            rw [hlater]
            exact ⟨_, rfl⟩

lemma program_ok {p : List Stmt} : program stop ts = .ok p ↔
    (ts = [] ∧ p = []) ∨ ∃ s mid later, Reads (statement stop ts) s mid ∧
      program stop mid = .ok later ∧ p = s.toList ++ later := by
  cases ts with
  | nil =>
      rw [program, statement]
      simp [Reads, eq_comm]
  | cons t tail =>
      rw [program]
      constructor
      · intro heq
        split at heq
        · cases heq
        rename_i s mid hmid hs
        split at heq
        · cases heq
        rename_i later hlater
        cases heq
        exact .inr ⟨s, mid, later, ⟨_, hs⟩, hlater, rfl⟩
      · rintro (⟨⟨⟩, -⟩ | ⟨s, mid, later, ⟨_, hs⟩, hlater, rfl⟩)
        rw [hs]
        dsimp only
        rw [hlater]

end Mailroom.Source
