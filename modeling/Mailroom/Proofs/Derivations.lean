import Mathlib
import Mailroom.Proofs.StatementDescent

/-!
# The grammar

The grammar of the language as a relation between phrases and the tokens that they derive, without
regard to how it is parsed.  It is ambiguous: it does not say to which `if` an `else` belongs, nor
how far a value that is assigned inside an expression reaches.

- `Derives`: the grammar, with one rule for each of its alternatives.
- `Derives.starts`: the tokens at which an expression can start.
- `readsPhrases`, `readsStatements`: whatever a step of the descent reads is the phrase it is for.
- `derives_of_program`: so tokens that are read as a program derive from the grammar.
-/

namespace Mailroom.Source

/-- The phrases of the language.  Those in the plural may be repeated or missing. -/
inductive Phrase where
  | program
  | statement
  | declaration
  | initializer
  | expression
  | disjuncts
  | conjunction
  | conjuncts
  | comparison
  | sum
  | addends
  | operand
  | place
  deriving DecidableEq, Repr

/-- A token that may be missing. -/
def Optionally (text : String) (ts : List Token) : Prop :=
  ts = [] ∨ ∃ t, t.is text = true ∧ ts = [t]

/-- The grammar. -/
inductive Derives : Phrase → List Token → Prop
  | done : Derives .program []
  | next {s p : List Token} : Derives .statement s → Derives .program p → Derives .program (s ++ p)
  | empty {t : Token} : t.is ";" = true → Derives .statement [t]
  | block {o c : Token} {p : List Token} : o.is "\x7b" = true → Derives .program p →
      c.is "\x7d" = true → Derives .statement (o :: p ++ [c])
  | decl {d : List Token} : Derives .declaration d → Derives .statement d
  | ifThen {k o c : Token} {e s : List Token} : k.is "if" = true → o.is "(" = true →
      Derives .expression e → c.is ")" = true → Derives .statement s →
      Derives .statement (k :: o :: e ++ c :: s)
  | ifElse {k o c l : Token} {e s s' : List Token} : k.is "if" = true → o.is "(" = true →
      Derives .expression e → c.is ")" = true → Derives .statement s → l.is "else" = true →
      Derives .statement s' → Derives .statement (k :: o :: e ++ c :: s ++ l :: s')
  | whileDo {k o c : Token} {e s : List Token} : k.is "while" = true → o.is "(" = true →
      Derives .expression e → c.is ")" = true → Derives .statement s →
      Derives .statement (k :: o :: e ++ c :: s)
  | expr {e : List Token} {c : Token} : Derives .expression e → c.is ";" = true →
      Derives .statement (e ++ [c])
  | declaration {a b c i : List Token} {k n s : Token} : Optionally "const" a → k.is "int" = true →
      Optionally "*" b → Optionally "const" c → n.kind = .name → Derives .initializer i →
      s.is ";" = true → Derives .declaration (a ++ k :: b ++ c ++ n :: i ++ [s])
  | uninitialized : Derives .initializer []
  | initialized {t : Token} {e : List Token} : t.is "=" = true → Derives .expression e →
      Derives .initializer (t :: e)
  | expression {a b : List Token} : Derives .conjunction a → Derives .disjuncts b →
      Derives .expression (a ++ b)
  | noDisjunct : Derives .disjuncts []
  | disjunct {t : Token} {a b : List Token} : t.is "||" = true → Derives .conjunction a →
      Derives .disjuncts b → Derives .disjuncts (t :: a ++ b)
  | conjunction {a b : List Token} : Derives .comparison a → Derives .conjuncts b →
      Derives .conjunction (a ++ b)
  | noConjunct : Derives .conjuncts []
  | conjunct {t : Token} {a b : List Token} : t.is "&&" = true → Derives .comparison a →
      Derives .conjuncts b → Derives .conjuncts (t :: a ++ b)
  | side {a : List Token} : Derives .sum a → Derives .comparison a
  | compare {t : Token} {a b : List Token} {op : Comparison} : Derives .sum a →
      t.comparison? = some op → Derives .sum b → Derives .comparison (a ++ t :: b)
  | sum {a b : List Token} : Derives .operand a → Derives .addends b → Derives .sum (a ++ b)
  | noAddend : Derives .addends []
  | addend {t : Token} {a b : List Token} {op : SumOp} : t.sum? = some op → Derives .operand a →
      Derives .addends b → Derives .addends (t :: a ++ b)
  | number {t : Token} : t.kind = .number → Derives .operand [t]
  | truth {t : Token} : t.is "true" = true → Derives .operand [t]
  | falsity {t : Token} : t.is "false" = true → Derives .operand [t]
  | paren {o c : Token} {e : List Token} : o.is "(" = true → Derives .expression e →
      c.is ")" = true → Derives .operand (o :: e ++ [c])
  | before {t : Token} {p : List Token} {direction : Bump} : t.bump? = some direction →
      Derives .place p → Derives .operand (t :: p)
  | call {n o c : Token} : n.kind = .name → o.is "(" = true → c.is ")" = true →
      Derives .operand [n, o, c]
  | callWith {n o c : Token} {e : List Token} : n.kind = .name → o.is "(" = true →
      Derives .expression e → c.is ")" = true → Derives .operand (n :: o :: e ++ [c])
  | var {p : List Token} : Derives .place p → Derives .operand p
  | assign {t : Token} {p e : List Token} : Derives .place p → t.is "=" = true →
      Derives .expression e → Derives .operand (p ++ t :: e)
  | after {t : Token} {p : List Token} {direction : Bump} : Derives .place p →
      t.bump? = some direction → Derives .operand (p ++ [t])
  | plain {n : Token} : n.kind = .name → Derives .place [n]
  | pointed {s n : Token} : s.is "*" = true → n.kind = .name → Derives .place [s, n]

variable {stop : Place} {ts rest : List Token}

/-! ## Where phrases start -/

/-- The tokens at which an expression starts. -/
def Token.startsExpression (t : Token) : Bool :=
  t.kind == .number || t.kind == .name ||
    ["true", "false", "(", "++", "--", "*"].any (t.is ·)

/-- Where phrases start that cannot be empty. -/
def Phrase.Starts : Phrase → List Token → Prop
  | .expression, u | .conjunction, u | .comparison, u | .sum, u | .operand, u | .place, u =>
    ∃ t tail, u = t :: tail ∧ t.startsExpression = true
  | _, _ => True

lemma Derives.starts {p : Phrase} {u : List Token} (h : Derives p u) : p.Starts u := by
  have hfront : ∀ {a b : List Token}, (∃ t tail, a = t :: tail ∧ t.startsExpression = true) →
      ∃ t tail, a ++ b = t :: tail ∧ t.startsExpression = true := by
    rintro a b ⟨t, tail, rfl, ht⟩
    exact ⟨t, tail ++ b, rfl, ht⟩
  induction h with
  | expression _ _ ih _ => exact hfront ih
  | conjunction _ _ ih _ => exact hfront ih
  | side _ ih => exact ih
  | compare _ _ _ ih _ => exact hfront ih
  | sum _ _ ih _ => exact hfront ih
  | number ht => exact ⟨_, _, rfl, by simp [Token.startsExpression, ht]⟩
  | truth ht => exact ⟨_, _, rfl, by simp [Token.startsExpression, ht]⟩
  | falsity ht => exact ⟨_, _, rfl, by simp [Token.startsExpression, ht]⟩
  | paren ht _ _ _ => exact ⟨_, _, rfl, by simp [Token.startsExpression, ht]⟩
  | @before t p direction ht _ _ =>
      have his := Token.bump?_eq_some.mp ht
      refine ⟨_, _, rfl, ?_⟩
      cases direction <;> simp [Token.startsExpression, Token.is_of_is his, Bump.text]
  | call ht _ _ => exact ⟨_, _, rfl, by simp [Token.startsExpression, ht]⟩
  | callWith ht _ _ _ _ => exact ⟨_, _, rfl, by simp [Token.startsExpression, ht]⟩
  | var _ ih => exact ih
  | assign _ _ _ ih _ => exact hfront ih
  | after _ _ ih => exact hfront ih
  | plain ht => exact ⟨_, _, rfl, by simp [Token.startsExpression, ht]⟩
  | pointed ht _ => exact ⟨_, _, rfl, by simp [Token.startsExpression, ht]⟩
  | _ => trivial

lemma Token.startsExpression_of_is {t : Token} {text : String} (h : t.is text = true)
    (htext : text ∉ ["true", "false", "(", "++", "--", "*"]) : t.startsExpression = false := by
  obtain ⟨hnumber, hname⟩ := kind_of_is h
  simp only [List.mem_cons, List.not_mem_nil, or_false, not_or] at htext
  simp [startsExpression, hnumber, hname, is_of_is h, htext]

/-- No expression starts with a token with another text. -/
lemma Derives.notNext {e : List Token} (he : Derives .expression e) {text : String}
    (htext : text ∉ ["true", "false", "(", "++", "--", "*"]) (more : List Token) :
    NotNext text (e ++ more) := by
  obtain ⟨t, tail, rfl, ht⟩ := he.starts
  rintro u ⟨⟩
  by_contra hu
  rw [Token.startsExpression_of_is (by simpa using hu) htext] at ht
  cases ht

lemma notNext_cons {t : Token} {text : String} (h : t.is text = false) (more : List Token) :
    NotNext text (t :: more) := by
  rintro u ⟨⟩
  exact h

/-- Where statements start: not with a token that only goes on with one or ends a block. -/
lemma Derives.statement_starts {u : List Token} (h : Derives .statement u) (more : List Token) :
    NotNext "else" (u ++ more) ∧ NotNext "\x7d" (u ++ more) := by
  have hfixed : ∀ {t : Token} {text : String} {tail : List Token}, t.is text = true →
      text ≠ "else" → text ≠ "\x7d" → NotNext "else" (t :: tail) ∧ NotNext "\x7d" (t :: tail) :=
    fun ht helse hclose => ⟨notNext_cons (by simp [Token.is_of_is ht, helse]) _,
      notNext_cons (by simp [Token.is_of_is ht, hclose]) _⟩
  cases h with
  | empty ht => exact hfixed ht (by simp) (by simp)
  | block ho _ _ => exact hfixed ho (by simp) (by simp)
  | decl hd =>
      cases hd with
      | declaration ha hk _ _ _ _ _ =>
          rcases ha with rfl | ⟨t, ht, rfl⟩
          · exact hfixed hk (by simp) (by simp)
          · exact hfixed ht (by simp) (by simp)
  | ifThen hk _ _ _ _ => exact hfixed hk (by simp) (by simp)
  | ifElse hk _ _ _ _ _ _ => exact hfixed hk (by simp) (by simp)
  | whileDo hk _ _ _ _ => exact hfixed hk (by simp) (by simp)
  | expr he _ =>
      rw [List.append_assoc]
      exact ⟨he.notNext (by simp) _, he.notNext (by simp) _⟩

lemma Derives.notNext_else {p rest : List Token} (h : Derives .program p)
    (hrest : NotNext "else" rest) : NotNext "else" (p ++ rest) := by
  cases h with
  | done => exact hrest
  | next hs _ =>
      rw [List.append_assoc]
      exact (hs.statement_starts _).1

/-- An expression with a semicolon behind it is taken for nothing but a statement. -/
lemma utters_expression {stop : Place} {e rest : List Token} {c : Token} {e' : Expr}
    (he : Derives .expression e)
    (hreads : Reads (expression stop (e ++ c :: rest)) e' (c :: rest)) (hc : c.is ";" = true) :
    ∃ line, Utters stop (e ++ c :: rest) (some (.expr e' line)) rest := by
  have hnext : ∀ text ∈ [";", "\x7b", "int", "const", "if", "while"],
      NotNext text (e ++ c :: rest) := by
    simp only [List.forall_mem_cons]
    refine ⟨he.notNext ?_ _, he.notNext ?_ _, he.notNext ?_ _, he.notNext ?_ _, he.notNext ?_ _,
      he.notNext ?_ _, by simp⟩ <;> simp
  obtain ⟨t, tail, rfl, -⟩ := he.starts
  exact ⟨_, .expr (fun text htext => hnext text htext t rfl) hreads hc⟩

/-! ## Soundness for expressions -/

/-- Tokens that start with a phrase, and what is behind it. -/
def Phrase.Splits (p : Phrase) (ts rest : List Token) : Prop :=
  ∃ u, ts = u ++ rest ∧ Derives p u

lemma Names.splits {v : Var} (h : Names ts v rest) : Phrase.place.Splits ts rest := by
  cases h with
  | plain hname => exact ⟨[_], rfl, .plain hname⟩
  | pointed hstar hname => exact ⟨[_, _], rfl, .pointed hstar hname⟩

lemma Reads.lt {α : Type} {a : α} {outcome : Except SourceError (α × Rest ts)}
    (h : Reads outcome a rest) : rest.length < ts.length := h.1

/-- What is read of an expression, at each level of the descent, is a phrase. -/
structure ReadsPhrases (stop : Place) (ts : List Token) : Prop where
  operand : ∀ {e rest}, Reads (unary stop ts) e rest → Phrase.operand.Splits ts rest
  addends : ∀ {left e rest}, Reads (addends stop left ts) e rest → Phrase.addends.Splits ts rest
  sum : ∀ {e rest}, Reads (additive stop ts) e rest → Phrase.sum.Splits ts rest
  comparison : ∀ {e rest}, Reads (comparison stop ts) e rest → Phrase.comparison.Splits ts rest
  conjuncts : ∀ {es rest}, Reads (conjuncts stop ts) es rest → Phrase.conjuncts.Splits ts rest
  conjunction : ∀ {e rest}, Reads (conjunction stop ts) e rest → Phrase.conjunction.Splits ts rest
  disjuncts : ∀ {es rest}, Reads (disjuncts stop ts) es rest → Phrase.disjuncts.Splits ts rest
  expression : ∀ {e rest}, Reads (expression stop ts) e rest → Phrase.expression.Splits ts rest

section Phrases

variable (ih : ∀ ts', ts'.length < ts.length → ReadsPhrases stop ts')
include ih

lemma operand_splits {e : Expr} (h : Reads (unary stop ts) e rest) :
    Phrase.operand.Splits ts rest := by
  cases unary_reads.mp h with
  | number hkind _ => exact ⟨[_], rfl, .number hkind⟩
  | truth ht => exact ⟨[_], rfl, .truth ht⟩
  | falsity ht => exact ⟨[_], rfl, .falsity ht⟩
  | paren ht he hu =>
      obtain ⟨u, rfl, hderives⟩ := (ih _ (by simp)).expression he
      exact ⟨_ :: u ++ [_], by simp, .paren ht hderives hu⟩
  | call ht hu hv => exact ⟨[_, _, _], rfl, .call ht hu hv⟩
  | callWith ht hu _ he hv =>
      obtain ⟨u, rfl, hderives⟩ := (ih _ (by simp)).expression he
      exact ⟨_ :: _ :: u ++ [_], by simp, .callWith ht hu hderives hv⟩
  | before ht htarget =>
      obtain ⟨p, rfl, hplace⟩ := htarget.splits
      exact ⟨_ :: p, by simp, .before ht hplace⟩
  | assign htarget hu hvalue =>
      obtain ⟨p, rfl, hplace⟩ := htarget.splits
      obtain ⟨u, rfl, hderives⟩ := (ih _ (by simp; omega)).expression hvalue
      exact ⟨p ++ _ :: u, by simp, .assign hplace hu hderives⟩
  | after htarget hu =>
      obtain ⟨p, rfl, hplace⟩ := htarget.splits
      exact ⟨p ++ [_], by simp, .after hplace hu⟩
  | var htarget _ =>
      obtain ⟨p, rfl, hplace⟩ := htarget.splits
      exact ⟨p, rfl, .var hplace⟩

lemma addends_splits {left e : Expr} (h : Reads (addends stop left ts) e rest) :
    Phrase.addends.Splits ts rest := by
  rcases addends_reads.mp h with
    ⟨rfl, rfl, -⟩ | ⟨t, tail, op, right, mid, hop, rfl, hright, hmore⟩
  · exact ⟨[], rfl, .noAddend⟩
  · obtain ⟨u, rfl, hu⟩ := (ih tail (by simp)).operand hright
    obtain ⟨v, rfl, hv⟩ := (ih mid (by simp)).addends hmore
    exact ⟨t :: u ++ v, by simp, .addend hop hu hv⟩

lemma sum_splits {e : Expr} (h : Reads (additive stop ts) e rest) : Phrase.sum.Splits ts rest := by
  obtain ⟨first, mid, hfirst, hmore⟩ := additive_reads.mp h
  obtain ⟨v, rfl, hv⟩ := (ih mid hfirst.lt).addends hmore
  obtain ⟨u, rfl, hu⟩ := operand_splits ih hfirst
  exact ⟨u ++ v, by simp, .sum hu hv⟩

lemma comparison_splits {e : Expr} (h : Reads (comparison stop ts) e rest) :
    Phrase.comparison.Splits ts rest := by
  obtain ⟨left, mid, hleft, ⟨rfl, rfl, -⟩ | ⟨t, tail, op, right, hop, rfl, hright, rfl⟩⟩ :=
    comparison_reads.mp h
  · obtain ⟨u, rfl, hu⟩ := sum_splits ih hleft
    exact ⟨u, rfl, .side hu⟩
  · obtain ⟨v, rfl, hv⟩ := (ih tail (Nat.lt_of_succ_lt hleft.lt)).sum hright
    obtain ⟨u, rfl, hu⟩ := sum_splits ih hleft
    exact ⟨u ++ t :: v, by simp, .compare hu hop hv⟩

lemma conjuncts_splits {es : List Expr} (h : Reads (conjuncts stop ts) es rest) :
    Phrase.conjuncts.Splits ts rest := by
  rcases (conjuncts_repeats stop).reads.mp h with
    ⟨rfl, rfl, -⟩ | ⟨t, tail, e, mid, others, ht, rfl, he, hmore, rfl⟩
  · exact ⟨[], rfl, .noConjunct⟩
  · obtain ⟨u, rfl, hu⟩ := (ih tail (by simp)).comparison he
    obtain ⟨v, rfl, hv⟩ := (ih mid (by simp)).conjuncts hmore
    exact ⟨t :: u ++ v, by simp, .conjunct ht hu hv⟩

lemma conjunction_splits {e : Expr} (h : Reads (conjunction stop ts) e rest) :
    Phrase.conjunction.Splits ts rest := by
  obtain ⟨first, mid, others, hfirst, hmore, -⟩ := (conjunction_joins stop).reads.mp h
  obtain ⟨v, rfl, hv⟩ := (ih mid hfirst.lt).conjuncts hmore
  obtain ⟨u, rfl, hu⟩ := comparison_splits ih hfirst
  exact ⟨u ++ v, by simp, .conjunction hu hv⟩

lemma disjuncts_splits {es : List Expr} (h : Reads (disjuncts stop ts) es rest) :
    Phrase.disjuncts.Splits ts rest := by
  rcases (disjuncts_repeats stop).reads.mp h with
    ⟨rfl, rfl, -⟩ | ⟨t, tail, e, mid, others, ht, rfl, he, hmore, rfl⟩
  · exact ⟨[], rfl, .noDisjunct⟩
  · obtain ⟨u, rfl, hu⟩ := (ih tail (by simp)).conjunction he
    obtain ⟨v, rfl, hv⟩ := (ih mid (by simp)).disjuncts hmore
    exact ⟨t :: u ++ v, by simp, .disjunct ht hu hv⟩

lemma expression_splits {e : Expr} (h : Reads (expression stop ts) e rest) :
    Phrase.expression.Splits ts rest := by
  obtain ⟨first, mid, others, hfirst, hmore, -⟩ := (expression_joins stop).reads.mp h
  obtain ⟨v, rfl, hv⟩ := (ih mid hfirst.lt).disjuncts hmore
  obtain ⟨u, rfl, hu⟩ := conjunction_splits ih hfirst
  exact ⟨u ++ v, by simp, .expression hu hv⟩

end Phrases

lemma readsPhrases (ts : List Token) : ReadsPhrases stop ts :=
  have ih : ∀ ts', ts'.length < ts.length → ReadsPhrases stop ts' := fun ts' _ => readsPhrases ts'
  ⟨operand_splits ih, addends_splits ih, sum_splits ih, comparison_splits ih, conjuncts_splits ih,
    conjunction_splits ih, disjuncts_splits ih, expression_splits ih⟩
termination_by ts.length

/-! ## Soundness for statements -/

lemma Accepts.splits {text : String} {found : Bool} (h : Accepts text ts found rest) :
    ∃ u, ts = u ++ rest ∧ Optionally text u := by
  rcases h with ⟨-, t, ht, rfl⟩ | ⟨-, -, rfl⟩
  · exact ⟨[t], rfl, .inr ⟨t, ht, rfl⟩⟩
  · exact ⟨[], rfl, .inl rfl⟩

lemma initializer_splits {init : Option Expr}
    (h : Reads (declaration.initializer stop ts) init rest) :
    Phrase.initializer.Splits ts rest := by
  rcases initializer_reads.mp h with ⟨-, rfl, -⟩ | ⟨t, tail, e, ht, rfl, he, -⟩
  · exact ⟨[], rfl, .uninitialized⟩
  · obtain ⟨u, rfl, hu⟩ := (readsPhrases _).expression he
    exact ⟨t :: u, rfl, .initialized ht hu⟩

lemma declaration_splits {d : Decl} (h : Reads (declaration stop ts) d rest) :
    Phrase.declaration.Splits ts rest := by
  obtain ⟨constant, int, a, pointer, b, constantToo, name, c, init, s, hconst, hint, hpointer,
    hconst', hname, hinit, hs, -⟩ := declaration_reads.mp h
  obtain ⟨u, rfl, hu⟩ := hconst.splits
  obtain ⟨v, rfl, hv⟩ := hpointer.splits
  obtain ⟨w, rfl, hw⟩ := hconst'.splits
  obtain ⟨i, rfl, hi⟩ := initializer_splits hinit
  exact ⟨u ++ int :: v ++ w ++ name :: i ++ [s], by simp, .declaration hu hint hv hw hname hi hs⟩

lemma condition_splits {e : Expr} (h : Reads (condition stop ts) e rest) :
    ∃ o u c, ts = o :: u ++ c :: rest ∧ o.is "(" = true ∧ Derives .expression u ∧
      c.is ")" = true := by
  obtain ⟨o, tail, c, ho, rfl, he, hc⟩ := condition_reads.mp h
  obtain ⟨u, rfl, hu⟩ := (readsPhrases _).expression he
  exact ⟨o, u, c, rfl, ho, hu, hc⟩

/-- What is read of statements is a phrase. -/
structure ReadsStatements (stop : Place) (ts : List Token) : Prop where
  statement : ∀ {s rest}, Reads (statement stop ts) s rest → Phrase.statement.Splits ts rest
  blockBody : ∀ {body rest}, Reads (blockBody stop ts) body rest →
    ∃ p c, ts = p ++ c :: rest ∧ Derives .program p ∧ c.is "\x7d" = true

lemma body_splits (hts : ReadsStatements stop ts) {s : Stmt} (h : Reads (body stop ts) s rest) :
    Phrase.statement.Splits ts rest := by
  rcases body_reads.mp h with h | ⟨h, -⟩
  · exact hts.statement h
  · exact hts.statement h

section Statements

variable (ih : ∀ ts', ts'.length < ts.length → ReadsStatements stop ts')
include ih

lemma statement_splits {s : Option Stmt} (h : Reads (statement stop ts) s rest) :
    Phrase.statement.Splits ts rest := by
  cases statement_reads.mp h with
  | empty ht => exact ⟨[_], rfl, .empty ht⟩
  | block ht hbody =>
      obtain ⟨p, c, rfl, hp, hc⟩ := (ih _ (by simp)).blockBody hbody
      exact ⟨_ :: p ++ [c], by simp, .block ht hp hc⟩
  | decl _ hd =>
      obtain ⟨u, hu, hd⟩ := declaration_splits hd
      exact ⟨u, hu, .decl hd⟩
  | ifThen ht hcond hyes _ =>
      obtain ⟨o, e, c, rfl, ho, he, hc⟩ := condition_splits hcond
      obtain ⟨s, rfl, hs⟩ := body_splits (ih _ (by simp; omega)) hyes
      exact ⟨_ :: o :: e ++ c :: s, by simp, .ifThen ht ho he hc hs⟩
  | ifElse ht hcond hyes hu hno =>
      obtain ⟨o, e, c, rfl, ho, he, hc⟩ := condition_splits hcond
      obtain ⟨s, rfl, hs⟩ := body_splits (ih _ (by simp; omega)) hyes
      obtain ⟨s', rfl, hs'⟩ := body_splits (ih _ (by simp; omega)) hno
      exact ⟨_ :: o :: e ++ c :: s ++ _ :: s', by simp, .ifElse ht ho he hc hs hu hs'⟩
  | whileDo ht hcond hagain =>
      obtain ⟨o, e, c, rfl, ho, he, hc⟩ := condition_splits hcond
      obtain ⟨s, rfl, hs⟩ := body_splits (ih _ (by simp; omega)) hagain
      exact ⟨_ :: o :: e ++ c :: s, by simp, .whileDo ht ho he hc hs⟩
  | expr _ he hu =>
      obtain ⟨e, heq, he⟩ := (readsPhrases _).expression he
      exact ⟨e ++ [_], by simp [heq], .expr he hu⟩

lemma blockBody_splits {body : List Stmt} (h : Reads (blockBody stop ts) body rest) :
    ∃ p c, ts = p ++ c :: rest ∧ Derives .program p ∧ c.is "\x7d" = true := by
  rcases blockBody_reads.mp h with ⟨c, hc, rfl, -⟩ | ⟨-, s, mid, later, hs, hlater, -⟩
  · exact ⟨[], c, rfl, .done, hc⟩
  · obtain ⟨p, c, rfl, hp, hc⟩ := (ih mid hs.lt).blockBody hlater
    obtain ⟨u, rfl, hu⟩ := statement_splits ih hs
    exact ⟨u ++ p, c, by simp, .next hu hp, hc⟩

end Statements

lemma readsStatements (ts : List Token) : ReadsStatements stop ts :=
  have ih : ∀ ts', ts'.length < ts.length → ReadsStatements stop ts' :=
    fun ts' _ => readsStatements ts'
  ⟨statement_splits ih, blockBody_splits ih⟩
termination_by ts.length

/-- What is read as a program derives from the grammar. -/
lemma derives_of_program {ts : List Token} {p : List Stmt} (h : program stop ts = .ok p) :
    Derives .program ts := by
  rcases program_ok.mp h with ⟨rfl, -⟩ | ⟨s, mid, later, hs, hlater, -⟩
  · exact .done
  · have hp := derives_of_program hlater
    obtain ⟨u, rfl, hu⟩ := (readsStatements _).statement hs
    exact .next hu hp
termination_by ts.length
decreasing_by exact hs.lt

end Mailroom.Source
