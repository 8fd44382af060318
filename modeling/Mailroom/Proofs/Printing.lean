import Mathlib
import Mailroom.Proofs.Chains
import Mailroom.Proofs.Text

/-!
# Printed trees are read back

A tree is printed with parentheses around every operand, every condition that is joined to others,
every value that is assigned and every value that a variable starts with.  Nothing is left then that
precedence or association could settle, and reading gives the tree again, apart from its lines,
which depend on where the tokens are put.

Two things cannot be printed.  A literal may have too many digits to be read.  And an `else` belongs
to the last branch in front of it that has none, so that the branch it is meant for must not end
with such a branch (`Stmt.endsOpen`).

- `Expr.bare`, `Stmt.bare`: trees without lines.
- `Expr.print`, `Stmt.print`: trees as tokens.
- `Expr.ReadBack`: reading gives the expression again, whichever tokens follow; closed under every
  kind of expression.
- `Expr.readBack`, `Stmt.readBack`: an induction on the tree, for all tokens that may follow.
- `program_print`: printed programs are read back.
-/

namespace Mailroom.Source

open Text

/-! ## Trees without lines -/

/-- A variable without its line. -/
def Var.bare (v : Var) : Var :=
  { v with line := 0 }

mutual

/-- An expression without its lines. -/
def Expr.bare : Expr → Expr
  | .num n _ => .num n 0
  | .bool b _ => .bool b 0
  | .var v => .var v.bare
  | .call function _ => .call function 0
  | .callWith function arg _ => .callWith function arg.bare 0
  | .assign target value _ => .assign target.bare value.bare 0
  | .bump target direction post _ => .bump target.bare direction post 0
  | .sum op left right _ => .sum op left.bare right.bare 0
  | .compare op left right _ => .compare op left.bare right.bare 0
  | .logical op first others _ => .logical op first.bare others.bare 0

/-- Conditions without their lines. -/
def Operands.bare : Operands → Operands
  | .last e => .last e.bare
  | .more e others => .more e.bare others.bare

end

/-- A declaration without its lines. -/
def Decl.bare (d : Decl) : Decl :=
  { d with init := d.init.map Expr.bare, line := 0 }

mutual

/-- A statement without its lines. -/
def Stmt.bare : Stmt → Stmt
  | .decl d => .decl d.bare
  | .expr e _ => .expr e.bare 0
  | .ifThen cond body _ => .ifThen cond.bare body.bare 0
  | .ifElse cond body other _ => .ifElse cond.bare body.bare other.bare 0
  | .whileDo cond body _ => .whileDo cond.bare body.bare 0
  | .block body _ => .block (bareAll body) 0

/-- Statements without their lines. -/
def bareAll : List Stmt → List Stmt
  | [] => []
  | s :: rest => s.bare :: bareAll rest

end

/-! ## Trees as tokens -/

/-- What a token is, wherever it stands. -/
abbrev Spelling := TokenKind × String

/-- The spelling of a token. -/
def Token.spelling (t : Token) : Spelling :=
  (t.kind, t.text)

/-- The spelling of an operator. -/
def sign (text : String) : Spelling :=
  (.op, text)

/-- The spelling of a keyword. -/
def word (text : String) : Spelling :=
  (.keyword, text)

/-- Something in parentheses. -/
def parenthesized (inner : List Spelling) : List Spelling :=
  sign "(" :: inner ++ [sign ")"]

/-- A variable as it is printed. -/
def Var.print (v : Var) : List Spelling :=
  if v.deref then [sign "*", (.name, v.name)] else [(.name, v.name)]

mutual

/-- An expression as it is printed, with parentheses around all its operands. -/
def Expr.print : Expr → List Spelling
  | .num n _ => [(.number, Numeral.natText n)]
  | .bool b _ => [word (if b then "true" else "false")]
  | .var v => v.print
  | .call function _ => [(.name, function), sign "(", sign ")"]
  | .callWith function arg _ => (.name, function) :: parenthesized arg.print
  | .assign target value _ => target.print ++ sign "=" :: parenthesized value.print
  | .bump target direction post _ =>
    if post then target.print ++ [sign direction.text] else sign direction.text :: target.print
  | .sum op left right _ => parenthesized left.print ++ sign op.text :: parenthesized right.print
  | .compare op left right _ =>
    parenthesized left.print ++ sign op.text :: parenthesized right.print
  | .logical op first others _ => parenthesized first.print ++ others.print op

/-- Conditions behind the first one as they are printed, each behind a connective. -/
def Operands.print (op : Connective) : Operands → List Spelling
  | .last e => sign op.text :: parenthesized e.print
  | .more e others => sign op.text :: parenthesized e.print ++ others.print op

end

/-- A declaration as it is printed, with parentheses around the value. -/
def Decl.print (d : Decl) : List Spelling :=
  (if d.constant then [word "const"] else []) ++ word "int" ::
    (if d.pointer then [sign "*"] else []) ++ (.name, d.name) ::
      d.init.elim [] (fun e => sign "=" :: parenthesized e.print) ++ [sign ";"]

mutual

/-- A statement as it is printed. -/
def Stmt.print : Stmt → List Spelling
  | .decl d => d.print
  | .expr e _ => e.print ++ [sign ";"]
  | .ifThen cond body _ => word "if" :: parenthesized cond.print ++ body.print
  | .ifElse cond body other _ =>
    word "if" :: parenthesized cond.print ++ body.print ++ word "else" :: other.print
  | .whileDo cond body _ => word "while" :: parenthesized cond.print ++ body.print
  | .block body _ => sign "\x7b" :: printAll body ++ [sign "\x7d"]

/-- Statements as they are printed. -/
def printAll : List Stmt → List Spelling
  | [] => []
  | s :: rest => s.print ++ printAll rest

end

/-! ## Trees that can be printed -/

mutual

/-- Whether all literals of an expression keep within the limit on digits. -/
def Expr.writable : Expr → Bool
  | .num n _ => Numeral.fits n
  | .bool _ _ | .var _ | .call _ _ | .bump _ _ _ _ => true
  | .callWith _ arg _ => arg.writable
  | .assign _ value _ => value.writable
  | .sum _ left right _ | .compare _ left right _ => left.writable && right.writable
  | .logical _ first others _ => first.writable && others.writable

/-- Whether all literals of conditions keep within the limit on digits. -/
def Operands.writable : Operands → Bool
  | .last e => e.writable
  | .more e others => e.writable && others.writable

end

/-- Whether a statement ends with a branch that may still get an `else`. -/
def Stmt.endsOpen : Stmt → Bool
  | .decl _ | .expr _ _ | .block _ _ => false
  | .ifThen _ _ _ => true
  | .ifElse _ _ other _ => other.endsOpen
  | .whileDo _ body _ => body.endsOpen

mutual

/-- Whether all literals of a statement keep within the limit on digits, and no `else` stands where
it would be that of a branch further in. -/
def Stmt.writable : Stmt → Bool
  | .decl d => d.init.all Expr.writable
  | .expr e _ => e.writable
  | .ifThen cond body _ | .whileDo cond body _ => cond.writable && body.writable
  | .ifElse cond body other _ =>
    cond.writable && !body.endsOpen && body.writable && other.writable
  | .block body _ => writableAll body

/-- Whether all of the statements are such. -/
def writableAll : List Stmt → Bool
  | [] => true
  | s :: rest => s.writable && writableAll rest

end

variable {stop : Place} {ts rest : List Token}

/-! ## Spellings -/

lemma Token.spelling_eq {t : Token} {kind : TokenKind} {text : String} :
    t.spelling = (kind, text) ↔ t.kind = kind ∧ t.text = text :=
  Prod.mk.injEq .. ▸ Iff.rfl

lemma Token.is_of_sign {t : Token} {text : String} (h : t.spelling = sign text) :
    t.is text = true :=
  have ⟨hkind, htext⟩ := spelling_eq.mp h
  is_iff.mpr ⟨.inl hkind, htext⟩

lemma Token.is_of_word {t : Token} {text : String} (h : t.spelling = word text) :
    t.is text = true :=
  have ⟨hkind, htext⟩ := spelling_eq.mp h
  is_iff.mpr ⟨.inr hkind, htext⟩

lemma Token.sum?_of_sign {t : Token} {op : SumOp} (h : t.spelling = sign op.text) :
    t.sum? = some op := by
  obtain ⟨hkind, htext⟩ := spelling_eq.mp h
  cases op <;> simp [Token.sum?, Token.isOp, hkind, htext, SumOp.text]

lemma Token.comparison?_of_sign {t : Token} {op : Comparison} (h : t.spelling = sign op.text) :
    t.comparison? = some op := by
  obtain ⟨hkind, htext⟩ := spelling_eq.mp h
  rw [Token.comparison?, if_pos hkind, htext]
  cases op <;> decide

lemma Token.bump?_of_sign {t : Token} {direction : Bump}
    (h : t.spelling = sign direction.text) : t.bump? = some direction :=
  bump?_eq_some.mpr (is_of_sign h)

/-- Something in parentheses, token by token. -/
lemma exists_parenthesized {inner : List Spelling}
    (h : ts.map Token.spelling = parenthesized inner) :
    ∃ o u c, ts = o :: u ++ [c] ∧ o.is "(" = true ∧ u.map Token.spelling = inner ∧
      c.is ")" = true := by
  obtain ⟨o, tail, rfl, ho, htail⟩ := List.map_eq_cons_iff.mp h
  obtain ⟨u, v, rfl, hu, hv⟩ := List.map_eq_append_iff.mp htail
  obtain ⟨c, nothing, rfl, hc, hnothing⟩ := List.map_eq_cons_iff.mp hv
  obtain rfl := List.map_eq_nil_iff.mp hnothing
  exact ⟨o, u, c, rfl, Token.is_of_sign ho, hu, Token.is_of_sign hc⟩

/-! ## Operands are expressions -/

lemma additive_of_unary {e : Expr} (h : Reads (unary stop ts) e rest)
    (hnext : ∀ t ∈ rest.head?, t.sum? = none ∧ t.isProduct = false) :
    Reads (additive stop ts) e rest :=
  additive_reads.mpr ⟨e, rest, h, addends_reads.mpr (.inl ⟨rfl, rfl, hnext⟩)⟩

lemma comparison_of_additive {e : Expr} (h : Reads (additive stop ts) e rest)
    (hnext : ∀ t ∈ rest.head?, t.comparison? = none) : Reads (comparison stop ts) e rest :=
  comparison_reads.mpr ⟨e, rest, h, .inl ⟨rfl, rfl, hnext⟩⟩

lemma conjunction_of_comparison {e : Expr} (h : Reads (comparison stop ts) e rest)
    (hnext : NotNext "&&" rest) : Reads (conjunction stop ts) e rest :=
  (conjunction_joins stop).reads.mpr
    ⟨e, rest, [], h, (conjuncts_repeats stop).reads.mpr (.inl ⟨rfl, rfl, hnext⟩), rfl⟩

lemma expression_of_conjunction {e : Expr} (h : Reads (conjunction stop ts) e rest)
    (hnext : NotNext "||" rest) : Reads (expression stop ts) e rest :=
  (expression_joins stop).reads.mpr
    ⟨e, rest, [], h, (disjuncts_repeats stop).reads.mpr (.inl ⟨rfl, rfl, hnext⟩), rfl⟩

lemma Closing.noAddend (h : Closing rest) :
    ∀ t ∈ rest.head?, t.sum? = none ∧ t.isProduct = false :=
  fun t ht => ⟨h.sum?_eq_none t ht, h.isProduct_eq_false t ht⟩

lemma expression_of_comparison {e : Expr} (h : Reads (comparison stop ts) e rest)
    (hrest : Closing rest) : Reads (expression stop ts) e rest :=
  expression_of_conjunction
    (conjunction_of_comparison h (hrest.notNext (by simp) (by simp)))
    (hrest.notNext (by simp) (by simp))

lemma expression_of_additive {e : Expr} (h : Reads (additive stop ts) e rest)
    (hrest : Closing rest) : Reads (expression stop ts) e rest :=
  expression_of_comparison (comparison_of_additive h hrest.comparison?_eq_none) hrest

lemma expression_of_unary {e : Expr} (h : Reads (unary stop ts) e rest)
    (hrest : Closing rest) : Reads (expression stop ts) e rest :=
  expression_of_additive (additive_of_unary h hrest.noAddend) hrest

/-- Where a condition ends: at a connective, or where the whole expression ends. -/
def EndsCondition (op : Connective) (rest : List Token) : Prop :=
  Closing rest ∨ ∃ t tail, rest = t :: tail ∧ t.is op.text = true

lemma comparison_of_unary {e : Expr} {op : Connective} (h : Reads (unary stop ts) e rest)
    (hrest : EndsCondition op rest) : Reads (comparison stop ts) e rest := by
  rcases hrest with hrest | ⟨t, tail, rfl, ht⟩
  · exact comparison_of_additive (additive_of_unary h hrest.noAddend) hrest.comparison?_eq_none
  · refine comparison_of_additive (additive_of_unary h ?_) ?_
    · rintro u ⟨⟩
      cases op <;> simp [Token.sum?, Token.isProduct, Token.isOp_of_is ht, Connective.text]
    · rintro u ⟨⟩
      exact Token.comparison?_of_is ht (by cases op <;> decide)

lemma conjunction_of_unary {e : Expr} (h : Reads (unary stop ts) e rest)
    (hrest : EndsCondition .or rest) : Reads (conjunction stop ts) e rest := by
  refine conjunction_of_comparison (comparison_of_unary h hrest) ?_
  rcases hrest with hrest | ⟨t, tail, rfl, ht⟩
  · exact hrest.notNext (by simp) (by simp)
  · exact notNext_cons (by simp [Token.is_of_is ht, Connective.text]) tail

/-! ## Expressions are read back -/

/-- The printed expression is read as an expression that is the same up to lines. -/
def Expr.ReadBack (stop : Place) (e : Expr) : Prop :=
  ∀ ⦃ts rest : List Token⦄, ts.map Token.spelling = e.print → Closing rest →
    ∃ e', Reads (expression stop (ts ++ rest)) e' rest ∧ e'.bare = e.bare

/-- In parentheses it is read as an operand, whatever is behind it. -/
lemma Expr.ReadBack.operand {e : Expr} (he : e.ReadBack stop)
    (hts : ts.map Token.spelling = parenthesized e.print) (rest : List Token) :
    ∃ e', Reads (unary stop (ts ++ rest)) e' rest ∧ e'.bare = e.bare := by
  obtain ⟨o, u, c, rfl, ho, hu, hc⟩ := exists_parenthesized hts
  obtain ⟨e', hreads, hbare⟩ := he hu ⟨c, rest, rfl, .inl hc⟩
  have hshape : o :: u ++ [c] ++ rest = o :: (u ++ c :: rest) := by simp
  rw [hshape]
  exact ⟨e', unary_reads.mpr (.paren ho hreads hc), hbare⟩

lemma Var.names_of_print {v : Var} (hts : ts.map Token.spelling = v.print) (rest : List Token) :
    ∃ v', Names (ts ++ rest) v' rest ∧ v'.bare = v.bare := by
  rw [Var.print] at hts
  split at hts
  · rename_i hderef
    obtain ⟨s, tail, rfl, hs, htail⟩ := List.map_eq_cons_iff.mp hts
    obtain ⟨n, nothing, rfl, hn, hnothing⟩ := List.map_eq_cons_iff.mp htail
    obtain rfl := List.map_eq_nil_iff.mp hnothing
    obtain ⟨hkind, htext⟩ := Token.spelling_eq.mp hn
    exact ⟨_, .pointed (Token.is_of_sign hs) hkind, by simp [Var.bare, htext, hderef]⟩
  · rename_i hderef
    obtain ⟨n, nothing, rfl, hn, hnothing⟩ := List.map_eq_cons_iff.mp hts
    obtain rfl := List.map_eq_nil_iff.mp hnothing
    obtain ⟨hkind, htext⟩ := Token.spelling_eq.mp hn
    exact ⟨_, .plain hkind, by simp [Var.bare, htext, hderef]⟩

section Joined

variable {part whole : (ts : List Token) → Except SourceError (Expr × Rest ts)}
  {more : (ts : List Token) → Except SourceError (List Expr × Kept ts)} {op : Connective}

/-- Conditions behind the first one are read back, whichever connective is between them. -/
lemma Operands.reads_more (hmore : Repeats op.text part more)
    (hpart : ∀ {ts rest e}, Reads (unary stop ts) e rest → EndsCondition op rest →
      Reads (part ts) e rest) (others : Operands)
    (hothers : ∀ e ∈ others.toList, e.ReadBack stop) {ts : List Token}
    (hts : ts.map Token.spelling = others.print op) (hrest : Closing rest) :
    (∃ e es, Reads (more (ts ++ rest)) (e :: es) rest ∧
      (Operands.ofList e es).bare = others.bare) ∧ EndsCondition op (ts ++ rest) := by
  cases others with
  | last e =>
      rw [Operands.print] at hts
      obtain ⟨o, u, rfl, ho, hu⟩ := List.map_eq_cons_iff.mp hts
      have hstop : NotNext op.text rest := by
        refine hrest.notNext ?_ ?_ <;> cases op <;> simp [Connective.text]
      obtain ⟨e', he', hbare⟩ := (hothers e (by simp [toList])).operand hu rest
      have hnil : Reads (more rest) [] rest := hmore.reads.mpr (.inl ⟨rfl, rfl, hstop⟩)
      refine ⟨⟨e', [], hmore.reads.mpr (.inr ⟨o, u ++ rest, e', rest, [], Token.is_of_sign ho, rfl,
        hpart he' (.inl hrest), hnil, rfl⟩), ?_⟩, .inr ⟨o, u ++ rest, rfl, Token.is_of_sign ho⟩⟩
      rw [Operands.ofList, Operands.bare, Operands.bare, hbare]
  | more e others =>
      rw [Operands.print, List.cons_append] at hts
      obtain ⟨o, tail, rfl, ho, htail⟩ := List.map_eq_cons_iff.mp hts
      obtain ⟨u, v, rfl, hu, hv⟩ := List.map_eq_append_iff.mp htail
      obtain ⟨⟨e₂, es, hes, hbare'⟩, hends⟩ := reads_more hmore hpart others
        (fun e he => hothers e (by simp [toList, he])) hv hrest
      obtain ⟨e', he', hbare⟩ := (hothers e (by simp [toList])).operand hu (v ++ rest)
      rw [List.cons_append, List.append_assoc]
      refine ⟨⟨e', e₂ :: es, hmore.reads.mpr (.inr ⟨o, u ++ (v ++ rest), e', v ++ rest, e₂ :: es,
        Token.is_of_sign ho, rfl, hpart he' hends, hes, rfl⟩), ?_⟩,
        .inr ⟨o, u ++ (v ++ rest), rfl, Token.is_of_sign ho⟩⟩
      rw [Operands.ofList, Operands.bare, Operands.bare, hbare, hbare']
termination_by structural others

/-- Joined conditions are read back. -/
lemma reads_joined (hwhole : Joins stop op part more whole) (hmore : Repeats op.text part more)
    (hpart : ∀ {ts rest e}, Reads (unary stop ts) e rest → EndsCondition op rest →
      Reads (part ts) e rest) {first : Expr} {others : Operands} {line : Nat}
    (hfirst : first.ReadBack stop) (hothers : ∀ e ∈ others.toList, e.ReadBack stop)
    (hts : ts.map Token.spelling = (Expr.logical op first others line).print)
    (hrest : Closing rest) :
    ∃ e', Reads (whole (ts ++ rest)) e' rest ∧
      e'.bare = (Expr.logical op first others line).bare := by
  rw [Expr.print] at hts
  obtain ⟨u, v, rfl, hu, hv⟩ := List.map_eq_append_iff.mp hts
  obtain ⟨⟨e, es, hes, hbare'⟩, hends⟩ := others.reads_more hmore hpart hothers hv hrest
  obtain ⟨first', hfirst', hbare⟩ := hfirst.operand hu (v ++ rest)
  rw [List.append_assoc]
  refine ⟨_, hwhole.reads.mpr ⟨first', v ++ rest, e :: es, hpart hfirst' hends, hes, rfl⟩, ?_⟩
  rw [Expr.join, Expr.bare, Expr.bare, hbare, hbare']

end Joined

namespace Expr.ReadBack

variable {e left right : Expr} {line : Nat}

/-! One lemma for each kind of expression, given that its parts are read back. -/

lemma num {n : Nat} (hfits : (Expr.num n line).writable = true) :
    (Expr.num n line).ReadBack stop := by
  intro ts rest hts hrest
  obtain ⟨t, nothing, rfl, ht, hnothing⟩ := List.map_eq_cons_iff.mp hts
  obtain rfl := List.map_eq_nil_iff.mp hnothing
  obtain ⟨hkind, htext⟩ := Token.spelling_eq.mp ht
  have hvalue : t.value = .ok n := by
    rw [Expr.writable] at hfits
    rw [Token.value, htext, Numeral.natText, String.toList_ofList, Numeral.read_toDigits,
      if_pos hfits]
    rfl
  exact ⟨_, expression_of_unary (unary_reads.mpr (.number hkind hvalue)) hrest, rfl⟩

lemma bool (b : Bool) : (Expr.bool b line).ReadBack stop := by
  intro ts rest hts hrest
  obtain ⟨t, nothing, rfl, ht, hnothing⟩ := List.map_eq_cons_iff.mp hts
  obtain rfl := List.map_eq_nil_iff.mp hnothing
  have his := Token.is_of_word ht
  cases b with
  | true => exact ⟨_, expression_of_unary (unary_reads.mpr (.truth his)) hrest, rfl⟩
  | false => exact ⟨_, expression_of_unary (unary_reads.mpr (.falsity his)) hrest, rfl⟩

lemma var (v : Var) : (Expr.var v).ReadBack stop := by
  intro ts rest hts hrest
  obtain ⟨v', hnames, hbare⟩ := v.names_of_print hts rest
  refine ⟨.var v', expression_of_unary (unary_reads.mpr (.var hnames ?_)) hrest, ?_⟩
  · intro t ht
    exact ⟨hrest.notNext (by simp) (by simp) t ht, hrest.bump?_eq_none t ht,
      fun _ => hrest.notNext (by simp) (by simp) t ht⟩
  · rw [Expr.bare, Expr.bare, hbare]

lemma call (function : String) : (Expr.call function line).ReadBack stop := by
  intro ts rest hts hrest
  obtain ⟨n, tail, rfl, hn, htail⟩ := List.map_eq_cons_iff.mp hts
  obtain ⟨o, tail, rfl, ho, htail⟩ := List.map_eq_cons_iff.mp htail
  obtain ⟨c, nothing, rfl, hc, hnothing⟩ := List.map_eq_cons_iff.mp htail
  obtain rfl := List.map_eq_nil_iff.mp hnothing
  obtain ⟨hkind, htext⟩ := Token.spelling_eq.mp hn
  refine ⟨_, expression_of_unary (unary_reads.mpr
    (.call hkind (Token.is_of_sign ho) (Token.is_of_sign hc))) hrest, ?_⟩
  rw [Expr.bare, Expr.bare, htext]

lemma callWith (function : String) (he : e.ReadBack stop) :
    (Expr.callWith function e line).ReadBack stop := by
  intro ts rest hts hrest
  rw [Expr.print] at hts
  obtain ⟨n, tail, rfl, hn, htail⟩ := List.map_eq_cons_iff.mp hts
  obtain ⟨hkind, htext⟩ := Token.spelling_eq.mp hn
  obtain ⟨o, u, c, rfl, ho, hu, hc⟩ := exists_parenthesized htail
  obtain ⟨arg', hreads, hbare⟩ := he hu ⟨c, rest, rfl, .inl hc⟩
  -- No expression starts with the parenthesis that closes a call without an argument.
  obtain ⟨w, heq, hw⟩ := (readsPhrases _).expression hreads
  have hnext : NotNext ")" (u ++ c :: rest) := heq ▸ hw.notNext (by simp) _
  have hshape : n :: (o :: u ++ [c]) ++ rest = n :: o :: (u ++ c :: rest) := by simp
  rw [hshape]
  refine ⟨_, expression_of_unary (unary_reads.mpr (.callWith hkind ho hnext hreads hc)) hrest, ?_⟩
  rw [Expr.bare, Expr.bare, htext, hbare]

lemma assign (target : Var) (he : e.ReadBack stop) :
    (Expr.assign target e line).ReadBack stop := by
  intro ts rest hts hrest
  rw [Expr.print] at hts
  obtain ⟨p, tail, rfl, hp, htail⟩ := List.map_eq_append_iff.mp hts
  obtain ⟨o, u, rfl, ho, hu⟩ := List.map_eq_cons_iff.mp htail
  obtain ⟨value', hreads, hbare⟩ := he.operand hu rest
  obtain ⟨target', hnames, hbare'⟩ := target.names_of_print hp (o :: u ++ rest)
  rw [List.append_assoc]
  refine ⟨_, expression_of_unary (unary_reads.mpr (.assign hnames (Token.is_of_sign ho)
    (expression_of_unary hreads hrest))) hrest, ?_⟩
  rw [Expr.bare, Expr.bare, hbare, hbare']

lemma bump (target : Var) (direction : Bump) (post : Bool) :
    (Expr.bump target direction post line).ReadBack stop := by
  intro ts rest hts hrest
  cases post with
  | true =>
      obtain ⟨p, tail, rfl, hp, htail⟩ := List.map_eq_append_iff.mp hts
      obtain ⟨o, nothing, rfl, ho, hnothing⟩ := List.map_eq_cons_iff.mp htail
      obtain rfl := List.map_eq_nil_iff.mp hnothing
      obtain ⟨target', hnames, hbare⟩ := target.names_of_print hp (o :: rest)
      rw [List.append_assoc, List.singleton_append]
      refine ⟨_, expression_of_unary (unary_reads.mpr
        (.after hnames (Token.bump?_of_sign ho))) hrest, ?_⟩
      rw [Expr.bare, Expr.bare, hbare]
  | false =>
      obtain ⟨o, p, rfl, ho, hp⟩ := List.map_eq_cons_iff.mp hts
      obtain ⟨target', hnames, hbare⟩ := target.names_of_print hp rest
      refine ⟨_, expression_of_unary (unary_reads.mpr
        (.before (Token.bump?_of_sign ho) hnames)) hrest, ?_⟩
      rw [Expr.bare, Expr.bare, hbare]

/-- Two operands are read back on the two sides of the token between them. -/
lemma operands (hleft : left.ReadBack stop) (hright : right.ReadBack stop) {between : Spelling}
    (hts : ts.map Token.spelling =
      parenthesized left.print ++ between :: parenthesized right.print) (rest : List Token) :
    ∃ o tail left' right', o.spelling = between ∧ left'.bare = left.bare ∧
      right'.bare = right.bare ∧ Reads (unary stop (ts ++ rest)) left' (o :: tail) ∧
      Reads (unary stop tail) right' rest := by
  obtain ⟨a, tail, rfl, ha, htail⟩ := List.map_eq_append_iff.mp hts
  obtain ⟨o, b, rfl, ho, hb⟩ := List.map_eq_cons_iff.mp htail
  obtain ⟨left', hl, hbare⟩ := hleft.operand ha (o :: b ++ rest)
  obtain ⟨right', hr, hbare'⟩ := hright.operand hb rest
  rw [List.append_assoc]
  exact ⟨o, b ++ rest, left', right', ho, hbare, hbare', hl, hr⟩

lemma sum (op : SumOp) (hleft : left.ReadBack stop) (hright : right.ReadBack stop) :
    (Expr.sum op left right line).ReadBack stop := by
  intro ts rest hts hrest
  rw [Expr.print] at hts
  obtain ⟨o, tail, left', right', ho, hbare, hbare', hl, hr⟩ := hleft.operands hright hts rest
  have hlast : Reads (addends stop (.sum op left' right' o.place.line) rest) _ rest :=
    addends_reads.mpr (.inl ⟨rfl, rfl, hrest.noAddend⟩)
  have hmore := addends_reads.mpr
    (.inr ⟨o, tail, op, right', rest, Token.sum?_of_sign ho, rfl, hr, hlast⟩)
  refine ⟨_, expression_of_additive (additive_reads.mpr ⟨left', _, hl, hmore⟩) hrest, ?_⟩
  rw [Expr.bare, Expr.bare, hbare, hbare']

lemma compare (op : Comparison) (hleft : left.ReadBack stop) (hright : right.ReadBack stop) :
    (Expr.compare op left right line).ReadBack stop := by
  intro ts rest hts hrest
  rw [Expr.print] at hts
  obtain ⟨o, tail, left', right', ho, hbare, hbare', hl, hr⟩ := hleft.operands hright hts rest
  have hl' : Reads (additive stop (ts ++ rest)) left' (o :: tail) := by
    refine additive_of_unary hl ?_
    rintro t ⟨⟩
    have his := Token.is_of_sign ho
    cases op <;> simp [Token.sum?, Token.isProduct, Token.isOp_of_is his, Comparison.text]
  have hr' := additive_of_unary hr hrest.noAddend
  refine ⟨_, expression_of_comparison (comparison_reads.mpr ⟨left', _, hl',
    .inr ⟨o, tail, op, right', Token.comparison?_of_sign ho, rfl, hr', rfl⟩⟩) hrest, ?_⟩
  rw [Expr.bare, Expr.bare, hbare, hbare']

lemma logical (op : Connective) {others : Operands} (he : e.ReadBack stop)
    (hothers : ∀ e ∈ others.toList, e.ReadBack stop) :
    (Expr.logical op e others line).ReadBack stop := by
  intro ts rest hts hrest
  cases op with
  | or =>
      exact reads_joined (expression_joins stop) (disjuncts_repeats stop) conjunction_of_unary
        he hothers hts hrest
  | and =>
      obtain ⟨e', hreads, hbare⟩ := reads_joined (conjunction_joins stop)
        (conjuncts_repeats stop) comparison_of_unary he hothers hts hrest
      exact ⟨e', expression_of_conjunction hreads (hrest.notNext (by simp) (by simp)), hbare⟩

end Expr.ReadBack

mutual

/-- **Printed expressions are read back.** -/
lemma Expr.readBack (stop : Place) (e : Expr) (hfits : e.writable = true) : e.ReadBack stop := by
  cases e with
  | num n line => exact .num hfits
  | bool b line => exact .bool b
  | var v => exact .var v
  | call function line => exact .call function
  | callWith function arg line =>
      exact .callWith function (arg.readBack stop (by simpa [Expr.writable] using hfits))
  | assign target value line =>
      exact .assign target (value.readBack stop (by simpa [Expr.writable] using hfits))
  | bump target direction post line => exact .bump target direction post
  | sum op left right line =>
      rw [Expr.writable, Bool.and_eq_true] at hfits
      exact .sum op (left.readBack stop hfits.1) (right.readBack stop hfits.2)
  | compare op left right line =>
      rw [Expr.writable, Bool.and_eq_true] at hfits
      exact .compare op (left.readBack stop hfits.1) (right.readBack stop hfits.2)
  | logical op first others line =>
      rw [Expr.writable, Bool.and_eq_true] at hfits
      exact .logical op (first.readBack stop hfits.1) (others.readBack stop hfits.2)
termination_by structural e

lemma Operands.readBack (stop : Place) (others : Operands) (hfits : others.writable = true) :
    ∀ e ∈ others.toList, e.ReadBack stop := by
  cases others with
  | last e =>
      rw [Operands.toList, List.forall_mem_singleton]
      exact e.readBack stop hfits
  | more e others =>
      rw [Operands.writable, Bool.and_eq_true] at hfits
      rw [Operands.toList, List.forall_mem_cons]
      exact ⟨e.readBack stop hfits.1, others.readBack stop hfits.2⟩
termination_by structural others

end

/-! ## Statements are read back -/

lemma reads_initializer {init : Option Expr} (hfits : init.all Expr.writable = true)
    (hts : ts.map Token.spelling =
      init.elim [] (fun e => sign "=" :: parenthesized e.print)) {s : Token}
    (hs : s.is ";" = true) (rest : List Token) :
    ∃ init', Reads (declaration.initializer stop (ts ++ s :: rest)) init' (s :: rest) ∧
      init'.map Expr.bare = init.map Expr.bare := by
  cases init with
  | none =>
      obtain rfl := List.map_eq_nil_iff.mp hts
      exact ⟨none, initializer_reads.mpr
        (.inl ⟨rfl, rfl, notNext_cons (by simp [Token.is_of_is hs]) rest⟩), rfl⟩
  | some e =>
      obtain ⟨o, u, rfl, ho, hu⟩ := List.map_eq_cons_iff.mp hts
      have he := e.readBack stop (by simpa using hfits)
      obtain ⟨e', hreads, hbare⟩ := he.operand hu (s :: rest)
      have hreads' := expression_of_unary hreads ⟨s, rest, rfl, .inr hs⟩
      refine ⟨some e', initializer_reads.mpr
        (.inr ⟨o, u ++ s :: rest, e', Token.is_of_sign ho, rfl, hreads', rfl⟩), ?_⟩
      rw [Option.map_some, Option.map_some, hbare]

/-- A token that is printed or not is found or not. -/
lemma accepts_of_print {text : String} {w : Spelling}
    (hw : ∀ t : Token, t.spelling = w → t.is text = true) {b : Bool}
    (hts : ts.map Token.spelling = if b then [w] else []) (hrest : NotNext text rest) :
    Accepts text (ts ++ rest) b rest := by
  cases b with
  | true =>
      obtain ⟨t, nothing, rfl, ht, hnothing⟩ := List.map_eq_cons_iff.mp hts
      obtain rfl := List.map_eq_nil_iff.mp hnothing
      exact .inl ⟨rfl, t, hw t ht, rfl⟩
  | false =>
      obtain rfl := List.map_eq_nil_iff.mp hts
      exact .inr ⟨rfl, hrest, rfl⟩

lemma reads_declaration {d : Decl} (hfits : d.init.all Expr.writable = true)
    (hts : ts.map Token.spelling = d.print) (rest : List Token) :
    ∃ t tail d', ts ++ rest = t :: tail ∧ (t.is "int" = true ∨ t.is "const" = true) ∧
      Reads (declaration stop (t :: tail)) d' rest ∧ d'.bare = d.bare := by
  simp only [Decl.print, List.append_assoc, List.cons_append] at hts
  obtain ⟨a, tail, rfl, ha, htail⟩ := List.map_eq_append_iff.mp hts
  obtain ⟨int, tail, rfl, hint, htail⟩ := List.map_eq_cons_iff.mp htail
  obtain ⟨b, tail, rfl, hb, htail⟩ := List.map_eq_append_iff.mp htail
  obtain ⟨n, tail, rfl, hn, htail⟩ := List.map_eq_cons_iff.mp htail
  obtain ⟨i, tail, rfl, hi, htail⟩ := List.map_eq_append_iff.mp htail
  obtain ⟨s, nothing, rfl, hs, hnothing⟩ := List.map_eq_cons_iff.mp htail
  obtain rfl := List.map_eq_nil_iff.mp hnothing
  obtain ⟨hkind, htext⟩ := Token.spelling_eq.mp hn
  have hint := Token.is_of_word hint
  have hs := Token.is_of_sign hs
  have hname : ∀ text more, NotNext text (n :: more) :=
    fun text more => notNext_cons (Token.is_of_kind (.inr hkind) text) more
  obtain ⟨init', hinit, hbare⟩ := reads_initializer hfits hi hs rest
  have hpointer : Accepts "*" (b ++ n :: (i ++ s :: rest)) d.pointer (n :: (i ++ s :: rest)) :=
    accepts_of_print (fun _ => Token.is_of_sign) hb (hname _ _)
  have hconst : Accepts "const" (a ++ int :: (b ++ n :: (i ++ s :: rest))) d.constant
      (int :: (b ++ n :: (i ++ s :: rest))) :=
    accepts_of_print (fun _ => Token.is_of_word) ha (notNext_cons (by simp [Token.is_of_is hint]) _)
  have hshape : a ++ int :: (b ++ n :: (i ++ [s])) ++ rest =
      a ++ int :: (b ++ n :: (i ++ s :: rest)) := by simp
  obtain ⟨t, tail, heq, ht⟩ : ∃ t tail, a ++ int :: (b ++ n :: (i ++ s :: rest)) = t :: tail ∧
      (t.is "int" = true ∨ t.is "const" = true) := by
    rcases hconst with ⟨-, t, ht, heq⟩ | ⟨-, -, heq⟩
    · exact ⟨t, _, heq, .inr ht⟩
    · exact ⟨int, _, heq.symm, .inl hint⟩
  have hreads := declaration_reads.mpr ⟨d.constant, int, _, d.pointer, _, false, n, _, init', s,
    hconst, hint, hpointer, .inr ⟨rfl, hname _ _, rfl⟩, hkind, hinit, hs, rfl⟩
  rw [heq] at hreads
  refine ⟨t, tail, _, by rw [hshape, heq], ht, hreads, ?_⟩
  simp [Decl.bare, htext, hbare]

lemma reads_condition {cond : Expr} (hfits : cond.writable = true)
    (hts : ts.map Token.spelling = parenthesized cond.print) (rest : List Token) :
    ∃ cond', Reads (condition stop (ts ++ rest)) cond' rest ∧ cond'.bare = cond.bare := by
  obtain ⟨o, u, c, rfl, ho, hu, hc⟩ := exists_parenthesized hts
  obtain ⟨cond', hreads, hbare⟩ := cond.readBack stop hfits hu ⟨c, rest, rfl, .inl hc⟩
  refine ⟨cond', condition_reads.mpr ⟨o, u ++ c :: rest, c, ho, by simp, hreads, hc⟩, hbare⟩

mutual

/-- **Printed statements are read back**, unless an `else` behind them would be taken for theirs. -/
lemma Stmt.readBack (stop : Place) (s : Stmt) (hfits : s.writable = true) {ts rest : List Token}
    (hts : ts.map Token.spelling = s.print) (hrest : s.endsOpen = true → NotNext "else" rest) :
    ∃ s', Reads (statement stop (ts ++ rest)) (some s') rest ∧ s'.bare = s.bare := by
  cases s with
  | decl d =>
      rw [Stmt.writable] at hfits
      rw [Stmt.print] at hts
      obtain ⟨t, tail, d', heq, ht, hreads, hbare⟩ := reads_declaration hfits hts rest
      rw [heq]
      refine ⟨.decl d', statement_reads.mpr (.decl ht hreads), ?_⟩
      rw [Stmt.bare, Stmt.bare, hbare]
  | expr e line =>
      rw [Stmt.writable] at hfits
      rw [Stmt.print] at hts
      obtain ⟨u, tail, rfl, hu, htail⟩ := List.map_eq_append_iff.mp hts
      obtain ⟨c, nothing, rfl, hc, hnothing⟩ := List.map_eq_cons_iff.mp htail
      obtain rfl := List.map_eq_nil_iff.mp hnothing
      have hc := Token.is_of_sign hc
      obtain ⟨e', hreads, hbare⟩ := e.readBack stop hfits hu ⟨c, rest, rfl, .inr hc⟩
      obtain ⟨w, heq, hw⟩ := (readsPhrases _).expression hreads
      rw [List.append_assoc, List.singleton_append, heq]
      rw [heq] at hreads
      obtain ⟨line', hutters⟩ := utters_expression hw hreads hc
      refine ⟨_, statement_reads.mpr hutters, ?_⟩
      rw [Stmt.bare, Stmt.bare, hbare]
  | ifThen cond body line =>
      rw [Stmt.writable, Bool.and_eq_true] at hfits
      rw [Stmt.print, List.cons_append] at hts
      obtain ⟨k, tail, rfl, hk, htail⟩ := List.map_eq_cons_iff.mp hts
      obtain ⟨u, v, rfl, hu, hv⟩ := List.map_eq_append_iff.mp htail
      have helse := hrest rfl
      obtain ⟨cond', hcond, hbare⟩ := reads_condition hfits.1 hu (v ++ rest)
      obtain ⟨body', hbody, hbare'⟩ := body.readBack stop hfits.2 hv fun _ => helse
      rw [List.cons_append, List.append_assoc]
      refine ⟨_, statement_reads.mpr (.ifThen (Token.is_of_word hk) hcond
        (body_reads.mpr (.inl hbody)) helse), ?_⟩
      rw [Stmt.bare, Stmt.bare, hbare, hbare']
  | ifElse cond body other line =>
      simp only [Stmt.writable, Bool.and_eq_true, Bool.not_eq_true'] at hfits
      obtain ⟨⟨⟨hcond, hclosed⟩, hbody⟩, hother⟩ := hfits
      simp only [Stmt.print, List.cons_append, List.append_assoc] at hts
      obtain ⟨k, tail, rfl, hk, htail⟩ := List.map_eq_cons_iff.mp hts
      obtain ⟨u, tail, rfl, hu, htail⟩ := List.map_eq_append_iff.mp htail
      obtain ⟨v, tail, rfl, hv, htail⟩ := List.map_eq_append_iff.mp htail
      obtain ⟨l, w, rfl, hl, hw⟩ := List.map_eq_cons_iff.mp htail
      obtain ⟨cond', hcond, hbare⟩ := reads_condition hcond hu (v ++ l :: w ++ rest)
      obtain ⟨body', hbody, hbare'⟩ := body.readBack stop hbody hv fun hopen => by
        rw [hclosed] at hopen
        cases hopen
      obtain ⟨other', hother, hbare''⟩ := other.readBack stop hother hw hrest
      have hshape : k :: (u ++ (v ++ l :: w)) ++ rest = k :: (u ++ (v ++ l :: (w ++ rest))) := by
        simp
      rw [List.append_assoc, List.cons_append] at hcond
      rw [hshape]
      refine ⟨_, statement_reads.mpr (.ifElse (Token.is_of_word hk) hcond
        (body_reads.mpr (.inl hbody)) (Token.is_of_word hl) (body_reads.mpr (.inl hother))), ?_⟩
      rw [Stmt.bare, Stmt.bare, hbare, hbare', hbare'']
  | whileDo cond body line =>
      rw [Stmt.writable, Bool.and_eq_true] at hfits
      rw [Stmt.print, List.cons_append] at hts
      obtain ⟨k, tail, rfl, hk, htail⟩ := List.map_eq_cons_iff.mp hts
      obtain ⟨u, v, rfl, hu, hv⟩ := List.map_eq_append_iff.mp htail
      obtain ⟨cond', hcond, hbare⟩ := reads_condition hfits.1 hu (v ++ rest)
      obtain ⟨body', hbody, hbare'⟩ := body.readBack stop hfits.2 hv hrest
      rw [List.cons_append, List.append_assoc]
      refine ⟨_, statement_reads.mpr (.whileDo (Token.is_of_word hk) hcond
        (body_reads.mpr (.inl hbody))), ?_⟩
      rw [Stmt.bare, Stmt.bare, hbare, hbare']
  | block body line =>
      rw [Stmt.writable] at hfits
      rw [Stmt.print, List.cons_append] at hts
      obtain ⟨o, tail, rfl, ho, htail⟩ := List.map_eq_cons_iff.mp hts
      obtain ⟨u, tail, rfl, hu, htail⟩ := List.map_eq_append_iff.mp htail
      obtain ⟨c, nothing, rfl, hc, hnothing⟩ := List.map_eq_cons_iff.mp htail
      obtain rfl := List.map_eq_nil_iff.mp hnothing
      obtain ⟨body', hbody, hbare⟩ := blockReadBack stop body hfits hu (Token.is_of_sign hc) rest
      have hshape : o :: (u ++ [c]) ++ rest = o :: (u ++ c :: rest) := by simp
      rw [hshape]
      refine ⟨_, statement_reads.mpr (.block (Token.is_of_sign ho) hbody), ?_⟩
      rw [Stmt.bare, Stmt.bare, hbare]
termination_by structural s

/-- The same for the statements of a block. -/
lemma blockReadBack (stop : Place) (p : List Stmt) (hfits : writableAll p = true) {ts : List Token}
    (hts : ts.map Token.spelling = printAll p) {c : Token} (hc : c.is "\x7d" = true)
    (rest : List Token) :
    ∃ p', Reads (blockBody stop (ts ++ c :: rest)) p' rest ∧ bareAll p' = bareAll p := by
  cases p with
  | nil =>
      obtain rfl := List.map_eq_nil_iff.mp hts
      exact ⟨[], blockBody_reads.mpr (.inl ⟨c, hc, rfl, rfl⟩), rfl⟩
  | cons s p =>
      rw [writableAll, Bool.and_eq_true] at hfits
      rw [printAll] at hts
      obtain ⟨u, v, rfl, hu, hv⟩ := List.map_eq_append_iff.mp hts
      obtain ⟨p', hp', hbare'⟩ := blockReadBack stop p hfits.2 hv hc rest
      obtain ⟨w, c', heq, hw, hc'⟩ := (readsStatements _).blockBody hp'
      have helse : NotNext "else" (v ++ c :: rest) :=
        heq ▸ hw.notNext_else (notNext_cons (by simp [Token.is_of_is hc']) rest)
      obtain ⟨s', hs', hbare⟩ := s.readBack stop hfits.1 hu fun _ => helse
      obtain ⟨w', heq', hw'⟩ := (readsStatements _).statement hs'
      have hclose : NotNext "\x7d" (u ++ (v ++ c :: rest)) := heq' ▸ (hw'.statement_starts _).2
      rw [List.append_assoc]
      refine ⟨_, blockBody_reads.mpr (.inr ⟨hclose, some s', _, p', hs', hp', rfl⟩), ?_⟩
      rw [Option.toList, List.singleton_append, bareAll, bareAll, hbare, hbare']
termination_by structural p

end

/-- A printed program is read as the same program up to lines, wherever its tokens stand. -/
theorem program_print (stop : Place) {p : List Stmt} (hwritable : writableAll p = true)
    {ts : List Token} (hts : ts.map Token.spelling = printAll p) :
    ∃ p', program stop ts = .ok p' ∧ bareAll p' = bareAll p := by
  induction p generalizing ts with
  | nil =>
      obtain rfl := List.map_eq_nil_iff.mp hts
      exact ⟨[], program_ok.mpr (.inl ⟨rfl, rfl⟩), rfl⟩
  | cons s p ih =>
      rw [writableAll, Bool.and_eq_true] at hwritable
      rw [printAll] at hts
      obtain ⟨u, v, rfl, hu, hv⟩ := List.map_eq_append_iff.mp hts
      obtain ⟨p', hp', hbare'⟩ := ih hwritable.2 hv
      have helse : NotNext "else" v := by
        have hend : NotNext "else" [] := by rintro t ⟨⟩
        simpa using (derives_of_program hp').notNext_else hend
      obtain ⟨s', hs', hbare⟩ := s.readBack stop hwritable.1 hu fun _ => helse
      refine ⟨_, program_ok.mpr (.inr ⟨some s', v, p', hs', hp', rfl⟩), ?_⟩
      rw [Option.toList, List.singleton_append, bareAll, bareAll, hbare, hbare']

/-- A branch with an `else` that has a branch without one inside. -/
theorem program_print_branches : ∃ p,
    p = [.ifElse (.logical .and (.compare .lt (.var ⟨"a", true, 0⟩) (.num 70 0) 0)
          (.more (.bool true 0) (.last (.call "inbox" 0))) 0)
        (.whileDo (.bump ⟨"a", false, 0⟩ .down true 0)
          (.block [.ifThen (.var ⟨"b", false, 0⟩) (.block [] 0) 0] 0) 0)
        (.ifThen (.assign ⟨"b", false, 0⟩ (.sum .minus (.num 1 0)
          (.sum .minus (.num 2 0) (.num 3 0) 0) 0) 0)
          (.decl ⟨"c", true, true, some (.num 4 0), 0⟩) 0) 0] ∧
      writableAll p = true ∧ ∃ ts, ts.map Token.spelling = printAll p ∧
        ∃ p', program ⟨1, 1⟩ ts = .ok p' ∧ bareAll p' = bareAll p := by
  have hprint : ∀ p, writableAll p = true → ∃ ts, ts.map Token.spelling = printAll p ∧
      ∃ p', program ⟨1, 1⟩ ts = .ok p' ∧ bareAll p' = bareAll p := by
    intro p hp
    have hts : ((printAll p).map fun w => Token.mk w.1 w.2 ⟨1, 1⟩).map Token.spelling =
        printAll p := by
      simp [Token.spelling, Function.comp_def]
    exact ⟨_, hts, program_print ⟨1, 1⟩ hp hts⟩
  exact ⟨_, rfl, by decide +kernel, hprint _ (by decide +kernel)⟩

end Mailroom.Source
