import Mathlib
import Mailroom.Proofs.Chains
import Mailroom.Proofs.Text

/-!
# The descent recognizes the grammar

The descent takes all that derives from the grammar and nothing else.  What is left to show is that
it stops with a flaw wherever it stops: the only other way to fail is a numeral that cannot be read,
and the numbers of a text are digits, so that they can be read unless there are too many of them.

- `SourceError.IsFlaw`: an error of the descent itself.
- `program_error`: tokens with numbers that can be read have a flaw if they are no program.
- `tokenize_numeric`: the numbers of a text are digits.
- `program_recognizes`: programs are the token lists that derive from the grammar.
-/

namespace Mailroom.Source

open Text

variable {stop : Place} {ts rest : List Token}

/-! ## Flaws of expressions -/

/-- An error that the descent finds by itself, and not one of a numeral. -/
def SourceError.IsFlaw (err : SourceError) : Prop :=
  ∃ flaw place found, err = .flawed flaw place found

lemma isFlaw_flawAt (stop : Place) (flaw : SyntaxFlaw) (ts : List Token) :
    (flawAt stop flaw ts).IsFlaw := by
  cases ts with
  | nil => exact ⟨flaw, stop, none, rfl⟩
  | cons t _ => exact ⟨flaw, t.place, some t.text, rfl⟩

lemma expect_error {text : String} {err : SourceError} (h : expect stop text ts = .error err) :
    err.IsFlaw := by
  rw [expect.eq_def] at h
  split at h
  · cases h
    exact isFlaw_flawAt ..
  · split at h
    · cases h
    · cases h
      exact isFlaw_flawAt ..

lemma expectName_error {err : SourceError} (h : expectName stop ts = .error err) : err.IsFlaw := by
  rw [expectName.eq_def] at h
  split at h
  · cases h
    exact isFlaw_flawAt ..
  · split at h
    · cases h
    · cases h
      exact isFlaw_flawAt ..

lemma parsePlace_error {err : SourceError} (h : parsePlace stop ts = .error err) : err.IsFlaw := by
  rw [parsePlace] at h
  split at h
  split at h
  · rename_i err' hname
    cases h
    exact expectName_error hname
  · cases h

/-- Where numbers can be read, the steps of the descent fail with a flaw if at all. -/
structure FailsByFlaw (stop : Place) (ts : List Token) : Prop where
  operand : ∀ {err}, unary stop ts = .error err → err.IsFlaw
  addends : ∀ {left err}, addends stop left ts = .error err → err.IsFlaw
  sum : ∀ {err}, additive stop ts = .error err → err.IsFlaw
  comparison : ∀ {err}, comparison stop ts = .error err → err.IsFlaw
  conjuncts : ∀ {err}, conjuncts stop ts = .error err → err.IsFlaw
  conjunction : ∀ {err}, conjunction stop ts = .error err → err.IsFlaw
  disjuncts : ∀ {err}, disjuncts stop ts = .error err → err.IsFlaw
  expression : ∀ {err}, expression stop ts = .error err → err.IsFlaw

section Fails

variable (hts : Readable ts)
  (ih : ∀ ts', ts'.length < ts.length → Readable ts' → FailsByFlaw stop ts')
include hts ih

lemma unary_error {err : SourceError} (h : unary stop ts = .error err) : err.IsFlaw := by
  cases ts with
  | nil =>
      rw [unary] at h
      cases h
      exact isFlaw_flawAt ..
  | cons t tail =>
      have hexpression : ∀ {ts' err}, ts' <:+ tail → expression stop ts' = .error err →
          err.IsFlaw := by
        rintro ts' err ⟨u, rfl⟩ herr
        exact (ih ts' (by simp) hts.tail.of_append).expression herr
      rw [unary] at h
      dsimp only at h
      split at h
      · -- a number: the one place where an error that is no flaw could come from
        rename_i hkind
        obtain ⟨n, hn⟩ := hts t List.mem_cons_self hkind
        rw [hn] at h
        cases h
      split at h
      · cases h
      split at h
      · cases h
      split at h
      · -- an expression in parentheses
        split at h
        · rename_i err' herr
          cases h
          exact hexpression (List.suffix_refl _) herr
        · split at h
          · rename_i err' herr
            cases h
            exact expect_error herr
          · cases h
      split at h
      · -- a call
        split at h
        · cases h
        · split at h
          · rename_i err' herr
            cases h
            exact hexpression (List.tail_suffix _) herr
          · split at h
            · rename_i err' herr
              cases h
              exact expect_error herr
            · cases h
      split at h
      · -- a bump in front of a variable
        split at h
        · rename_i err' herr
          cases h
          exact parsePlace_error herr
        · cases h
      split at h
      · -- a variable, with an assignment or a bump behind it or not
        split at h
        · rename_i err' herr
          cases h
          exact parsePlace_error herr
        · cases h
        · rename_i target u mid hmid hplace
          split at h
          · split at h
            · rename_i err' herr
              cases h
              refine hexpression ?_ herr
              cases parsePlace_reads.mp ⟨_, hplace⟩ with
              | plain => exact List.suffix_cons ..
              | pointed => exact ⟨[_, _], rfl⟩
            · cases h
          · split at h <;> cases h
      · cases h
        exact isFlaw_flawAt ..

lemma addends_error {left : Expr} {err : SourceError} (h : addends stop left ts = .error err) :
    err.IsFlaw := by
  rw [addends.eq_def] at h
  split at h
  · cases h
  · rename_i t tail
    split at h
    · split at h
      · rename_i err' herr
        cases h
        exact (ih tail (by simp) hts.tail).operand herr
      · rename_i right mid hmid hright
        split at h
        · rename_i err' herr
          cases h
          have hreadable := ((readsPhrases tail).operand ⟨_, hright⟩).readable hts.tail
          exact (ih mid (Nat.lt_succ_of_lt hmid) hreadable).addends herr
        · cases h
    · split at h
      · cases h
        exact isFlaw_flawAt ..
      · cases h

lemma additive_error {err : SourceError} (h : additive stop ts = .error err) : err.IsFlaw := by
  rw [additive] at h
  split at h
  · rename_i err' herr
    cases h
    exact unary_error hts ih herr
  · rename_i first mid hmid hfirst
    split at h
    · rename_i err' herr
      cases h
      have hreadable := ((readsPhrases ts).operand ⟨_, hfirst⟩).readable hts
      exact (ih mid hmid hreadable).addends herr
    · cases h

lemma comparison_error {err : SourceError} (h : comparison stop ts = .error err) : err.IsFlaw := by
  rw [comparison] at h
  split at h
  · rename_i err' herr
    cases h
    exact additive_error hts ih herr
  · cases h
  · rename_i left t tail hmid hleft
    split at h
    · cases h
    · split at h
      · rename_i err' herr
        cases h
        have hreadable := ((readsPhrases ts).sum ⟨_, hleft⟩).readable hts
        exact (ih tail (Nat.lt_of_succ_lt hmid) hreadable.tail).sum herr
      · cases h

lemma conjuncts_error {err : SourceError} (h : conjuncts stop ts = .error err) : err.IsFlaw := by
  obtain ⟨t, tail, rfl, h | ⟨e, mid, he, h⟩⟩ := (conjuncts_repeats stop).error h
  · exact (ih tail (by simp) hts.tail).comparison h
  · have hreadable := ((readsPhrases tail).comparison he).readable hts.tail
    exact (ih mid (Nat.lt_succ_of_lt he.lt) hreadable).conjuncts h

lemma conjunction_error {err : SourceError} (h : conjunction stop ts = .error err) :
    err.IsFlaw := by
  obtain h | ⟨first, mid, hfirst, h⟩ := (conjunction_joins stop).error h
  · exact comparison_error hts ih h
  · have hreadable := ((readsPhrases ts).comparison hfirst).readable hts
    exact (ih mid hfirst.lt hreadable).conjuncts h

lemma disjuncts_error {err : SourceError} (h : disjuncts stop ts = .error err) : err.IsFlaw := by
  obtain ⟨t, tail, rfl, h | ⟨e, mid, he, h⟩⟩ := (disjuncts_repeats stop).error h
  · exact (ih tail (by simp) hts.tail).conjunction h
  · have hreadable := ((readsPhrases tail).conjunction he).readable hts.tail
    exact (ih mid (Nat.lt_succ_of_lt he.lt) hreadable).disjuncts h

lemma expression_error {err : SourceError} (h : expression stop ts = .error err) : err.IsFlaw := by
  obtain h | ⟨first, mid, hfirst, h⟩ := (expression_joins stop).error h
  · exact conjunction_error hts ih h
  · have hreadable := ((readsPhrases ts).conjunction hfirst).readable hts
    exact (ih mid hfirst.lt hreadable).disjuncts h

end Fails

lemma failsByFlaw (ts : List Token) (hts : Readable ts) : FailsByFlaw stop ts :=
  have ih : ∀ ts', ts'.length < ts.length → Readable ts' → FailsByFlaw stop ts' :=
    fun ts' _ hts' => failsByFlaw ts' hts'
  ⟨unary_error hts ih, addends_error hts ih, additive_error hts ih, comparison_error hts ih,
    conjuncts_error hts ih, conjunction_error hts ih, disjuncts_error hts ih,
    expression_error hts ih⟩
termination_by ts.length

/-! ## Flaws of statements -/

lemma initializer_error (hts : Readable ts) {err : SourceError}
    (h : declaration.initializer stop ts = .error err) : err.IsFlaw := by
  rw [declaration.initializer] at h
  split at h
  · cases h
  · rename_i mid hmid haccept
    obtain ⟨u, rfl, -⟩ := (accept_eq.mp haccept).splits
    split at h
    · rename_i err' herr
      cases h
      exact (failsByFlaw mid hts.of_append).expression herr
    · cases h

lemma declaration_error (hts : Readable ts) {err : SourceError}
    (h : declaration stop ts = .error err) : err.IsFlaw := by
  rw [declaration] at h
  split at h
  rename_i constant a ha hconst
  obtain ⟨u, rfl, -⟩ := (accept_eq.mp hconst).splits
  split at h
  · rename_i err' herr
    cases h
    exact expect_error herr
  rename_i b hb hexpect
  obtain ⟨int, -, rfl⟩ := expect_ok.mp hexpect
  split at h
  rename_i pointer c hc hpointer
  obtain ⟨v, rfl, -⟩ := (accept_eq.mp hpointer).splits
  split at h
  rename_i constantToo d hd hconst'
  obtain ⟨w, rfl, -⟩ := (accept_eq.mp hconst').splits
  split at h
  · rename_i err' herr
    cases h
    exact expectName_error herr
  rename_i word e he hword
  obtain ⟨name, -, -, rfl⟩ := expectName_reads.mp ⟨_, hword⟩
  split at h
  · rename_i err' herr
    cases h
    exact initializer_error hts.of_append.tail.of_append.of_append.tail herr
  split at h
  · rename_i err' herr
    cases h
    exact expect_error herr
  · cases h

lemma condition_error (hts : Readable ts) {err : SourceError}
    (h : condition stop ts = .error err) : err.IsFlaw := by
  rw [condition] at h
  split at h
  · rename_i err' herr
    cases h
    exact expect_error herr
  rename_i mid hmid hexpect
  obtain ⟨t, -, rfl⟩ := expect_ok.mp hexpect
  split at h
  · rename_i err' herr
    cases h
    exact (failsByFlaw mid hts.tail).expression herr
  split at h
  · rename_i err' herr
    cases h
    exact expect_error herr
  · cases h

/-- The same for statements. -/
structure StatementsFailByFlaw (stop : Place) (ts : List Token) : Prop where
  statement : ∀ {err}, statement stop ts = .error err → err.IsFlaw
  blockBody : ∀ {err}, blockBody stop ts = .error err → err.IsFlaw

lemma body_error (hts : StatementsFailByFlaw stop ts) {err : SourceError}
    (h : body stop ts = .error err) : err.IsFlaw := by
  rw [body] at h
  split at h
  · rename_i err' herr
    cases h
    exact hts.statement herr
  · cases h
  · cases h

section Fails

variable (hts : Readable ts)
  (ih : ∀ ts', ts'.length < ts.length → Readable ts' → StatementsFailByFlaw stop ts')
include hts ih

lemma statement_error {err : SourceError} (h : statement stop ts = .error err) : err.IsFlaw := by
  cases ts with
  | nil =>
      rw [statement] at h
      cases h
      exact isFlaw_flawAt ..
  | cons t tail =>
      have hbody : ∀ {mid err}, mid <:+ tail → body stop mid = .error err → err.IsFlaw := by
        rintro mid err ⟨u, rfl⟩ herr
        exact body_error (ih mid (by simp) hts.tail.of_append) herr
      rw [statement] at h
      split at h
      · cases h
      split at h
      · -- a block
        split at h
        · rename_i err' herr
          cases h
          exact (ih tail (by simp) hts.tail).blockBody herr
        · cases h
      split at h
      · -- a declaration
        split at h
        · rename_i err' herr
          cases h
          exact declaration_error hts herr
        · cases h
      split at h
      · -- a branch
        split at h
        · rename_i err' herr
          cases h
          exact condition_error hts.tail herr
        rename_i cond mid hmid hcond
        obtain ⟨o, e, c, rfl, -⟩ := condition_splits ⟨_, hcond⟩
        split at h
        · rename_i err' herr
          cases h
          exact hbody ⟨o :: e ++ [c], by simp⟩ herr
        rename_i yes mid' hmid' hyes
        obtain ⟨s, rfl, -⟩ := body_splits (readsStatements _) ⟨_, hyes⟩
        split at h
        · cases h
        rename_i mid'' hmid'' haccept
        obtain ⟨l, rfl, -⟩ := (accept_eq.mp haccept).splits
        split at h
        · rename_i err' herr
          cases h
          exact hbody ⟨o :: e ++ c :: s ++ l, by simp⟩ herr
        · cases h
      split at h
      · -- a loop
        split at h
        · rename_i err' herr
          cases h
          exact condition_error hts.tail herr
        rename_i cond mid hmid hcond
        obtain ⟨o, e, c, rfl, -⟩ := condition_splits ⟨_, hcond⟩
        split at h
        · rename_i err' herr
          cases h
          exact hbody ⟨o :: e ++ [c], by simp⟩ herr
        · cases h
      -- an expression
      split at h
      · rename_i err' herr
        cases h
        exact (failsByFlaw _ hts).expression herr
      split at h
      · rename_i err' herr
        cases h
        exact expect_error herr
      · cases h

lemma blockBody_error {err : SourceError} (h : blockBody stop ts = .error err) : err.IsFlaw := by
  cases ts with
  | nil =>
      rw [blockBody] at h
      cases h
      exact isFlaw_flawAt ..
  | cons t tail =>
      rw [blockBody] at h
      split at h
      · cases h
      split at h
      · rename_i err' herr
        cases h
        exact statement_error hts ih herr
      rename_i s mid hmid hs
      split at h
      · rename_i err' herr
        cases h
        have hreadable := ((readsStatements _).statement ⟨_, hs⟩).readable hts
        exact (ih mid hmid hreadable).blockBody herr
      · cases h

end Fails

lemma statementsFailByFlaw (ts : List Token) (hts : Readable ts) : StatementsFailByFlaw stop ts :=
  have ih : ∀ ts', ts'.length < ts.length → Readable ts' → StatementsFailByFlaw stop ts' :=
    fun ts' _ hts' => statementsFailByFlaw ts' hts'
  ⟨statement_error hts ih, blockBody_error hts ih⟩
termination_by ts.length

/-- Where numbers can be read, tokens that are no program have a flaw. -/
lemma program_error {ts : List Token} (hts : Readable ts) {err : SourceError}
    (h : program stop ts = .error err) : err.IsFlaw := by
  cases ts with
  | nil =>
      rw [program] at h
      cases h
  | cons t tail =>
      rw [program] at h
      split at h
      · rename_i err' herr
        cases h
        exact (statementsFailByFlaw _ hts).statement herr
      rename_i s mid hmid hs
      split at h
      · rename_i err' herr
        cases h
        exact program_error (((readsStatements _).statement ⟨_, hs⟩).readable hts) herr
      · cases h
termination_by ts.length

/-! ## Numbers of a text -/

/-- Decimal digits of any script, at least one and not more than can be read. -/
structure Token.Numeric (t : Token) : Prop where
  nonempty : t.text.toList ≠ []
  digits : ∀ c ∈ t.text.toList, isDecimalDigit c = true
  short : t.text.toList.length ≤ Numeral.digitLimit

lemma Token.Numeric.value {t : Token} (h : t.Numeric) : ∃ n, t.value = .ok n := by
  obtain ⟨n, hn⟩ := Numeral.exists_read_of_isDecimalDigit h.nonempty h.digits h.short
  exact ⟨n.toNat, by rw [Token.value, hn]⟩

/-- Number tokens of a text are made of decimal digits. -/
lemma lexeme_number {c : Char} {cs : List Char} {size : Nat}
    (h : lexeme c cs = .token .number size) :
    isDecimalDigit c = true ∧ size = 1 + (cs.takeWhile isDecimalDigit).length := by
  rw [lexeme] at h
  split at h
  · cases h
  · split at h
    · rename_i hc
      cases h
      exact ⟨hc, rfl⟩
    · dsimp only at h
      split at h
      · split at h <;> cases h
      · split at h
        · cases h
        · split at h
          · cases h
          · split at h <;> cases h

lemma take_lexeme_number {c : Char} {cs : List Char} {size : Nat}
    (h : lexeme c cs = .token .number size) :
    (c :: cs).take size = c :: cs.takeWhile isDecimalDigit := by
  obtain ⟨-, rfl⟩ := lexeme_number h
  rw [Nat.add_comm, List.take_succ_cons]
  congr 1
  exact (List.prefix_iff_eq_take.mp (List.takeWhile_prefix _)).symm

lemma tokensFrom_number {place : Place} {skip : Nat} {cs : List Char} {tokens : Tokens}
    (h : tokensFrom place skip cs = .ok tokens) :
    ∀ t ∈ tokens.tokens, t.kind = .number →
      t.text.toList ≠ [] ∧ ∀ c ∈ t.text.toList, isDecimalDigit c = true := by
  induction cs generalizing place skip tokens with
  | nil =>
      rw [tokensFrom] at h
      cases h
      simp
  | cons c cs ih =>
      cases skip with
      | succ k => exact ih h
      | zero =>
          rw [tokensFrom] at h
          split at h
          · cases h
          · exact ih h
          · rename_i kind size hlexeme
            cases hlater : tokensFrom (place.advance c) (size - 1) cs with
            | error err =>
                rw [hlater] at h
                cases h
            | ok later =>
                rw [hlater] at h
                cases h
                intro t ht hkind
                rcases List.mem_cons.mp ht with rfl | ht
                · obtain rfl : kind = .number := hkind
                  obtain ⟨hc, -⟩ := lexeme_number hlexeme
                  have htext := take_lexeme_number hlexeme
                  simp only [htext, String.toList_ofList, ne_eq, reduceCtorEq, not_false_eq_true,
                    List.forall_mem_cons, hc, true_and]
                  exact fun x hx => List.mem_takeWhile_imp hx
                · exact ih hlater t ht hkind

/-- The descent reads exactly the token lists that derive from the grammar, and stops with a flaw at
all others. -/
theorem program_recognizes (stop : Place) {ts : List Token}
    (hnumbers : ∀ t ∈ ts, t.kind = .number → t.Numeric) :
    ((∃ p, program stop ts = .ok p) ↔ Derives .program ts) ∧
      (¬ Derives .program ts → ∃ flaw place found,
        program stop ts = .error (.flawed flaw place found)) := by
  have hreadable : Readable ts := fun t ht hkind => (hnumbers t ht hkind).value
  refine ⟨⟨fun ⟨p, hp⟩ => derives_of_program hp, program_complete hreadable⟩, fun hnot => ?_⟩
  cases h : program stop ts with
  | ok p => exact absurd (derives_of_program h) hnot
  | error err =>
      obtain ⟨flaw, place, found, rfl⟩ := program_error hreadable h
      exact ⟨flaw, place, found, rfl⟩

lemma tokenize_numeric {text : List Char} {ts : List Token} {stop : Place}
    (h : tokenize text = .ok ⟨ts, stop⟩)
    (hshort : ∀ t ∈ ts, t.text.toList.length ≤ Numeral.digitLimit) :
    ∀ t ∈ ts, t.kind = .number → t.Numeric := by
  intro t ht hkind
  obtain ⟨hne, hdigits⟩ := tokensFrom_number h t ht hkind
  exact ⟨hne, hdigits, hshort t ht⟩

/-- A second comparison needs an assignment, whose value it belongs to. -/
theorem program_recognizes_comparisons : ∃ good bad stop,
    tokenize "x<a=b<70;".toList = .ok ⟨good, stop⟩ ∧ tokenize "x<a+b<70;".toList = .ok ⟨bad, stop⟩ ∧
      (∀ t ∈ good ++ bad, t.kind = .number → t.Numeric) ∧ Derives .program good ∧
      ¬ Derives .program bad ∧
      ∃ flaw place found, program stop bad = .error (.flawed flaw place found) := by
  have hgood : tokenize "x<a=b<70;".toList = .ok ⟨[⟨.name, "x", ⟨1, 1⟩⟩, ⟨.op, "<", ⟨1, 2⟩⟩,
      ⟨.name, "a", ⟨1, 3⟩⟩, ⟨.op, "=", ⟨1, 4⟩⟩, ⟨.name, "b", ⟨1, 5⟩⟩, ⟨.op, "<", ⟨1, 6⟩⟩,
      ⟨.number, "70", ⟨1, 7⟩⟩, ⟨.op, ";", ⟨1, 9⟩⟩], ⟨1, 10⟩⟩ := by decide +kernel
  have hbad : tokenize "x<a+b<70;".toList = .ok ⟨[⟨.name, "x", ⟨1, 1⟩⟩, ⟨.op, "<", ⟨1, 2⟩⟩,
      ⟨.name, "a", ⟨1, 3⟩⟩, ⟨.op, "+", ⟨1, 4⟩⟩, ⟨.name, "b", ⟨1, 5⟩⟩, ⟨.op, "<", ⟨1, 6⟩⟩,
      ⟨.number, "70", ⟨1, 7⟩⟩, ⟨.op, ";", ⟨1, 9⟩⟩], ⟨1, 10⟩⟩ := by decide +kernel
  have hread : parse "x<a=b<70;".toList = .ok [.expr (.compare .lt (.var ⟨"x", false, 1⟩)
      (.assign ⟨"a", false, 1⟩ (.compare .lt (.var ⟨"b", false, 1⟩) (.num 70 1) 1) 1) 1) 1] := by
    cbv
  have hrefused : parse "x<a+b<70;".toList =
      .error (.flawed (.expected ";") ⟨1, 6⟩ (some "<")) := by cbv
  simp only [parse, hgood] at hread
  simp only [parse, hbad] at hrefused
  have hgood' := tokenize_numeric hgood (by decide)
  have hbad' := tokenize_numeric hbad (by decide)
  have hnot : ¬ Derives .program _ := fun h => by
    obtain ⟨p, hp⟩ := (program_recognizes ⟨1, 10⟩ hbad').1.mpr h
    rw [hrefused] at hp
    cases hp
  refine ⟨_, _, _, hgood, hbad, ?_, (program_recognizes ⟨1, 10⟩ hgood').1.mp ⟨_, hread⟩, hnot,
    (program_recognizes ⟨1, 10⟩ hbad').2 hnot⟩
  intro t ht
  exact (List.mem_append.mp ht).elim (hgood' t) (hbad' t)

end Mailroom.Source
