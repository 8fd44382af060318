import Mathlib
import Mailroom.Proofs.Derivations

/-!
# The descent takes all that derives

The grammar is ambiguous, so that the descent need not follow the derivation that is given.  What it
leaves is described instead by what can still come.

**Expressions.**  A `Chain` is the rest of an expression: operands with operators between them.  Two
numbers say how many comparisons are still possible, before and behind the next connective, for each
value that is being assigned may have one of its own.  Every derivation makes a chain
(`Derives.extends`), and each step of the descent takes the front of a chain and leaves a chain
(`TakesChains`), whichever parts it takes together.

**Statements.**  A `Course` is the rest of a statement, with the number of branches that may still
get an `else`.  Steps take its front in the same way (`TakesCourses`).

- `expression_complete`: a derived expression is read up to the token that closes it.
- `program_complete`: derived programs are read.
-/

namespace Mailroom.Source

variable {stop : Place} {ts rest : List Token}

/-! ## Chains -/

lemma Token.is_of_sum? {t : Token} {op : SumOp} (h : t.sum? = some op) : t.is op.text = true := by
  rw [Token.sum?] at h
  split at h
  · cases h
    exact is_of_isOp ‹_›
  · split at h
    · cases h
      exact is_of_isOp ‹_›
    · cases h

lemma Token.is_of_comparison? {t : Token} {op : Comparison} (h : t.comparison? = some op) :
    t.is op.text = true := by
  rw [Token.comparison?] at h
  split at h
  · rename_i hkind
    rw [Comparison.ofText?] at h
    have htext := List.find?_some h
    rw [beq_iff_eq] at htext
    exact is_iff.mpr ⟨.inl hkind, htext.symm⟩
  · cases h

/-- Tokens behind an expression: it ends at a closing parenthesis or at a semicolon. -/
def Closing (ts : List Token) : Prop :=
  ∃ t tail, ts = t :: tail ∧ (t.is ")" = true ∨ t.is ";" = true)

lemma Token.sum?_of_is {t : Token} {text : String} (h : t.is text = true) (hplus : text ≠ "+")
    (hminus : text ≠ "-") : t.sum? = none := by
  simp [Token.sum?, isOp_of_is h, hplus, hminus]

lemma Token.comparison?_of_is {t : Token} {text : String} (h : t.is text = true)
    (htext : Comparison.ofText? text = none) : t.comparison? = none := by
  rw [Token.comparison?, (is_iff.mp h).2, htext, ite_self]

namespace Closing

lemma head (h : Closing ts) : ∀ t ∈ ts.head?, t.is ")" = true ∨ t.is ";" = true := by
  obtain ⟨t, tail, rfl, ht⟩ := h
  rintro u ⟨⟩
  exact ht

lemma notNext (h : Closing ts) {text : String} (hparen : text ≠ ")") (hsemi : text ≠ ";") :
    NotNext text ts := by
  intro t ht
  rcases h.head t ht with ht | ht
  · simp [Token.is_of_is ht, hparen.symm]
  · simp [Token.is_of_is ht, hsemi.symm]

lemma sum?_eq_none (h : Closing ts) : ∀ t ∈ ts.head?, t.sum? = none := by
  intro t ht
  rcases h.head t ht with ht | ht <;> simp [Token.sum?, Token.isOp_of_is ht]

lemma isProduct_eq_false (h : Closing ts) : ∀ t ∈ ts.head?, t.isProduct = false := by
  intro t ht
  rcases h.head t ht with ht | ht <;> simp [Token.isProduct, Token.isOp_of_is ht]

lemma bump?_eq_none (h : Closing ts) : ∀ t ∈ ts.head?, t.bump? = none := by
  intro t ht
  rcases h.head t ht with ht | ht <;> simp [Token.bump?, Token.is_of_is ht]

lemma comparison?_eq_none (h : Closing ts) : ∀ t ∈ ts.head?, t.comparison? = none := by
  intro t ht
  rcases h.head t ht with ht | ht <;> exact Token.comparison?_of_is ht (by decide)

end Closing

/-- What is left of an expression: operands with operators between them, up to the tokens `rest` that
close it.  The flag says whether an operand is due.  Up to the next connective `total` comparisons
are possible, and `outer` of them remain possible behind it; a new operand of a connective may have
one more. -/
inductive Chain : Bool → Nat → Nat → List Token → List Token → Prop
  | close {outer total : Nat} {rest : List Token} : Closing rest → Chain false outer total rest rest
  | add {t : Token} {op : SumOp} {outer total : Nat} {ts rest : List Token} : t.sum? = some op →
      Chain true outer total ts rest → Chain false outer total (t :: ts) rest
  | compare {t : Token} {op : Comparison} {outer total : Nat} {ts rest : List Token} :
      t.comparison? = some op → Chain true total total ts rest →
      Chain false outer (total + 1) (t :: ts) rest
  | join {t : Token} {op : Connective} {outer total : Nat} {ts rest : List Token} :
      t.is op.text = true → Chain true outer (outer + 1) ts rest →
      Chain false outer total (t :: ts) rest
  | operand {u : List Token} {outer total : Nat} {ts rest : List Token} : Derives .operand u →
      Chain false outer total ts rest → Chain true outer total (u ++ ts) rest

namespace Chain

variable {due : Bool} {outer total outer' total' : Nat}

lemma mono (h : Chain due outer total ts rest) (houter : outer ≤ outer') (htotal : total ≤ total') :
    Chain due outer' total' ts rest := by
  induction h generalizing outer' total' with
  | close hclosing => exact .close hclosing
  | add hop _ ih => exact .add hop (ih houter htotal)
  | compare hop _ ih =>
      obtain ⟨k, rfl⟩ := Nat.exists_eq_add_of_le htotal
      rw [Nat.add_right_comm]
      exact .compare hop (ih (by omega) (by omega))
  | join hop _ ih => exact .join hop (ih houter (by omega))
  | operand hu _ ih => exact .operand hu (ih houter htotal)

/-- What comes behind an operand is no part of it. -/
lemma next (h : Chain false outer total ts rest) :
    ∀ t ∈ ts.head?, t.is "=" = false ∧ t.bump? = none ∧ t.is "(" = false ∧ t.isProduct = false := by
  cases h with
  | close hclosing =>
      intro t ht
      exact ⟨hclosing.notNext (by simp) (by simp) t ht, hclosing.bump?_eq_none t ht,
        hclosing.notNext (by simp) (by simp) t ht, hclosing.isProduct_eq_false t ht⟩
  | @add t op _ _ _ _ hop _ =>
      rintro u ⟨⟩
      have ht := Token.is_of_sum? hop
      cases op <;> simp [Token.isProduct, Token.bump?, Token.is_of_is ht, Token.isOp_of_is ht,
        SumOp.text]
  | @compare t op _ _ _ _ hop _ =>
      rintro u ⟨⟩
      have ht := Token.is_of_comparison? hop
      cases op <;> simp [Token.isProduct, Token.bump?, Token.is_of_is ht, Token.isOp_of_is ht,
        Comparison.text]
  | @join t op _ _ _ _ ht _ =>
      rintro u ⟨⟩
      cases op <;> simp [Token.isProduct, Token.bump?, Token.is_of_is ht, Token.isOp_of_is ht,
        Connective.text]

end Chain

/-- Put in front of a chain, a phrase makes a longer one. -/
def Phrase.Extends : Phrase → List Token → Prop
  | .expression, u | .conjunction, u | .comparison, u => ∀ {m ts rest},
      Chain false m m ts rest → Chain true m (m + 1) (u ++ ts) rest
  | .disjuncts, u | .conjuncts, u => ∀ {m ts rest},
      Chain false m m ts rest → Chain false m m (u ++ ts) rest
  | .sum, u => ∀ {outer total ts rest},
      Chain false outer total ts rest → Chain true outer total (u ++ ts) rest
  | .addends, u => ∀ {outer total ts rest},
      Chain false outer total ts rest → Chain false outer total (u ++ ts) rest
  | _, _ => True

lemma Derives.extends {p : Phrase} {u : List Token} (h : Derives p u) : p.Extends u := by
  induction h with
  | expression _ _ iha ihb =>
      intro m ts rest h
      rw [List.append_assoc]
      exact iha (ihb h)
  | noDisjunct => exact id
  | disjunct ht _ _ iha ihb =>
      intro m ts rest h
      rw [List.cons_append, List.cons_append, List.append_assoc]
      exact @Chain.join _ .or _ _ _ _ ht (iha (ihb h))
  | conjunction _ _ iha ihb =>
      intro m ts rest h
      rw [List.append_assoc]
      exact iha (ihb h)
  | noConjunct => exact id
  | conjunct ht _ _ iha ihb =>
      intro m ts rest h
      rw [List.cons_append, List.cons_append, List.append_assoc]
      exact @Chain.join _ .and _ _ _ _ ht (iha (ihb h))
  | side _ ih =>
      intro m ts rest h
      exact ih (h.mono le_rfl (Nat.le_succ m))
  | compare _ ht _ iha ihb =>
      intro m ts rest h
      rw [List.append_assoc, List.cons_append]
      exact iha (.compare ht (ihb h))
  | sum ha _ _ ihb =>
      intro outer total ts rest h
      rw [List.append_assoc]
      exact .operand ha (ihb h)
  | noAddend => exact id
  | addend ht ha _ _ ihb =>
      intro outer total ts rest h
      rw [List.cons_append, List.cons_append, List.append_assoc]
      exact .add ht (.operand ha (ihb h))
  | _ => trivial

/-- The numbers among tokens can be read. -/
def Readable (ts : List Token) : Prop :=
  ∀ t ∈ ts, t.kind = .number → ∃ n, t.value = .ok n

lemma Readable.of_append {u : List Token} (h : Readable (u ++ ts)) : Readable ts :=
  fun t ht => h t (List.mem_append_right u ht)

lemma Readable.tail {t : Token} (h : Readable (t :: ts)) : Readable ts :=
  fun u hu => h u (List.mem_cons_of_mem t hu)

lemma Phrase.Splits.readable {p : Phrase} (h : p.Splits ts rest) (hts : Readable ts) :
    Readable rest := by
  obtain ⟨u, rfl, -⟩ := h
  exact hts.of_append

/-! ## The descent takes chains -/

lemma Derives.names {p : List Token} (h : Derives .place p) (rest : List Token) :
    ∃ v, Names (p ++ rest) v rest := by
  cases h with
  | plain hname => exact ⟨_, .plain hname⟩
  | pointed hstar hname => exact ⟨_, .pointed hstar hname⟩

/-- No sum goes on here. -/
def NoAddend (ts : List Token) : Prop :=
  ∀ t ∈ ts.head?, t.sum? = none

/-- What the descent takes of a chain at each of its levels.  What it leaves is a chain again. -/
structure TakesChains (stop : Place) (ts : List Token) : Prop where
  operand : ∀ {outer total rest}, Readable ts → Chain true outer total ts rest → outer ≤ total →
    ∃ e mid, Reads (unary stop ts) e mid ∧ Chain false outer total mid rest
  addends : ∀ {outer total rest} (left : Expr), Readable ts → Chain false outer total ts rest →
    outer ≤ total →
    ∃ e mid, Reads (addends stop left ts) e mid ∧ Chain false outer total mid rest ∧ NoAddend mid
  sum : ∀ {outer total rest}, Readable ts → Chain true outer total ts rest → outer ≤ total →
    ∃ e mid, Reads (additive stop ts) e mid ∧ Chain false outer total mid rest ∧ NoAddend mid
  comparison : ∀ {m rest}, Readable ts → Chain true m (m + 1) ts rest →
    ∃ e mid, Reads (comparison stop ts) e mid ∧ Chain false m m mid rest ∧ NoAddend mid
  conjuncts : ∀ {m rest}, Readable ts → Chain false m m ts rest → NoAddend ts →
    ∃ es mid, Reads (conjuncts stop ts) es mid ∧ Chain false m m mid rest ∧ NoAddend mid ∧
      NotNext "&&" mid
  conjunction : ∀ {m rest}, Readable ts → Chain true m (m + 1) ts rest →
    ∃ e mid, Reads (conjunction stop ts) e mid ∧ Chain false m m mid rest ∧ NoAddend mid ∧
      NotNext "&&" mid
  disjuncts : ∀ {m rest}, Readable ts → Chain false m m ts rest → NoAddend ts → NotNext "&&" ts →
    ∃ es mid, Reads (disjuncts stop ts) es mid ∧ Chain false m m mid rest ∧ NoAddend mid ∧
      NotNext "&&" mid ∧ NotNext "||" mid
  expression : ∀ {m rest}, Readable ts → Chain true m (m + 1) ts rest →
    ∃ e mid, Reads (expression stop ts) e mid ∧ Chain false m m mid rest ∧ NoAddend mid ∧
      NotNext "&&" mid ∧ NotNext "||" mid

/-- A chain in which no comparison is possible, and nothing else goes on, is at its end. -/
lemma Chain.eq_rest (h : Chain false 0 0 ts rest) (hsum : NoAddend ts) (hand : NotNext "&&" ts)
    (hor : NotNext "||" ts) : ts = rest := by
  cases h with
  | close _ => rfl
  | add hop _ =>
      rw [hsum _ rfl] at hop
      cases hop
  | @join t op _ _ _ _ hop _ =>
      cases op with
      | and => simp [Connective.text, hand t rfl] at hop
      | or => simp [Connective.text, hor t rfl] at hop

/-- A chain that only a comparison can continue does so at whatever level. -/
lemma Chain.outward {m outer : Nat} (h : Chain false m m ts rest) (hsum : NoAddend ts)
    (hand : NotNext "&&" ts) (hor : NotNext "||" ts) : Chain false outer m ts rest := by
  cases h with
  | close h => exact .close h
  | add hop _ =>
      rw [hsum _ rfl] at hop
      cases hop
  | compare hop h => exact .compare hop h
  | @join t op _ _ _ _ hop _ =>
      cases op with
      | and => simp [Connective.text, hand t rfl] at hop
      | or => simp [Connective.text, hor t rfl] at hop

namespace Chain

variable {outer total m : Nat}

lemma noAddend_or (h : Chain false outer total ts rest) :
    NoAddend ts ∨ ∃ t op tail, ts = t :: tail ∧ t.sum? = some op ∧
      Chain true outer total tail rest := by
  cases h with
  | close hclosing => exact .inl hclosing.sum?_eq_none
  | add hop htail => exact .inr ⟨_, _, _, rfl, hop, htail⟩
  | @compare t op _ _ _ _ hop _ =>
      refine .inl ?_
      rintro u ⟨⟩
      exact Token.sum?_of_is (Token.is_of_comparison? hop) (by cases op <;> simp [Comparison.text])
        (by cases op <;> simp [Comparison.text])
  | @join t op _ _ _ _ hop _ =>
      refine .inl ?_
      rintro u ⟨⟩
      exact Token.sum?_of_is hop (by cases op <;> simp [Connective.text])
        (by cases op <;> simp [Connective.text])

/-- Where no sum goes on, there is a comparison, or the chain goes on without one. -/
lemma compare_or (h : Chain false outer (m + 1) ts rest) (hsum : NoAddend ts) :
    (Chain false outer m ts rest ∧ ∀ t ∈ ts.head?, t.comparison? = none) ∨
      ∃ t op tail, ts = t :: tail ∧ t.comparison? = some op ∧ Chain true m m tail rest := by
  cases h with
  | close hclosing => exact .inl ⟨.close hclosing, hclosing.comparison?_eq_none⟩
  | add hop _ =>
      rw [hsum _ rfl] at hop
      cases hop
  | compare hop htail => exact .inr ⟨_, _, _, rfl, hop, htail⟩
  | @join t op _ _ _ _ hop htail =>
      refine .inl ⟨.join hop htail, ?_⟩
      rintro u ⟨⟩
      exact Token.comparison?_of_is hop (by cases op <;> decide)

/-- A connective comes next, or it does not. -/
lemma join_or (op : Connective) (h : Chain false m m ts rest) :
    NotNext op.text ts ∨ ∃ t tail, ts = t :: tail ∧ t.is op.text = true ∧
      Chain true m (m + 1) tail rest := by
  by_cases hnext : NotNext op.text ts
  · exact .inl hnext
  · right
    obtain ⟨t, tail, rfl, ht⟩ : ∃ t tail, ts = t :: tail ∧ t.is op.text = true := by
      cases ts with
      | nil => simp [NotNext] at hnext
      | cons t tail => exact ⟨t, tail, rfl, by simpa [NotNext] using hnext⟩
    refine ⟨t, tail, rfl, ht, ?_⟩
    cases h with
    | close hclosing =>
        refine absurd (hclosing.notNext ?_ ?_) hnext <;> cases op <;> simp [Connective.text]
    | add hop _ =>
        rw [Token.sum?_of_is ht (by cases op <;> simp [Connective.text])
          (by cases op <;> simp [Connective.text])] at hop
        cases hop
    | compare hop _ =>
        rw [Token.comparison?_of_is ht (by cases op <;> decide)] at hop
        cases hop
    | join _ htail => exact htail

end Chain

/-- An expression is taken up to what closes it. -/
lemma takes_closed {e : List Token} {c : Token} (h : TakesChains stop (e ++ c :: rest))
    (hreadable : Readable (e ++ c :: rest)) (he : Derives .expression e)
    (hc : c.is ")" = true ∨ c.is ";" = true) :
    ∃ e', Reads (expression stop (e ++ c :: rest)) e' (c :: rest) := by
  have hclose : Chain false 0 0 (c :: rest) (c :: rest) := .close ⟨c, rest, rfl, hc⟩
  obtain ⟨e', mid, hreads, hchain, hsum, hand, hor⟩ := h.expression hreadable (he.extends hclose)
  obtain rfl := hchain.eq_rest hsum hand hor
  exact ⟨e', hreads⟩

section Takes

variable (ih : ∀ ts', ts'.length < ts.length → TakesChains stop ts')
include ih

lemma takes_operand {outer total : Nat} (hreadable : Readable ts)
    (h : Chain true outer total ts rest) (hle : outer ≤ total) :
    ∃ e mid, Reads (unary stop ts) e mid ∧ Chain false outer total mid rest := by
  cases h with
  | @operand u _ _ mid _ hu hmid =>
  simp only [unary_reads]
  cases hu with
  | number hkind =>
      obtain ⟨n, hn⟩ := hreadable _ List.mem_cons_self hkind
      exact ⟨_, mid, .number hkind hn, hmid⟩
  | truth ht => exact ⟨_, mid, .truth ht, hmid⟩
  | falsity ht => exact ⟨_, mid, .falsity ht, hmid⟩
  | @paren o c e ho he hc =>
      simp only [List.cons_append, List.append_assoc, List.nil_append] at hreadable ih ⊢
      obtain ⟨e', hreads⟩ := takes_closed (ih _ (by simp)) hreadable.tail he (.inl hc)
      exact ⟨e', mid, .paren ho hreads hc, hmid⟩
  | @before t p direction ht hp =>
      obtain ⟨v, hv⟩ := hp.names mid
      exact ⟨_, mid, .before ht hv, hmid⟩
  | call hn ho hc => exact ⟨_, mid, .call hn ho hc, hmid⟩
  | @callWith n o c e hn ho he hc =>
      simp only [List.cons_append, List.append_assoc, List.nil_append] at hreadable ih ⊢
      obtain ⟨e', hreads⟩ := takes_closed (ih _ (by simp)) hreadable.tail.tail he (.inl hc)
      exact ⟨_, mid, .callWith hn ho (he.notNext (by simp) _) hreads hc, hmid⟩
  | var hp =>
      obtain ⟨v, hv⟩ := hp.names mid
      refine ⟨_, mid, .var hv fun t ht => ?_, hmid⟩
      obtain ⟨hassign, hbump, hparen, -⟩ := hmid.next t ht
      exact ⟨hassign, hbump, fun _ => hparen⟩
  | @assign t p e hp ht he =>
      rw [List.append_assoc, List.cons_append] at hreadable ih ⊢
      obtain ⟨v, hv⟩ := hp.names (t :: (e ++ mid))
      have hlt : (e ++ mid).length < (p ++ t :: (e ++ mid)).length := by simp; omega
      have hchain := he.extends (hmid.mono hle le_rfl)
      obtain ⟨e', mid', hreads, hchain', hsum, hand, hor⟩ :=
        (ih _ hlt).expression hreadable.of_append.tail hchain
      exact ⟨_, mid', .assign hv ht hreads, hchain'.outward hsum hand hor⟩
  | @after t p direction hp ht =>
      rw [List.append_assoc, List.singleton_append]
      obtain ⟨v, hv⟩ := hp.names (t :: mid)
      exact ⟨_, mid, .after hv ht, hmid⟩

lemma takes_addends {outer total : Nat} (left : Expr) (hreadable : Readable ts)
    (h : Chain false outer total ts rest) (hle : outer ≤ total) :
    ∃ e mid, Reads (addends stop left ts) e mid ∧ Chain false outer total mid rest ∧
      NoAddend mid := by
  rcases h.noAddend_or with hsum | ⟨t, op, tail, rfl, hop, htail⟩
  · exact ⟨left, ts, addends_reads.mpr (.inl ⟨rfl, rfl, fun t ht =>
      ⟨hsum t ht, (h.next t ht).2.2.2⟩⟩), h, hsum⟩
  · obtain ⟨right, mid, hright, hmid⟩ := (ih tail (by simp)).operand hreadable.tail htail hle
    have hreadable' := ((readsPhrases tail).operand hright).readable hreadable.tail
    obtain ⟨e, mid', he, hmid'⟩ := (ih mid (Nat.lt_succ_of_lt hright.lt)).addends
      (.sum op left right t.place.line) hreadable' hmid hle
    exact ⟨e, mid', addends_reads.mpr (.inr ⟨t, tail, op, right, mid, hop, rfl, hright, he⟩), hmid'⟩

lemma takes_sum {outer total : Nat} (hreadable : Readable ts)
    (h : Chain true outer total ts rest) (hle : outer ≤ total) :
    ∃ e mid, Reads (additive stop ts) e mid ∧ Chain false outer total mid rest ∧ NoAddend mid := by
  simp only [additive_reads]
  obtain ⟨first, mid, hfirst, hmid⟩ := takes_operand ih hreadable h hle
  obtain ⟨e, mid', he, hmid'⟩ := (ih mid hfirst.lt).addends first
    (((readsPhrases ts).operand hfirst).readable hreadable) hmid hle
  exact ⟨e, mid', ⟨first, mid, hfirst, he⟩, hmid'⟩

lemma takes_comparison {m : Nat} (hreadable : Readable ts) (h : Chain true m (m + 1) ts rest) :
    ∃ e mid, Reads (comparison stop ts) e mid ∧ Chain false m m mid rest ∧ NoAddend mid := by
  simp only [comparison_reads]
  obtain ⟨left, mid, hleft, hmid, hsum⟩ := takes_sum ih hreadable h (Nat.le_succ m)
  rcases hmid.compare_or hsum with ⟨hmid, hnone⟩ | ⟨t, op, tail, rfl, hop, htail⟩
  · exact ⟨left, mid, ⟨left, mid, hleft, .inl ⟨rfl, rfl, hnone⟩⟩, hmid, hsum⟩
  · obtain ⟨right, mid', hright, hmid'⟩ := (ih tail (Nat.lt_of_succ_lt hleft.lt)).sum
      (((readsPhrases ts).sum hleft).readable hreadable).tail htail le_rfl
    exact ⟨_, mid', ⟨left, t :: tail, hleft, .inr ⟨t, tail, op, right, hop, rfl, hright, rfl⟩⟩,
      hmid'⟩

lemma takes_conjuncts {m : Nat} (hreadable : Readable ts) (h : Chain false m m ts rest)
    (hsum : NoAddend ts) :
    ∃ es mid, Reads (conjuncts stop ts) es mid ∧ Chain false m m mid rest ∧ NoAddend mid ∧
      NotNext "&&" mid := by
  rcases h.join_or .and with hand | ⟨t, tail, rfl, ht, htail⟩
  · exact ⟨[], ts, (conjuncts_repeats stop).reads.mpr (.inl ⟨rfl, rfl, hand⟩), h, hsum, hand⟩
  · obtain ⟨e, mid, he, hmid, hsum⟩ := (ih tail (by simp)).comparison hreadable.tail htail
    have hreadable' := ((readsPhrases tail).comparison he).readable hreadable.tail
    obtain ⟨others, mid', hothers, hmid'⟩ :=
      (ih mid (Nat.lt_succ_of_lt he.lt)).conjuncts hreadable' hmid hsum
    have hreads := (conjuncts_repeats stop).reads.mpr
      (.inr ⟨t, tail, e, mid, others, ht, rfl, he, hothers, rfl⟩)
    exact ⟨_, mid', hreads, hmid'⟩

lemma takes_conjunction {m : Nat} (hreadable : Readable ts) (h : Chain true m (m + 1) ts rest) :
    ∃ e mid, Reads (conjunction stop ts) e mid ∧ Chain false m m mid rest ∧ NoAddend mid ∧
      NotNext "&&" mid := by
  simp only [(conjunction_joins stop).reads]
  obtain ⟨first, mid, hfirst, hmid, hsum⟩ := takes_comparison ih hreadable h
  obtain ⟨others, mid', hothers, hmid'⟩ := (ih mid hfirst.lt).conjuncts
    (((readsPhrases ts).comparison hfirst).readable hreadable) hmid hsum
  exact ⟨_, mid', ⟨first, mid, others, hfirst, hothers, rfl⟩, hmid'⟩

lemma takes_disjuncts {m : Nat} (hreadable : Readable ts) (h : Chain false m m ts rest)
    (hsum : NoAddend ts) (hand : NotNext "&&" ts) :
    ∃ es mid, Reads (disjuncts stop ts) es mid ∧ Chain false m m mid rest ∧ NoAddend mid ∧
      NotNext "&&" mid ∧ NotNext "||" mid := by
  rcases h.join_or .or with hor | ⟨t, tail, rfl, ht, htail⟩
  · exact ⟨[], ts, (disjuncts_repeats stop).reads.mpr (.inl ⟨rfl, rfl, hor⟩), h, hsum, hand, hor⟩
  · obtain ⟨e, mid, he, hmid, hsum, hand⟩ := (ih tail (by simp)).conjunction hreadable.tail htail
    have hreadable' := ((readsPhrases tail).conjunction he).readable hreadable.tail
    obtain ⟨others, mid', hothers, hmid'⟩ :=
      (ih mid (Nat.lt_succ_of_lt he.lt)).disjuncts hreadable' hmid hsum hand
    have hreads := (disjuncts_repeats stop).reads.mpr
      (.inr ⟨t, tail, e, mid, others, ht, rfl, he, hothers, rfl⟩)
    exact ⟨_, mid', hreads, hmid'⟩

lemma takes_expression {m : Nat} (hreadable : Readable ts) (h : Chain true m (m + 1) ts rest) :
    ∃ e mid, Reads (expression stop ts) e mid ∧ Chain false m m mid rest ∧ NoAddend mid ∧
      NotNext "&&" mid ∧ NotNext "||" mid := by
  simp only [(expression_joins stop).reads]
  obtain ⟨first, mid, hfirst, hmid, hsum, hand⟩ := takes_conjunction ih hreadable h
  obtain ⟨others, mid', hothers, hmid'⟩ := (ih mid hfirst.lt).disjuncts
    (((readsPhrases ts).conjunction hfirst).readable hreadable) hmid hsum hand
  exact ⟨_, mid', ⟨first, mid, others, hfirst, hothers, rfl⟩, hmid'⟩

end Takes

lemma takesChains (ts : List Token) : TakesChains stop ts :=
  have ih : ∀ ts', ts'.length < ts.length → TakesChains stop ts' := fun ts' _ => takesChains ts'
  ⟨takes_operand ih, takes_addends ih, takes_sum ih, takes_comparison ih, takes_conjuncts ih,
    takes_conjunction ih, takes_disjuncts ih, takes_expression ih⟩
termination_by ts.length

/-- **Expressions.**  A derived expression is read up to the token that closes it. -/
lemma expression_complete (stop : Place) {e : List Token} {c : Token}
    (hreadable : Readable (e ++ c :: rest)) (he : Derives .expression e)
    (hc : c.is ")" = true ∨ c.is ";" = true) :
    ∃ e', Reads (expression stop (e ++ c :: rest)) e' (c :: rest) :=
  takes_closed (takesChains _) hreadable he hc

/-! ## Courses -/

/-- What is left of a statement, up to the tokens `rest` behind it.  The flag says whether a statement
is due, and `n` how many branches may still get an `else`. -/
inductive Course : Bool → Nat → List Token → List Token → Prop
  | done {n : Nat} {rest : List Token} : NotNext "else" rest → Course false n rest rest
  | otherwise {t : Token} {n : Nat} {ts rest : List Token} : t.is "else" = true →
      Course true n ts rest → Course false (n + 1) (t :: ts) rest
  | empty {t : Token} {n : Nat} {ts rest : List Token} : t.is ";" = true →
      Course false n ts rest → Course true n (t :: ts) rest
  | block {o c : Token} {p : List Token} {n : Nat} {ts rest : List Token} : o.is "\x7b" = true →
      Derives .program p → c.is "\x7d" = true → Course false n ts rest →
      Course true n (o :: p ++ c :: ts) rest
  | decl {d : List Token} {n : Nat} {ts rest : List Token} : Derives .declaration d →
      Course false n ts rest → Course true n (d ++ ts) rest
  | ifThen {k o c : Token} {e : List Token} {n : Nat} {ts rest : List Token} :
      k.is "if" = true → o.is "(" = true → Derives .expression e → c.is ")" = true →
      Course true (n + 1) ts rest → Course true n (k :: o :: e ++ c :: ts) rest
  | whileDo {k o c : Token} {e : List Token} {n : Nat} {ts rest : List Token} :
      k.is "while" = true → o.is "(" = true → Derives .expression e → c.is ")" = true →
      Course true n ts rest → Course true n (k :: o :: e ++ c :: ts) rest
  | expr {e : List Token} {c : Token} {n : Nat} {ts rest : List Token} : Derives .expression e →
      c.is ";" = true → Course false n ts rest → Course true n (e ++ c :: ts) rest

lemma Course.mono {due : Bool} {n n' : Nat} (h : Course due n ts rest) (hle : n ≤ n') :
    Course due n' ts rest := by
  induction h generalizing n' with
  | done hnext => exact .done hnext
  | otherwise ht _ ih =>
      obtain ⟨k, rfl⟩ := Nat.exists_eq_add_of_le hle
      rw [Nat.add_right_comm]
      exact .otherwise ht (ih (by omega))
  | empty ht _ ih => exact .empty ht (ih hle)
  | block ho hp hc _ ih => exact .block ho hp hc (ih hle)
  | decl hd _ ih => exact .decl hd (ih hle)
  | ifThen hk ho he hc _ ih => exact .ifThen hk ho he hc (ih (by omega))
  | whileDo hk ho he hc _ ih => exact .whileDo hk ho he hc (ih hle)
  | expr he hc _ ih => exact .expr he hc (ih hle)

/-- Put in front of a course, a statement makes a longer one. -/
lemma Derives.course {u : List Token} (h : Derives .statement u) {n : Nat}
    (hts : Course false n ts rest) : Course true n (u ++ ts) rest := by
  generalize hp : Phrase.statement = p at h
  induction h generalizing n ts with
  | empty ht => exact .empty ht hts
  | block ho hprogram hc _ => simpa using Course.block ho hprogram hc hts
  | decl hd _ => exact .decl hd hts
  | ifThen hk ho he hc _ _ ih =>
      simpa using Course.ifThen hk ho he hc (ih (hts.mono (Nat.le_succ n)) rfl)
  | ifElse hk ho he hc _ hl _ _ ih ih' =>
      simpa using Course.ifThen hk ho he hc (ih (.otherwise hl (ih' hts rfl)) rfl)
  | whileDo hk ho he hc _ _ ih => simpa using Course.whileDo hk ho he hc (ih hts rfl)
  | expr he hc _ => simpa using Course.expr he hc hts
  | _ => cases hp

lemma Optionally.accepts {text : String} {u more : List Token} (h : Optionally text u)
    (hmore : NotNext text more) : ∃ found, Accepts text (u ++ more) found more := by
  rcases h with rfl | ⟨t, ht, rfl⟩
  · exact ⟨false, .inr ⟨rfl, hmore, rfl⟩⟩
  · exact ⟨true, .inl ⟨rfl, t, ht, rfl⟩⟩

lemma initializer_complete (stop : Place) {i : List Token} {s : Token}
    (hreadable : Readable (i ++ s :: rest)) (hi : Derives .initializer i) (hs : s.is ";" = true) :
    ∃ init, Reads (declaration.initializer stop (i ++ s :: rest)) init (s :: rest) := by
  simp only [initializer_reads]
  cases hi with
  | uninitialized =>
      exact ⟨none, .inl ⟨rfl, rfl, notNext_cons (by simp [Token.is_of_is hs]) rest⟩⟩
  | @initialized t e ht he =>
      obtain ⟨e', hreads⟩ := expression_complete stop hreadable.tail he (.inr hs)
      exact ⟨some e', .inr ⟨t, e ++ s :: rest, e', ht, rfl, hreads, rfl⟩⟩

lemma declaration_complete (stop : Place) {d : List Token} (hreadable : Readable (d ++ rest))
    (hd : Derives .declaration d) :
    ∃ d' t tail, Reads (declaration stop (d ++ rest)) d' rest ∧ d ++ rest = t :: tail ∧
      (t.is "int" = true ∨ t.is "const" = true) := by
  simp only [declaration_reads]
  cases hd with
  | @declaration a b c i k n s ha hk hb hc hn hi hs =>
  simp only [List.append_assoc, List.cons_append, List.nil_append] at hreadable ⊢
  have hname : ∀ text more, NotNext text (n :: more) :=
    fun text more => notNext_cons (Token.is_of_kind (.inr hn) text) more
  obtain ⟨init, hinit⟩ := initializer_complete stop
    hreadable.of_append.tail.of_append.of_append.tail hi hs
  obtain ⟨constantToo, hconstantToo⟩ := hc.accepts (hname "const" (i ++ s :: rest))
  have hstar : NotNext "*" (c ++ n :: (i ++ s :: rest)) := by
    rcases hc with rfl | ⟨t, ht, rfl⟩
    · exact hname _ _
    · exact notNext_cons (by simp [Token.is_of_is ht]) _
  obtain ⟨pointer, hpointer⟩ := hb.accepts hstar
  have hint : NotNext "const" (k :: (b ++ (c ++ n :: (i ++ s :: rest)))) :=
    notNext_cons (by simp [Token.is_of_is hk]) _
  obtain ⟨constant, hconstant⟩ := ha.accepts hint
  have hhead : ∃ t tail, a ++ k :: (b ++ (c ++ n :: (i ++ s :: rest))) = t :: tail ∧
      (t.is "int" = true ∨ t.is "const" = true) := by
    rcases ha with rfl | ⟨t, ht, rfl⟩
    · exact ⟨k, _, rfl, .inl hk⟩
    · exact ⟨t, _, rfl, .inr ht⟩
  obtain ⟨t, tail, heq, ht⟩ := hhead
  exact ⟨_, t, tail, ⟨constant, k, _, pointer, _, constantToo, n, _, init, s, hconstant, hk,
    hpointer, hconstantToo, hn, hinit, hs, rfl⟩, heq, ht⟩

lemma condition_complete (stop : Place) {o c : Token} {e : List Token}
    (hreadable : Readable (o :: e ++ c :: rest)) (ho : o.is "(" = true) (he : Derives .expression e) (hc : c.is ")" = true) :
    ∃ e', Reads (condition stop (o :: e ++ c :: rest)) e' rest := by
  obtain ⟨e', hreads⟩ := expression_complete stop hreadable.tail he (.inl hc)
  exact ⟨e', condition_reads.mpr ⟨o, e ++ c :: rest, c, ho, rfl, hreads, hc⟩⟩

/-- What the descent takes of a course, and of a block up to its closing brace. -/
structure TakesCourses (stop : Place) (ts : List Token) : Prop where
  statement : ∀ {n rest}, Readable ts → Course true n ts rest →
    ∃ s mid, Reads (statement stop ts) s mid ∧ Course false n mid rest
  blockBody : ∀ {p c rest}, Readable ts → ts = p ++ c :: rest → Derives .program p →
    c.is "\x7d" = true → ∃ body, Reads (blockBody stop ts) body rest

lemma takes_body (hts : TakesCourses stop ts) {n : Nat} (hreadable : Readable ts)
    (h : Course true n ts rest) :
    ∃ s mid, Reads (body stop ts) s mid ∧ Course false n mid rest := by
  obtain ⟨s, mid, hs, hmid⟩ := hts.statement hreadable h
  simp only [body_reads]
  cases s with
  | none => exact ⟨_, mid, .inr ⟨hs, rfl⟩, hmid⟩
  | some s => exact ⟨s, mid, .inl hs, hmid⟩

section Takes

variable (ih : ∀ ts', ts'.length < ts.length → TakesCourses stop ts')
include ih

lemma takes_statement {n : Nat} (hreadable : Readable ts) (h : Course true n ts rest) :
    ∃ s mid, Reads (statement stop ts) s mid ∧ Course false n mid rest := by
  simp only [statement_reads]
  cases h with
  | empty ht hts => exact ⟨_, _, .empty ht, hts⟩
  | block ho hp hc hts =>
      obtain ⟨body, hbody⟩ := (ih _ (by simp)).blockBody hreadable.tail rfl hp hc
      exact ⟨_, _, .block ho hbody, hts⟩
  | decl hd hts =>
      obtain ⟨d, t, tail, hreads, heq, ht⟩ := declaration_complete stop hreadable hd
      rw [heq] at hreads ⊢
      exact ⟨_, _, .decl ht hreads, hts⟩
  | @ifThen k o c e _ tail _ hk ho he hc htail =>
      obtain ⟨cond, hcond⟩ := condition_complete stop hreadable.tail ho he hc
      obtain ⟨yes, mid, hyes, hmid⟩ :=
        takes_body (ih _ (by simp; omega)) hreadable.tail.of_append.tail htail
      cases hmid with
      | done hnext => exact ⟨_, _, .ifThen hk hcond hyes hnext, .done hnext⟩
      | @otherwise l _ tail' _ hl hno =>
          have hlt := hyes.lt
          have hreadable' := (body_splits (readsStatements _) hyes).readable
            hreadable.tail.of_append.tail
          obtain ⟨no, mid', hno, hmid'⟩ :=
            takes_body (ih _ (by simp at hlt ⊢; omega)) hreadable'.tail hno
          exact ⟨_, _, .ifElse hk hcond hyes hl hno, hmid'⟩
  | @whileDo k o c e _ tail _ hk ho he hc htail =>
      obtain ⟨cond, hcond⟩ := condition_complete stop hreadable.tail ho he hc
      obtain ⟨again, mid, hagain, hmid⟩ :=
        takes_body (ih _ (by simp; omega)) hreadable.tail.of_append.tail htail
      exact ⟨_, _, .whileDo hk hcond hagain, hmid⟩
  | @expr e c _ tail _ he hc htail =>
      obtain ⟨e', hreads⟩ := expression_complete stop hreadable he (.inr hc)
      obtain ⟨line, hutters⟩ := utters_expression he hreads hc
      exact ⟨_, _, hutters, htail⟩

lemma takes_blockBody {p : List Token} {c : Token} (hreadable : Readable ts)
    (heq : ts = p ++ c :: rest) (hp : Derives .program p) (hc : c.is "\x7d" = true) :
    ∃ body, Reads (blockBody stop ts) body rest := by
  cases hp with
  | done => exact ⟨[], blockBody_reads.mpr (.inl ⟨c, hc, heq, rfl⟩)⟩
  | @next s p hs hp =>
      have helse : NotNext "else" (p ++ c :: rest) :=
        hp.notNext_else (notNext_cons (by simp [Token.is_of_is hc]) rest)
      rw [List.append_assoc] at heq
      subst heq
      obtain ⟨s', mid, hs', hmid⟩ := takes_statement ih hreadable (hs.course (.done (n := 0) helse))
      cases hmid
      obtain ⟨later, hlater⟩ := (ih _ hs'.lt).blockBody hreadable.of_append rfl hp hc
      exact ⟨_, blockBody_reads.mpr
        (.inr ⟨(hs.statement_starts _).2, s', _, later, hs', hlater, rfl⟩)⟩

end Takes

lemma takesCourses (ts : List Token) : TakesCourses stop ts :=
  have ih : ∀ ts', ts'.length < ts.length → TakesCourses stop ts' := fun ts' _ => takesCourses ts'
  ⟨takes_statement ih, takes_blockBody ih⟩
termination_by ts.length

/-- **Programs.**  A derived program is read, if the numbers in it can be. -/
lemma program_complete {p : List Token} (hreadable : Readable p) (hp : Derives .program p) :
    ∃ prog, program stop p = .ok prog := by
  generalize hphrase : Phrase.program = phrase at hp
  induction hp with
  | done => exact ⟨[], program_ok.mpr (.inl ⟨rfl, rfl⟩)⟩
  | @next s p hs hp _ ih =>
      have helse : NotNext "else" p := by
        have hempty : NotNext "else" [] := by rintro t ⟨⟩
        have := hp.notNext_else hempty
        rwa [List.append_nil] at this
      obtain ⟨s', mid, hs', hmid⟩ :=
        (takesCourses _).statement hreadable (hs.course (.done (n := 0) helse))
      cases hmid
      obtain ⟨later, hlater⟩ := ih hreadable.of_append rfl
      exact ⟨_, program_ok.mpr (.inr ⟨s', p, later, hs', hlater, rfl⟩)⟩
  | _ => cases hphrase

end Mailroom.Source
