import Mathlib
import Mailroom.Source.Grammar

/-!
# What the descent reads of an expression

Each step of the descent is turned inside out: it succeeds with a result and leaves some tokens
(`Reads`) exactly when the steps that it is made of do so, one behind the other, and the tokens in
between are the right ones.  All that is shown of the descent later rests on these equivalences, and
the definitions of the steps are not opened again.

- `Joins`, `Repeats`: how disjunctions and conjunctions are read, each of parts of its own.
- `Picks`: what an operand can be.
- `unary_reads`: the step that reads an operand picks one of these.
-/

namespace Mailroom.Source

open Text

/-- A bump as it is written. -/
def Bump.text : Bump → String
  | .up => "++"
  | .down => "--"

variable {stop : Place} {ts rest : List Token} {t : Token} {text : String}

/-! ## Tokens -/

lemma Token.is_iff : t.is text = true ↔ (t.kind = .op ∨ t.kind = .keyword) ∧ t.text = text := by
  simp [Token.is]

/-- A token with a fixed text has no other one. -/
lemma Token.is_of_is (h : t.is text = true) (other : String) : t.is other = (text == other) := by
  obtain ⟨hkind, rfl⟩ := is_iff.mp h
  rcases hkind with hkind | hkind <;> simp [Token.is, hkind]

lemma Token.kind_of_is (h : t.is text = true) : t.kind ≠ .number ∧ t.kind ≠ .name := by
  rcases (is_iff.mp h).1 with hkind | hkind <;> simp [hkind]

lemma Token.is_of_kind (h : t.kind = .number ∨ t.kind = .name) (text : String) :
    t.is text = false := by
  rcases h with h | h <;> simp [Token.is, h]

lemma Token.is_of_isOp (h : t.isOp text = true) : t.is text = true := by
  simp_all [Token.isOp, Token.is]

lemma Token.isOp_of_is (h : t.is text = true) (other : String) :
    t.isOp other = (t.kind == .op && text == other) := by
  rw [Token.isOp, (is_iff.mp h).2]

lemma Token.bump?_eq_some {direction : Bump} :
    t.bump? = some direction ↔ t.is direction.text = true := by
  rw [Token.bump?]
  by_cases hup : t.is "++" = true
  · cases direction <;> simp [hup, Bump.text, is_of_is hup]
  · by_cases hdown : t.is "--" = true
    · cases direction <;> simp [hup, hdown, Bump.text]
    · cases direction <;> simp [hup, hdown, Bump.text]

lemma Token.bump?_of_is (h : t.is text = true) (hup : text ≠ "++") (hdown : text ≠ "--") :
    t.bump? = none := by
  simp [Token.bump?, is_of_is h, hup, hdown]

lemma Token.bump?_of_kind (h : t.kind = .number ∨ t.kind = .name) : t.bump? = none := by
  simp [Token.bump?, is_of_kind h]

/-- The comparison that a token stands for. -/
def Token.comparison? (t : Token) : Option Comparison :=
  if t.kind = .op then Comparison.ofText? t.text else none

/-- The sum or difference that a token stands for. -/
def Token.sum? (t : Token) : Option SumOp :=
  if t.isOp "+" then some .plus else if t.isOp "-" then some .minus else none

/-- A token for what there is none of: products, quotients and remainders. -/
def Token.isProduct (t : Token) : Bool :=
  t.isOp "*" || t.isOp "/" || t.isOp "%"

/-! ## Single tokens -/

/-- A step of the descent succeeds with a result and leaves the given tokens. -/
def Reads {α : Type} {P : List Token → Prop}
    (outcome : Except SourceError (α × { rest : List Token // P rest })) (a : α)
    (rest : List Token) : Prop :=
  ∃ h, outcome = .ok (a, ⟨rest, h⟩)

/-- The next token, if there is one, does not have the given text. -/
def NotNext (text : String) (ts : List Token) : Prop :=
  ∀ t ∈ ts.head?, t.is text = false

lemma expect_ok {h : rest.length < ts.length} :
    expect stop text ts = .ok ⟨rest, h⟩ ↔ ∃ t, t.is text = true ∧ ts = t :: rest := by
  cases ts with
  | nil => simp [expect]
  | cons t tail =>
      rw [expect]
      by_cases ht : t.is text = true
      · rw [if_pos ht]
        constructor
        · intro heq
          cases heq
          exact ⟨t, ht, rfl⟩
        · rintro ⟨u, -, heq⟩
          cases heq
          rfl
      · rw [if_neg ht]
        constructor
        · intro heq
          cases heq
        · rintro ⟨u, hu, heq⟩
          cases heq
          exact absurd hu ht

lemma expect_cons (h : t.is text = true) :
    expect stop text (t :: rest) = .ok ⟨rest, Nat.lt_succ_self _⟩ :=
  expect_ok.mpr ⟨t, h, rfl⟩

/-- A token with a fixed text is there and read, or it is not there. -/
def Accepts (text : String) (ts : List Token) (found : Bool) (rest : List Token) : Prop :=
  (found = true ∧ ∃ t, t.is text = true ∧ ts = t :: rest) ∨
    (found = false ∧ NotNext text ts ∧ rest = ts)

lemma accept_eq {found : Bool} {h : rest.length ≤ ts.length} :
    accept text ts = (found, ⟨rest, h⟩) ↔ Accepts text ts found rest := by
  cases ts with
  | nil =>
      obtain rfl : rest = [] := List.eq_nil_of_length_eq_zero (Nat.le_zero.mp h)
      cases found <;> simp [accept, Accepts, NotNext]
  | cons t tail =>
      rw [accept]
      by_cases ht : t.is text = true
      · rw [if_pos ht]
        constructor
        · intro heq
          cases heq
          exact .inl ⟨rfl, t, ht, rfl⟩
        · rintro (⟨rfl, u, -, heq⟩ | ⟨-, hnot, -⟩)
          · cases heq
            rfl
          · exact absurd ht (by simp [hnot t rfl])
      · rw [if_neg ht]
        constructor
        · intro heq
          cases heq
          exact .inr ⟨rfl, by simpa [NotNext] using ht, rfl⟩
        · rintro (⟨-, u, hu, heq⟩ | ⟨rfl, -, rfl⟩)
          · cases heq
            exact absurd hu ht
          · rfl

lemma Accepts.accept {found : Bool} (h : Accepts text ts found rest) :
    ∃ hrest, accept text ts = (found, ⟨rest, hrest⟩) := by
  have hrest : rest.length ≤ ts.length := by
    rcases h with ⟨-, t, -, rfl⟩ | ⟨-, -, rfl⟩ <;> simp
  exact ⟨hrest, accept_eq.mpr h⟩

lemma expectName_reads {name : String} :
    Reads (expectName stop ts) name rest ↔
      ∃ t, t.kind = .name ∧ t.text = name ∧ ts = t :: rest := by
  cases ts with
  | nil => simp [expectName, Reads]
  | cons t tail =>
      rw [expectName]
      by_cases ht : t.kind = .name
      · rw [if_pos ht]
        constructor
        · rintro ⟨h, heq⟩
          cases heq
          exact ⟨t, ht, rfl, rfl⟩
        · rintro ⟨u, -, rfl, heq⟩
          cases heq
          exact ⟨_, rfl⟩
      · rw [if_neg ht]
        constructor
        · rintro ⟨h, heq⟩
          cases heq
        · rintro ⟨u, hu, -, heq⟩
          cases heq
          exact absurd hu ht

/-- Tokens that start with a variable, or with the tile that it points at. -/
inductive Names : List Token → Var → List Token → Prop
  | plain {t : Token} {rest : List Token} (hname : t.kind = .name) :
      Names (t :: rest) ⟨t.text, false, t.place.line⟩ rest
  | pointed {star t : Token} {rest : List Token} (hstar : star.is "*" = true)
      (hname : t.kind = .name) :
      Names (star :: t :: rest) ⟨t.text, true, star.place.line⟩ rest

lemma parsePlace_reads {v : Var} : Reads (parsePlace stop ts) v rest ↔ Names ts v rest := by
  rw [parsePlace]
  constructor
  · rintro ⟨h, heq⟩
    split at heq
    rename_i deref mid hmid haccept
    split at heq
    · cases heq
    · rename_i name rest' hrest hname
      cases heq
      obtain ⟨t, hkind, rfl, rfl⟩ := expectName_reads.mp ⟨_, hname⟩
      rcases accept_eq.mp haccept with ⟨rfl, star, hstar, rfl⟩ | ⟨rfl, -, rfl⟩
      · exact .pointed hstar hkind
      · exact .plain hkind
  · intro h
    cases h with
    | @plain t rest hname =>
        have haccept : accept "*" (t :: rest) = (false, ⟨t :: rest, Nat.le_refl _⟩) :=
          accept_eq.mpr (.inr ⟨rfl, by simp [NotNext, Token.is_of_kind (.inr hname)], rfl⟩)
        obtain ⟨_, hread⟩ : Reads (expectName stop (t :: rest)) t.text rest :=
          expectName_reads.mpr ⟨t, hname, rfl, rfl⟩
        rw [haccept]
        dsimp only
        rw [hread]
        exact ⟨_, rfl⟩
    | @pointed star t rest hstar hname =>
        have haccept : accept "*" (star :: t :: rest) = (true, ⟨t :: rest, by simp⟩) :=
          accept_eq.mpr (.inl ⟨rfl, star, hstar, rfl⟩)
        obtain ⟨_, hread⟩ : Reads (expectName stop (t :: rest)) t.text rest :=
          expectName_reads.mpr ⟨t, hname, rfl, rfl⟩
        rw [haccept]
        dsimp only
        rw [hread]
        exact ⟨_, rfl⟩

/-! ## Expressions -/

/-- A step reads parts that are joined by a connective: a first one and more of them. -/
def Joins (stop : Place) (op : Connective)
    (part : (ts : List Token) → Except SourceError (Expr × Rest ts))
    (more : (ts : List Token) → Except SourceError (List Expr × Kept ts))
    (whole : (ts : List Token) → Except SourceError (Expr × Rest ts)) : Prop :=
  ∀ ts, whole ts = (part ts).bind fun first => (more first.2.1).map fun others =>
    (.join op (lineAt stop ts) first.1 others.1,
      ⟨others.2.1, Nat.lt_of_le_of_lt others.2.2 first.2.2⟩)

/-- A step reads as many parts as there are, each behind a connective. -/
structure Repeats (text : String)
    (part : (ts : List Token) → Except SourceError (Expr × Rest ts))
    (more : (ts : List Token) → Except SourceError (List Expr × Kept ts)) : Prop where
  nil : more [] = .ok ([], ⟨[], Nat.le_refl _⟩)
  cons : ∀ t tail, more (t :: tail) =
    if t.is text then
      (part tail).bind fun e => (more e.2.1).map fun others =>
        (e.1 :: others.1,
          ⟨others.2.1, Nat.le_succ_of_le (Nat.le_of_lt (Nat.lt_of_le_of_lt others.2.2 e.2.2))⟩)
    else .ok ([], ⟨t :: tail, Nat.le_refl _⟩)

section Joined

variable {part whole : (ts : List Token) → Except SourceError (Expr × Rest ts)}
  {more : (ts : List Token) → Except SourceError (List Expr × Kept ts)} {op : Connective}

/-- One step behind another: what they read together. -/
lemma reads_bind_map {α β γ : Type} {P : List Token → Prop}
    {outcome : Except SourceError (α × Rest ts)}
    {next : (mid : List Token) → Except SourceError (β × Kept mid)} {f : α → β → γ}
    {hP : ∀ (first : α × Rest ts) (others : β × Kept first.2.1), P others.2.1} {c : γ} :
    Reads (outcome.bind fun first => (next first.2.1).map fun others =>
        (f first.1 others.1, (⟨others.2.1, hP first others⟩ : { rest // P rest }))) c rest ↔
      ∃ a mid b, Reads outcome a mid ∧ Reads (next mid) b rest ∧ c = f a b := by
  constructor
  · rintro ⟨h, heq⟩
    cases houtcome : outcome with
    | error err =>
        rw [houtcome] at heq
        cases heq
    | ok first =>
        obtain ⟨a, mid, hmid⟩ := first
        cases hnext : next mid with
        | error err =>
            simp only [houtcome, Except.bind, hnext, Except.map] at heq
            cases heq
        | ok others =>
            obtain ⟨b, rest', hrest⟩ := others
            simp only [houtcome, Except.bind, hnext, Except.map] at heq
            cases heq
            exact ⟨a, mid, b, ⟨_, rfl⟩, ⟨_, hnext⟩, rfl⟩
  · rintro ⟨a, mid, b, ⟨hmid, rfl⟩, ⟨hrest, hnext⟩, rfl⟩
    simp only [Except.bind, hnext, Except.map]
    exact ⟨_, rfl⟩

/-- Two steps fail at the first one or at the second one. -/
lemma error_bind_map {α β γ : Type} {outcome : Except SourceError (α × Rest ts)}
    {next : (mid : List Token) → Except SourceError (β × Kept mid)}
    {f : (first : α × Rest ts) → β × Kept first.2.1 → γ} {err : SourceError}
    (h : (outcome.bind fun first => (next first.2.1).map (f first)) = .error err) :
    outcome = .error err ∨ ∃ a mid, Reads outcome a mid ∧ next mid = .error err := by
  cases houtcome : outcome with
  | error err' =>
      rw [houtcome] at h
      cases h
      exact .inl rfl
  | ok first =>
      obtain ⟨a, mid, hmid⟩ := first
      cases hnext : next mid with
      | error err' =>
          simp only [houtcome, Except.bind, hnext, Except.map] at h
          cases h
          exact .inr ⟨a, mid, ⟨_, rfl⟩, hnext⟩
      | ok others =>
          simp only [houtcome, Except.bind, hnext, Except.map] at h
          cases h

lemma Joins.reads (h : Joins stop op part more whole) {e : Expr} :
    Reads (whole ts) e rest ↔ ∃ first mid others, Reads (part ts) first mid ∧
      Reads (more mid) others rest ∧ e = .join op (lineAt stop ts) first others := by
  rw [h]
  exact reads_bind_map

/-- Joined parts fail at the first one or behind it. -/
lemma Joins.error (h : Joins stop op part more whole) {err : SourceError}
    (herr : whole ts = .error err) :
    part ts = .error err ∨ ∃ first mid, Reads (part ts) first mid ∧ more mid = .error err := by
  rw [h] at herr
  exact error_bind_map herr

lemma Repeats.reads (h : Repeats text part more) {es : List Expr} :
    Reads (more ts) es rest ↔
      (es = [] ∧ rest = ts ∧ NotNext text ts) ∨
        ∃ t tail e mid others, t.is text = true ∧ ts = t :: tail ∧
          Reads (part tail) e mid ∧ Reads (more mid) others rest ∧ es = e :: others := by
  cases ts with
  | nil =>
      rw [h.nil]
      constructor
      · rintro ⟨hle, heq⟩
        cases heq
        exact .inl ⟨rfl, rfl, by simp [NotNext]⟩
      · rintro (⟨rfl, rfl, -⟩ | ⟨t, tail, e, mid, others, -, heq, -⟩)
        · exact ⟨_, rfl⟩
        · cases heq
  | cons t tail =>
      rw [h.cons]
      by_cases ht : t.is text = true
      · rw [if_pos ht, reads_bind_map]
        constructor
        · rintro ⟨e, mid, others, he, hothers, rfl⟩
          exact .inr ⟨t, tail, e, mid, others, ht, rfl, he, hothers, rfl⟩
        · rintro (⟨-, -, hnot⟩ | ⟨u, tail', e, mid, others, -, heq, he, hothers, rfl⟩)
          · exact absurd ht (by simp [hnot t rfl])
          · cases heq
            exact ⟨e, mid, others, he, hothers, rfl⟩
      · rw [if_neg ht]
        constructor
        · rintro ⟨hle, heq⟩
          cases heq
          exact .inl ⟨rfl, rfl, by simpa [NotNext] using ht⟩
        · rintro (⟨rfl, rfl, -⟩ | ⟨u, tail', e, mid, others, hu, heq, -⟩)
          · exact ⟨_, rfl⟩
          · cases heq
            exact absurd hu ht

lemma Repeats.error (h : Repeats text part more) {err : SourceError}
    (herr : more ts = .error err) :
    ∃ t tail, ts = t :: tail ∧ (part tail = .error err ∨
      ∃ e mid, Reads (part tail) e mid ∧ more mid = .error err) := by
  cases ts with
  | nil =>
      rw [h.nil] at herr
      cases herr
  | cons t tail =>
      rw [h.cons] at herr
      split at herr
      · exact ⟨t, tail, rfl, error_bind_map herr⟩
      · cases herr

end Joined

lemma expression_joins (stop : Place) :
    Joins stop .or (conjunction stop) (disjuncts stop) (expression stop) := by
  intro ts
  rw [expression]
  rcases conjunction stop ts with err | ⟨first, mid, hmid⟩
  · rfl
  · dsimp only [Except.bind]
    rcases disjuncts stop mid with err | others <;> rfl

lemma disjuncts_repeats (stop : Place) : Repeats "||" (conjunction stop) (disjuncts stop) where
  nil := by rw [disjuncts]
  cons t tail := by
    rw [disjuncts]
    split
    · rcases conjunction stop tail with err | ⟨first, mid, hmid⟩
      · rfl
      · dsimp only [Except.bind]
        rcases disjuncts stop mid with err | others <;> rfl
    · rfl

lemma conjunction_joins (stop : Place) :
    Joins stop .and (comparison stop) (conjuncts stop) (conjunction stop) := by
  intro ts
  rw [conjunction]
  rcases comparison stop ts with err | ⟨first, mid, hmid⟩
  · rfl
  · dsimp only [Except.bind]
    rcases conjuncts stop mid with err | others <;> rfl

lemma conjuncts_repeats (stop : Place) : Repeats "&&" (comparison stop) (conjuncts stop) where
  nil := by rw [conjuncts]
  cons t tail := by
    rw [conjuncts]
    split
    · rcases comparison stop tail with err | ⟨first, mid, hmid⟩
      · rfl
      · dsimp only [Except.bind]
        rcases conjuncts stop mid with err | others <;> rfl
    · rfl

lemma comparison_reads {e : Expr} : Reads (comparison stop ts) e rest ↔
    ∃ left mid, Reads (additive stop ts) left mid ∧
      ((e = left ∧ rest = mid ∧ ∀ t ∈ mid.head?, t.comparison? = none) ∨
        ∃ t tail op right, t.comparison? = some op ∧ mid = t :: tail ∧
          Reads (additive stop tail) right rest ∧ e = .compare op left right t.place.line) := by
  rw [comparison]
  constructor
  · rintro ⟨h, heq⟩
    split at heq
    · cases heq
    · rename_i left hmid hleft
      cases heq
      exact ⟨_, [], ⟨_, hleft⟩, .inl ⟨rfl, rfl, by simp⟩⟩
    · rename_i left t tail hmid hleft
      refine ⟨left, t :: tail, ⟨_, hleft⟩, ?_⟩
      split at heq
      · rename_i hop
        cases heq
        exact .inl ⟨rfl, rfl, by simpa [Token.comparison?] using hop⟩
      · rename_i op hop
        split at heq
        · cases heq
        · rename_i right rest' hrest hright
          cases heq
          exact .inr ⟨t, tail, op, right, hop, rfl, ⟨_, hright⟩, rfl⟩
  · rintro ⟨left, mid, ⟨hmid, hleft⟩,
      ⟨rfl, rfl, hop⟩ | ⟨t, tail, op, right, hop, rfl, ⟨_, hright⟩, rfl⟩⟩
    · rw [hleft]
      cases rest with
      | nil => exact ⟨_, rfl⟩
      | cons t tail =>
          have hop : (if t.kind = .op then Comparison.ofText? t.text else none) = none := hop t rfl
          dsimp only
          rw [hop]
          exact ⟨_, rfl⟩
    · rw [hleft]
      have hop : (if t.kind = .op then Comparison.ofText? t.text else none) = some op := hop
      dsimp only
      rw [hop]
      dsimp only
      rw [hright]
      exact ⟨_, rfl⟩

lemma additive_reads {e : Expr} : Reads (additive stop ts) e rest ↔
    ∃ first mid, Reads (unary stop ts) first mid ∧ Reads (addends stop first mid) e rest := by
  rw [additive]
  constructor
  · rintro ⟨h, heq⟩
    split at heq
    · cases heq
    · rename_i first mid hmid hfirst
      split at heq
      · cases heq
      · rename_i e' rest' hrest he
        cases heq
        exact ⟨first, mid, ⟨_, hfirst⟩, ⟨_, he⟩⟩
  · rintro ⟨first, mid, ⟨_, hfirst⟩, ⟨_, he⟩⟩
    rw [hfirst]
    dsimp only
    rw [he]
    exact ⟨_, rfl⟩

lemma addends_reads {left e : Expr} : Reads (addends stop left ts) e rest ↔
    (e = left ∧ rest = ts ∧ ∀ t ∈ ts.head?, t.sum? = none ∧ t.isProduct = false) ∨
      ∃ t tail op right mid, t.sum? = some op ∧ ts = t :: tail ∧ Reads (unary stop tail) right mid ∧
        Reads (addends stop (.sum op left right t.place.line) mid) e rest := by
  cases ts with
  | nil =>
      rw [addends]
      constructor
      · rintro ⟨h, heq⟩
        cases heq
        exact .inl ⟨rfl, rfl, by simp⟩
      · rintro (⟨rfl, rfl, -⟩ | ⟨t, tail, op, right, mid, -, heq, -⟩)
        · exact ⟨_, rfl⟩
        · cases heq
  | cons t tail =>
      rw [addends]
      constructor
      · rintro ⟨h, heq⟩
        split at heq
        · rename_i op hop
          split at heq
          · cases heq
          · rename_i right mid hmid hright
            split at heq
            · cases heq
            · rename_i e' rest' hrest he
              cases heq
              exact .inr ⟨t, tail, op, right, mid, hop, rfl, ⟨_, hright⟩, ⟨_, he⟩⟩
        · rename_i hop
          split at heq
          · cases heq
          · rename_i hproduct
            cases heq
            refine .inl ⟨rfl, rfl, ?_⟩
            rintro u ⟨⟩
            exact ⟨hop, by simpa [Token.isProduct] using hproduct⟩
      · rintro (⟨rfl, rfl, hnone⟩ | ⟨u, tail', op, right, mid, hop, heq, ⟨_, hright⟩, ⟨_, he⟩⟩)
        · obtain ⟨hop, hproduct⟩ := hnone t rfl
          have hop : (if t.isOp "+" then some SumOp.plus else if t.isOp "-" then some SumOp.minus
              else none) = none := hop
          have hproduct : (t.isOp "*" || t.isOp "/" || t.isOp "%") = false := hproduct
          rw [hop]
          dsimp only
          rw [hproduct]
          exact ⟨_, rfl⟩
        · cases heq
          have hop : (if t.isOp "+" then some SumOp.plus else if t.isOp "-" then some SumOp.minus
              else none) = some op := hop
          rw [hop]
          dsimp only
          rw [hright]
          dsimp only
          rw [he]
          exact ⟨_, rfl⟩

/-- What an operand can be. -/
inductive Picks (stop : Place) : List Token → Expr → List Token → Prop
  | number {t : Token} {n : Nat} {rest : List Token} (hkind : t.kind = .number)
      (hvalue : t.value = .ok n) : Picks stop (t :: rest) (.num n t.place.line) rest
  | truth {t : Token} {rest : List Token} (ht : t.is "true" = true) :
      Picks stop (t :: rest) (.bool true t.place.line) rest
  | falsity {t : Token} {rest : List Token} (ht : t.is "false" = true) :
      Picks stop (t :: rest) (.bool false t.place.line) rest
  | paren {t u : Token} {tail rest : List Token} {e : Expr} (ht : t.is "(" = true)
      (he : Reads (expression stop tail) e (u :: rest)) (hu : u.is ")" = true) :
      Picks stop (t :: tail) e rest
  | call {t u v : Token} {rest : List Token} (ht : t.kind = .name) (hu : u.is "(" = true)
      (hv : v.is ")" = true) : Picks stop (t :: u :: v :: rest) (.call t.text t.place.line) rest
  | callWith {t u v : Token} {tail rest : List Token} {e : Expr} (ht : t.kind = .name)
      (hu : u.is "(" = true) (htail : NotNext ")" tail)
      (he : Reads (expression stop tail) e (v :: rest)) (hv : v.is ")" = true) :
      Picks stop (t :: u :: tail) (.callWith t.text e t.place.line) rest
  | before {t : Token} {tail rest : List Token} {target : Var} {direction : Bump}
      (ht : t.bump? = some direction) (htarget : Names tail target rest) :
      Picks stop (t :: tail) (.bump target direction false t.place.line) rest
  | assign {u : Token} {ts mid rest : List Token} {target : Var} {value : Expr}
      (htarget : Names ts target (u :: mid)) (hu : u.is "=" = true)
      (hvalue : Reads (expression stop mid) value rest) :
      Picks stop ts (.assign target value (lineAt stop ts)) rest
  | after {u : Token} {ts rest : List Token} {target : Var} {direction : Bump}
      (htarget : Names ts target (u :: rest)) (hu : u.bump? = some direction) :
      Picks stop ts (.bump target direction true (lineAt stop ts)) rest
  | var {ts rest : List Token} {target : Var} (htarget : Names ts target rest)
      (hnone : ∀ u ∈ rest.head?, u.is "=" = false ∧ u.bump? = none ∧
        (target.deref = false → u.is "(" = false)) :
      Picks stop ts (.var target) rest

lemma picks_of_unary {e : Expr} (h : Reads (unary stop ts) e rest) : Picks stop ts e rest := by
  obtain ⟨h, heq⟩ := h
  cases ts with
  | nil =>
      rw [unary] at heq
      cases heq
  | cons t tail =>
      rw [unary] at heq
      dsimp only at heq
      split at heq
      · rename_i hkind
        split at heq
        · cases heq
        · rename_i n hvalue
          cases heq
          exact .number hkind hvalue
      split at heq
      · rename_i ht
        cases heq
        exact .truth ht
      split at heq
      · rename_i ht
        cases heq
        exact .falsity ht
      split at heq
      · rename_i ht
        split at heq
        · cases heq
        · rename_i inner mid hmid hinner
          split at heq
          · cases heq
          · rename_i rest' hrest hexpect
            cases heq
            obtain ⟨u, hu, rfl⟩ := expect_ok.mp hexpect
            exact .paren ht ⟨_, hinner⟩ hu
      split at heq
      · rename_i hcall
        obtain ⟨u, tail, rfl, hu⟩ : ∃ u more, tail = u :: more ∧ u.is "(" = true := by
          cases tail with
          | nil => simp at hcall
          | cons u more => exact ⟨u, more, rfl, by simpa using hcall.2⟩
        split at heq
        · rename_i hclose
          obtain ⟨v, tail, rfl, hv⟩ : ∃ v more, tail = v :: more ∧ v.is ")" = true := by
            cases tail with
            | nil => simp at hclose
            | cons v more => exact ⟨v, more, rfl, by simpa using hclose⟩
          cases heq
          exact .call hcall.1 hu hv
        · rename_i hopen
          have htail : NotNext ")" tail := by
            intro v hv
            rw [List.tail_cons, Option.mem_def.mp hv] at hopen
            simpa using hopen
          split at heq
          · cases heq
          · rename_i arg mid hmid harg
            split at heq
            · cases heq
            · rename_i rest' hrest hexpect
              cases heq
              obtain ⟨v, hv, rfl⟩ := expect_ok.mp hexpect
              exact .callWith hcall.1 hu htail ⟨_, harg⟩ hv
      rename_i hcall
      split at heq
      · rename_i direction hbump
        split at heq
        · cases heq
        · rename_i target mid hmid htarget
          cases heq
          exact .before hbump (parsePlace_reads.mp ⟨_, htarget⟩)
      split at heq
      · split at heq
        · cases heq
        · rename_i target hlt htarget
          cases heq
          exact .var (parsePlace_reads.mp ⟨_, htarget⟩) (by simp)
        · rename_i target u mid hlt htarget
          have hnames := parsePlace_reads.mp ⟨_, htarget⟩
          split at heq
          · rename_i hu
            split at heq
            · cases heq
            · rename_i value rest' hrest hvalue
              cases heq
              exact .assign hnames hu ⟨_, hvalue⟩
          · rename_i hu
            split at heq
            · rename_i direction hbump
              cases heq
              exact .after hnames hbump
            · rename_i hbump
              cases heq
              refine .var hnames ?_
              rintro v ⟨⟩
              refine ⟨by simpa using hu, hbump, fun hderef => ?_⟩
              cases hnames with
              | plain hname => simpa [hname] using hcall
              | pointed => cases hderef
      · cases heq

lemma unary_of_picks {e : Expr} (h : Picks stop ts e rest) : Reads (unary stop ts) e rest := by
  cases h with
  | number hkind hvalue =>
      rw [unary]
      simp only [hkind, if_true, hvalue]
      exact ⟨_, rfl⟩
  | truth ht =>
      rw [unary]
      simp only [(Token.kind_of_is ht).1, if_false, ht, if_true]
      exact ⟨_, rfl⟩
  | falsity ht =>
      rw [unary]
      simp only [(Token.kind_of_is ht).1, if_false, Token.is_of_is ht, String.reduceBEq,
        Bool.false_eq_true, if_true]
      exact ⟨_, rfl⟩
  | paren ht he hu =>
      obtain ⟨_, he⟩ := he
      rw [unary]
      simp only [(Token.kind_of_is ht).1, if_false, Token.is_of_is ht, String.reduceBEq,
        Bool.false_eq_true, if_true, he, expect_cons hu]
      exact ⟨_, rfl⟩
  | call ht hu hv =>
      rw [unary]
      simp only [ht, reduceCtorEq, if_false, Token.is_of_kind (.inr ht), Bool.false_eq_true,
        List.head?_cons, Option.any_some, hu, and_self, if_true, List.tail_cons, hv]
      exact ⟨_, rfl⟩
  | @callWith t u v tail rest e ht hu htail he hv =>
      obtain ⟨_, he⟩ := he
      have hclose : ¬ tail.head?.any (·.is ")") = true := by
        cases tail with
        | nil => simp
        | cons v tail => simp [htail v rfl]
      rw [unary]
      simp only [ht, reduceCtorEq, if_false, Token.is_of_kind (.inr ht), Bool.false_eq_true,
        List.head?_cons, Option.any_some, hu, and_self, if_true, List.tail_cons, hclose, he,
        expect_cons hv]
      exact ⟨_, rfl⟩
  | @before t tail rest target direction ht htarget =>
      obtain ⟨_, hplace⟩ := (@parsePlace_reads stop _ _ _).mpr htarget
      have his := Token.bump?_eq_some.mp ht
      obtain ⟨hnumber, hname⟩ := Token.kind_of_is his
      have htexts : t.is "true" = false ∧ t.is "false" = false ∧ t.is "(" = false := by
        cases direction <;> simp [Token.is_of_is his, Bump.text]
      rw [unary]
      simp only [hnumber, hname, htexts, if_false, Bool.false_eq_true, false_and, ht, hplace]
      exact ⟨_, rfl⟩
  | @assign u ts mid rest target value htarget hu hvalue =>
      obtain ⟨_, hplace⟩ := (@parsePlace_reads stop _ _ _).mpr htarget
      obtain ⟨_, hvalue⟩ := hvalue
      cases htarget with
      | plain hname =>
          rw [unary]
          simp only [hname, reduceCtorEq, if_false, Token.is_of_kind (.inr hname),
            Bool.false_eq_true, List.head?_cons, Option.any_some, Token.is_of_is hu,
            String.reduceBEq, and_false, Token.bump?_of_kind (.inr hname), true_or, if_true,
            hplace, hvalue]
          exact ⟨_, rfl⟩
      | pointed hstar hname =>
          rw [unary]
          simp only [Token.kind_of_is hstar, if_false, Token.is_of_is hstar, String.reduceBEq,
            Bool.false_eq_true, false_and, Token.bump?_of_is hstar (by decide) (by decide),
            or_true, if_true, hplace, hu, hvalue]
          exact ⟨_, rfl⟩
  | @after u ts rest target direction htarget hu =>
      obtain ⟨_, hplace⟩ := (@parsePlace_reads stop _ _ _).mpr htarget
      have htexts : u.is "=" = false ∧ u.is "(" = false := by
        cases direction <;> simp [Token.is_of_is (Token.bump?_eq_some.mp hu), Bump.text]
      cases htarget with
      | plain hname =>
          rw [unary]
          simp only [hname, reduceCtorEq, if_false, Token.is_of_kind (.inr hname),
            Bool.false_eq_true, List.head?_cons, Option.any_some, htexts, and_false,
            Token.bump?_of_kind (.inr hname), true_or, if_true, hplace, hu]
          exact ⟨_, rfl⟩
      | pointed hstar hname =>
          rw [unary]
          simp only [Token.kind_of_is hstar, if_false, Token.is_of_is hstar, String.reduceBEq,
            Bool.false_eq_true, false_and, Token.bump?_of_is hstar (by decide) (by decide),
            or_true, if_true, hplace, htexts, hu]
          exact ⟨_, rfl⟩
  | @var ts rest target htarget hnone =>
      obtain ⟨_, hplace⟩ := (@parsePlace_reads stop _ _ _).mpr htarget
      cases htarget with
      | plain hname =>
          rw [unary]
          cases rest with
          | nil =>
              simp only [hname, reduceCtorEq, if_false, Token.is_of_kind (.inr hname),
                Bool.false_eq_true, List.head?_nil, Option.any_none, and_false,
                Token.bump?_of_kind (.inr hname), true_or, if_true, hplace]
              exact ⟨_, rfl⟩
          | cons u rest =>
              obtain ⟨hassign, hbump, hcall⟩ := hnone u rfl
              simp only [hname, reduceCtorEq, if_false, Token.is_of_kind (.inr hname),
                Bool.false_eq_true, List.head?_cons, Option.any_some, hcall rfl, and_false,
                Token.bump?_of_kind (.inr hname), true_or, if_true, hplace, hassign, hbump]
              exact ⟨_, rfl⟩
      | pointed hstar hname =>
          rw [unary]
          simp only [Token.kind_of_is hstar, if_false, Token.is_of_is hstar, String.reduceBEq,
            Bool.false_eq_true, false_and, Token.bump?_of_is hstar (by decide) (by decide),
            or_true, if_true, hplace]
          cases rest with
          | nil => exact ⟨_, rfl⟩
          | cons u rest =>
              obtain ⟨hassign, hbump, -⟩ := hnone u rfl
              simp only [hassign, Bool.false_eq_true, if_false, hbump]
              exact ⟨_, rfl⟩

lemma unary_reads {e : Expr} : Reads (unary stop ts) e rest ↔ Picks stop ts e rest :=
  ⟨picks_of_unary, unary_of_picks⟩

end Mailroom.Source
