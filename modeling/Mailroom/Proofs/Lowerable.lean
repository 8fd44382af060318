import Mathlib
import Mailroom.Proofs.Declarations
import Mailroom.Proofs.Safety

/-!
# Accepted programs can be compiled

Lowering can fail in five ways, and a program without complaints runs into one of them only: the
tiles run out.  For this the walk of the check and the lowering go hand in hand.  What the check
knows of has a tile by then, if it needs one (`Housed`), so that every variable that an expression
mentions has an operand; and what the check asks for in an expression or a condition is what
lowering needs.

One thing is needed besides.  A branch that is never taken is checked but not lowered, so a variable
that is declared there is known and has no tile.  `foldedAll` lists these branches.

- `Lowers`: a step that fails for want of tiles only.
- `stmt_lowers`: the lowering of an accepted statement is one.
- `lower_total`: so is that of an accepted program.
-/

namespace Mailroom.Source

/-! ## Parts that are not lowered -/

mutual

/-- The branches in a statement that are never taken. -/
def Stmt.folded : Stmt → List Stmt
  | .decl _ | .expr _ _ => []
  | .ifThen cond body _ | .whileDo cond body _ =>
    if cond.literal? = some false then [body] else body.folded
  | .ifElse cond body other _ =>
    match cond.literal? with
    | some true => other :: body.folded
    | some false => body :: other.folded
    | none => body.folded ++ other.folded
  | .block body _ => foldedAll body

/-- The branches in statements that are never taken. -/
def foldedAll : List Stmt → List Stmt
  | [] => []
  | s :: rest => s.folded ++ foldedAll rest

end

/-- Branches in which nothing but constants is declared. -/
def DeclareConstants (branches : List Stmt) : Prop :=
  ∀ branch ∈ branches, ∀ d ∈ branch.decls, d.constant = true

instance (branches : List Stmt) : Decidable (DeclareConstants branches) :=
  inferInstanceAs (Decidable (∀ branch ∈ branches, ∀ d ∈ branch.decls, d.constant = true))

/-! ## Steps that fail for want of tiles -/

/-- No tile was left. -/
structure OutOfTiles (t : Target) (e : LoweringError) (l : Lowering) : Prop where
  error : ∃ line, e = .noFreeTile line
  taken : ∀ a : Nat, (a : Int) < t.size → a ∈ l.used ∨ a ∈ t.symbols.reserved

/-- From tiles with one property a step leads to tiles with another one, unless no tile is left. -/
def Lowers (t : Target) {α : Type} (P : Assoc String Nat → Prop) (x : Lower α)
    (Q : Assoc String Nat → Prop) : Prop :=
  ∀ l : Lowering, P l.tiles →
    match x l with
    | .ok _ l' => Q l'.tiles
    | .error e l' => OutOfTiles t e l'

section Steps

variable {t : Target} {α β : Type} {P Q R : Assoc String Nat → Prop}

lemma Lowers.bind {x : Lower α} {f : α → Lower β} (hx : Lowers t P x Q)
    (hf : ∀ a, Lowers t Q (f a) R) : Lowers t P (x >>= f) R := by
  intro l hl
  have hstep := hx l hl
  change match EStateM.bind x f l with
    | .ok _ l' => R l'.tiles
    | .error e l' => OutOfTiles t e l'
  rw [EStateM.bind]
  cases hrun : x l with
  | ok a l' =>
      rw [hrun] at hstep
      exact hf a l' hstep
  | error e l' =>
      rw [hrun] at hstep
      exact hstep

lemma Lowers.weaken {x : Lower α} (hx : Lowers t P x Q) (hQ : ∀ tiles, Q tiles → R tiles) :
    Lowers t P x R := by
  intro l hl
  have hstep := hx l hl
  cases hrun : x l with
  | ok a l' =>
      rw [hrun] at hstep
      exact hQ _ hstep
  | error e l' =>
      rw [hrun] at hstep
      exact hstep

lemma lowers_pure (a : α) : Lowers t P (pure a) P :=
  fun _ hl => hl

lemma lowers_emit (op : Op) : Lowers t P (emit op) P :=
  fun _ hl => hl

lemma lowers_newLabel (stem : String) : Lowers t P (newLabel stem) P :=
  fun _ hl => hl

lemma lowers_free (address : Nat) : Lowers t P (free address) P :=
  fun _ hl => hl

/-- Where no tile is found, all of them are taken. -/
lemma lowestFree?_eq_none {size : Int} {taken : List Nat} (h : lowestFree? size taken = none)
    {a : Nat} (ha : (a : Int) < size) : a ∈ taken := by
  rw [lowestFree?, List.find?_eq_none] at h
  have hrange : ∀ b < min size.toNat (taken.length + 1), b ∈ taken := by
    intro b hb
    simpa using h b (List.mem_range.mpr hb)
  by_cases hshort : size.toNat ≤ taken.length + 1
  · exact hrange a (by omega)
  · -- more tiles than are taken cannot all be taken
    have hsub : List.range (taken.length + 1) ⊆ taken := by
      intro b hb
      rw [List.mem_range] at hb
      exact hrange b (by omega)
    have hle := (List.subperm_of_subset List.nodup_range hsub).length_le
    rw [List.length_range] at hle
    omega

lemma alloc_eq (t : Target) (line : Nat) (l : Lowering) :
    alloc t line l = match t.fresh? l.used with
      | none => .error (.noFreeTile line) l
      | some address => .ok address { l with used := address :: l.used } := by
  rw [alloc, Target.fresh?]
  change (match lowestFree? t.size (l.used ++ t.symbols.reserved) with
    | none => throw (.noFreeTile line)
    | some address => do
      modify fun s => { s with used := address :: s.used }
      return address : Lower Nat) l = _
  cases lowestFree? t.size (l.used ++ t.symbols.reserved) <;> rfl

lemma lowers_alloc (line : Nat) : Lowers t P (alloc t line) P := by
  intro l hl
  rw [alloc_eq]
  cases hfree : t.fresh? l.used with
  | none => exact ⟨⟨line, rfl⟩, fun a ha => List.mem_append.mp (lowestFree?_eq_none hfree ha)⟩
  | some address => exact hl

/-- Tiles with some property hold the operands of variables. -/
def Provides (t : Target) (P : Assoc String Nat → Prop) (vars : List Var) : Prop :=
  ∀ tiles, P tiles → ∀ v ∈ vars, (operand? t tiles v).isSome

lemma tileOf_eq (t : Target) (v : Var) (l : Lowering) :
    tileOf t v l = match operand? t l.tiles v with
      | none => .error (.unplaced v.name) l
      | some x => .ok x l := by
  rw [tileOf, operand?]
  rcases t.symbols.get? v.name with _ | ⟨name, pointer, constant, _ | address, initialized⟩
  · rfl
  · change (match l.tiles.get? v.name with
      | none => throw (.unplaced v.name)
      | some address => return ⟨address, v.deref⟩ : Lower Tile) l = _
    cases l.tiles.get? v.name <;> rfl
  · rfl

lemma lowers_tileOf {v : Var} (h : Provides t P [v]) : Lowers t P (tileOf t v) P := by
  intro l hl
  obtain ⟨x, hx⟩ := Option.isSome_iff_exists.mp (h l.tiles hl v List.mem_cons_self)
  rw [tileOf_eq, hx]
  exact hl

lemma Provides.mono {vars vars' : List Var} (h : Provides t P vars) (hvars : vars' ⊆ vars) :
    Provides t P vars' :=
  fun tiles hP v hv => h tiles hP v (hvars hv)

/-! ## Expressions and conditions -/

lemma combine_lowers {op : TileOp} {line : Nat} {left right : Lower Unit} {v? : Option Var}
    (hleft : Lowers t P left P) (hright : Lowers t P right P)
    (hv : Provides t P v?.toList) : Lowers t P (combine t op line left right v?) P := by
  cases v? with
  | some v =>
      rw [combine]
      exact hleft.bind fun _ => (lowers_tileOf hv).bind fun _ => lowers_emit _
  | none =>
      rw [combine]
      exact (lowers_alloc line).bind fun _ => hright.bind fun _ => (lowers_emit _).bind
        fun _ => hleft.bind fun _ => (lowers_emit _).bind fun _ => lowers_free _

lemma var?_subset (e : Expr) : e.var?.toList ⊆ e.mentions := by
  cases e <;> simp [Expr.var?, Expr.mentions]

/-- **Values.**  An expression with a value can be computed. -/
lemma value_lowers {symbols : Symbols} : ∀ (e : Expr), e.numeric symbols = true →
    Provides t P e.mentions → Lowers t P (value t e) P
  | .var v, _, hvars => (lowers_tileOf hvars).bind fun _ => lowers_emit _
  | .call _ _, _, _ => lowers_emit _
  | .assign target e _, h, hvars => by
      rw [Expr.numeric, Bool.and_eq_true] at h
      have hvalue := value_lowers e h.2 (hvars.mono (List.subset_cons_self _ _))
      have htarget : Provides t P [target] := hvars.mono (by simp [Expr.mentions])
      exact hvalue.bind fun _ => (lowers_tileOf htarget).bind fun _ => lowers_emit _
  | .bump target direction post line, _, hvars => by
      rw [value]
      refine (lowers_tileOf hvars).bind fun tile => ?_
      cases post with
      | false => exact lowers_emit _
      | true =>
          exact (lowers_alloc line).bind fun _ => (lowers_emit _).bind fun _ => (lowers_emit _).bind
            fun _ => (lowers_emit _).bind fun _ => (lowers_emit _).bind fun _ => lowers_free _
  | .sum op left right line, h, hvars => by
      rw [Expr.numeric, Bool.and_eq_true] at h
      rw [Expr.mentions] at hvars
      exact combine_lowers (value_lowers left h.1 (hvars.mono (List.subset_append_left _ _)))
        (value_lowers right h.2 (hvars.mono (List.subset_append_right _ _)))
        ((hvars.mono (List.subset_append_right _ _)).mono (var?_subset right))

lemma effect_lowers {symbols : Symbols} {e : Expr} (h : e.action symbols = true)
    (hvars : Provides t P e.mentions) : Lowers t P (effect t e) P := by
  have hvalue := fun (e : Expr) (h : e.numeric symbols = true) => value_lowers (t := t) (P := P) e h
  cases e with
  | callWith function arg line =>
      rw [effect]
      by_cases hout : function = "output"
      · rw [if_pos hout]
        have harg : arg.numeric symbols = true := by simpa [Expr.action, hout] using h
        exact (hvalue arg harg hvars).bind fun _ => lowers_emit _
      · rw [if_neg hout]
        split
        · exact lowers_emit _
        · exact lowers_pure ()
  | call function line =>
      obtain rfl : function = "input" := by simpa [Expr.action, Expr.numeric] using h
      exact lowers_emit _
  | bump target direction post line => exact (lowers_tileOf hvars).bind fun _ => lowers_emit _
  | _ => exact hvalue _ h hvars

/-- A side that is no literal has a value. -/
lemma comparable_numeric {symbols : Symbols} {e : Expr} (h : e.comparable symbols = true)
    (hliteral : Scope.isLiteral e = false) : e.numeric symbols = true := by
  cases e with
  | num => cases hliteral
  | _ => exact h

lemma difference_lowers {symbols : Symbols} {op : Comparison} {left right : Expr} {line : Nat}
    (hleft : left.comparable symbols = true) (hright : right.comparable symbols = true)
    (hsides : (Scope.isLiteral left && Scope.isLiteral right) = false)
    (hvars : Provides t P (left.mentions ++ right.mentions)) :
    Lowers t P (difference t op left right line) P := by
  have hleft' := fun hliteral => value_lowers left (comparable_numeric hleft hliteral)
    (hvars.mono (List.subset_append_left _ _))
  have hright' := fun hliteral => value_lowers right (comparable_numeric hright hliteral)
    (hvars.mono (List.subset_append_right _ _))
  rw [difference.eq_def]
  split
  · exact (hleft' (by simpa [Scope.isLiteral] using hsides)).bind fun _ => lowers_pure _
  · exact (hright' (by simp [Scope.isLiteral])).bind fun _ => lowers_pure _
  · have hvar := (hvars.mono (List.subset_append_right _ _)).mono (var?_subset right)
    exact (combine_lowers (hleft' (by simp [Scope.isLiteral]))
      (hright' (by simp [Scope.isLiteral])) hvar).bind fun _ => lowers_pure _

lemma jumpIf_lowers (op : Comparison) (target : String) : Lowers t P (jumpIf op target) P := by
  cases op <;> exact fun _ hl => hl

mutual

/-- Every comparison in a condition has a side that is no literal. -/
def Expr.telling : Expr → Bool
  | .compare _ left right _ => !(Scope.isLiteral left && Scope.isLiteral right)
  | .logical _ first others _ => first.telling && others.telling
  | _ => true

/-- Every comparison in conditions has a side that is no literal. -/
def Operands.telling : Operands → Bool
  | .last e => e.telling
  | .more e others => e.telling && others.telling

end

mutual

/-- **Conditions.**  A condition can be tested. -/
lemma branch_lowers {symbols : Symbols} : ∀ (e : Expr) (target : String) (wanted : Bool),
    e.condition symbols = true → e.telling = true → Provides t P e.mentions →
      Lowers t P (branch t target wanted e) P
  | .bool b _, target, wanted, _, _, _ => by
      rw [branch]
      split
      · exact lowers_emit _
      · exact lowers_pure ()
  | .compare op left right line, target, wanted, h, htelling, hvars => by
      rw [Expr.condition, Bool.and_eq_true] at h
      rw [Expr.telling, Bool.not_eq_true'] at htelling
      exact (difference_lowers h.1 h.2 htelling hvars).bind fun _ => jumpIf_lowers _ _
  | .logical op first others _, target, wanted, h, htelling, hvars => by
      rw [Expr.condition, Bool.and_eq_true] at h
      rw [Expr.telling, Bool.and_eq_true] at htelling
      rw [Expr.mentions] at hvars
      have hfirst := fun target wanted => branch_lowers first target wanted h.1 htelling.1
        (hvars.mono (List.subset_append_left _ _))
      have hvars' := hvars.mono (List.subset_append_right _ _)
      rw [branch]
      split
      · exact (hfirst _ _).bind fun _ => branchAny_lowers others target wanted h.2 htelling.2 hvars'
      · exact (lowers_newLabel _).bind fun skip => (hfirst _ _).bind fun _ =>
          (branchAll_lowers others target skip wanted h.2 htelling.2 hvars').bind
            fun _ => lowers_emit _

lemma branchAny_lowers {symbols : Symbols} : ∀ (others : Operands) (target : String)
    (wanted : Bool), others.conditions symbols = true → others.telling = true → Provides t P others.mentions →
      Lowers t P (branchAny t target wanted others) P
  | .last e, target, wanted, h, htelling, hvars => branch_lowers e target wanted h htelling hvars
  | .more e others, target, wanted, h, htelling, hvars => by
      rw [Operands.conditions, Bool.and_eq_true] at h
      rw [Operands.telling, Bool.and_eq_true] at htelling
      rw [Operands.mentions] at hvars
      exact (branch_lowers e target wanted h.1 htelling.1
        (hvars.mono (List.subset_append_left _ _))).bind fun _ =>
          branchAny_lowers others target wanted h.2 htelling.2
            (hvars.mono (List.subset_append_right _ _))

lemma branchAll_lowers {symbols : Symbols} : ∀ (others : Operands) (target skip : String)
    (wanted : Bool), others.conditions symbols = true → others.telling = true →
      Provides t P others.mentions → Lowers t P (branchAll t target skip wanted others) P
  | .last e, target, _, wanted, h, htelling, hvars => branch_lowers e target wanted h htelling hvars
  | .more e others, target, skip, wanted, h, htelling, hvars => by
      rw [Operands.conditions, Bool.and_eq_true] at h
      rw [Operands.telling, Bool.and_eq_true] at htelling
      rw [Operands.mentions] at hvars
      exact (branch_lowers e skip (!wanted) h.1 htelling.1
        (hvars.mono (List.subset_append_left _ _))).bind fun _ =>
          branchAll_lowers others target skip wanted h.2 htelling.2
            (hvars.mono (List.subset_append_right _ _))

end

end Steps

/-! ## What the check makes sure of -/

section Checked

variable {s s' : Scope} {size : Int}

mutual

/-- Literals are not compared with each other. -/
lemma cond_telling : ∀ (e : Expr) {s : Scope}, (s.cond e).diagnostics = [] → e.telling = true
  | .compare _ left right line, s, h => by
      have hreason := Scope.reportIf_clean h
      rw [Expr.telling, hreason]
      rfl
  | .logical _ first others _, s, h => by
      have hothers := Scope.conds_walked others (s.cond first)
      rw [Expr.telling, cond_telling first (hothers.clean h), conds_telling others h]
      rfl
  | .bool _ _, _, _ | .num _ _, _, _ | .var _, _, _ | .call _ _, _, _ | .callWith _ _ _, _, _
  | .assign _ _ _, _, _ | .bump _ _ _ _, _, _ | .sum _ _ _ _, _, _ => rfl

lemma conds_telling : ∀ (others : Operands) {s : Scope}, (s.conds others).diagnostics = [] →
    others.telling = true
  | .last e, _, h => cond_telling e h
  | .more e others, s, h => by
      have hothers := Scope.conds_walked others (s.cond e)
      rw [Operands.telling, cond_telling e (hothers.clean h), conds_telling others h]
      rfl

end

/-- Variables that are known and need a tile have one. -/
def Housed (symbols : Symbols) (tiles : Assoc String Nat) : Prop :=
  ∀ name sym, symbols.get? name = some sym → sym.address = none → (tiles.get? name).isSome

/-- A variable of which the same is known needs a tile as before. -/
lemma Housed.same {tiles : Assoc String Nat} (h : Housed s.symbols tiles) {name : String}
    {sym : Symbol} (hsame : (s'.symbols.get? name).map Symbol.fixed
      = (s.symbols.get? name).map Symbol.fixed)
    (hget : s'.symbols.get? name = some sym) (haddress : sym.address = none) :
    (tiles.get? name).isSome := by
  rw [hget, Option.map_some] at hsame
  obtain ⟨sym', hget', hfixed⟩ := Option.map_eq_some_iff.mp hsame.symm
  exact h name sym' hget' ((congrArg Prod.fst hfixed).trans haddress)

lemma Housed.walked (hwalked : Scope.Walked s s') {tiles : Assoc String Nat}
    (h : Housed s.symbols tiles) : Housed s'.symbols tiles :=
  fun name _ hget haddress => h.same (hwalked.same name) hget haddress

/-- Constants need no tile. -/
lemma Housed.constants {decls : List Decl} (henters : Scope.Enters s s' decls)
    (hconst : ∀ d ∈ decls, d.constant = true) (hfixed : s'.symbols.Fixed size)
    {tiles : Assoc String Nat} (h : Housed s.symbols tiles) : Housed s'.symbols tiles := by
  intro name sym hget haddress
  by_cases hname : ∃ d ∈ decls, d.name = name
  · obtain ⟨d, hd, rfl⟩ := hname
    have hentered := henters.entered d hd
    rw [hget, Option.map_some, Option.some.injEq] at hentered
    have hsym : sym.constant = d.constant := congrArg (·.2.1) hentered
    rw [(hfixed _ sym hget).1, haddress, hconst d hd] at hsym
    cases hsym
  · push Not at hname
    exact h.same (henters.origin name hname) hget haddress

/-- A variable that is declared gets a tile. -/
lemma Housed.put {d : Decl} (henters : Scope.Enters s s' [d]) {tiles : Assoc String Nat}
    (h : Housed s.symbols tiles) (address : Nat) :
    Housed s'.symbols (tiles.put d.name address) := by
  intro name sym hget haddress
  rw [Assoc.get?_put]
  by_cases hname : d.name = name
  · rw [if_pos hname]
    rfl
  · rw [if_neg hname]
    exact h.same (henters.origin name (by simpa using hname)) hget haddress

/-- Variables that are known have operands. -/
lemma provides_known {t : Target} {vars : List Var} (hknown : s.symbols.Extends t.symbols)
    (hvars : ∀ v ∈ vars, (s.symbols.get? v.name).isSome) :
    Provides t (Housed s.symbols) vars := by
  intro tiles hhoused v hv
  obtain ⟨sym, hget⟩ := Option.isSome_iff_exists.mp (hvars v hv)
  obtain ⟨sym', hget', hfixed⟩ := hknown _ sym hget
  have haddress : sym'.address = sym.address := congrArg Prod.fst hfixed
  rw [operand?, hget']
  dsimp only
  rw [haddress]
  cases hnone : sym.address with
  | some a => rfl
  | none =>
      obtain ⟨a, ha⟩ := Option.isSome_iff_exists.mp (hhoused _ sym hget hnone)
      rw [ha]
      rfl

/-- What is mentioned without complaints was known before. -/
lemma known_before (hwalked : Scope.Walked s s') {vars : List Var}
    (hproper : ∀ v ∈ vars, v.proper s'.symbols = true) :
    ∀ v ∈ vars, (s.symbols.get? v.name).isSome := by
  intro v hv
  have hv' := hproper v hv
  rw [Var.proper] at hv'
  have hsame := hwalked.same v.name
  cases hget : s.symbols.get? v.name with
  | some sym => rfl
  | none =>
      rw [hget, Option.map_none, Option.map_eq_none_iff] at hsame
      rw [hsame] at hv'
      cases hv'

end Checked

/-! ## Statements -/

section Statements

variable {t : Target}

lemma checked_effect_lowers {s : Scope} {e : Expr} (hfixed : s.symbols.Fixed t.size)
    (h : (s.expr true e).diagnostics = []) (hknown : (s.expr true e).symbols.Extends t.symbols) :
    Lowers t (Housed s.symbols) (effect t e) (Housed (s.expr true e).symbols) := by
  have hwalked := Scope.expr_walked e s true
  have haction : e.action (s.expr true e).symbols = true := Scope.expr_proper e hfixed h (.refl _)
  have hvars := known_before hwalked (action_mentions haction)
  exact (effect_lowers haction (provides_known (hwalked.known.trans hknown) hvars)).weaken
    fun _ => Housed.walked hwalked

lemma checked_branch_lowers {s : Scope} {e : Expr} (hfixed : s.symbols.Fixed t.size)
    (h : (s.cond e).diagnostics = []) (hknown : (s.cond e).symbols.Extends t.symbols)
    (target : String) (wanted : Bool) :
    Lowers t (Housed s.symbols) (branch t target wanted e) (Housed (s.cond e).symbols) := by
  have hwalked := Scope.cond_walked e s
  have hcond : e.condition (s.cond e).symbols = true := Scope.cond_proper e hfixed h (.refl _)
  have hvars := known_before hwalked (condition_mentions e hcond)
  exact (branch_lowers e target wanted hcond (cond_telling e h)
    (provides_known (hwalked.known.trans hknown) hvars)).weaken fun _ => Housed.walked hwalked

lemma checked_decl_lowers {s : Scope} {d : Decl} (hfixed : s.symbols.Fixed t.size)
    (h : (s.decl t.size d).diagnostics = [])
    (hknown : (s.decl t.size d).symbols.Extends t.symbols) :
    Lowers t (Housed s.symbols) (statementOps t (.decl d)) (Housed (s.decl t.size d).symbols) := by
  have henters := Scope.decl_enters h
  have hproper := (Scope.decl_proper hfixed h).2 (.refl _)
  rw [statementOps]
  cases hconst : d.constant with
  | true =>
      rw [if_pos rfl]
      have hfixed' := (Scope.decl_grown s d).fixed h hfixed
      exact (lowers_pure ()).weaken fun _ =>
        Housed.constants henters (by simpa using hconst) hfixed'
  | false =>
      rw [if_neg Bool.false_ne_true]
      refine (lowers_alloc d.line).bind fun tile => Lowers.bind
        (fun l hl => (Housed.put henters hl tile : Housed (s.decl t.size d).symbols _)) fun _ => ?_
      cases hinit : d.init with
      | none => exact lowers_pure ()
      | some e =>
          rw [Stmt.proper, hconst, hinit] at hproper
          have hnumeric : e.numeric (s.decl t.size d).symbols = true :=
            ((Bool.and_eq_true _ _).mp hproper).1
          have hvars := known_before (.refl _) (numeric_mentions e hnumeric)
          exact (value_lowers e hnumeric (provides_known hknown hvars)).bind fun _ => lowers_emit _

mutual

/-- **Statements.**  The lowering of a statement without complaints fails for want of tiles only. -/
lemma stmt_lowers : ∀ (p : Stmt) {s : Scope}, s.symbols.Fixed t.size →
    (s.stmt t.size p).diagnostics = [] → (s.stmt t.size p).symbols.Extends t.symbols →
    DeclareConstants p.folded →
      Lowers t (Housed s.symbols) (statementOps t p) (Housed (s.stmt t.size p).symbols)
  | .decl d, s, hfixed, h, hknown, _ => checked_decl_lowers hfixed h hknown
  | .expr e _, s, hfixed, h, hknown, _ => checked_effect_lowers hfixed h hknown
  | .ifThen c body line, s, hfixed, h, hknown, hfolded => by
      have hbody := Scope.stmt_grown t.size body (s.cond c)
      cases hbool : c.isBool with
      | true =>
          obtain ⟨b, line', rfl⟩ := isBool_eq_true hbool
          rw [statementOps]
          cases b with
          | true => exact stmt_lowers body hfixed h hknown hfolded
          | false =>
              exact (lowers_pure ()).weaken fun _ => Housed.constants (Scope.stmt_enters body h)
                (hfolded body List.mem_cons_self) (hbody.fixed h hfixed)
      | false =>
          have hcond := checked_branch_lowers hfixed (hbody.clean h) (hbody.known.trans hknown)
          have hfixed' := (Scope.cond_walked c s).fixed hfixed
          have hfolded' : DeclareConstants body.folded := by
            simpa [Stmt.folded, literal?_eq_none hbool] using hfolded
          rw [statementOps_ifThen hbool]
          exact (lowers_newLabel _).bind fun no => (hcond no false).bind fun _ =>
            (stmt_lowers body hfixed' h hknown hfolded').bind fun _ => lowers_emit _
  | .ifElse c body other line, s, hfixed, h, hknown, hfolded => by
      have hother := Scope.stmt_grown t.size other ((s.cond c).stmt t.size body)
      have hbody := Scope.stmt_grown t.size body (s.cond c)
      have hclean := hother.clean h
      have hknown' := hother.known.trans hknown
      cases hbool : c.isBool with
      | true =>
          obtain ⟨b, line', rfl⟩ := isBool_eq_true hbool
          have hfixed' := hbody.fixed hclean hfixed
          rw [statementOps]
          cases b with
          | true =>
              obtain ⟨hconst, hfolded'⟩ := List.forall_mem_cons.mp hfolded
              exact (stmt_lowers body hfixed hclean hknown' hfolded').weaken fun _ =>
                Housed.constants (Scope.stmt_enters other h) hconst (hother.fixed h hfixed')
          | false =>
              obtain ⟨hconst, hfolded'⟩ := List.forall_mem_cons.mp hfolded
              exact (lowers_pure ()).weaken (fun _ =>
                  Housed.constants (Scope.stmt_enters body hclean) hconst hfixed') |>.bind fun _ =>
                stmt_lowers other hfixed' h hknown hfolded'
      | false =>
          have hcond := checked_branch_lowers hfixed (hbody.clean hclean)
            (hbody.known.trans hknown')
          have hfixed' := (Scope.cond_walked c s).fixed hfixed
          rw [Stmt.folded, literal?_eq_none hbool, DeclareConstants, List.forall_mem_append]
            at hfolded
          rw [statementOps_ifElse hbool]
          exact (lowers_newLabel _).bind fun no => (hcond no false).bind fun _ =>
            (stmt_lowers body hfixed' hclean hknown' hfolded.1).bind fun _ =>
            (lowers_newLabel _).bind fun _ => (lowers_emit _).bind fun _ =>
            (lowers_emit _).bind fun _ =>
            (stmt_lowers other (hbody.fixed hclean hfixed') h hknown hfolded.2).bind fun _ =>
            lowers_emit _
  | .whileDo c body line, s, hfixed, h, hknown, hfolded => by
      have hbody := Scope.stmt_grown t.size body (s.cond c)
      cases hbool : c.isBool with
      | true =>
          obtain ⟨b, line', rfl⟩ := isBool_eq_true hbool
          rw [statementOps]
          cases b with
          | true =>
              exact (lowers_newLabel _).bind fun _ => (lowers_emit _).bind fun _ =>
                (stmt_lowers body hfixed h hknown hfolded).bind fun _ => lowers_emit _
          | false =>
              exact (lowers_pure ()).weaken fun _ => Housed.constants (Scope.stmt_enters body h)
                (hfolded body List.mem_cons_self) (hbody.fixed h hfixed)
      | false =>
          have hcond := checked_branch_lowers hfixed (hbody.clean h) (hbody.known.trans hknown)
          have hfixed' := (Scope.cond_walked c s).fixed hfixed
          have hfolded' : DeclareConstants body.folded := by
            simpa [Stmt.folded, literal?_eq_none hbool] using hfolded
          rw [statementOps_whileDo hbool]
          exact (lowers_newLabel _).bind fun _ => (lowers_emit _).bind fun _ =>
            (lowers_newLabel _).bind fun stop => (hcond stop false).bind fun _ =>
            (stmt_lowers body hfixed' h hknown hfolded').bind fun _ =>
            (lowers_emit _).bind fun _ => lowers_emit _
  | .block body _, s, hfixed, h, hknown, hfolded => stmts_lowers body hfixed h hknown hfolded

lemma stmts_lowers : ∀ (body : List Stmt) {s : Scope}, s.symbols.Fixed t.size →
    (s.stmts t.size body).diagnostics = [] → (s.stmts t.size body).symbols.Extends t.symbols →
    DeclareConstants (foldedAll body) →
      Lowers t (Housed s.symbols) (programOps t body) (Housed (s.stmts t.size body).symbols)
  | [], s, _, _, _, _ => lowers_pure ()
  | p :: rest, s, hfixed, h, hknown, hfolded => by
      have hrest := Scope.stmts_grown t.size rest (s.stmt t.size p)
      have hclean := hrest.clean h
      have hfixed' := (Scope.stmt_grown t.size p s).fixed hclean hfixed
      rw [foldedAll, DeclareConstants, List.forall_mem_append] at hfolded
      exact (stmt_lowers p hfixed hclean (hrest.known.trans hknown) hfolded.1).bind fun _ =>
        stmts_lowers rest hfixed' h hknown hfolded.2

end

end Statements

/-! ## Programs -/

/-- **Accepted programs can be compiled.**  If a program has no complaints and declares nothing but
constants in branches that are never taken, there are instructions for it, unless at some line no
tile is left; and then every tile is in use or reserved. -/
theorem lower_total {size : Int} {program : List Stmt}
    (haccepted : (check size program).diagnostics = [])
    (hfolded : DeclareConstants (foldedAll program)) :
    (∃ final, lower size (check size program).symbols program = (none, final)) ∨
      ∃ e line final, lower size (check size program).symbols program = (some e, final) ∧
        e = .noFreeTile line ∧ e.message? = some (atLine line "no free floor tile left") ∧
        ∀ a : Nat, (a : Int) < size →
          a ∈ final.used ∨ a ∈ (check size program).symbols.reserved := by
  have hfixed : Symbols.Fixed size ({} : Scope).symbols := fun _ _ hget => by cases hget
  have hhoused : Housed ({} : Scope).symbols ({} : Lowering).tiles := fun _ _ hget => by cases hget
  have hlowers := stmts_lowers (t := ⟨(check size program).symbols, size⟩) program hfixed haccepted
    (.refl _) hfolded {} hhoused
  rw [lower, EStateM.run]
  cases hrun : programOps ⟨(check size program).symbols, size⟩ program {} with
  | ok _ final => exact .inl ⟨final, rfl⟩
  | error e final =>
      rw [hrun] at hlowers
      obtain ⟨line, rfl⟩ := hlowers.error
      exact .inr ⟨_, line, final, rfl, rfl, rfl, hlowers.taken⟩

/-- A branch that is never taken declares a constant, which reserves tile 0.  On a floor of two
tiles the variable gets the other one, and on a floor of one tile none is left. -/
theorem lower_total_reserved :
    let program : List Stmt :=
      [.ifThen (.bool false 1) (.decl ⟨"P", true, true, some (.num 0 1), 1⟩) 1,
        .decl ⟨"x", false, false, some (.call "input" 2), 2⟩]
    (check 1 program).diagnostics = [] ∧ (check 2 program).diagnostics = [] ∧
      DeclareConstants (foldedAll program) ∧
      (∃ final, lower 2 (check 2 program).symbols program = (none, final)) ∧
      ∃ final, lower 1 (check 1 program).symbols program = (some (.noFreeTile 2), final) ∧
        ∀ a : Nat, (a : Int) < 1 → a ∈ final.used ∨ a ∈ (check 1 program).symbols.reserved := by
  intro program
  have haccepted : (check 1 program).diagnostics = [] := by cbv
  have haccepted' : (check 2 program).diagnostics = [] := by cbv
  have hfolded : DeclareConstants (foldedAll program) := by decide
  have hlower : (lower 1 (check 1 program).symbols program).1 = some (.noFreeTile 2) := by cbv
  have hlower' : (lower 2 (check 2 program).symbols program).1 = none := by cbv
  refine ⟨haccepted, haccepted', hfolded, ?_, ?_⟩
  · rcases lower_total haccepted' hfolded with hdone | ⟨e, line, final, hrun, -⟩
    · exact hdone
    · rw [hrun] at hlower'
      cases hlower'
  · rcases lower_total haccepted hfolded with ⟨final, hdone⟩ | ⟨e, line, final, hrun, he, -, htaken⟩
    · rw [hdone] at hlower
      cases hlower
    · rw [hrun] at hlower
      cases hlower
      exact ⟨final, hrun, htaken⟩

/-- The hypothesis on branches is needed: here the variable is known, but has no tile. -/
example :
    let program : List Stmt :=
      [.ifThen (.bool false 1) (.decl ⟨"x", false, false, none, 1⟩) 1,
        .expr (.assign ⟨"x", false, 2⟩ (.call "input" 2) 2) 2]
    (check 1 program).diagnostics = [] ∧
      (lower 1 (check 1 program).symbols program).1 = some (.unplaced "x") := by
  cbv

end Mailroom.Source
