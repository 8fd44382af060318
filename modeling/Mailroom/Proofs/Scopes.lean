import Mailroom.Proofs.Acceptance
import Mailroom.Proofs.Meaning

/-!
# Programs with a meaning

A program without complaints in which every variable is used where it is declared never comes to a
point that has no meaning: each of its parts ends, stops for want of input, or stops for a reason
that depends on what the variables hold.

- `Safe`: steps that come to no such point.
- `exec_safe`: the statements of such programs are safe.
-/

namespace Mailroom.Source

/-- The reasons to stop that a program cannot avoid by its form. -/
def Stop.Foreseen : Stop → Prop
  | .illFormed | .outOfScope _ => False
  | _ => True

/-- Steps that only stop for such reasons. -/
def Safe {α : Type} (pre : World → Prop) (x : Eval α) (post : α → World → Prop) : Prop :=
  ∀ w, pre w → match x w with
    | .ok a w' => post a w'
    | .error s _ => s.Foreseen

/-- Some variables are in scope. -/
def Covers (known : List String) (w : World) : Prop :=
  ∀ x ∈ known, (w.vars x).isSome

/-- A place that is there. -/
def Spot.There (w : World) : Spot → Prop
  | .named x => (w.vars x).isSome
  | .tile _ => True

section Rules

variable {α β : Type} {pre : World → Prop} {known : List String}

lemma Safe.bind {x : Eval α} {f : α → Eval β} {mid : α → World → Prop} {post : β → World → Prop}
    (hx : Safe pre x mid) (hf : ∀ a, Safe (mid a) (f a) post) : Safe pre (x >>= f) post := by
  intro w hw
  have h1 := hx w hw
  rw [bind_apply]
  cases hrun : x w with
  | error s w' =>
      rw [hrun] at h1
      exact h1
  | ok a w' =>
      rw [hrun] at h1
      exact hf a w' h1

lemma Safe.pure {a : α} {post : α → World → Prop} (h : ∀ w, pre w → post a w) :
    Safe pre (Pure.pure a) post :=
  h

lemma Safe.mono {x : Eval α} {pre' : World → Prop} {post post' : α → World → Prop}
    (hx : Safe pre x post) (hpre : ∀ w, pre' w → pre w) (hpost : ∀ a w, post a w → post' a w) :
    Safe pre' x post' := by
  intro w hw
  have h := hx w (hpre w hw)
  cases hrun : x w with
  | error s w' =>
      rw [hrun] at h
      exact h
  | ok a w' =>
      rw [hrun] at h
      exact hpost a w' h

lemma Covers.set {w : World} (h : Covers known w) (name : String) (v : Option Int) :
    Covers known (w.set name v) := by
  intro x hx
  simp only [World.set]
  split
  · rfl
  · exact h x hx

lemma load_safe (spot : Spot) :
    Safe (fun w => Covers known w ∧ spot.There w) (load spot)
      fun _ w => Covers known w ∧ spot.There w := by
  intro w hw
  cases spot with
  | tile a => exact hw
  | named x =>
      rw [load, readVariable_apply]
      have hscope : (w.vars x).isSome := hw.2
      rcases hvar : w.vars x with _ | _ | v
      · rw [hvar] at hscope
        cases hscope
      · trivial
      · exact hw

lemma store_safe (v : Int) (spot : Spot) :
    Safe (fun w => Covers known w) (store v spot) fun _ => Covers known := by
  intro w hw
  rw [store_apply]
  cases spot with
  | named x => exact hw.set x (some v)
  | tile a => exact hw

lemma takeInput_safe : Safe (Covers known) takeInput fun _ => Covers known := by
  intro w hw
  rw [takeInput_apply]
  rcases w.inbox.next with ⟨_ | _ | _, inbox⟩
  · exact hw
  · trivial
  · trivial

end Rules

/-! ## Expressions and conditions -/

section Expressions

variable {l : Layout} {symbols : Symbols} {known : List String}

lemma tileSpot_safe (a : Int) :
    Safe (Covers known) (tileSpot a) fun spot w => Covers known w ∧ spot.There w := by
  intro w hw
  rw [tileSpot_apply]
  by_cases hhas : w.floor.Has a
  · rw [if_pos hhas]
    exact ⟨hw, trivial⟩
  · rw [if_neg hhas]
    trivial

lemma pointee_safe (a : Int) :
    Safe (Covers known) (l.pointee a) fun spot w => Covers known w ∧ spot.There w := by
  intro w hw
  rw [pointee_apply]
  by_cases hkept : 0 ≤ a ∧ a.toNat ∈ l.kept
  · rw [if_pos hkept]
    cases l.owner a.toNat with
    | none => trivial
    | some x =>
        dsimp only
        by_cases hscope : (w.vars x).isSome
        · rw [if_pos hscope]
          exact ⟨hw, hscope⟩
        · rw [if_neg hscope]
          trivial
  · rw [if_neg hkept]
    exact tileSpot_safe a w hw

lemma locate_safe (hconst : ∀ x, l.constant x = (symbols.get? x).bind (·.address)) {v : Var}
    (hproper : v.proper symbols = true) (hknown : v.usable symbols known = true) :
    Safe (Covers known) (l.locate v) fun spot w => Covers known w ∧ spot.There w := by
  intro w hw
  rw [locate_apply, hconst]
  rw [Var.usable, Bool.or_eq_true, decide_eq_true_eq] at hknown
  rw [Var.proper] at hproper
  cases hsym : symbols.get? v.name with
  | none =>
      rw [hsym] at hproper
      cases hproper
  | some sym =>
      rw [hsym] at hproper hknown
      dsimp only [Option.bind_some] at hproper hknown ⊢
      cases haddress : sym.address with
      | some a =>
          rw [haddress, Option.isNone_some, Bool.false_or, Bool.and_eq_true] at hproper
          dsimp only
          rw [if_pos hproper.1]
          exact tileSpot_safe a w hw
      | none =>
          rw [haddress] at hknown
          have hscope : (w.vars v.name).isSome := hw _ (hknown.resolve_right (by simp))
          dsimp only
          cases v.deref with
          | true =>
              rw [if_pos rfl, readVariable_apply]
              rcases hvar : w.vars v.name with _ | _ | p
              · rw [hvar] at hscope
                cases hscope
              · trivial
              · exact pointee_safe p w hw
          | false =>
              rw [if_neg Bool.false_ne_true, if_pos hscope]
              exact ⟨hw, hscope⟩

lemma bumped_safe (hconst : ∀ x, l.constant x = (symbols.get? x).bind (·.address)) {v : Var}
    (hproper : v.proper symbols = true) (hknown : v.usable symbols known = true)
    (direction : Bump) : Safe (Covers known) (l.bumped v direction) fun _ => Covers known :=
  (locate_safe hconst hproper hknown).bind fun spot => (load_safe spot).bind fun old =>
    ((store_safe (old + direction.delta) spot).mono (fun _ h => h.1) fun _ _ h => h).bind fun _ =>
      Safe.pure fun _ h => h

lemma read_safe (hconst : ∀ x, l.constant x = (symbols.get? x).bind (·.address)) {v : Var}
    (hproper : v.proper symbols = true) (hknown : v.usable symbols known = true) :
    Safe (Covers known) (l.locate v >>= load) fun _ => Covers known :=
  (locate_safe hconst hproper hknown).bind fun spot =>
    (load_safe spot).mono (fun _ h => h) fun _ _ h => h.1

lemma sides_safe {left : Eval Int} {right : Expr}
    (hleft : Safe (Covers known) left fun _ => Covers known)
    (hright : Safe (Covers known) (l.valueOf right) fun _ => Covers known) :
    Safe (Covers known) (l.sides left (l.valueOf right) right.var?) fun _ => Covers known := by
  have hnone : Safe (Covers known) (l.sides left (l.valueOf right) none) fun _ => Covers known :=
    hright.bind fun _ => hleft.bind fun _ => Safe.pure fun _ h => h
  cases right with
  | var v =>
      have hsides : l.sides left (l.valueOf (.var v)) (some v)
          = (left >>= fun a => l.valueOf (.var v) >>= fun b => pure (a, b)) := by
        simp only [Layout.sides, Layout.valueOf, bind_assoc]
      rw [Expr.var?, hsides]
      exact hleft.bind fun _ => hright.bind fun _ => Safe.pure fun _ h => h
  | _ => exact hnone

/-- Expressions with a value are safe. -/
lemma valueOf_safe (hconst : ∀ x, l.constant x = (symbols.get? x).bind (·.address)) :
    ∀ {e : Expr}, e.numeric symbols = true → e.within symbols known = true →
      Safe (Covers known) (l.valueOf e) fun _ => Covers known
  | .var v, hproper, hknown => by
      refine read_safe hconst hproper ?_
      simpa [Expr.within, Expr.mentions] using hknown
  | .call function _, hproper, _ => by
      rw [Layout.valueOf, if_pos (of_decide_eq_true hproper)]
      exact takeInput_safe
  | .assign target e _, hproper, hknown => by
      rw [Expr.numeric, Bool.and_eq_true] at hproper
      rw [Expr.within, Expr.mentions, List.all_cons, Bool.and_eq_true] at hknown
      rw [Layout.valueOf]
      exact (valueOf_safe hconst hproper.2 hknown.2).bind fun v =>
        (locate_safe hconst hproper.1 hknown.1).bind fun spot =>
          ((store_safe v spot).mono (fun _ h => h.1) fun _ _ h => h).bind fun _ =>
            Safe.pure fun _ h => h
  | .bump target direction post _, hproper, hknown => by
      rw [Expr.within, Expr.mentions, List.all_cons, Bool.and_eq_true] at hknown
      rw [Layout.valueOf]
      exact (bumped_safe hconst hproper hknown.1 direction).bind fun _ => Safe.pure fun _ h => h
  | .sum op left right _, hproper, hknown => by
      rw [Expr.numeric, Bool.and_eq_true] at hproper
      rw [Expr.within, Expr.mentions, List.all_append, Bool.and_eq_true] at hknown
      rw [Layout.valueOf]
      exact (sides_safe (valueOf_safe hconst hproper.1 hknown.1)
        (valueOf_safe hconst hproper.2 hknown.2)).bind fun _ => Safe.pure fun _ h => h

lemma comparable_safe (hconst : ∀ x, l.constant x = (symbols.get? x).bind (·.address)) {e : Expr}
    (hproper : e.comparable symbols = true) (hknown : e.within symbols known = true) :
    Safe (Covers known) (l.valueOf e) fun _ => Covers known := by
  cases e with
  | num n line => exact Safe.pure fun _ h => h
  | _ => exact valueOf_safe hconst hproper hknown

mutual

/-- Conditions are safe. -/
lemma holds_safe (hconst : ∀ x, l.constant x = (symbols.get? x).bind (·.address)) :
    ∀ {e : Expr}, e.condition symbols = true → e.within symbols known = true →
      Safe (Covers known) (l.holds e) fun _ => Covers known
  | .bool _ _, _, _ => Safe.pure fun _ h => h
  | .compare op left right _, hproper, hknown => by
      rw [Expr.condition, Bool.and_eq_true] at hproper
      rw [Expr.within, Expr.mentions, List.all_append, Bool.and_eq_true] at hknown
      rw [Layout.holds]
      exact (sides_safe (comparable_safe hconst hproper.1 hknown.1)
        (comparable_safe hconst hproper.2 hknown.2)).bind fun _ => Safe.pure fun _ h => h
  | .logical op first others _, hproper, hknown => by
      rw [Expr.condition, Bool.and_eq_true] at hproper
      rw [Expr.within, Expr.mentions, List.all_append, Bool.and_eq_true] at hknown
      rw [Layout.holds]
      refine (holds_safe hconst hproper.1 hknown.1).bind fun b => ?_
      split
      · exact Safe.pure fun _ h => h
      · exact holdAll_safe hconst op hproper.2 hknown.2

lemma holdAll_safe (hconst : ∀ x, l.constant x = (symbols.get? x).bind (·.address))
    (op : Connective) : ∀ {es : Operands}, es.conditions symbols = true →
      es.mentions.all (·.usable symbols known) = true →
      Safe (Covers known) (l.holdAll op es) fun _ => Covers known
  | .last e, hproper, hknown => holds_safe hconst hproper hknown
  | .more e others, hproper, hknown => by
      rw [Operands.conditions, Bool.and_eq_true] at hproper
      rw [Operands.mentions, List.all_append, Bool.and_eq_true] at hknown
      rw [Layout.holdAll]
      refine (holds_safe hconst hproper.1 hknown.1).bind fun b => ?_
      split
      · exact Safe.pure fun _ h => h
      · exact holdAll_safe hconst op hproper.2 hknown.2

end

end Expressions

/-! ## Statements -/

section Statements

variable {l : Layout} {symbols : Symbols} {known : List String} {fuel : Nat}

lemma modify_safe {pre : World → Prop} {f : World → World} {post : World → Prop}
    (h : ∀ w, pre w → post (f w)) : Safe pre (modify f : Eval Unit) fun _ => post :=
  h

lemma perform_safe (hconst : ∀ x, l.constant x = (symbols.get? x).bind (·.address)) {e : Expr}
    (hproper : e.action symbols = true) (hknown : e.within symbols known = true) :
    Safe (Covers known) (l.perform e) fun _ => Covers known := by
  cases e with
  | callWith function arg line =>
      rw [Expr.action, Bool.or_eq_true, Bool.and_eq_true] at hproper
      rw [Layout.perform]
      by_cases houtput : function = "output"
      · rw [if_pos houtput]
        have harg : arg.numeric symbols = true := by
          rcases hproper with h | h
          · exact h.2
          · simp [houtput] at h
        exact (valueOf_safe hconst harg hknown).bind fun v => modify_safe fun _ h => h
      · have hdebug : function = "debug" := by
          simp only [houtput, decide_false, Bool.false_eq_true, false_and, false_or,
            Bool.and_eq_true, decide_eq_true_eq] at hproper
          exact hproper.1
        rw [if_neg houtput, if_pos hdebug]
        exact Safe.pure fun _ h => h
  | _ => exact (valueOf_safe hconst hproper hknown).bind fun _ => Safe.pure fun _ h => h

/-- A scope may have more variables than are known behind it. -/
lemma enclosed_safe {body : Eval Unit} {inner : List String}
    (hbody : Safe (Covers known) body fun _ => Covers inner) (hinner : known ⊆ inner) :
    Safe (Covers known) (enclosed body) fun _ => Covers known := by
  intro w hw
  have h := hbody w hw
  rw [enclosed_apply]
  cases hrun : body w with
  | error s w' =>
      rw [hrun] at h
      exact h
  | ok u w' =>
      rw [hrun] at h
      intro x hx
      simp only [World.leave]
      rw [if_pos (hw x hx)]
      exact h x (hinner hx)

lemma loop_safe {cond : Eval Bool} {body : Eval Unit} {inv : World → Prop}
    (hcond : Safe inv cond fun _ => inv) (hbody : Safe inv body fun _ => inv) (n : Nat) :
    Safe inv (loop cond body n) fun _ => inv := by
  induction n with
  | zero => exact fun _ _ => trivial
  | succ n ih =>
      rw [loop]
      refine hcond.bind fun b => ?_
      split
      · exact hbody.bind fun _ => ih
      · exact Safe.pure fun _ h => h

/-- Names that are known stay known. -/
lemma scope_subset {s : Stmt} {inner : List String} (h : s.scope symbols known = some inner) :
    known ⊆ inner := by
  cases s with
  | decl d =>
      rw [Stmt.scope] at h
      split at h
      · cases h
        exact List.Subset.refl _
      · split at h <;> cases h
        exact List.subset_cons_self _ _
  | _ =>
      rw [Stmt.scope] at h
      split at h <;> cases h
      exact List.Subset.refl _

lemma blockScope_subset {body : List Stmt} {inner : List String}
    (h : blockScope symbols known body = some inner) : known ⊆ inner := by
  induction body generalizing known with
  | nil =>
      cases h
      exact List.Subset.refl _
  | cons s rest ih =>
      rw [blockScope] at h
      split at h
      · cases h
      · rename_i mid hmid
        exact List.Subset.trans (scope_subset hmid) (ih h)

mutual

/-- **Statements.**  A proper statement that uses known variables is safe, and behind it the
variables are known that it declares. -/
lemma exec_safe (hconst : ∀ x, l.constant x = (symbols.get? x).bind (·.address)) :
    ∀ {s : Stmt} {known inner : List String}, s.proper symbols = true →
      s.scope symbols known = some inner →
      Safe (Covers known) (l.exec fuel s) fun _ => Covers inner
  | .decl d, known, inner, hproper, hscope => by
      rw [Stmt.proper, Bool.or_eq_true, Bool.and_eq_true, Bool.and_eq_true] at hproper
      rw [Stmt.scope] at hscope
      rw [Layout.exec]
      by_cases hconstant : d.constant = true
      · rw [if_pos hconstant] at hscope ⊢
        cases hscope
        exact Safe.pure fun _ h => h
      · rw [if_neg hconstant] at hscope ⊢
        have hset : ∀ v, Safe (Covers known) (modify fun w => w.set d.name v : Eval Unit)
            fun _ => Covers (d.name :: known) := by
          intro v
          refine modify_safe fun w hw => List.forall_mem_cons.mpr ⟨?_, hw.set d.name v⟩
          simp [World.set]
        split at hscope
        · rename_i hinit
          cases hscope
          cases hd : d.init with
          | none => exact hset none
          | some e =>
              rw [hd] at hinit hproper
              have hnumeric := (hproper.resolve_left fun h => hconstant h.1).1
              exact (valueOf_safe hconst hnumeric hinit).bind fun v => hset (some v)
        · cases hscope
  | .expr e _, known, inner, hproper, hscope => by
      rw [Stmt.scope] at hscope
      split at hscope
      · cases hscope
        exact perform_safe hconst hproper ‹_›
      · cases hscope
  | .ifThen cond body _, known, inner, hproper, hscope => by
      rw [Stmt.proper, Bool.and_eq_true] at hproper
      rw [Stmt.scope] at hscope
      split at hscope
      · rename_i hknown
        cases hscope
        obtain ⟨deeper, hdeeper⟩ := Option.isSome_iff_exists.mp hknown.2
        rw [Layout.exec]
        refine (holds_safe hconst hproper.1 hknown.1).bind fun b => ?_
        split
        · exact enclosed_safe (exec_safe hconst hproper.2 hdeeper) (scope_subset hdeeper)
        · exact Safe.pure fun _ h => h
      · cases hscope
  | .whileDo cond body _, known, inner, hproper, hscope => by
      rw [Stmt.proper, Bool.and_eq_true] at hproper
      rw [Stmt.scope] at hscope
      split at hscope
      · rename_i hknown
        cases hscope
        obtain ⟨deeper, hdeeper⟩ := Option.isSome_iff_exists.mp hknown.2
        rw [Layout.exec]
        exact loop_safe (holds_safe hconst hproper.1 hknown.1)
          (enclosed_safe (exec_safe hconst hproper.2 hdeeper) (scope_subset hdeeper)) fuel
      · cases hscope
  | .ifElse cond body other _, known, inner, hproper, hscope => by
      rw [Stmt.proper, Bool.and_eq_true, Bool.and_eq_true] at hproper
      rw [Stmt.scope] at hscope
      split at hscope
      · rename_i hknown
        cases hscope
        obtain ⟨deeper, hdeeper⟩ := Option.isSome_iff_exists.mp hknown.2.1
        obtain ⟨deeper', hdeeper'⟩ := Option.isSome_iff_exists.mp hknown.2.2
        rw [Layout.exec]
        refine (holds_safe hconst hproper.1.1 hknown.1).bind fun b => ?_
        split
        · exact enclosed_safe (exec_safe hconst hproper.1.2 hdeeper) (scope_subset hdeeper)
        · exact enclosed_safe (exec_safe hconst hproper.2 hdeeper') (scope_subset hdeeper')
      · cases hscope
  | .block body _, known, inner, hproper, hscope => by
      rw [Stmt.scope] at hscope
      split at hscope
      · rename_i hknown
        cases hscope
        obtain ⟨deeper, hdeeper⟩ := Option.isSome_iff_exists.mp hknown
        rw [Layout.exec]
        exact enclosed_safe (execAll_safe hconst hproper hdeeper) (blockScope_subset hdeeper)
      · cases hscope

lemma execAll_safe (hconst : ∀ x, l.constant x = (symbols.get? x).bind (·.address)) :
    ∀ {body : List Stmt} {known inner : List String}, properAll symbols body = true →
      blockScope symbols known body = some inner →
      Safe (Covers known) (l.execAll fuel body) fun _ => Covers inner
  | [], known, inner, _, hscope => by
      cases hscope
      exact Safe.pure fun _ h => h
  | s :: rest, known, inner, hproper, hscope => by
      rw [properAll, Bool.and_eq_true] at hproper
      rw [blockScope] at hscope
      split at hscope
      · cases hscope
      · rename_i mid hmid
        rw [Layout.execAll]
        exact (exec_safe hconst hproper.1 hmid).bind fun _ => execAll_safe hconst hproper.2 hscope

end

end Statements

end Mailroom.Source
