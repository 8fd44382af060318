import Mailroom.Proofs.Expressions
import Mailroom.Proofs.Stocks

/-!
# Compiled statements

Statements are put together from expressions and conditions.  Tiles of variables that are out of
scope are left alone, so what is known at the top of a loop is known there again after a round.

- `Reaches.enclosed`: leaving a scope.
- `loop_reaches`: loops, by induction on the number of rounds.
- `Guards`: instructions for a condition, as far as branches and loops look at them.
- `Implements.ifThen`, `Implements.ifElse`, `Implements.loop`: a rule for each arrangement of labels
  and jumps.
- `stmt_implements`: the instructions for statements do what the statements mean.
-/

namespace Mailroom.Source

open Text

/-! ## Scopes -/

section Scopes

variable {t : Target} {l : Layout} {tiles tiles' : Assoc String Nat} {held : List (Nat × Int)}
  {w w' : World} {d : Desk}

/-- Another table may have more tiles. -/
lemma Represents.grow (h : Represents t l tiles held w d)
    (hkeeps : ∀ x a, tiles.get? x = some a → tiles'.get? x = some a) :
    Represents t l tiles' held w d := by
  refine ⟨h.toAgrees, h.room, ?_, ?_, h.held⟩
  · intro x v hx
    obtain ⟨k, hk, hv⟩ := h.vars x v hx
    exact ⟨k, hkeeps x k hk, hv⟩
  · intro x hx
    obtain ⟨k, hk⟩ := Option.isSome_iff_exists.mp (h.scope x hx)
    rw [hkeeps x k hk]
    rfl

/-- Out of scope, tiles may be forgotten. -/
lemma Represents.leave {outer : World} {d0 : Desk} (h : Represents t l tiles' held w d)
    (houter : Represents t l tiles held outer d0)
    (hkeeps : ∀ x a, tiles.get? x = some a → tiles'.get? x = some a) :
    Represents t l tiles held (outer.leave w) d := by
  refine ⟨⟨h.inbox, h.sent, h.size, h.floor⟩, h.room, ?_, ?_, h.held⟩
  · intro x v hx
    simp only [World.leave] at hx
    split at hx
    · rename_i hscope
      obtain ⟨k, hk⟩ := Option.isSome_iff_exists.mp (houter.scope x hscope)
      obtain ⟨k', hk', hv⟩ := h.vars x v hx
      rw [hkeeps x k hk, Option.some.injEq] at hk'
      exact ⟨k, hk, hk' ▸ hv⟩
    · cases hx
  · intro x hx
    simp only [World.leave] at hx
    split at hx
    · exact houter.scope x ‹_›
    · cases hx

/-- A variable that has no value yet. -/
lemma Represents.declare (h : Represents t l tiles held w d) {x : String}
    (hx : (tiles.get? x).isSome) : Represents t l tiles held (w.set x none) d := by
  refine ⟨⟨h.inbox, h.sent, h.size, h.floor⟩, h.room, ?_, ?_, h.held⟩
  · intro y v hy
    simp only [World.set] at hy
    split at hy
    · cases hy
    · exact h.vars y v hy
  · intro y hy
    simp only [World.set] at hy
    split at hy
    · rename_i hyx
      rwa [hyx]
    · exact h.scope y hy

end Scopes

section Rules

variable {t : Target} {l : Layout} {tiles tiles' : Assoc String Nat} {used : List Nat}
  {code : List Op} {least : Nat}

/-- A part with a scope of its own. -/
lemma Reaches.enclosed {body : Eval Unit} {start : Point} {exit : Unit → Point}
    (hbody : Reaches code l least (Represents t l tiles []) body start exit
      fun _ => Represents t l tiles' [])
    (hkeeps : ∀ x a, tiles.get? x = some a → tiles'.get? x = some a) :
    Reaches code l least (Represents t l tiles []) (enclosed body) start exit
      fun _ => Represents t l tiles [] := by
  intro w c hup hrep
  obtain ⟨c', hleads, h⟩ := hbody w c hup hrep
  refine ⟨c', hleads, ?_⟩
  rw [enclosed_apply]
  cases hrun : body w with
  | error s w' =>
      rw [hrun] at h
      exact h
  | ok u w' =>
      rw [hrun] at h
      exact ⟨h.1, h.2.leave hrep hkeeps⟩

lemma Implements.enclosed {body : Eval Unit} {frag : List Op}
    (hbody : Implements code l least (Represents t l tiles []) body frag
      fun _ => Represents t l tiles' [])
    (hkeeps : ∀ x a, tiles.get? x = some a → tiles'.get? x = some a) :
    Implements code l least (Represents t l tiles []) (enclosed body) frag
      fun _ => Represents t l tiles [] :=
  fun rest hplace => Reaches.enclosed (hbody rest hplace) hkeeps

/-- What is known behind a scope is known of more tiles as well. -/
lemma Implements.grow {x : Eval Unit} {frag : List Op}
    (hx : Implements code l least (Represents t l tiles []) x frag fun _ => Represents t l tiles [])
    (hkeeps : ∀ x a, tiles.get? x = some a → tiles'.get? x = some a) :
    Implements code l least (Represents t l tiles []) x frag fun _ => Represents t l tiles' [] :=
  hx.mono (fun _ _ h => h) fun _ _ _ h => h.grow hkeeps

/-- A jump behind a step. -/
lemma Reaches.jump {α : Type} {inv : World → Desk → Prop} {x : Eval α} {start : Point}
    {label : String} {later q : List Op}
    (h : Reaches code l least inv x start (fun _ => upcoming (jumpTo .always label :: later))
      fun _ => inv)
    (hlabel : after label code = some q) :
    Reaches code l least inv x start (fun _ => upcoming q) fun _ => inv := by
  intro w c hup hinv
  obtain ⟨c1, hleads, h1⟩ := h w c hup hinv
  cases hrun : x w with
  | error s w' =>
      rw [hrun] at h1
      exact ⟨c1, hleads, h1⟩
  | ok a w' =>
      rw [hrun] at h1
      obtain ⟨c2, hleads', hdesk, -, hup2⟩ := jump_leads h1.1 rfl hlabel
      exact ⟨c2, hleads.trans hleads', hup2, hdesk ▸ h1.2⟩

/-- The world changes, and the desk does not. -/
lemma Implements.modify {pre : World → Desk → Prop} {f : World → World}
    {post : Unit → World → Desk → Prop} (h : ∀ w d, pre w d → post () (f w) d) :
    Implements code l least pre (modify f) [] post :=
  fun _ _ w c hup hpre => ⟨c, .refl, hup, h w c.desk hpre⟩

/-- The value in the hand becomes that of a new variable. -/
lemma implements_define (hfits : Fits t l) (hframe : Frame l tiles used []) {x : String} {k : Nat}
    (hk : tiles.get? x = some k) (v : Int) :
    Implements code l least (fun w d => Represents t l tiles [] w d ∧ d.hand = some v)
      (modify fun w => w.set x (some v)) [onCell .copyTo k] fun _ => Represents t l tiles [] := by
  refine Implements.onTile fun w d hpre => ?_
  obtain ⟨hrep, hhand⟩ := hpre
  have hreach := hrep.reach_cell hfits (hframe.kept k (hframe.inUse x k hk))
  exact ⟨_, Desk.useTile_copyTo_eq hhand hreach, hrep.define hfits hframe hk v⟩

/-! ## Loops -/

lemma Reaches.weaken {α : Type} {pre : World → Desk → Prop} {x : Eval α} {start : Point}
    {exit : α → Point} {post : α → World → Desk → Prop} {most : Nat}
    (h : Reaches code l most pre x start exit post) (hle : least ≤ most) :
    Reaches code l least pre x start exit post := by
  intro w c hup hpre
  obtain ⟨c', hleads, h'⟩ := h w c hup hpre
  refine ⟨c', hleads, ?_⟩
  cases hrun : x w with
  | ok a w' =>
      rw [hrun] at h'
      exact h'
  | error s w' =>
      rw [hrun] at h'
      refine ⟨h'.1, ?_⟩
      cases s with
      | outOfFuel => exact (Nat.add_le_add_left hle _).trans h'.2
      | _ => exact h'.2

/-- **Loops.**  Every round goes from the top to the jump back, and a loop that goes round `n` times
takes at least as many instructions. -/
lemma loop_reaches {inv : World → Desk → Prop} {cond : Eval Bool} {body : Eval Unit}
    {top start stop : Point} {label : String} {later q : List Op} {most : Nat}
    (hagrees : ∀ w d, inv w d → Agrees l w d)
    (hcond : Decides code l most inv cond top fun b => if b then start else stop)
    (hbody : Reaches code l most inv body start
      (fun _ => upcoming (jumpTo .always label :: later)) fun _ => inv)
    (hlabel : after label code = some q) (htop : upcoming q = top) {n : Nat} (hn : n ≤ most) :
    Reaches code l n inv (loop cond body n) top (fun _ => stop) fun _ => inv := by
  induction n with
  | zero => exact fun w c _ hinv => ⟨c, .refl, hagrees w c.desk hinv, le_refl _⟩
  | succ n ih =>
      -- the jump back is one instruction more than the rounds that follow
      have hagain : Reaches code l (n + 1) inv (loop cond body n)
          (upcoming (jumpTo .always label :: later)) (fun _ => stop) fun _ => inv := by
        intro w c hup hinv
        obtain ⟨c1, hleads, hdesk, hsteps, hup1⟩ := jump_leads hup rfl hlabel
        obtain ⟨c2, hleads', h⟩ := ih (by omega) w c1 (hup1.trans htop) (hdesk ▸ hinv)
        refine ⟨c2, hleads.trans hleads', ?_⟩
        cases hrun : loop cond body n w with
        | ok u w' =>
            rw [hrun] at h
            exact h
        | error s w' =>
            rw [hrun] at h
            refine ⟨h.1, ?_⟩
            cases s with
            | outOfFuel =>
                have := h.2
                simp only [Stop.Shows] at this ⊢
                omega
            | _ => exact h.2
      refine (Reaches.weaken hcond hn).bind fun b => ?_
      cases b with
      | true => exact (Reaches.weaken hbody hn).bind fun _ => hagain
      | false => exact Reaches.pure rfl fun w d h => h

end Rules

/-! ## Branches and loops

Each arrangement of labels and jumps has a rule of its own, which knows nothing of the statements
inside. -/

/-- The instructions in `frag` decide a condition wherever they stand: they go on behind themselves
if it holds, and to a label if not. -/
def Guards (code : List Op) (l : Layout) (least : Nat) (inv : World → Desk → Prop)
    (cond : Eval Bool) (frag : List Op) (label : String) : Prop :=
  ∀ rest q, frag ++ rest <:+ code → after label code = some q →
    Decides code l least inv cond (upcoming (frag ++ rest)) fun b => upcoming (if b then rest else q)

section Shapes

variable {l : Layout} {code frag frag' frag'' : List Op} {least fuel : Nat}
  {inv post : World → Desk → Prop} {cond : Eval Bool} {body other : Eval Unit}
  {no stop top : String}

lemma Implements.ifThen (hnodup : (labelNames code).Nodup)
    (hcond : Guards code l least inv cond frag no)
    (hbody : Implements code l least inv body frag' fun _ => post)
    (hpost : ∀ w d, inv w d → post w d) :
    Implements code l least inv (do if ← cond then body) (frag ++ (frag' ++ [.label no]))
      fun _ => post := by
  intro rest hplace
  simp only [List.append_assoc] at hplace ⊢
  have hbehind := (List.suffix_append _ _).trans hplace
  have hlabel := after_of_nodup hnodup ((List.suffix_append _ _).trans hbehind)
  refine Reaches.bind (hcond _ _ hplace hlabel) fun b => ?_
  cases b with
  | true => exact hbody _ hbehind
  | false => exact Reaches.pure rfl hpost

lemma Implements.ifElse (hnodup : (labelNames code).Nodup)
    (hcond : Guards code l least inv cond frag no)
    (hbody : Implements code l least inv body frag' fun _ => inv)
    (hother : Implements code l least inv other frag'' fun _ => post)
    (hpost : ∀ w d, inv w d → post w d) :
    Implements code l least inv (do if ← cond then body else other)
      (frag ++ (frag' ++ jumpTo .always stop :: .label no :: (frag'' ++ [.label stop])))
      fun _ => post := by
  intro rest hplace
  -- the jump over the other branch and the two labels are fragments of their own
  have hgroup : ∀ jump no stop : Op,
      frag ++ (frag' ++ jump :: no :: (frag'' ++ [stop])) ++ rest
        = frag ++ (frag' ++ ([jump] ++ ([no] ++ (frag'' ++ ([stop] ++ rest))))) := by simp
  rw [hgroup] at hplace ⊢
  have hplace1 := (List.suffix_append _ _).trans hplace
  have hplace2 := (List.suffix_append _ _).trans ((List.suffix_append _ _).trans hplace1)
  have hplace3 := (List.suffix_append _ _).trans hplace2
  have hno := after_of_nodup hnodup hplace2
  have hstop := after_of_nodup hnodup ((List.suffix_append _ _).trans hplace3)
  refine Reaches.bind (hcond _ _ hplace hno) fun b => ?_
  cases b with
  | true =>
      exact (Reaches.jump (hbody _ hplace1) hstop).mono (fun _ _ h => h) (fun _ => rfl)
        fun _ => hpost
  | false => exact hother _ hplace3

/-- A loop that its condition ends. -/
lemma Implements.loop (hnodup : (labelNames code).Nodup) (hagrees : ∀ w d, inv w d → Agrees l w d)
    (hcond : Guards code l fuel inv cond frag stop)
    (hbody : Implements code l fuel inv body frag' fun _ => inv) :
    Implements code l fuel inv (loop cond body fuel)
      (.label top :: (frag ++ (frag' ++ [jumpTo .always top, .label stop]))) fun _ => inv := by
  intro rest hplace
  have hgroup : ∀ top jump stop : Op, top :: (frag ++ (frag' ++ [jump, stop])) ++ rest
      = [top] ++ (frag ++ (frag' ++ ([jump] ++ ([stop] ++ rest)))) := by simp
  rw [hgroup] at hplace ⊢
  have hplace1 := (List.suffix_append _ _).trans hplace
  have hplace2 := (List.suffix_append _ _).trans hplace1
  have hstop := after_of_nodup hnodup
    ((List.suffix_append _ _).trans ((List.suffix_append _ _).trans hplace2))
  have hdecides := hcond _ _ hplace1 hstop
  exact loop_reaches hagrees (hdecides.of_exit_eq fun b => by cases b <;> rfl) (hbody _ hplace2)
    (after_of_nodup hnodup hplace) rfl (le_refl fuel)

/-- A loop that only what is inside can end. -/
lemma Implements.forever (hnodup : (labelNames code).Nodup)
    (hagrees : ∀ w d, inv w d → Agrees l w d)
    (hbody : Implements code l fuel inv body frag fun _ => inv) :
    Implements code l fuel inv (Source.loop (Pure.pure true) body fuel)
      (.label top :: (frag ++ [jumpTo .always top])) fun _ => inv := by
  intro rest hplace
  have hgroup : ∀ top jump : Op, top :: (frag ++ [jump]) ++ rest
      = [top] ++ (frag ++ ([jump] ++ rest)) := by simp
  rw [hgroup] at hplace ⊢
  have hround := hbody _ ((List.suffix_append _ _).trans hplace)
  have hforever : ∀ start : Point, Decides code l fuel inv (Pure.pure true) start
      fun b => if b then start else upcoming rest := fun start => Reaches.pure rfl fun w d h => h
  exact loop_reaches hagrees (hforever _) hround (after_of_nodup hnodup hplace) rfl (le_refl fuel)

end Shapes

/-! ## Statements -/

/-- What has been given out is laid out so. -/
structure Stock.Within (l : Layout) (k : Stock) : Prop where
  placed : ∀ x a, k.tiles.get? x = some a → l.placed.get? x = some a
  kept : ∀ a ∈ k.used, a ∈ l.kept

/-- What statements mean. -/
def Part.meaning (l : Layout) (fuel : Nat) : Part → Eval Unit
  | .one s => l.exec fuel s
  | .many body => l.execAll fuel body

/-- The statements are proper. -/
def Part.proper (symbols : Symbols) : Part → Bool
  | .one s => s.proper symbols
  | .many body => properAll symbols body

section Statements

variable {t : Target} {l : Layout} {k k' : Stock} {code frag : List Op} {fuel : Nat}

lemma Stock.Within.of_grows {names : List String} (h : k'.Within l) (hsound : k.Sound t)
    (hsound' : k'.Sound t) (hgrows : k.Grows k' names) : k.Within l := by
  refine ⟨fun x a hx => h.placed x a (hgrows.keeps x a hx), fun a ha => ?_⟩
  obtain ⟨x, hx⟩ := hsound.owned a ha
  exact h.kept a (hsound'.inUse x a (hgrows.keeps x a hx))

lemma Stock.Within.frame (h : k.Within l) (hsound : k.Sound t) : Frame l k.tiles k.used [] :=
  ⟨h.placed, hsound.inUse, hsound.apart, h.kept, fun _ _ hmem => nomatch hmem⟩

lemma Stock.get?_place (k : Stock) (name : String) (address : Nat) :
    (k.place name address).tiles.get? name = some address := by
  rw [Stock.place, Assoc.get?_put, if_pos rfl]

lemma KeepsCells.mono {frag' : List Op} (h : KeepsCells t l frag) (hsub : frag' ⊆ frag) :
    KeepsCells t l frag' := by
  intro address haddress hreserved
  obtain ⟨op, hop, hnames⟩ := List.mem_filterMap.mp haddress
  exact h address (List.mem_filterMap.mpr ⟨op, hsub hop, hnames⟩) hreserved

/-- The instructions for a condition guard what is behind them. -/
lemma cond_guards (hfits : Fits t l) (hnodup : (labelNames code).Nodup) {cond : Expr} {no : String}
    {n m : Nat} (hcode : CondCode t k.tiles k.used (.one cond) no false n frag m)
    (hproper : cond.condition t.symbols = true) (hframe : Frame l k.tiles k.used [])
    (hcells : KeepsCells t l frag) :
    Guards code l fuel (Represents t l k.tiles []) (l.holds cond) frag no :=
  fun _ _ hplace hlabel => (cond_decides hfits hnodup hcode hproper hframe hcells hplace hlabel
    trivial).of_exit_eq fun b => by cases b <;> rfl

/-- **Statements.**  The instructions for statements do what the statements mean. -/
lemma stmt_implements (hfits : Fits t l) (hnodup : (labelNames code).Nodup) {part : Part}
    (hcode : StmtCode t part k frag k') (hproper : part.proper t.symbols = true)
    (hsound : k.Sound t) (hnames : part.declared.Nodup)
    (hlacks : ∀ x ∈ part.declared, k.tiles.get? x = none) (hwithin : k'.Within l)
    (hcells : KeepsCells t l frag) :
    Implements code l fuel (Represents t l k.tiles []) (part.meaning l fuel) frag
      fun _ => Represents t l k'.tiles [] := by
  induction hcode with
  | @constant d k hconst =>
      rw [Part.meaning, Layout.exec, if_pos hconst]
      exact Implements.pure fun w d h => h
  | @declare d k address hconst hinit hfresh =>
      have hnew := hlacks d.name List.mem_cons_self
      have hgrows := Stock.grows_place hnew address
      rw [Part.meaning, Layout.exec, if_neg (by rw [hconst]; exact Bool.false_ne_true), hinit]
      refine Implements.modify fun w d' h => (h.grow hgrows.keeps).declare ?_
      rw [Stock.get?_place]
      rfl
  | @define d k address e frag hconst hinit hfresh hvalue =>
      have hnew := hlacks d.name List.mem_cons_self
      have hgrows := Stock.grows_place hnew address
      have hframe := hwithin.frame (hsound.place hfresh hnew)
      rw [Part.meaning, Layout.exec, if_neg (by rw [hconst]; exact Bool.false_ne_true), hinit]
      exact ((value_implements hfits hvalue hframe (KeepsCells.append_iff.mp hcells).1).bind
        fun v => implements_define hfits hframe (k.get?_place d.name address) v).mono
        (fun w d' h => h.grow hgrows.keeps) fun _ _ _ h => h
  | @expr e line k frag heffect =>
      exact effect_implements hfits heffect (hwithin.frame hsound) hcells
  | @ifTrue b body line k frag k' hbody ih =>
      have hgrows := (stmt_stock hbody hsound hnames hlacks).2
      have hbody' := ih hproper hsound hnames hlacks hwithin hcells
      refine ((hbody'.enclosed hgrows.keeps).grow hgrows.keeps).of_eq ?_ rfl
      simp only [Part.meaning, Layout.exec, Layout.holds, pure_bind, if_true]
  | @ifFalse b body line k =>
      have hmeaning : (Part.one (.ifThen (.bool false b) body line)).meaning l fuel = pure () := by
        simp only [Part.meaning, Layout.exec, Layout.holds, pure_bind, Bool.false_eq_true, if_false]
      rw [hmeaning]
      exact Implements.pure fun w d h => h
  | @ifThen cond body line k frag n frag' k' hbool hcond hbody ih =>
      rw [Part.proper, Stmt.proper, Bool.and_eq_true] at hproper
      have hcells1 : KeepsCells t l frag := hcells.mono fun op hop => by simp [hop]
      have hcells2 : KeepsCells t l frag' := hcells.mono fun op hop => by simp [hop]
      obtain ⟨hsound', hgrows⟩ := stmt_stock hbody (hsound.relabel n) hnames hlacks
      have hframe := (hwithin.of_grows hsound hsound' hgrows.of_relabel).frame hsound
      have hbody' := ih hproper.2 (hsound.relabel n) hnames hlacks hwithin hcells2
      exact Implements.ifThen hnodup (cond_guards hfits hnodup hcond hproper.1 hframe hcells1)
        ((hbody'.enclosed hgrows.keeps).grow hgrows.keeps) fun w d h => h.grow hgrows.keeps
  | @elseTrue b body other line k frag k' hbody ih =>
      rw [Part.proper, Stmt.proper, Bool.and_eq_true, Bool.and_eq_true] at hproper
      have hnames' := (List.nodup_append.mp hnames).1
      have hlacks' := fun x hx => hlacks x (List.mem_append_left _ hx)
      have hgrows := (stmt_stock hbody hsound hnames' hlacks').2
      have hbody' := ih hproper.1.2 hsound hnames' hlacks' hwithin hcells
      refine ((hbody'.enclosed hgrows.keeps).grow hgrows.keeps).of_eq ?_ rfl
      simp only [Part.meaning, Layout.exec, Layout.holds, pure_bind, if_true]
  | @elseFalse b body other line k frag k' hbody ih =>
      rw [Part.proper, Stmt.proper, Bool.and_eq_true, Bool.and_eq_true] at hproper
      have hnames' := (List.nodup_append.mp hnames).2.1
      have hlacks' := fun x hx => hlacks x (List.mem_append_right _ hx)
      have hgrows := (stmt_stock hbody hsound hnames' hlacks').2
      have hbody' := ih hproper.2 hsound hnames' hlacks' hwithin hcells
      refine ((hbody'.enclosed hgrows.keeps).grow hgrows.keeps).of_eq ?_ rfl
      simp only [Part.meaning, Layout.exec, Layout.holds, pure_bind, Bool.false_eq_true, if_false]
  | @ifElse cond body other line k frag n frag' k' frag'' k'' hbool hcond hbody hother ihb iho =>
      rw [Part.proper, Stmt.proper, Bool.and_eq_true, Bool.and_eq_true] at hproper
      obtain ⟨hnames1, hnames2, -⟩ := List.nodup_append.mp hnames
      have hlacks1 : ∀ x ∈ body.declared, k.tiles.get? x = none :=
        fun x hx => hlacks x (List.mem_append_left _ hx)
      obtain ⟨hsound1, hgrows1⟩ := stmt_stock hbody (hsound.relabel n) hnames1 hlacks1
      have hlacks2 := hgrows1.lacks hnames hlacks
      obtain ⟨hsound2, hgrows2⟩ := stmt_stock hother (hsound1.relabel _) hnames2 hlacks2
      have hwithin1 := hwithin.of_grows hsound1 hsound2 hgrows2.of_relabel
      have hframe := (hwithin1.of_grows hsound hsound1 hgrows1.of_relabel).frame hsound
      have hcells1 : KeepsCells t l frag := hcells.mono fun op hop => by simp [hop]
      have hcells2 : KeepsCells t l frag' := hcells.mono fun op hop => by simp [hop]
      have hcells3 : KeepsCells t l frag'' := hcells.mono fun op hop => by simp [hop]
      have hbody' := ihb hproper.1.2 (hsound.relabel n) hnames1 hlacks1 hwithin1 hcells2
      have hother' := iho hproper.2 (hsound1.relabel _) hnames2 hlacks2 hwithin hcells3
      exact Implements.ifElse hnodup (cond_guards hfits hnodup hcond hproper.1.1 hframe hcells1)
        (hbody'.enclosed hgrows1.keeps)
        (((hother'.enclosed hgrows2.keeps).grow hgrows2.keeps).mono
          (fun w d h => h.grow hgrows1.keeps) fun _ _ _ h => h)
        fun w d h => (h.grow hgrows1.keeps).grow hgrows2.keeps
  | @forever b body line k frag k' hbody ih =>
      rw [Part.proper, Stmt.proper, Bool.and_eq_true] at hproper
      have hcells1 : KeepsCells t l frag := hcells.mono fun op hop => by simp [hop]
      have hgrows := (stmt_stock hbody (hsound.relabel _) hnames hlacks).2
      have hbody' := ih hproper.2 (hsound.relabel _) hnames hlacks hwithin hcells1
      exact (Implements.forever hnodup (fun w d h => h.toAgrees)
        (hbody'.enclosed hgrows.keeps)).grow hgrows.keeps
  | @never b body line k =>
      cases fuel with
      | zero => exact fun _ _ w c _ h => ⟨c, .refl, h.toAgrees, le_refl _⟩
      | succ fuel =>
          have hmeaning : (Part.one (.whileDo (.bool false b) body line)).meaning l (fuel + 1)
              = pure () := by
            simp only [Part.meaning, Layout.exec, loop, Layout.holds, pure_bind, Bool.false_eq_true,
              if_false]
          rw [hmeaning]
          exact Implements.pure fun w d h => h
  | @whileDo cond body line k frag n frag' k' hbool hcond hbody ih =>
      rw [Part.proper, Stmt.proper, Bool.and_eq_true] at hproper
      have hcells1 : KeepsCells t l frag := hcells.mono fun op hop => by simp [hop]
      have hcells2 : KeepsCells t l frag' := hcells.mono fun op hop => by simp [hop]
      obtain ⟨hsound', hgrows⟩ := stmt_stock hbody (hsound.relabel _) hnames hlacks
      have hframe := (hwithin.of_grows hsound hsound' hgrows.of_relabel).frame hsound
      have hbody' := ih hproper.2 (hsound.relabel _) hnames hlacks hwithin hcells2
      exact (Implements.loop hnodup (fun w d h => h.toAgrees)
        (cond_guards hfits hnodup hcond hproper.1 hframe hcells1)
        (hbody'.enclosed hgrows.keeps)).grow hgrows.keeps
  | @block body line k frag k' hbody ih =>
      have hgrows := (stmt_stock hbody hsound hnames hlacks).2
      have hbody' := ih hproper hsound hnames hlacks hwithin hcells
      exact (hbody'.enclosed hgrows.keeps).grow hgrows.keeps
  | done => exact Implements.pure fun w d h => h
  | @next s rest k frag k' frag' k'' hs hrest ihs ihr =>
      rw [Part.proper, properAll, Bool.and_eq_true] at hproper
      obtain ⟨hnames1, hnames2, -⟩ := List.nodup_append.mp hnames
      have hlacks1 : ∀ x ∈ s.declared, k.tiles.get? x = none :=
        fun x hx => hlacks x (List.mem_append_left _ hx)
      obtain ⟨hsound1, hgrows1⟩ := stmt_stock hs hsound hnames1 hlacks1
      have hlacks2 := hgrows1.lacks hnames hlacks
      obtain ⟨hsound2, hgrows2⟩ := stmt_stock hrest hsound1 hnames2 hlacks2
      have hwithin1 := hwithin.of_grows hsound1 hsound2 hgrows2
      rw [KeepsCells.append_iff] at hcells
      exact (ihs hproper.1 hsound hnames1 hlacks1 hwithin1 hcells.1).bind fun _ =>
        ihr hproper.2 hsound1 hnames2 hlacks2 hwithin hcells.2

end Statements

end Mailroom.Source
