import Mailroom.Proofs.Acceptance
import Mailroom.Proofs.Simulation

/-!
# Compiled expressions and conditions do what they mean

The instructions for an expression leave its value in the hand and change what the expression
changes.  The instructions for a condition go to one of two places, as the condition comes out.

- `value_implements`, `effect_implements`: expressions.
- `Decides`: instructions that go to one of two places.
- `cond_decides`: conditions.
-/

namespace Mailroom.Source

open Text

variable {t : Target} {l : Layout} {tiles : Assoc String Nat} {used : List Nat}
  {held : List (Nat × Int)} {code : List Op} {least : Nat}

/-! ## Expressions -/

/-- A value is read from the inbox. -/
lemma implements_input :
    Implements code l least (Represents t l tiles held) takeInput [.instr .inbox]
      fun v w d => Represents t l tiles held w d ∧ d.hand = some v := by
  refine Implements.instr fun w d hrep => ?_
  rw [takeInput_apply, ← hrep.inbox]
  rcases hnext : d.inbox.next with ⟨reading, inbox⟩
  cases reading with
  | empty =>
      refine ⟨hrep.toAgrees, .inr (.inl rfl), ?_, ?_, ?_⟩
      · rintro e ⟨⟩
      · intro _
        rw [Desk.perform, hnext]
      · rintro e ⟨⟩
  | failed e =>
      refine ⟨hrep.toAgrees, .inr (.inr ⟨e, rfl⟩), ?_, ?_, ?_⟩
      · rintro e ⟨⟩
      · rintro ⟨⟩
      · rintro e ⟨⟩
        rw [Desk.perform, hnext]
  | value v =>
      refine ⟨{ d with inbox, hand := some v }, by rw [Desk.perform, hnext], ?_, rfl⟩
      exact ⟨⟨rfl, hrep.sent, hrep.size, hrep.floor⟩, hrep.room, hrep.vars, hrep.scope, hrep.held⟩

/-- The listing keeps the tiles of values in between that a fragment names. -/
def KeepsCells (t : Target) (l : Layout) (frag : List Op) : Prop :=
  ∀ k ∈ operandAddresses frag, k ∉ t.symbols.reserved → k ∈ l.kept

lemma operandAddresses_append (front rest : List Op) :
    operandAddresses (front ++ rest) = operandAddresses front ++ operandAddresses rest :=
  List.filterMap_append

lemma KeepsCells.append_iff {front rest : List Op} :
    KeepsCells t l (front ++ rest) ↔ KeepsCells t l front ∧ KeepsCells t l rest := by
  simp only [KeepsCells, operandAddresses_append, List.mem_append]
  constructor
  · exact fun h => ⟨fun k hk => h k (.inl hk), fun k hk => h k (.inr hk)⟩
  · rintro ⟨h1, h2⟩ k (hk | hk)
    · exact h1 k hk
    · exact h2 k hk

/-- A tile that is given out and named in a fragment is kept. -/
lemma KeepsCells.fresh {frag : List Op} (h : KeepsCells t l frag) {k : Nat}
    (hfresh : t.fresh? used = some k) (op : TileOp) (hmem : onCell op k ∈ frag) : k ∈ l.kept := by
  refine h k ?_ (fresh?_spec hfresh).2.1
  exact List.mem_filterMap.mpr ⟨_, hmem, rfl⟩

/-- **Expressions.**  The instructions for an expression leave its value in the hand. -/
lemma value_implements (hfits : Fits t l) {e : Expr} {frag : List Op}
    (hcode : ValueCode t tiles used e frag) (hframe : Frame l tiles used held)
    (hcells : KeepsCells t l frag) :
    Implements code l least (Represents t l tiles held) (l.valueOf e) frag
      fun v w d => Represents t l tiles held w d ∧ d.hand = some v := by
  induction hcode generalizing held with
  | @var used v x hx =>
      refine ((implements_copyFrom hfits hframe hx).map (f := Prod.snd)
        fun r w d h => ⟨h.1, h.2.1⟩).of_eq ?_ rfl
      simp only [Layout.valueOf, bind_assoc, pure_bind, bind_pure]
  | @call used function line =>
      rw [Layout.valueOf]
      by_cases hinput : function = "input"
      · rw [if_pos hinput]
        exact implements_input
      · rw [if_neg hinput]
        exact Implements.illFormed fun w d h => h.toAgrees
  | callWith => exact Implements.illFormed fun w d h => h.toAgrees
  | assign _ hx ih =>
      rw [Layout.valueOf]
      exact (ih hframe (KeepsCells.append_iff.mp hcells).1).bind fun v =>
        implements_copyTo hfits hframe hx v
  | @pre used target direction line x hx =>
      rw [Layout.valueOf]
      exact (implements_bump hfits hframe hx direction).map (f := fun old => old + direction.delta)
        fun v w d h => h
  | @post used target direction line x kept hx hfresh =>
      have hkept := hcells.fresh hfresh .copyTo (by simp)
      refine ((implements_copyFrom hfits hframe hx).bind fun r =>
        (implements_hold hfits hframe hfresh hkept r.2
          (P := fun w => l.locate target w = .ok r.1 w ∧ load r.1 w = .ok r.2 w)).bind fun _ =>
        (implements_store_bump hfits (hframe.hold hfresh hkept r.2) hx direction r.1 r.2).bind
          fun _ => implements_resume hfits hkept r.2).of_eq ?_ rfl
      simp only [Layout.valueOf, Layout.bumped, bind_assoc, pure_bind, if_true]
  | @sumVar used op left v line frag x _ hx ih =>
      refine ((ih hframe (KeepsCells.append_iff.mp hcells).1).bind fun a =>
        implements_sum hfits hframe hx op a).of_eq ?_ rfl
      simp only [Layout.valueOf, Layout.sides, Expr.var?, bind_assoc, pure_bind]
  | @sum used op left right line kept rightFrag leftFrag hvar hfresh _ _ ihr ihl =>
      obtain ⟨hright, hrest⟩ := KeepsCells.append_iff.mp hcells
      have hkept := hrest.fresh hfresh .copyTo (by simp)
      have hleft : KeepsCells t l leftFrag := by
        rw [← List.singleton_append, KeepsCells.append_iff, KeepsCells.append_iff] at hrest
        exact hrest.2.1
      refine ((ihr (hframe.reserve hkept) hright).bind fun b =>
        ((implements_hold hfits hframe hfresh hkept b (P := fun _ => True)).mono
          (fun w d h => ⟨h.1, h.2, trivial⟩) (fun _ w d h => h.1)).bind fun _ =>
        (ihl (hframe.hold hfresh hkept b) hleft).bind fun a =>
        implements_sum_held hfits hkept op a b).of_eq ?_ rfl
      simp only [Layout.valueOf, Layout.sides, hvar, bind_assoc, pure_bind]

/-- The value in the hand is sent. -/
lemma implements_output (v : Int) :
    Implements code l least (fun w d => Represents t l tiles held w d ∧ d.hand = some v)
      (modify fun w => { w with sent := w.sent.push v }) [.instr .outbox]
      fun _ => Represents t l tiles held := by
  refine Implements.instr fun w d hpre => ?_
  obtain ⟨hrep, hhand⟩ := hpre
  refine ⟨_, by rw [Desk.perform, Desk.need_eq hhand], ?_⟩
  exact ⟨⟨hrep.inbox, congrArg (Array.push · v) hrep.sent, hrep.size, hrep.floor⟩, hrep.room,
    hrep.vars, hrep.scope, hrep.held⟩

/-- The instructions for an expression whose value nobody wants. -/
lemma effect_implements (hfits : Fits t l) {e : Expr} {frag : List Op}
    (hcode : EffectCode t tiles used e frag) (hframe : Frame l tiles used held)
    (hcells : KeepsCells t l frag) :
    Implements code l least (Represents t l tiles held) (l.perform e) frag
      fun _ => Represents t l tiles held := by
  have hagrees : ∀ w d, Represents t l tiles held w d → Agrees l w d := fun w d h => h.toAgrees
  cases hcode with
  | output harg =>
      rw [Layout.perform, if_pos rfl]
      exact (value_implements hfits harg hframe (KeepsCells.append_iff.mp hcells).1).bind
        implements_output
  | inputWith => exact Implements.illFormed hagrees
  | @nothingWith function _ _ hout =>
      rw [Layout.perform, if_neg hout]
      by_cases hdebug : function = "debug"
      · rw [if_pos hdebug]
        exact Implements.pure fun w d h => h
      · rw [if_neg hdebug]
        exact Implements.illFormed hagrees
  | input =>
      exact implements_input.map fun v w d h => h.1
  | nothing hin =>
      refine (Implements.illFormed hagrees).of_eq ?_ rfl
      simp only [Layout.perform, Layout.valueOf, if_neg hin]
      rfl
  | @bump target direction post line x hx =>
      refine ((implements_bump hfits hframe hx direction).map (f := fun _ => ())
        fun v w d h => h.1).of_eq ?_ rfl
      simp only [Layout.perform, Layout.valueOf, bind_assoc, pure_bind]
  | value h1 h2 h3 hvalue =>
      have hperform : l.perform e = (l.valueOf e >>= fun _ => pure ()) := by
        cases e with
        | callWith function arg line => exact absurd rfl (h3 function arg line)
        | _ => rfl
      rw [hperform]
      exact (value_implements hfits hvalue hframe hcells).map fun v w d h => h.1

/-! ## Conditions -/

/-- A jump goes to its label or to the next line. -/
lemma jump_leads {c : Config} {kind : JumpKind} {label : String} {later q : List Op} {b : Bool}
    (hup : upcoming c.rest = upcoming (jumpTo kind label :: later))
    (htakes : c.desk.takes kind label = .ok b) (hlabel : after label code = some q) :
    ∃ c', Leads code c c' ∧ c'.desk = c.desk ∧ c'.steps = c.steps + 1 ∧
      upcoming c'.rest = upcoming (if b then q else later) := by
  rw [jumpTo, upcoming_instr] at hup
  exact ⟨_, .single (Config.advance_jump hup htakes hlabel), rfl, rfl, rfl⟩

/-- The jumps on a comparison with zero go to the target if the value in the hand compares so, and
to the next line if not. -/
lemma jumpOps_leads (hnodup : (labelNames code).Nodup) {sign : Comparison} {target skip : String}
    {rest q : List Op} {c : Config} {v : Int} (hplace : jumpOps sign target skip ++ rest <:+ code)
    (hup : upcoming c.rest = upcoming (jumpOps sign target skip ++ rest))
    (hhand : c.desk.hand = some v) (htarget : after target code = some q) :
    ∃ c', Leads code c c' ∧ c'.desk = c.desk ∧
      upcoming c'.rest = upcoming (if sign.compare v 0 then q else rest) := by
  -- where the skipping label is, if there is one
  have hskip : ∀ front, jumpOps sign target skip = front ++ [.label skip] →
      after skip code = some rest := by
    intro front hfront
    rw [hfront, List.append_assoc] at hplace
    exact after_of_nodup hnodup ((List.suffix_append _ _).trans hplace)
  cases sign with
  | eq =>
      obtain ⟨c1, h1, hd1, -, hr1⟩ := jump_leads hup (Desk.takes_ifZero hhand _) htarget
      exact ⟨c1, h1, hd1, hr1⟩
  | lt =>
      obtain ⟨c1, h1, hd1, -, hr1⟩ := jump_leads hup (Desk.takes_ifNegative hhand _) htarget
      exact ⟨c1, h1, hd1, hr1⟩
  | le =>
      obtain ⟨c1, h1, hd1, -, hr1⟩ := jump_leads hup (Desk.takes_ifNegative hhand _) htarget
      by_cases hneg : v < 0
      · have hsign : Comparison.compare .le v 0 = true := decide_eq_true (by omega)
        rw [decide_eq_true hneg] at hr1
        exact ⟨c1, h1, hd1, by rw [hsign]; exact hr1⟩
      · have hsign : Comparison.compare .le v 0 = decide (v = 0) :=
          decide_eq_decide.mpr (by omega)
        rw [decide_eq_false hneg] at hr1
        obtain ⟨c2, h2, hd2, -, hr2⟩ := jump_leads hr1 (Desk.takes_ifZero (hd1 ▸ hhand) _) htarget
        exact ⟨c2, h1.trans h2, hd2.trans hd1, by rw [hsign]; exact hr2⟩
  | ne =>
      obtain ⟨c1, h1, hd1, -, hr1⟩ := jump_leads hup (Desk.takes_ifZero hhand _) (hskip [_, _] rfl)
      by_cases hzero : v = 0
      · have hsign : Comparison.compare .ne v 0 = false := decide_eq_false (not_not.mpr hzero)
        rw [decide_eq_true hzero] at hr1
        exact ⟨c1, h1, hd1, by rw [hsign]; exact hr1⟩
      · have hsign : Comparison.compare .ne v 0 = true := decide_eq_true hzero
        rw [decide_eq_false hzero] at hr1
        obtain ⟨c2, h2, hd2, -, hr2⟩ := jump_leads hr1 rfl htarget
        exact ⟨c2, h1.trans h2, hd2.trans hd1, by rw [hsign]; exact hr2⟩
  | ge =>
      obtain ⟨c1, h1, hd1, -, hr1⟩ := jump_leads hup (Desk.takes_ifNegative hhand _) (hskip [_, _] rfl)
      by_cases hneg : v < 0
      · have hsign : Comparison.compare .ge v 0 = false := decide_eq_false (by omega)
        rw [decide_eq_true hneg] at hr1
        exact ⟨c1, h1, hd1, by rw [hsign]; exact hr1⟩
      · have hsign : Comparison.compare .ge v 0 = true := decide_eq_true (by omega)
        rw [decide_eq_false hneg] at hr1
        obtain ⟨c2, h2, hd2, -, hr2⟩ := jump_leads hr1 rfl htarget
        exact ⟨c2, h1.trans h2, hd2.trans hd1, by rw [hsign]; exact hr2⟩
  | gt =>
      have hlabel := hskip [_, _, _] rfl
      obtain ⟨c1, h1, hd1, -, hr1⟩ := jump_leads hup (Desk.takes_ifZero hhand _) hlabel
      by_cases hzero : v = 0
      · have hsign : Comparison.compare .gt v 0 = false := decide_eq_false (by omega)
        rw [decide_eq_true hzero] at hr1
        exact ⟨c1, h1, hd1, by rw [hsign]; exact hr1⟩
      · rw [decide_eq_false hzero] at hr1
        obtain ⟨c2, h2, hd2, -, hr2⟩ := jump_leads hr1 (Desk.takes_ifNegative (hd1 ▸ hhand) _) hlabel
        by_cases hneg : v < 0
        · have hsign : Comparison.compare .gt v 0 = false := decide_eq_false (by omega)
          rw [decide_eq_true hneg] at hr2
          exact ⟨c2, h1.trans h2, hd2.trans hd1, by rw [hsign]; exact hr2⟩
        · have hsign : Comparison.compare .gt v 0 = true := decide_eq_true (by omega)
          rw [decide_eq_false hneg] at hr2
          obtain ⟨c3, h3, hd3, -, hr3⟩ := jump_leads hr2 rfl htarget
          exact ⟨c3, (h1.trans h2).trans h3, hd3.trans (hd2.trans hd1), by rw [hsign]; exact hr3⟩

lemma compare_negate (op : Comparison) (a b : Int) : op.negate.compare a b = !op.compare a b := by
  cases op <;> simp only [Comparison.negate, Comparison.compare, ← decide_not, decide_eq_decide] <;>
    omega

lemma compare_swap (op : Comparison) (a b : Int) : op.swap.compare b a = op.compare a b := by
  cases op <;> simp [Comparison.swap, Comparison.compare, eq_comm]

lemma compare_sub (op : Comparison) (a b : Int) : op.compare (a - b) 0 = op.compare a b := by
  cases op <;> simp only [Comparison.compare, decide_eq_decide] <;> omega

/-- The instructions for a comparison leave something in the hand that compares with zero as the
sides do with each other. -/
lemma difference_implements (hfits : Fits t l) {op sign : Comparison} {left right : Expr}
    {frag : List Op} (hcode : DifferenceCode t tiles used op left right sign frag)
    (hleft : left.comparable t.symbols = true) (hright : right.comparable t.symbols = true)
    (hframe : Frame l tiles used held) (hcells : KeepsCells t l frag) :
    Implements code l least (Represents t l tiles held)
      (l.sides (l.valueOf left) (l.valueOf right) right.var?) frag
      fun p w d => Represents t l tiles held w d ∧
        ∃ v, d.hand = some v ∧ sign.compare v 0 = op.compare p.1 p.2 := by
  cases hcode with
  | @right left n line frag hvalue =>
      have hzero : n = 0 := by simpa [Expr.comparable] using hright
      refine ((value_implements hfits hvalue hframe hcells).map (f := fun a => (a, (n : Int)))
        fun a w d h => ⟨h.1, a, h.2, ?_⟩).of_eq ?_ rfl
      · simp only [Expr.var?, Layout.sides, Layout.valueOf, pure_bind]
      · rw [hzero]
        rfl
  | @left right n line frag hvalue =>
      have hzero : n = 0 := by simpa [Expr.comparable] using hleft
      refine ((value_implements hfits hvalue hframe hcells).map (f := fun b => ((n : Int), b))
        fun b w d h => ⟨h.1, b, h.2, ?_⟩).of_eq ?_ rfl
      · cases right <;> simp only [Expr.var?, Layout.sides, Layout.valueOf, pure_bind, bind_assoc]
      · rw [hzero]
        exact compare_swap op 0 b
  | @both left right line frag hvalue =>
      refine (Implements.unmap (f := fun p => p.1 - p.2)
        (Q := fun v w d => Represents t l tiles held w d ∧ d.hand = some v)
        ((value_implements hfits hvalue hframe hcells).of_eq ?_ rfl)).mono
        (fun w d h => h) fun p w d h => ⟨h.1, _, h.2, compare_sub op p.1 p.2⟩
      simp only [Layout.valueOf, SumOp.apply]

/-- What conditions come to. -/
def CondPart.meaning (l : Layout) (wanted : Bool) : CondPart → Eval Bool
  | .one e => l.holds e
  | .any others => l.holdAll (if wanted then .or else .and) others
  | .all _ others => l.holdAll (if wanted then .and else .or) others

/-- The conditions are proper. -/
def CondPart.proper (symbols : Symbols) : CondPart → Bool
  | .one e => e.condition symbols
  | .any others | .all _ others => others.conditions symbols

/-- The label that is jumped to at the first condition that fails stands behind them. -/
def CondPart.SkipsTo (code rest : List Op) : CondPart → Prop
  | .all skip _ => ∃ q, after skip code = some q ∧ upcoming q = upcoming rest
  | _ => True

/-- Whoever is at `start` decides a condition by going to one of two places. -/
abbrev Decides (code : List Op) (l : Layout) (least : Nat) (inv : World → Desk → Prop)
    (x : Eval Bool) (start : Point) (exit : Bool → Point) : Prop :=
  Reaches code l least inv x start exit fun _ => inv

lemma Decides.of_exit_eq {inv : World → Desk → Prop} {x : Eval Bool} {start : Point}
    {exit exit' : Bool → Point} (h : Decides code l least inv x start exit)
    (hexit : ∀ b, exit b = exit' b) : Decides code l least inv x start exit' :=
  h.mono (fun _ _ h => h) hexit fun _ _ _ h => h

/-- **Conditions that are joined.**  The first one decides, or leads to the others. -/
lemma Decides.join {inv : World → Desk → Prop} {x y : Eval Bool} {start mid : Point}
    {exit exit' : Bool → Point} {b : Bool} (hx : Decides code l least inv x start exit)
    (hy : Decides code l least inv y mid exit') (hearly : exit b = exit' b)
    (hlate : exit (!b) = mid) :
    Decides code l least inv (do
      let r ← x
      if r = b then return r else y) start exit' := by
  refine Reaches.bind hx fun r => ?_
  by_cases hr : r = b
  · rw [if_pos hr, hr]
    exact Reaches.pure hearly fun w d h => h
  · rw [if_neg hr, Bool.eq_not_of_ne hr, hlate]
    exact hy

/-- A comparison. -/
lemma compare_decides (hfits : Fits t l) (hnodup : (labelNames code).Nodup)
    {op sign : Comparison} {left right : Expr} (line : Nat) {frag rest q : List Op}
    {target skip : String} {wanted : Bool}
    (hcode : DifferenceCode t tiles used (if wanted then op else op.negate) left right sign frag)
    (hproper : (Expr.compare op left right line).condition t.symbols = true)
    (hframe : Frame l tiles used held) (hcells : KeepsCells t l frag)
    (hplace : frag ++ (jumpOps sign target skip ++ rest) <:+ code)
    (htarget : after target code = some q) :
    Decides code l least (Represents t l tiles held) (l.holds (.compare op left right line))
      (upcoming (frag ++ (jumpOps sign target skip ++ rest)))
      fun b => upcoming (if b = wanted then q else rest) := by
  rw [Expr.condition, Bool.and_eq_true] at hproper
  have hdifference : Implements code l least (Represents t l tiles held)
      (l.holds (.compare op left right line)) frag
      fun b w d => Represents t l tiles held w d ∧
        ∃ v, d.hand = some v ∧ sign.compare v 0 = decide (b = wanted) := by
    refine (difference_implements hfits hcode hproper.1 hproper.2 hframe hcells).map
      (f := fun p => op.compare p.1 p.2) ?_
    rintro ⟨a, b⟩ w d ⟨hrep, v, hhand, hsign⟩
    refine ⟨hrep, v, hhand, hsign.trans ?_⟩
    cases wanted with
    | true => simp
    | false =>
        rw [if_neg Bool.false_ne_true, compare_negate]
        simp
  intro w c hup hrep
  obtain ⟨c1, hleads, h1⟩ := hdifference _ hplace w c hup hrep
  cases hrun : l.holds (.compare op left right line) w with
  | error s w' =>
      rw [hrun] at h1
      exact ⟨c1, hleads, h1⟩
  | ok b w' =>
      rw [hrun] at h1
      obtain ⟨hup1, hrep1, v, hhand, hsign⟩ := h1
      obtain ⟨c2, hleads', hdesk, hup2⟩ := jumpOps_leads hnodup
        ((List.suffix_append _ _).trans hplace) hup1 hhand htarget
      refine ⟨c2, hleads.trans hleads', ?_, hdesk ▸ hrep1⟩
      rw [hup2, hsign]
      simp

lemma holds_logical {op : Connective} {b : Bool} (hop : (op == .or) = b) (first : Expr)
    (others : Operands) (line : Nat) :
    l.holds (.logical op first others line) = (do
      let r ← l.holds first
      if r = b then return r else l.holdAll op others) := by
  rw [Layout.holds, hop]

lemma holdAll_more {op : Connective} {b : Bool} (hop : (op == .or) = b) (e : Expr)
    (others : Operands) :
    l.holdAll op (.more e others) = (do
      let r ← l.holds e
      if r = b then return r else l.holdAll op others) := by
  rw [Layout.holdAll, hop]

/-- **Conditions.**  The instructions for a condition go to the target if it comes out as wanted, and
to what is behind them if not. -/
lemma cond_decides (hfits : Fits t l) (hnodup : (labelNames code).Nodup) {part : CondPart}
    {target : String} {wanted : Bool} {n m : Nat} {frag : List Op}
    (hcode : CondCode t tiles used part target wanted n frag m)
    (hproper : part.proper t.symbols = true) (hframe : Frame l tiles used held)
    (hcells : KeepsCells t l frag) {rest q : List Op} (hplace : frag ++ rest <:+ code)
    (htarget : after target code = some q) (hskip : part.SkipsTo code rest) :
    Decides code l least (Represents t l tiles held) (part.meaning l wanted)
      (upcoming (frag ++ rest)) fun b => upcoming (if b = wanted then q else rest) := by
  induction hcode generalizing rest q with
  | @jump b line target n =>
      intro w c hup hrep
      obtain ⟨c', hleads, hdesk, -, hup'⟩ := jump_leads hup rfl htarget
      exact ⟨c', hleads, by simpa using hup', hdesk ▸ hrep⟩
  | @fall b line target wanted n hb =>
      intro w c hup hrep
      refine ⟨c, .refl, ?_, hrep⟩
      dsimp only
      rw [if_neg hb]
      exact hup
  | @compare op left right line target wanted n sign frag hdifference =>
      rw [List.append_assoc] at hplace ⊢
      exact compare_decides hfits hnodup line hdifference hproper hframe
        (KeepsCells.append_iff.mp hcells).1 hplace htarget
  | @anyOf op first others line target wanted n m k frag frag' hop _ _ ihf iho =>
      obtain rfl : op = if wanted then .or else .and := by
        cases op <;> cases wanted <;> first | rfl | cases hop
      rw [CondPart.proper, Expr.condition, Bool.and_eq_true] at hproper
      rw [KeepsCells.append_iff] at hcells
      rw [List.append_assoc] at hplace ⊢
      have hfirst := ihf hproper.1 hcells.1 hplace htarget trivial
      have hothers := iho hproper.2 hcells.2 ((List.suffix_append _ _).trans hplace) htarget trivial
      rw [CondPart.meaning, holds_logical hop]
      exact hfirst.join hothers (by simp) (by simp)
  | @allOf op first others line target wanted n m k frag frag' hop _ _ ihf iho =>
      obtain rfl : op = if wanted then .and else .or := by
        cases op <;> cases wanted <;> first | rfl | exact absurd rfl hop
      rw [CondPart.proper, Expr.condition, Bool.and_eq_true] at hproper
      simp only [KeepsCells.append_iff] at hcells
      simp only [List.append_assoc] at hplace ⊢
      have hbehind := (List.suffix_append _ _).trans hplace
      have hlabel := after_of_nodup hnodup ((List.suffix_append _ _).trans hbehind)
      have hfirst := ihf hproper.1 hcells.1 hplace hlabel trivial
      have hothers := iho hproper.2 hcells.2.1 hbehind htarget ⟨_, hlabel, rfl⟩
      rw [CondPart.meaning, holds_logical (Bool.eq_not_of_ne hop)]
      refine hfirst.join (hothers.of_exit_eq fun b => ?_) ?_ ?_
      · split <;> rfl
      · simp
      · simp
  | anyLast _ ih => exact ih hproper hcells hplace htarget trivial
  | @anyMore e others target wanted n frag m frag' k _ _ ihe iho =>
      rw [CondPart.proper, Operands.conditions, Bool.and_eq_true] at hproper
      rw [KeepsCells.append_iff] at hcells
      rw [List.append_assoc] at hplace ⊢
      have hfirst := ihe hproper.1 hcells.1 hplace htarget trivial
      have hothers := iho hproper.2 hcells.2 ((List.suffix_append _ _).trans hplace) htarget trivial
      rw [CondPart.meaning, holdAll_more (b := wanted) (by cases wanted <;> rfl)]
      exact hfirst.join hothers (by simp) (by simp)
  | allLast _ ih => exact ih hproper hcells hplace htarget trivial
  | @allMore e others skip target wanted n frag m frag' k _ _ ihe iho =>
      obtain ⟨q', hlabel, hup'⟩ := hskip
      rw [CondPart.proper, Operands.conditions, Bool.and_eq_true] at hproper
      rw [KeepsCells.append_iff] at hcells
      rw [List.append_assoc] at hplace ⊢
      have hbehind := (List.suffix_append _ _).trans hplace
      have hfirst := ihe hproper.1 hcells.1 hplace hlabel trivial
      have hothers := iho hproper.2 hcells.2 hbehind htarget ⟨q', hlabel, hup'⟩
      rw [CondPart.meaning, holdAll_more (b := !wanted) (by cases wanted <;> rfl)]
      refine hfirst.join hothers ?_ ?_
      · simpa using hup'
      · simp

end Mailroom.Source
