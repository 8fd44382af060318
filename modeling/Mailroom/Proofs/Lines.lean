import Mailroom.Proofs.Meaning
import Mailroom.Proofs.Stocks

/-!
# The lines of a compiled listing

Whatever the program, its listing is made of lines that can be read again.  Jumps lead to labels of
the listing, and operands name tiles of the floor.  An operand is followed to another tile only
where the program follows a pointer.

- `JumpsTo`: lines that lead to given labels.
- `Grounded`: lines that name tiles of the floor.
- `lower_spelled`, `lower_legible`: listings that can be read.
-/

namespace Mailroom.Source

open Text

/-! ## Jumps -/

/-- A line that is not empty; if it is a jump, it leads to one of some labels. -/
def JumpsTo (names : List String) : Op → Prop
  | .blank => False
  | .instr (.jump _ name) => name ∈ names
  | _ => True

lemma JumpsTo.mono {names names' : List String} (hnames : names ⊆ names') {op : Op}
    (h : JumpsTo names op) : JumpsTo names' op := by
  match op, h with
  | .instr (.jump _ _), h => exact hnames h
  | .instr .inbox, _ => trivial
  | .instr .outbox, _ => trivial
  | .instr (.tile _ _), _ => trivial
  | .label _, _ => trivial

/-- The labels that conditions may jump to besides their target. -/
def CondPart.skips : CondPart → List String
  | .all skip _ => [skip]
  | _ => []

section Jumps

variable {t : Target} {tiles : Assoc String Nat} {used : List Nat} {frag : List Op}

lemma value_jumps {e : Expr} (hcode : ValueCode t tiles used e frag) (names : List String) :
    ∀ op ∈ frag, JumpsTo names op := by
  induction hcode with
  | assign _ _ ih => exact List.forall_mem_append.mpr ⟨ih, by simp [onTile, JumpsTo]⟩
  | sumVar _ _ ih => exact List.forall_mem_append.mpr ⟨ih, by simp [onTile, JumpsTo]⟩
  | sum _ _ _ _ ihr ihl =>
      refine List.forall_mem_append.mpr ⟨ihr, List.forall_mem_cons.mpr ⟨trivial, ?_⟩⟩
      exact List.forall_mem_append.mpr ⟨ihl, by simp [onCell, onTile, JumpsTo]⟩
  | _ => simp [onCell, onTile, JumpsTo]

lemma effect_jumps {e : Expr} (hcode : EffectCode t tiles used e frag) (names : List String) :
    ∀ op ∈ frag, JumpsTo names op := by
  cases hcode with
  | output hvalue =>
      exact List.forall_mem_append.mpr ⟨value_jumps hvalue names, by simp [JumpsTo]⟩
  | value _ _ _ hvalue => exact value_jumps hvalue names
  | _ => simp [onTile, JumpsTo]

lemma difference_jumps {op sign : Comparison} {left right : Expr}
    (hcode : DifferenceCode t tiles used op left right sign frag) (names : List String) :
    ∀ op ∈ frag, JumpsTo names op := by
  cases hcode with
  | right hvalue => exact value_jumps hvalue names
  | left hvalue => exact value_jumps hvalue names
  | both hvalue => exact value_jumps hvalue names

/-- Conditions jump to their target and to labels of their own. -/
lemma cond_jumps {part : CondPart} {target : String} {wanted : Bool} {n m : Nat}
    (hcode : CondCode t tiles used part target wanted n frag m) :
    ∀ op ∈ frag, JumpsTo (target :: (part.skips ++ labelNames frag)) op := by
  induction hcode with
  | jump => simp [jumpTo, JumpsTo]
  | fall => simp
  | @compare op left right line target wanted n sign code hdifference =>
      refine List.forall_mem_append.mpr ⟨difference_jumps hdifference _, ?_⟩
      rw [labelNames_append]
      cases sign <;> simp [jumpOps, jumpTo, JumpsTo, labelNames]
  | anyOf _ _ _ ihf iho =>
      rw [List.forall_mem_append]
      refine ⟨fun op hop => (ihf op hop).mono ?_, fun op hop => (iho op hop).mono ?_⟩ <;>
        grind [CondPart.skips, labelNames_append]
  | allOf _ _ _ ihf iho =>
      simp only [List.forall_mem_append, List.forall_mem_singleton]
      refine ⟨fun op hop => (ihf op hop).mono ?_, fun op hop => (iho op hop).mono ?_, trivial⟩ <;>
        grind [CondPart.skips, labelNames_append, labelNames]
  | anyLast _ ih => exact ih
  | anyMore _ _ ihf iho =>
      rw [List.forall_mem_append]
      refine ⟨fun op hop => (ihf op hop).mono ?_, fun op hop => (iho op hop).mono ?_⟩ <;>
        grind [CondPart.skips, labelNames_append]
  | allLast _ ih =>
      refine fun op hop => (ih op hop).mono ?_
      grind [CondPart.skips]
  | allMore _ _ ihf iho =>
      rw [List.forall_mem_append]
      refine ⟨fun op hop => (ihf op hop).mono ?_, fun op hop => (iho op hop).mono ?_⟩ <;>
        grind [CondPart.skips, labelNames_append]

/-- **Jumps.**  Statements jump to labels of their own. -/
lemma stmt_jumps {part : Part} {k k' : Stock} (hcode : StmtCode t part k frag k') :
    ∀ op ∈ frag, JumpsTo (labelNames frag) op := by
  induction hcode with
  | constant => simp
  | declare => simp
  | define _ _ _ hvalue =>
      exact List.forall_mem_append.mpr ⟨value_jumps hvalue _, by simp [onCell, onTile, JumpsTo]⟩
  | expr heffect => exact effect_jumps heffect _
  | ifTrue _ ih => exact ih
  | ifFalse => simp
  | ifThen _ hcond _ ih =>
      simp only [List.forall_mem_append, List.forall_mem_singleton]
      refine ⟨fun op hop => (cond_jumps hcond op hop).mono ?_, fun op hop => (ih op hop).mono ?_,
        trivial⟩ <;> grind [CondPart.skips, labelNames_append, labelNames]
  | elseTrue _ ih => exact ih
  | elseFalse _ ih => exact ih
  | ifElse _ hcond _ _ ihb iho =>
      simp only [List.forall_mem_append, List.forall_mem_cons]
      refine ⟨fun op hop => (cond_jumps hcond op hop).mono ?_, fun op hop => (ihb op hop).mono ?_, ?_,
        trivial, fun op hop => (iho op hop).mono ?_, trivial, by simp⟩
      · grind [CondPart.skips, labelNames_append, labelNames, jumpTo]
      · grind [labelNames_append, labelNames, jumpTo]
      · simp [jumpTo, JumpsTo, labelNames]
      · grind [labelNames_append, labelNames, jumpTo]
  | forever _ ih =>
      simp only [List.forall_mem_append, List.forall_mem_cons]
      refine ⟨trivial, fun op hop => (ih op hop).mono ?_, ?_, by simp⟩
      · grind [labelNames_append, labelNames, jumpTo]
      · simp [jumpTo, JumpsTo, labelNames]
  | never => simp
  | whileDo _ hcond _ ih =>
      simp only [List.forall_mem_append, List.forall_mem_cons]
      refine ⟨trivial, fun op hop => (cond_jumps hcond op hop).mono ?_,
        fun op hop => (ih op hop).mono ?_, ?_, trivial, by simp⟩
      · grind [CondPart.skips, labelNames_append, labelNames, jumpTo]
      · grind [labelNames_append, labelNames, jumpTo]
      · simp [jumpTo, JumpsTo, labelNames]
  | block _ ih => exact ih
  | done => simp
  | next _ _ ihs ihr =>
      rw [List.forall_mem_append]
      refine ⟨fun op hop => (ihs op hop).mono ?_, fun op hop => (ihr op hop).mono ?_⟩ <;>
        grind [labelNames_append]

end Jumps

/-! ## Operands -/

mutual

/-- The variables that a statement mentions. -/
def Stmt.mentions : Stmt → List Var
  | .decl d => d.init.elim [] Expr.mentions
  | .expr e _ => e.mentions
  | .ifThen cond body _ | .whileDo cond body _ => cond.mentions ++ body.mentions
  | .ifElse cond body other _ => cond.mentions ++ (body.mentions ++ other.mentions)
  | .block body _ => mentionsAll body

/-- The variables that statements mention. -/
def mentionsAll : List Stmt → List Var
  | [] => []
  | s :: rest => s.mentions ++ mentionsAll rest

end

/-- A pointer that is no constant is followed. -/
def Var.follows (symbols : Symbols) (v : Var) : Bool :=
  v.deref && (symbols.get? v.name).any (·.address.isNone)

/-- A line with an operand on the floor; the operand is followed only if one of the variables is. -/
def Grounded (t : Target) (vars : List Var) : Op → Prop
  | .instr (.tile _ x) =>
    (x.address : Int) < t.size ∧ (x.indirect = true → ∃ v ∈ vars, v.follows t.symbols = true)
  | _ => True

/-- The variables that conditions mention. -/
def CondPart.mentions : CondPart → List Var
  | .one e => e.mentions
  | .any others | .all _ others => others.mentions

/-- The variables that statements mention. -/
def Part.mentions : Part → List Var
  | .one s => s.mentions
  | .many body => mentionsAll body

section Operands

variable {t : Target} {tiles : Assoc String Nat} {used : List Nat} {frag : List Op}
  {vars vars' : List Var}

lemma Grounded.mono (hvars : vars ⊆ vars') {op : Op} (h : Grounded t vars op) :
    Grounded t vars' op := by
  match op, h with
  | .instr (.tile _ _), h =>
      exact ⟨h.1, fun hx => (h.2 hx).imp fun v hv => ⟨hvars hv.1, hv.2⟩⟩
  | .instr .inbox, _ => trivial
  | .instr .outbox, _ => trivial
  | .instr (.jump _ _), _ => trivial
  | .label _, _ => trivial
  | .blank, _ => trivial

lemma grounded_operand (hfixed : t.symbols.Fixed t.size)
    (htiles : ∀ x a, tiles.get? x = some a → (a : Int) < t.size) {v : Var} {x : Tile}
    (hx : operand? t tiles v = some x) (hv : v ∈ vars) (op : TileOp) :
    Grounded t vars (onTile op x) := by
  rw [operand?] at hx
  cases hsym : t.symbols.get? v.name with
  | none =>
      rw [hsym] at hx
      cases hx
  | some sym =>
      rw [hsym] at hx
      dsimp only at hx
      cases haddress : sym.address with
      | some a =>
          rw [haddress] at hx
          cases hx
          exact ⟨(hfixed _ sym hsym).2 a haddress, by simp⟩
      | none =>
          rw [haddress] at hx
          obtain ⟨a, ha, rfl⟩ := Option.map_eq_some_iff.mp hx
          refine ⟨htiles _ a ha, fun hderef => ⟨v, hv, ?_⟩⟩
          rw [Var.follows, hsym]
          simp only at hderef
          simp [hderef, haddress]

lemma grounded_cell {k : Nat} (hfresh : t.fresh? used = some k) (op : TileOp) :
    Grounded t vars (onCell op k) :=
  ⟨(fresh?_spec hfresh).2.2, fun h => nomatch h⟩

lemma value_grounded (hfixed : t.symbols.Fixed t.size)
    (htiles : ∀ x a, tiles.get? x = some a → (a : Int) < t.size) {e : Expr}
    (hcode : ValueCode t tiles used e frag) : ∀ op ∈ frag, Grounded t e.mentions op := by
  induction hcode with
  | var hx =>
      simp only [List.forall_mem_singleton]
      exact grounded_operand hfixed htiles hx (by simp [Expr.mentions]) _
  | call => simp [Grounded]
  | callWith => simp [Grounded]
  | assign _ hx ih =>
      simp only [List.forall_mem_append, List.forall_mem_singleton]
      refine ⟨fun op hop => (ih op hop).mono (by simp [Expr.mentions]), ?_⟩
      exact grounded_operand hfixed htiles hx (by simp [Expr.mentions]) _
  | pre hx =>
      simp only [List.forall_mem_singleton]
      exact grounded_operand hfixed htiles hx (by simp [Expr.mentions]) _
  | @post used target direction line x kept hx hfresh =>
      have htarget : ∀ op, Grounded t [target] (onTile op x) :=
        grounded_operand hfixed htiles hx List.mem_cons_self
      simp only [List.forall_mem_cons]
      exact ⟨htarget _, grounded_cell hfresh _, htarget _, grounded_cell hfresh _, by simp⟩
  | sumVar _ hx ih =>
      simp only [List.forall_mem_append, List.forall_mem_singleton]
      refine ⟨fun op hop => (ih op hop).mono (by simp [Expr.mentions]), ?_⟩
      exact grounded_operand hfixed htiles hx (by simp [Expr.mentions]) _
  | sum _ hfresh _ _ ihr ihl =>
      simp only [List.forall_mem_append, List.forall_mem_cons]
      exact ⟨fun op hop => (ihr op hop).mono (by simp [Expr.mentions]), grounded_cell hfresh _,
        fun op hop => (ihl op hop).mono (by simp [Expr.mentions]), grounded_cell hfresh _, by simp⟩

lemma effect_grounded (hfixed : t.symbols.Fixed t.size)
    (htiles : ∀ x a, tiles.get? x = some a → (a : Int) < t.size) {e : Expr}
    (hcode : EffectCode t tiles used e frag) : ∀ op ∈ frag, Grounded t e.mentions op := by
  cases hcode with
  | output hvalue =>
      rw [Expr.mentions]
      exact List.forall_mem_append.mpr ⟨value_grounded hfixed htiles hvalue, by simp [Grounded]⟩
  | bump hx =>
      simp only [List.forall_mem_singleton]
      exact grounded_operand hfixed htiles hx (by simp [Expr.mentions]) _
  | value _ _ _ hvalue => exact value_grounded hfixed htiles hvalue
  | _ => simp [Grounded]

lemma difference_grounded (hfixed : t.symbols.Fixed t.size)
    (htiles : ∀ x a, tiles.get? x = some a → (a : Int) < t.size) {op sign : Comparison}
    {left right : Expr} (hcode : DifferenceCode t tiles used op left right sign frag) :
    ∀ op ∈ frag, Grounded t (left.mentions ++ right.mentions) op := by
  cases hcode with
  | right hvalue =>
      exact fun op hop => (value_grounded hfixed htiles hvalue op hop).mono (by simp)
  | left hvalue =>
      exact fun op hop => (value_grounded hfixed htiles hvalue op hop).mono (by simp)
  | both hvalue => exact value_grounded hfixed htiles hvalue

lemma cond_grounded (hfixed : t.symbols.Fixed t.size)
    (htiles : ∀ x a, tiles.get? x = some a → (a : Int) < t.size) {part : CondPart}
    {target : String} {wanted : Bool} {n m : Nat}
    (hcode : CondCode t tiles used part target wanted n frag m) :
    ∀ op ∈ frag, Grounded t part.mentions op := by
  induction hcode with
  | jump => simp [jumpTo, Grounded]
  | fall => simp
  | @compare op left right line target wanted n sign code hdifference =>
      refine List.forall_mem_append.mpr ⟨difference_grounded hfixed htiles hdifference, ?_⟩
      cases sign <;> simp [jumpOps, jumpTo, Grounded]
  | anyOf _ _ _ ihf iho =>
      rw [List.forall_mem_append]
      refine ⟨fun op hop => (ihf op hop).mono ?_, fun op hop => (iho op hop).mono ?_⟩ <;>
        simp [CondPart.mentions, Expr.mentions]
  | allOf _ _ _ ihf iho =>
      simp only [List.forall_mem_append, List.forall_mem_singleton]
      refine ⟨fun op hop => (ihf op hop).mono ?_, fun op hop => (iho op hop).mono ?_, trivial⟩ <;>
        simp [CondPart.mentions, Expr.mentions]
  | anyLast _ ih => exact ih
  | anyMore _ _ ihf iho =>
      rw [List.forall_mem_append]
      refine ⟨fun op hop => (ihf op hop).mono ?_, fun op hop => (iho op hop).mono ?_⟩ <;>
        simp [CondPart.mentions, Operands.mentions]
  | allLast _ ih => exact ih
  | allMore _ _ ihf iho =>
      rw [List.forall_mem_append]
      refine ⟨fun op hop => (ihf op hop).mono ?_, fun op hop => (iho op hop).mono ?_⟩ <;>
        simp [CondPart.mentions, Operands.mentions]

lemma place_below {k : Stock} (htiles : ∀ x a, k.tiles.get? x = some a → (a : Int) < t.size)
    {address : Nat} (hfresh : t.fresh? k.used = some address) (name : String) :
    ∀ x a, (k.place name address).tiles.get? x = some a → (a : Int) < t.size := by
  intro x a hx
  rw [Stock.place, Assoc.get?_put] at hx
  split at hx
  · cases hx
    exact (fresh?_spec hfresh).2.2
  · exact htiles x a hx

/-- **Operands.**  The operands of statements are on the floor. -/
lemma stmt_grounded (hfixed : t.symbols.Fixed t.size) {part : Part} {k k' : Stock}
    (hcode : StmtCode t part k frag k')
    (htiles : ∀ x a, k.tiles.get? x = some a → (a : Int) < t.size) :
    (∀ op ∈ frag, Grounded t part.mentions op) ∧
      ∀ x a, k'.tiles.get? x = some a → (a : Int) < t.size := by
  induction hcode with
  | constant => exact ⟨by simp, htiles⟩
  | declare _ _ hfresh => exact ⟨by simp, place_below htiles hfresh _⟩
  | @define d k address e frag _ hinit hfresh hvalue =>
      have hplaced := place_below htiles hfresh d.name
      refine ⟨?_, hplaced⟩
      simp only [List.forall_mem_append, List.forall_mem_singleton, Part.mentions, Stmt.mentions,
        hinit, Option.elim_some]
      exact ⟨value_grounded hfixed hplaced hvalue, grounded_cell hfresh _⟩
  | expr heffect => exact ⟨effect_grounded hfixed htiles heffect, htiles⟩
  | ifTrue _ ih =>
      obtain ⟨hlines, htiles'⟩ := ih htiles
      exact ⟨fun op hop => (hlines op hop).mono (by simp [Part.mentions, Stmt.mentions]), htiles'⟩
  | ifFalse => exact ⟨by simp, htiles⟩
  | ifThen _ hcond _ ih =>
      obtain ⟨hlines, htiles'⟩ := ih htiles
      have hconds := cond_grounded hfixed htiles hcond
      refine ⟨?_, htiles'⟩
      simp only [List.forall_mem_append, List.forall_mem_singleton]
      refine ⟨fun op hop => (hconds op hop).mono ?_, fun op hop => (hlines op hop).mono ?_,
        trivial⟩ <;> simp [Part.mentions, Stmt.mentions, CondPart.mentions]
  | elseTrue _ ih =>
      obtain ⟨hlines, htiles'⟩ := ih htiles
      exact ⟨fun op hop => (hlines op hop).mono (by grind [Part.mentions, Stmt.mentions]), htiles'⟩
  | elseFalse _ ih =>
      obtain ⟨hlines, htiles'⟩ := ih htiles
      exact ⟨fun op hop => (hlines op hop).mono (by grind [Part.mentions, Stmt.mentions]), htiles'⟩
  | ifElse _ hcond _ _ ihb iho =>
      obtain ⟨hlines1, htiles1⟩ := ihb htiles
      obtain ⟨hlines2, htiles2⟩ := iho htiles1
      have hconds := cond_grounded hfixed htiles hcond
      refine ⟨?_, htiles2⟩
      simp only [List.forall_mem_append, List.forall_mem_cons]
      refine ⟨fun op hop => (hconds op hop).mono ?_, fun op hop => (hlines1 op hop).mono ?_, trivial,
        trivial, fun op hop => (hlines2 op hop).mono ?_, trivial, by simp⟩ <;>
        grind [Part.mentions, Stmt.mentions, CondPart.mentions]
  | forever _ ih =>
      obtain ⟨hlines, htiles'⟩ := ih htiles
      refine ⟨?_, htiles'⟩
      simp only [List.forall_mem_append, List.forall_mem_cons]
      exact ⟨trivial, fun op hop => (hlines op hop).mono (by simp [Part.mentions, Stmt.mentions]),
        trivial, by simp⟩
  | never => exact ⟨by simp, htiles⟩
  | whileDo _ hcond _ ih =>
      obtain ⟨hlines, htiles'⟩ := ih htiles
      have hconds := cond_grounded hfixed htiles hcond
      refine ⟨?_, htiles'⟩
      simp only [List.forall_mem_append, List.forall_mem_cons]
      refine ⟨trivial, fun op hop => (hconds op hop).mono ?_, fun op hop => (hlines op hop).mono ?_,
        trivial, trivial, by simp⟩ <;> simp [Part.mentions, Stmt.mentions, CondPart.mentions]
  | block _ ih => exact ih htiles
  | done => exact ⟨by simp, htiles⟩
  | next _ _ ihs ihr =>
      obtain ⟨hlines1, htiles1⟩ := ihs htiles
      obtain ⟨hlines2, htiles2⟩ := ihr htiles1
      refine ⟨?_, htiles2⟩
      rw [List.forall_mem_append]
      refine ⟨fun op hop => (hlines1 op hop).mono ?_, fun op hop => (hlines2 op hop).mono ?_⟩ <;>
        simp [Part.mentions, mentionsAll]

end Operands

/-! ## Listings -/

/-- What labels are made of. -/
lemma labelAt_plain {stem : String} (hstem : stem ∈ stems) (n : Nat) :
    (labelAt stem n).toList.all isPlain = true := by
  have hletters : ∀ stem ∈ stems, stem.toList.all isPlain = true := by decide
  rw [labelAt, String.toList_append, Numeral.natText, String.toList_ofList, List.all_append,
    hletters stem hstem, Bool.true_and, List.all_eq_true]
  intro c hc
  obtain ⟨h1, h2, h3, h4, h5, -⟩ := isDigit_plain (Numeral.isDigit_toDigits hc)
  simp [isPlain, h1, h2, h3, h4, h5]

lemma labelAt_nonblank {stem : String} (hstem : stem ∈ stems) (n : Nat) :
    ∀ c ∈ (labelAt stem n).toList, isBlank c = false := by
  intro c hc
  have hplain := List.all_eq_true.mp (labelAt_plain hstem n) c hc
  rw [isPlain, Bool.and_eq_true] at hplain
  simpa using hplain.1

lemma labelAt_name {stem : String} (hstem : stem ∈ stems) (n : Nat) :
    LabelName (labelAt stem n).toList := by
  refine labelName_of_plain ?_ (labelAt_plain hstem n)
  rw [labelAt, String.toList_append, Numeral.natText, String.toList_ofList]
  exact List.append_ne_nil_of_right_ne_nil _ Nat.toDigits_ne_nil

section Listings

variable {size : Int} {symbols : Symbols} {program : List Stmt} {final : Lowering}

/-- No label stands twice in the listing of a program. -/
lemma lower_nodup (h : lower size symbols program = (none, final)) :
    (labelNames final.ops).Nodup :=
  (stmt_labelled (lower_code h)).2.nodup

/-- The labels of a listing. -/
lemma lower_label (h : lower size symbols program = (none, final)) {name : String}
    (hname : name ∈ labelNames final.ops) : ∃ stem ∈ stems, ∃ n, name = labelAt stem n := by
  obtain ⟨stem, hstem, n, hn, -⟩ := (stmt_labelled (lower_code h)).2.range name hname
  exact ⟨stem, hstem, n, hn⟩

/-- The operands of a listing are on the floor. -/
lemma lower_grounded (haccepted : (check size program).diagnostics = [])
    (hlower : lower size (check size program).symbols program = (none, final)) :
    ∀ op ∈ final.ops, Grounded ⟨(check size program).symbols, size⟩ (mentionsAll program) op :=
  (stmt_grounded (check_proper haccepted).2.2 (lower_code hlower) fun _ _ h => nomatch h).1

lemma lower_operand (haccepted : (check size program).diagnostics = [])
    (hlower : lower size (check size program).symbols program = (none, final)) {a : Nat}
    (ha : a ∈ operandAddresses final.ops) : (a : Int) < size := by
  obtain ⟨op, hop, haddress⟩ := List.mem_filterMap.mp ha
  have hgrounded := lower_grounded haccepted hlower op hop
  match op, haddress, hgrounded with
  | .instr (.tile _ x), rfl, hgrounded => exact hgrounded.1

/-- Every line of a listing can be written. -/
lemma lower_spelled (h : lower size symbols program = (none, final)) :
    ∀ op ∈ final.ops, op.Spelled := by
  intro op hop
  have hjumps := stmt_jumps (lower_code h) op hop
  match op, hop, hjumps with
  | .label name, hop, _ =>
      obtain ⟨stem, hstem, n, rfl⟩ := lower_label h (mem_labelNames.mpr hop)
      exact labelAt_name hstem n
  | .instr (.jump kind name), _, hjumps =>
      obtain ⟨stem, hstem, n, rfl⟩ := lower_label h hjumps
      exact (labelAt_name hstem n).target
  | .instr .inbox, _, _ => trivial
  | .instr .outbox, _, _ => trivial
  | .instr (.tile _ _), _, _ => trivial

/-- Every line of a listing can be read, within the limit on digits. -/
lemma lower_legible (h : lower size symbols program = (none, final))
    (hdigits : ∀ a ∈ operandAddresses final.ops, Numeral.fits a = true) :
    ∀ op ∈ final.ops, op.legible = true := by
  intro op hop
  have hjumps := stmt_jumps (lower_code h) op hop
  match op, hop, hjumps with
  | .label name, _, _ => rfl
  | .instr (.jump kind name), _, hjumps =>
      obtain ⟨stem, hstem, n, rfl⟩ := lower_label h hjumps
      rw [Op.legible, List.all_eq_true]
      intro c hc
      rw [labelAt_nonblank hstem n c hc]
      rfl
  | .instr .inbox, _, _ => rfl
  | .instr .outbox, _, _ => rfl
  | .instr (.tile top x), hop, _ =>
      exact hdigits x.address (List.mem_filterMap.mpr ⟨_, hop, rfl⟩)

end Listings

end Mailroom.Source
