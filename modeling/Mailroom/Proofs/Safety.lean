import Mathlib
import Mailroom.Proofs.Lines
import Mailroom.Proofs.ShortenedRuns

/-!
# Compiled programs do not go wrong

A machine faults when an instruction finds the hand empty, when a jump has no label, when an operand
is off the floor, and when too many instructions are carried out without a value read.  In the
listing of a program the first two never happen, whatever values the program meets, and an operand
is off the floor only where the program follows a pointer that is no constant.

The hand is traced through a listing line by line.  Nothing is known behind a label, where runs from
different places meet; but no compiled instruction relies on the hand there.

- `steady`: listings in which nothing relies on a hand that may be empty.
- `lower_steady`: compiled listings are of this kind.
- `compile_safe`: which faults are left.
-/

namespace Mailroom

open Text Source

/-! ## The hand along a listing -/

/-- Whether there is surely something in the hand behind an instruction. -/
def Instr.fills (full : Bool) : Instr → Bool
  | .inbox | .tile _ _ => true
  | .outbox => false
  | .jump _ _ => full

/-- Instructions that need something in the hand come where it is surely there. -/
def steady : Bool → List Op → Bool
  | _, [] => true
  | _, .label _ :: rest => steady false rest
  | full, .blank :: rest => steady full rest
  | full, .instr i :: rest => (full || !i.needsHand) && steady (i.fills full) rest

section Hands

variable {full : Bool} {code rest later : List Op} {i : Instr}

lemma steady_mono (h : steady false code = true) (full : Bool) : steady full code = true := by
  cases full with
  | false => exact h
  | true =>
      induction code with
      | nil => rfl
      | cons op code ih =>
          match op, h with
          | .label _, h => exact h
          | .blank, h => exact ih h
          | .instr (.jump kind label), h =>
              rw [steady, Bool.and_eq_true] at h
              rw [steady, Bool.true_or, Bool.true_and]
              exact ih h.2
          | .instr .inbox, h => exact h
          | .instr .outbox, h => cases h
          | .instr (.tile op x), h =>
              rw [steady, Bool.and_eq_true] at h
              rw [steady, Bool.true_or, Bool.true_and]
              exact h.2

/-- An instruction that needs nothing in the hand may stand anywhere. -/
lemma steady_free (hneeds : i.needsHand = false) (hrest : steady (i.fills full) rest = true) :
    steady full (.instr i :: rest) = true := by
  rw [steady, hneeds, Bool.not_false, Bool.or_true, Bool.true_and]
  exact hrest

/-- What is left of a listing at some place. -/
lemma steady_suffix (h : steady full code = true) (hplace : rest <:+ code) :
    ∃ full', steady full' rest = true := by
  induction code generalizing full with
  | nil =>
      obtain rfl := List.suffix_nil.mp hplace
      exact ⟨full, h⟩
  | cons op code ih =>
      rcases List.suffix_cons_iff.mp hplace with rfl | hbehind
      · exact ⟨full, h⟩
      · match op, h with
        | .label _, h => exact ih h hbehind
        | .blank, h => exact ih h hbehind
        | .instr i, h =>
            rw [steady, Bool.and_eq_true] at h
            exact ih h.2 hbehind

/-- The next instruction, and what is left behind it. -/
lemma steady_upcoming (h : steady full rest = true) (hup : upcoming rest = some (i, later)) :
    ∃ full', (full' = true → full = true) ∧ (full' || !i.needsHand) = true ∧
      steady (i.fills full') later = true := by
  induction rest generalizing full with
  | nil => cases hup
  | cons op rest ih =>
      match op, h, hup with
      | .label _, h, hup =>
          obtain ⟨full', hle, hrest⟩ := ih h hup
          exact ⟨full', fun h => absurd (hle h) Bool.false_ne_true, hrest⟩
      | .blank, h, hup => exact ih h hup
      | .instr i, h, rfl =>
          rw [steady, Bool.and_eq_true] at h
          exact ⟨full, id, h⟩

/-- What an instruction leaves in the hand. -/
lemma Desk.perform_fills {d d' : Desk} {way : Option String} (h : d.perform i = .ok (d', way))
    (hhand : full = true → d.hand.isSome = true) : i.fills full = true → d'.hand.isSome = true := by
  cases i with
  | inbox =>
      simp only [perform] at h
      split at h <;> cases h
      exact fun _ => rfl
  | outbox => simp [Instr.fills]
  | tile op x => exact fun _ => (useTile_kept (perform_tile h)).2.2.2
  | jump kind label =>
      simp only [perform] at h
      split at h <;> cases h <;> exact hhand

/-- A place from where on nothing relies on an empty hand. -/
def Config.Steady (c : Config) : Prop :=
  ∃ full, steady full c.rest = true ∧ (full = true → c.desk.hand.isSome = true)

/-- **One step.**  A step leads to such a place again. -/
lemma Config.Steady.advance {c c' : Config} (hcode : steady false code = true) (h : c.Steady)
    (hadvance : c.advance code = .ok c') : c'.Steady := by
  obtain ⟨full, hrest, hhand⟩ := h
  obtain ⟨i, later, d, way, hup, hperform, ⟨-, rfl⟩ | ⟨label, rest, -, hafter, rfl⟩⟩ :=
    advance_cases hadvance
  · obtain ⟨full', hle, -, hlater⟩ := steady_upcoming hrest hup
    exact ⟨i.fills full', hlater, Desk.perform_fills hperform (hhand ∘ hle)⟩
  · obtain ⟨full', hlabel⟩ := steady_suffix hcode (after_suffix hafter)
    exact ⟨false, hlabel, nofun⟩

/-- **Runs.**  Every place that a run comes to is such a place. -/
lemma Leads.steady {c c' : Config} (hleads : Leads code c c') (hcode : steady false code = true)
    (h : c.Steady) : c'.Steady := by
  induction hleads with
  | refl => exact h
  | tail _ hadvance ih => exact ih.advance hcode hadvance

/-- Halts for want of something in the hand or of a label. -/
def Halt.lost : Halt → Bool
  | .fault (.emptyHand _) | .fault (.unknownLabel _) => true
  | _ => false

/-- A run of a listing that relies on no empty hand and no missing label. -/
lemma Finishes.not_lost {limit : Int} {desk : Desk} {h : Halt} {last : Config}
    (hcode : Mailroom.steady false code = true)
    (hjumps : ∀ op ∈ code, JumpsTo (labelNames code) op)
    (hfinishes : Finishes code limit (.start code desk) h last) : h.lost = false := by
  obtain ⟨hleads, hstop | rfl⟩ := hfinishes.leads
  · rcases Config.advance_error hstop with ⟨rfl, -⟩ | ⟨i, later, hup, hperform | hjump⟩
    · rfl
    · rcases Desk.perform_error hperform with
        ⟨rfl, -⟩ | ⟨e, rfl, -⟩ | ⟨rfl, hneeds, hempty⟩ | ⟨op, t, e, rfl, -⟩
      · rfl
      · rfl
      · obtain ⟨full, hrest, hhand⟩ := hleads.steady hcode ⟨false, hcode, nofun⟩
        obtain ⟨full', hle, hfull, -⟩ := steady_upcoming hrest hup
        rw [hneeds, Bool.not_true, Bool.or_false] at hfull
        have hsome := hhand (hle hfull)
        rw [hempty] at hsome
        cases hsome
      · rfl
    · obtain ⟨d, label, hperform, hafter, rfl⟩ := hjump
      obtain ⟨-, kind, rfl⟩ := Desk.perform_taken hperform
      have hplace := (upcoming_eq_some hup).2.trans (hleads.stays (List.suffix_refl _)).1
      have hlabel : label ∈ labelNames code := hjumps _ (hplace.subset List.mem_cons_self)
      exact absurd hlabel (after_eq_none_iff.mp hafter)
  · rfl

end Hands

end Mailroom

namespace Mailroom.Source

open Text Peephole

/-! ## Compiled listings -/

section Listings

variable {t : Target} {tiles : Assoc String Nat} {used : List Nat} {frag : List Op}

lemma bump_needsHand (direction : Bump) (x : Tile) :
    (Instr.tile direction.op x).needsHand = false := by
  cases direction <;> rfl

/-- The value of an expression is in the hand behind its instructions. -/
lemma value_steady {e : Expr} (hcode : ValueCode t tiles used e frag) :
    ∀ (full : Bool) {rest : List Op}, steady true rest = true →
      steady full (frag ++ rest) = true := by
  induction hcode with
  | var _ => exact fun full rest hrest => steady_free rfl hrest
  | call => exact fun full rest hrest => steady_free rfl hrest
  | callWith => exact fun full rest hrest => steady_free rfl hrest
  | assign _ _ ih =>
      intro full rest hrest
      rw [List.append_assoc]
      exact ih full hrest
  | pre _ => exact fun full rest hrest => steady_free (bump_needsHand _ _) hrest
  | post _ _ => exact fun full rest hrest => steady_free rfl hrest
  | sumVar _ _ ih =>
      intro full rest hrest
      rw [List.append_assoc]
      exact ih full hrest
  | @sum used op left right line kept rightCode leftCode _ _ _ _ ihr ihl =>
      intro full rest hrest
      have hleft : steady true (onCell .copyTo kept :: (leftCode ++ onCell op.op kept :: rest))
          = true := ihl true hrest
      rw [List.append_assoc, List.cons_append, List.append_assoc]
      exact ihr full hleft

lemma effect_steady {e : Expr} (hcode : EffectCode t tiles used e frag) (full : Bool)
    {rest : List Op} (hrest : steady false rest = true) : steady full (frag ++ rest) = true := by
  have hrest' := steady_mono hrest
  cases hcode with
  | output hvalue =>
      rw [List.append_assoc]
      exact value_steady hvalue full hrest
  | inputWith => exact steady_free rfl (hrest' true)
  | nothingWith _ _ => exact hrest' full
  | input => exact steady_free rfl (hrest' true)
  | nothing _ => exact hrest' full
  | bump _ => exact steady_free (bump_needsHand _ _) (hrest' true)
  | value _ _ _ hvalue => exact value_steady hvalue full (hrest' true)

lemma difference_steady {op sign : Comparison} {left right : Expr}
    (hcode : DifferenceCode t tiles used op left right sign frag) (full : Bool) {rest : List Op}
    (hrest : steady true rest = true) : steady full (frag ++ rest) = true := by
  cases hcode with
  | right hvalue => exact value_steady hvalue full hrest
  | left hvalue => exact value_steady hvalue full hrest
  | both hvalue => exact value_steady hvalue full hrest

/-- Jumps on the difference of two sides come right behind it. -/
lemma cond_steady {part : CondPart} {target : String} {wanted : Bool} {n m : Nat}
    (hcode : CondCode t tiles used part target wanted n frag m) :
    ∀ (full : Bool) {rest : List Op}, steady false rest = true →
      steady full (frag ++ rest) = true := by
  induction hcode with
  | jump => exact fun full rest hrest => steady_free rfl (steady_mono hrest full)
  | fall => exact fun full rest hrest => steady_mono hrest full
  | @compare op left right line target wanted n sign code hdifference =>
      intro full rest hrest
      rw [List.append_assoc]
      refine difference_steady hdifference full ?_
      have hrest' := steady_mono hrest true
      cases sign <;> assumption
  | anyOf _ _ _ ihf iho =>
      intro full rest hrest
      rw [List.append_assoc]
      exact ihf full (iho false hrest)
  | allOf _ _ _ ihf iho =>
      intro full rest hrest
      rw [List.append_assoc, List.append_assoc]
      exact ihf full (iho false hrest)
  | anyLast _ ih => exact ih
  | anyMore _ _ ihf iho =>
      intro full rest hrest
      rw [List.append_assoc]
      exact ihf full (iho false hrest)
  | allLast _ ih => exact ih
  | allMore _ _ ihf iho =>
      intro full rest hrest
      rw [List.append_assoc]
      exact ihf full (iho false hrest)

/-- **Hands.**  Statements rely on nothing in the hand that they have not put there. -/
lemma stmt_steady {part : Part} {k k' : Stock} (hcode : StmtCode t part k frag k') :
    ∀ (full : Bool) {rest : List Op}, steady false rest = true →
      steady full (frag ++ rest) = true := by
  induction hcode with
  | constant _ => exact fun full rest hrest => steady_mono hrest full
  | declare _ _ _ => exact fun full rest hrest => steady_mono hrest full
  | define _ _ _ hvalue =>
      intro full rest hrest
      rw [List.append_assoc]
      exact value_steady hvalue full (steady_mono hrest true)
  | expr heffect => exact fun full rest hrest => effect_steady heffect full hrest
  | ifTrue _ ih => exact ih
  | ifFalse => exact fun full rest hrest => steady_mono hrest full
  | ifThen _ hcond _ ih =>
      intro full rest hrest
      rw [List.append_assoc, List.append_assoc]
      exact cond_steady hcond full (ih false hrest)
  | elseTrue _ ih => exact ih
  | elseFalse _ ih => exact ih
  | ifElse _ hcond _ _ ihb iho =>
      intro full rest hrest
      rw [List.append_assoc, List.append_assoc, List.cons_append, List.cons_append,
        List.append_assoc]
      exact cond_steady hcond full (ihb false (iho false hrest))
  | forever _ ih =>
      intro full rest hrest
      rw [List.cons_append, List.append_assoc]
      exact ih false hrest
  | never => exact fun full rest hrest => steady_mono hrest full
  | whileDo _ hcond _ ih =>
      intro full rest hrest
      rw [List.cons_append, List.append_assoc, List.append_assoc]
      exact cond_steady hcond false (ih false hrest)
  | block _ ih => exact ih
  | done => exact fun full rest hrest => steady_mono hrest full
  | next _ _ ihs ihr =>
      intro full rest hrest
      rw [List.append_assoc]
      exact ihs full (ihr false hrest)

/-- The listing of a program relies on nothing in the hand at its start. -/
lemma lower_steady {size : Int} {symbols : Symbols} {program : List Stmt} {final : Lowering}
    (h : lower size symbols program = (none, final)) : steady false final.ops = true := by
  have hwhole : steady false (final.ops ++ []) = true := stmt_steady (lower_code h) false rfl
  rwa [List.append_nil] at hwhole

end Listings

/-! ## Pointers that are followed -/

section Proper

variable {symbols : Symbols}

lemma numeric_mentions : ∀ (e : Expr), e.numeric symbols = true →
    ∀ v ∈ e.mentions, v.proper symbols = true
  | .var _, h => List.forall_mem_singleton.mpr h
  | .call _ _, _ => by simp [Expr.mentions]
  | .assign target e _, h => by
      rw [Expr.numeric, Bool.and_eq_true] at h
      exact List.forall_mem_cons.mpr ⟨h.1, numeric_mentions e h.2⟩
  | .bump _ _ _ _, h => List.forall_mem_singleton.mpr h
  | .sum _ left right _, h => by
      rw [Expr.numeric, Bool.and_eq_true] at h
      exact List.forall_mem_append.mpr ⟨numeric_mentions left h.1, numeric_mentions right h.2⟩

lemma comparable_mentions {e : Expr} (h : e.comparable symbols = true) :
    ∀ v ∈ e.mentions, v.proper symbols = true := by
  cases e with
  | num n line => simp [Expr.mentions]
  | _ => exact numeric_mentions _ h

mutual

lemma condition_mentions : ∀ (e : Expr), e.condition symbols = true →
    ∀ v ∈ e.mentions, v.proper symbols = true
  | .bool _ _, _ => by simp [Expr.mentions]
  | .compare _ left right _, h => by
      rw [Expr.condition, Bool.and_eq_true] at h
      exact List.forall_mem_append.mpr ⟨comparable_mentions h.1, comparable_mentions h.2⟩
  | .logical _ first others _, h => by
      rw [Expr.condition, Bool.and_eq_true] at h
      exact List.forall_mem_append.mpr
        ⟨condition_mentions first h.1, conditions_mentions others h.2⟩

lemma conditions_mentions : ∀ (es : Operands), es.conditions symbols = true →
    ∀ v ∈ es.mentions, v.proper symbols = true
  | .last e, h => condition_mentions e h
  | .more e others, h => by
      rw [Operands.conditions, Bool.and_eq_true] at h
      exact List.forall_mem_append.mpr
        ⟨condition_mentions e h.1, conditions_mentions others h.2⟩

end

lemma literal_mentions {e : Expr} (h : Scope.isLiteral e = true) : e.mentions = [] := by
  cases e with
  | num n line => rfl
  | _ => cases h

lemma action_mentions {e : Expr} (h : e.action symbols = true) :
    ∀ v ∈ e.mentions, v.proper symbols = true := by
  cases e with
  | callWith function arg line =>
      rw [Expr.action, Bool.or_eq_true, Bool.and_eq_true, Bool.and_eq_true] at h
      rw [Expr.mentions]
      rcases h with h | h
      · exact numeric_mentions arg h.2
      · simp [literal_mentions h.2]
  | _ => exact numeric_mentions _ h

mutual

/-- Variables are used as what they are. -/
lemma proper_mentions : ∀ (s : Stmt), s.proper symbols = true →
    ∀ v ∈ s.mentions, v.proper symbols = true
  | .decl d, h => by
      rw [Stmt.proper, Bool.or_eq_true, Bool.and_eq_true, Bool.and_eq_true] at h
      rw [Stmt.mentions]
      cases hinit : d.init with
      | none => simp
      | some e =>
          rw [hinit] at h
          rcases h with h | h
          · simp [literal_mentions h.2]
          · exact numeric_mentions e h.1
  | .expr e _, h => action_mentions h
  | .ifThen cond body _, h => by
      rw [Stmt.proper, Bool.and_eq_true] at h
      exact List.forall_mem_append.mpr ⟨condition_mentions cond h.1, proper_mentions body h.2⟩
  | .whileDo cond body _, h => by
      rw [Stmt.proper, Bool.and_eq_true] at h
      exact List.forall_mem_append.mpr ⟨condition_mentions cond h.1, proper_mentions body h.2⟩
  | .ifElse cond body other _, h => by
      rw [Stmt.proper, Bool.and_eq_true, Bool.and_eq_true] at h
      exact List.forall_mem_append.mpr ⟨condition_mentions cond h.1.1,
        List.forall_mem_append.mpr ⟨proper_mentions body h.1.2, proper_mentions other h.2⟩⟩
  | .block body _, h => properAll_mentions body h

lemma properAll_mentions : ∀ (body : List Stmt), properAll symbols body = true →
    ∀ v ∈ mentionsAll body, v.proper symbols = true
  | [], _ => by simp [mentionsAll]
  | s :: rest, h => by
      rw [properAll, Bool.and_eq_true] at h
      exact List.forall_mem_append.mpr ⟨proper_mentions s h.1, properAll_mentions rest h.2⟩

end

end Proper

/-- A pointer variable of an accepted program is followed. -/
lemma follows_pointer {size : Int} {program : List Stmt} {v : Var}
    (haccepted : (check size program).diagnostics = []) (hv : v ∈ mentionsAll program)
    (hfollows : v.follows (check size program).symbols = true) :
    v.deref = true ∧ ∃ sym, (check size program).symbols.get? v.name = some sym ∧
      sym.pointer = true ∧ sym.constant = false := by
  obtain ⟨hproper, -, hfixed⟩ := check_proper haccepted
  have hv' := properAll_mentions program hproper v hv
  rw [Var.proper] at hv'
  rw [Var.follows, Bool.and_eq_true] at hfollows
  obtain ⟨hderef, hnone⟩ := hfollows
  cases hsym : (check size program).symbols.get? v.name with
  | none =>
      rw [hsym] at hnone
      cases hnone
  | some sym =>
      rw [hsym] at hv' hnone
      refine ⟨hderef, sym, rfl, by simpa [hderef] using hv', ?_⟩
      rw [(hfixed _ sym hsym).1]
      simpa using hnone

/-! ## Faults that are left -/

section Faults

variable {size : Int} {program : List Stmt} {final : Lowering} {code : List Op}

/-- An operand that leads off the floor is followed there from a tile of the floor. -/
lemma resolve_grounded {t : Target} {vars : List Var} {op : TileOp} {x : Tile} {floor : Floor}
    {e : FloorError} (hgrounded : Grounded t vars (.instr (.tile op x)))
    (hroom : t.size ≤ floor.size) (h : floor.resolve x.address x.indirect = .error e) :
    x.indirect = true ∧ e = ⟨floor.item x.address, floor.size⟩ := by
  have hhas : floor.Has x.address := by
    have := hgrounded.1
    exact ⟨by omega, by omega⟩
  cases hindirect : x.indirect with
  | false =>
      rw [hindirect, Floor.resolve_direct, if_pos hhas] at h
      cases h
  | true =>
      rw [hindirect, Floor.resolve_indirect, if_pos hhas] at h
      split at h
      · cases h
      · cases h
        exact ⟨rfl, rfl⟩

lemma comesFrom_grounded {ops : List Op} {t : Target} {vars : List Var}
    (hops : ∀ op ∈ ops, Grounded t vars op) {op : Op} (h : ComesFrom ops op) :
    Grounded t vars op := by
  rcases h with hmem | ⟨kind, old, label, rfl, -, -⟩
  · exact hops op hmem
  · trivial

lemma render?_ok {ops : List Op} {listing : List String} (h : render? ops = .ok listing) :
    listing = render ops ∧ ∀ op ∈ ops, op.writable = true := by
  rw [render?] at h
  split at h
  · rename_i hall
    cases h
    exact ⟨rfl, List.all_eq_true.mp hall⟩
  · cases h

/-- The listing for a text is set from the lines that were found for its program, shortened or
not. -/
lemma compile_render {options : CompileOptions} {text : List Char} {listing : List String}
    (h : (compile options text).outcome = .ok listing) :
    ∃ program final, parse text = .ok program ∧
      (check options.floorSize program).diagnostics = [] ∧
      lower options.floorSize (check options.floorSize program).symbols program = (none, final) ∧
      (compile options text).emitted = final.ops ∧
      render? (if options.optimize then peephole final.ops else final.ops) = .ok listing := by
  rw [compile] at h ⊢
  cases hparse : parse text with
  | error e =>
      rw [hparse] at h
      cases h
  | ok program =>
      rw [hparse] at h
      dsimp only at h ⊢
      split at h
      · rename_i symbols hcheck
        split at h
        · cases h
        · rename_i final hlower
          exact ⟨program, final, rfl, by rw [hcheck], by rw [hcheck]; exact hlower, rfl, h⟩
      · split at h <;> cases h

/-- The listing for a text is that of its program, shortened or not. -/
lemma compile_ok {options : CompileOptions} {text : List Char} {listing : List String}
    (h : (compile options text).outcome = .ok listing) :
    ∃ program final code, parse text = .ok program ∧
      (check options.floorSize program).diagnostics = [] ∧
      lower options.floorSize (check options.floorSize program).symbols program = (none, final) ∧
      listing = render code ∧ Refines final.ops code ∧ ∀ op ∈ code, ComesFrom final.ops op := by
  obtain ⟨program, final, hparse, haccepted, hlower, -, hrender⟩ := compile_render h
  refine ⟨program, final, _, hparse, haccepted, hlower, (render?_ok hrender).1, ?_⟩
  split
  · exact ⟨refines_peephole (lower_nodup hlower), fun op hop => comesFrom_peephole hop⟩
  · exact ⟨.refl _, fun op hop => .inl hop⟩

/-- **Runs.**  The faults of a listing that does what a compiled listing does, with operands like
those of one. -/
lemma finishes_fault {symbols : Symbols} {vars : List Var} {limit : Int} {desk : Desk}
    {cause : FaultCause} {last : Config} (hlower : lower size symbols program = (none, final))
    (hrefines : Refines final.ops code)
    (hgrounded : ∀ op ∈ code, Grounded ⟨symbols, size⟩ vars op) (hroom : size ≤ desk.floor.size)
    (hfinishes : Finishes code limit (.start code desk) (.fault cause) last) :
    cause = .stepLimit limit ∨
      ∃ op x later, upcoming last.rest = some (.tile op x, later) ∧ x.indirect = true ∧
        cause = .offFloor ⟨last.desk.floor.item x.address, desk.floor.size⟩ ∧
        ∃ v ∈ vars, v.follows symbols = true := by
  obtain ⟨hleads, hstop | hlimit⟩ := hfinishes.leads
  · right
    have hlost : (Halt.fault cause).lost = false := by
      by_cases hlimit : (Halt.fault cause).isLimit = true
      · match cause, hlimit with
        | .stepLimit _, _ => rfl
      · obtain ⟨limit', last', hfinishes'⟩ :=
          hrefines.backward desk limit _ last (by simpa using hlimit) hfinishes
        exact hfinishes'.not_lost (lower_steady hlower) (stmt_jumps (lower_code hlower))
    rcases Config.advance_error hstop with ⟨h, -⟩ | ⟨i, later, hup, hperform | hjump⟩
    · cases h
    · rcases Desk.perform_error hperform with
        ⟨h, -⟩ | ⟨e, h, -⟩ | ⟨h, -⟩ | ⟨op, x, e, h, rfl, hresolve⟩
      · cases h
      · cases h
      · rw [h] at hlost
        cases hlost
      · cases h
        obtain ⟨hplace, hsize⟩ := hleads.stays (List.suffix_refl _)
        have hx := hgrounded _ (((upcoming_eq_some hup).2.trans hplace).subset List.mem_cons_self)
        obtain ⟨hindirect, rfl⟩ := resolve_grounded hx (by rw [hsize]; exact hroom) hresolve
        exact ⟨op, x, later, hup, hindirect, by rw [hsize]; rfl, hx.2 hindirect⟩
    · obtain ⟨d, label, -, -, h⟩ := hjump
      rw [h] at hlost
      cases hlost
  · exact .inl (Halt.fault.inj hlimit)

/-- **Compiled programs do not go wrong.**  Take a text that is accepted for a floor of some size,
and its listing, shortened or not.  On every floor of at least this size, with every inbox and every
limit, a run ends with one of two faults if with any: at the limit, or at an operand that is
followed from a tile of the floor to where no tile is.  The latter happens only if the program
follows a pointer that is no constant. -/
theorem compile_safe {options : CompileOptions} {text : List Char} {listing : List String}
    (hcompile : (compile options text).outcome = .ok listing) (m : Machine)
    (hroom : options.floorSize ≤ m.floor.size) :
    (Numeral.fits options.floorSize = true → (m.load listing).2 = none) ∧
      ∀ m', m.load listing = (m', none) → ∀ f ∈ m'.run.2.fault,
        f.cause = .stepLimit m.maxSteps ∨
          ∃ op x, (m'.run.2.program.fetch? f.pc).map (·.instr) = some (.tile op x) ∧
            x.indirect = true ∧
            f.cause = .offFloor ⟨m'.run.2.floor.item x.address, m.floor.size⟩ ∧
            ∃ program, parse text = .ok program ∧ ∃ v ∈ mentionsAll program, v.deref = true ∧
              ∃ sym, (check options.floorSize program).symbols.get? v.name = some sym ∧
                sym.pointer = true ∧ sym.constant = false := by
  obtain ⟨program, final, code, hparse, haccepted, hlower, rfl, hrefines, hfrom⟩ :=
    compile_ok hcompile
  have hspelled : ∀ op ∈ code, op.Spelled :=
    fun op hop => (hfrom op hop).spelled (lower_spelled hlower)
  refine ⟨fun hfits => (load_iff_legible hspelled m).mpr fun op hop => ?_, ?_⟩
  · refine (hfrom op hop).legible (lower_legible hlower fun a ha => ?_) ?_
    · have hlt := lower_operand haccepted hlower ha
      rw [Numeral.fits, decide_eq_true_eq] at hfits ⊢
      omega
    · intro kind label _ hlabel c hc
      obtain ⟨stem, hstem, n, rfl⟩ := lower_label hlower hlabel
      exact labelAt_nonblank hstem n c hc
  · intro m' hload f hf
    obtain ⟨m1, hload1, hmost, hshows⟩ :=
      load_shows hspelled ((load_iff_legible hspelled m).mp (by rw [hload])) m
    rw [hload] at hload1
    cases hload1
    obtain ⟨halt, last, hfinishes, hcloses⟩ := run_finishes hshows
    have hcause := hcloses.cause
    rw [Option.mem_def.mp hf] at hcause
    obtain rfl : halt = .fault f.cause := Halt.eq_fault hcause.symm
    have hgrounded := lower_grounded haccepted hlower
    have hgrounded := fun op hop => comesFrom_grounded hgrounded (hfrom op hop)
    rcases finishes_fault hlower hrefines hgrounded hroom hfinishes with
      hlimit | ⟨op, x, later, hup, hindirect, hoff, v, hv, hfollows⟩
    · exact .inl (hlimit.trans (by rw [hmost]))
    · refine .inr ⟨op, x, ?_, hindirect, ?_, program, hparse, v, hv,
        follows_pointer haccepted hv hfollows⟩
      · rw [hcloses.place f hf, hup]
        rfl
      · have hfloor : m'.run.2.floor = last.desk.floor := congrArg Desk.floor hcloses.desk
        rw [hoff, hfloor]

end Faults

/-- A program that follows a pointer off the floor: the fault is one of those that are left, and the
program has such a pointer. -/
theorem compile_safe_pointer :
    let m : Machine := { floor := .ofSize 1, inbox := .ofValues [5], maxSteps := 9 }
    let listing := ["    INBOX", "    COPYTO 0", "    COPYFROM [0]", "    OUTBOX"]
    (m.load listing).1.run.2.fault = some ⟨.offFloor ⟨5, 1⟩, 2, 3⟩ ∧
      ∃ program, parse "int *p = input(); output(*p);".toList = .ok program ∧
        ∃ v ∈ mentionsAll program, v.deref = true := by
  intro m listing
  have hcompile : (compile ⟨1, true⟩ "int *p = input(); output(*p);".toList).outcome
      = .ok ["    INBOX", "    COPYTO 0", "    COPYFROM [0]", "    OUTBOX"] := by cbv
  have hfault : (m.load listing).1.run.2.fault = some ⟨.offFloor ⟨5, 1⟩, 2, 3⟩ := by cbv
  have hload : m.load listing = ((m.load listing).1, none) := Prod.ext rfl (by cbv)
  rcases (compile_safe hcompile m (by decide)).2 _ hload _ hfault with
    hlimit | ⟨op, x, -, -, -, program, hparse, v, hv, hderef, -⟩
  · cases hlimit
  · exact ⟨hfault, program, hparse, v, hv, hderef⟩

end Mailroom.Source
