import Mathlib.Data.List.Forall2
import Mailroom.Proofs.Lines

/-!
# What the instructions of a program are for

A compiled listing is a flat list of instructions, and a tile may serve a variable in one place and
a value in between in another.  What an instruction is for can still be read off the program: `Use`
says whether it reads, stores to or bumps a variable, or has to do with a value in between.  `Role`
adds the variables that have a tile by then.  `rolesAll` lists the roles of a program in the order
of its instructions, with no look at tiles, labels or the listing.

- `Serves`: an instruction does what its role asks for, on the tile that its variable has.
- `Plays`: the instructions of a listing serve roles, one each.
- `lower_plays`: those of a compiled listing serve the roles of the program.
-/

namespace Mailroom.Source

/-! ## Roles -/

/-- What an instruction is for. -/
inductive Use where
  | reads (v : Var)
  | stores (v : Var)
  | bumps (v : Var)
  /-- A value in between is put on a tile. -/
  | spills
  /-- A value in between is taken from its tile. -/
  | recalls
  /-- Reading, sending and jumping have no tile. -/
  | other
  deriving DecidableEq

/-- The variable that an instruction writes to. -/
def Use.written? : Use → Option Var
  | .stores v | .bumps v => some v
  | _ => none

/-- What an instruction is for, and the variables that have a tile by then. -/
structure Role where
  use : Use
  known : List String
  deriving DecidableEq

/-- The instructions for two sides.  The right side comes first and waits on a tile, unless it is a
variable. -/
def combineUses (left right : List Use) : Option Var → List Use
  | some v => left ++ [.reads v]
  | none => right ++ .spills :: (left ++ [.recalls])

/-- The instructions that leave the value of an expression in the hand. -/
def Expr.uses : Expr → List Use
  | .var v => [.reads v]
  | .call _ _ | .callWith _ _ _ => [.other]
  | .assign target e _ => e.uses ++ [.stores target]
  | .bump target _ post _ =>
    if post then [.reads target, .spills, .bumps target, .recalls] else [.bumps target]
  | .sum _ left right _ => combineUses left.uses right.uses right.var?
  | .num _ _ | .bool _ _ | .compare _ _ _ _ | .logical _ _ _ _ => []

/-- The instructions for an expression whose value nobody wants. -/
def Expr.effectUses : Expr → List Use
  | .call function _ => if function = "input" then [.other] else []
  | .callWith function arg _ =>
    if function = "output" then arg.uses ++ [.other]
    else if function = "input" then [.other]
    else []
  | .bump target _ _ _ => [.bumps target]
  | e => e.uses

/-- How many jumps a comparison with zero takes. -/
def Comparison.jumps : Comparison → Nat
  | .eq | .lt => 1
  | .le | .ne | .ge => 2
  | .gt => 3

/-- The instructions that jump on a comparison of two sides. -/
def compareUses (op : Comparison) (left right : Expr) : List Use :=
  match left, right with
  | left, .num _ _ => left.uses ++ .replicate op.jumps .other
  | .num _ _, right => right.uses ++ .replicate op.swap.jumps .other
  | left, right =>
    combineUses left.uses right.uses right.var? ++ .replicate op.jumps .other

mutual

/-- The instructions that jump if a condition comes out as wanted. -/
def Expr.branchUses (wanted : Bool) : Expr → List Use
  | .bool b _ => if b = wanted then [.other] else []
  | .compare op left right _ => compareUses (if wanted then op else op.negate) left right
  | .logical op first others _ =>
    if (op == .or) = wanted then first.branchUses wanted ++ others.anyUses wanted
    else first.branchUses (!wanted) ++ others.allUses wanted
  | _ => []

/-- Those if one of some conditions comes out so. -/
def Operands.anyUses (wanted : Bool) : Operands → List Use
  | .last e => e.branchUses wanted
  | .more e others => e.branchUses wanted ++ others.anyUses wanted

/-- Those if all of some conditions come out so. -/
def Operands.allUses (wanted : Bool) : Operands → List Use
  | .last e => e.branchUses wanted
  | .more e others => e.branchUses (!wanted) ++ others.allUses wanted

end

mutual

/-- The variables that get a tile in a statement.  Branches that are never taken give out none. -/
def Stmt.placed : Stmt → List String
  | .decl d => if d.constant then [] else [d.name]
  | .expr _ _ => []
  | .ifThen cond body _ | .whileDo cond body _ =>
    if cond.literal? = some false then [] else body.placed
  | .ifElse cond body other _ =>
    match cond.literal? with
    | some true => body.placed
    | some false => other.placed
    | none => body.placed ++ other.placed
  | .block body _ => placedAll body

/-- The variables that get a tile in statements. -/
def placedAll : List Stmt → List String
  | [] => []
  | s :: rest => s.placed ++ placedAll rest

end

/-- The same variables are known for some uses. -/
def rolesOf (known : List String) (uses : List Use) : List Role :=
  uses.map (⟨·, known⟩)

mutual

/-- The roles of the instructions of a statement, given the variables that have a tile before. -/
def Stmt.roles (known : List String) : Stmt → List Role
  | .decl d =>
    match d.constant, d.init with
    | false, some e =>
      rolesOf (d.name :: known) (e.uses ++ [.stores ⟨d.name, false, d.line⟩])
    | _, _ => []
  | .expr e _ => rolesOf known e.effectUses
  | .ifThen cond body _ =>
    match cond.literal? with
    | some true => body.roles known
    | some false => []
    | none => rolesOf known (cond.branchUses false) ++ body.roles known
  | .ifElse cond body other _ =>
    match cond.literal? with
    | some true => body.roles known
    | some false => other.roles known
    | none =>
      rolesOf known (cond.branchUses false) ++ (body.roles known ++
        ⟨.other, body.placed ++ known⟩ :: other.roles (body.placed ++ known))
  | .whileDo cond body _ =>
    match cond.literal? with
    | some true => body.roles known ++ [⟨.other, body.placed ++ known⟩]
    | some false => []
    | none =>
      rolesOf known (cond.branchUses false) ++
        (body.roles known ++ [⟨.other, body.placed ++ known⟩])
  | .block body _ => rolesAll known body

/-- The roles of the instructions of statements. -/
def rolesAll (known : List String) : List Stmt → List Role
  | [] => []
  | s :: rest => s.roles known ++ rolesAll (s.placed ++ known) rest

end

/-- The roles of the instructions of a part of a program. -/
def Part.roles (known : List String) : Part → List Role
  | .one s => s.roles known
  | .many body => rolesAll known body

/-- The variables that get a tile in a part of a program. -/
def Part.placed : Part → List String
  | .one s => s.placed
  | .many body => placedAll body

/-! ## Instructions that serve them -/

/-- The operand of a variable, where some variables have a tile. -/
inductive Denotes (t : Target) (tiles : Assoc String Nat) (known : List String) (v : Var) :
    Tile → Prop
  | constant {sym a} : t.symbols.get? v.name = some sym → sym.address = some a →
      Denotes t tiles known v ⟨a, false⟩
  | placed {a} : v.name ∈ known → tiles.get? v.name = some a → Denotes t tiles known v ⟨a, v.deref⟩

/-- A tile that is no constant's and none of some variables. -/
structure Spare (t : Target) (tiles : Assoc String Nat) (known : List String) (a : Nat) : Prop where
  free : a ∉ t.symbols.reserved
  below : (a : Int) < t.size
  apart : ∀ y ∈ known, ∃ b, tiles.get? y = some b ∧ b ≠ a

/-- An instruction does what its role asks for. -/
inductive Serves (t : Target) (tiles : Assoc String Nat) : Role → Instr → Prop
  | reads {v known op x} : op.takes = true → Denotes t tiles known v x →
      Serves t tiles ⟨.reads v, known⟩ (.tile op x)
  | stores {v known x} : Denotes t tiles known v x →
      Serves t tiles ⟨.stores v, known⟩ (.tile .copyTo x)
  | bumps {v known direction x} : Denotes t tiles known v x →
      Serves t tiles ⟨.bumps v, known⟩ (.tile (Bump.op direction) x)
  | spills {known a} : Spare t tiles known a →
      Serves t tiles ⟨.spills, known⟩ (.tile .copyTo ⟨a, false⟩)
  | recalls {known op a} : op.takes = true →
      Serves t tiles ⟨.recalls, known⟩ (.tile op ⟨a, false⟩)
  | inbox {known} : Serves t tiles ⟨.other, known⟩ .inbox
  | outbox {known} : Serves t tiles ⟨.other, known⟩ .outbox
  | jump {known kind label} : Serves t tiles ⟨.other, known⟩ (.jump kind label)

/-- The instructions of a listing serve roles, one each. -/
def Plays (t : Target) (tiles : Assoc String Nat) (roles : List Role) (code : List Op) : Prop :=
  List.Forall₂ (Serves t tiles) roles (instrs code)

section Plays

variable {t : Target} {tiles tiles' : Assoc String Nat} {roles roles' : List Role}
  {code code' : List Op} {known : List String}

lemma Plays.nil : Plays t tiles [] [] :=
  List.Forall₂.nil

lemma Plays.cons {role : Role} {i : Instr} (h : Serves t tiles role i)
    (h' : Plays t tiles roles code) : Plays t tiles (role :: roles) (.instr i :: code) :=
  List.Forall₂.cons h h'

lemma Plays.label (name : String) (h : Plays t tiles roles code) :
    Plays t tiles roles (.label name :: code) :=
  h

lemma Plays.append (h : Plays t tiles roles code) (h' : Plays t tiles roles' code') :
    Plays t tiles (roles ++ roles') (code ++ code') := by
  rw [Plays, instrs_append]
  exact List.rel_append h h'

lemma Plays.labelled (h : Plays t tiles roles code) (name : String) :
    Plays t tiles roles (code ++ [.label name]) := by
  have hlabel := h.append (Plays.nil.label name)
  rwa [List.append_nil] at hlabel

lemma Plays.length (h : Plays t tiles roles code) : roles.length = (instrs code).length :=
  h.length_eq

/-- The role of the instruction at an address. -/
lemma Plays.serves (h : Plays t tiles roles code) {pc : Nat} {i : Instr}
    (hi : (instrs code)[pc]? = some i) :
    ∃ role, roles[pc]? = some role ∧ Serves t tiles role i := by
  obtain ⟨hpc, rfl⟩ := List.getElem?_eq_some_iff.mp hi
  have hpc' : pc < roles.length := h.length ▸ hpc
  exact ⟨roles[pc], List.getElem?_eq_getElem hpc', h.get hpc' hpc⟩

/-- The instruction with the role at an address. -/
lemma Plays.served (h : Plays t tiles roles code) {pc : Nat} {role : Role}
    (hrole : roles[pc]? = some role) :
    ∃ i, (instrs code)[pc]? = some i ∧ Serves t tiles role i := by
  obtain ⟨hpc, rfl⟩ := List.getElem?_eq_some_iff.mp hrole
  have hpc' : pc < (instrs code).length := h.length ▸ hpc
  exact ⟨(instrs code)[pc], List.getElem?_eq_getElem hpc', h.get hpc hpc'⟩

lemma Denotes.mono (hkeeps : ∀ x a, tiles.get? x = some a → tiles'.get? x = some a) {v : Var}
    {x : Tile} (h : Denotes t tiles known v x) : Denotes t tiles' known v x := by
  cases h with
  | constant hsym haddress => exact .constant hsym haddress
  | placed hknown htile => exact .placed hknown (hkeeps _ _ htile)

lemma Serves.mono (hkeeps : ∀ x a, tiles.get? x = some a → tiles'.get? x = some a) {role : Role}
    {i : Instr} (h : Serves t tiles role i) : Serves t tiles' role i := by
  cases h with
  | reads hop hx => exact .reads hop (hx.mono hkeeps)
  | stores hx => exact .stores (hx.mono hkeeps)
  | bumps hx => exact .bumps (hx.mono hkeeps)
  | spills hspare =>
      refine .spills ⟨hspare.free, hspare.below, fun y hy => ?_⟩
      obtain ⟨b, hb, hne⟩ := hspare.apart y hy
      exact ⟨b, hkeeps y b hb, hne⟩
  | recalls hop => exact .recalls hop
  | inbox => exact .inbox
  | outbox => exact .outbox
  | jump => exact .jump

lemma Plays.mono (hkeeps : ∀ x a, tiles.get? x = some a → tiles'.get? x = some a)
    (h : Plays t tiles roles code) : Plays t tiles' roles code :=
  h.imp fun _ _ => Serves.mono hkeeps

end Plays

/-! ## The code of a program -/

/-- The variables with a tile are those that are known, and their tiles are in use. -/
structure Occupies (tiles : Assoc String Nat) (used : List Nat) (known : List String) : Prop where
  placed : ∀ y ∈ known, ∃ a ∈ used, tiles.get? y = some a
  known : ∀ y a, tiles.get? y = some a → y ∈ known

section Code

variable {t : Target} {tiles : Assoc String Nat} {used : List Nat} {known : List String}
  {frag : List Op}

lemma Occupies.keep (h : Occupies tiles used known) (kept : Nat) :
    Occupies tiles (kept :: used) known := by
  refine ⟨fun y hy => ?_, h.known⟩
  obtain ⟨a, ha, hget⟩ := h.placed y hy
  exact ⟨a, List.mem_cons_of_mem _ ha, hget⟩

lemma Occupies.denotes (h : Occupies tiles used known) {v : Var} {x : Tile}
    (hx : operand? t tiles v = some x) : Denotes t tiles known v x := by
  rw [operand?] at hx
  cases hsym : t.symbols.get? v.name with
  | none =>
      rw [hsym] at hx
      cases hx
  | some sym =>
      rw [hsym] at hx
      dsimp only at hx
      cases haddress : sym.address with
      | some a =>
          rw [haddress] at hx
          cases hx
          exact .constant hsym haddress
      | none =>
          rw [haddress] at hx
          obtain ⟨a, ha, rfl⟩ := Option.map_eq_some_iff.mp hx
          exact .placed (h.known _ a ha) ha

lemma Occupies.spare (h : Occupies tiles used known) {kept : Nat}
    (hfresh : t.fresh? used = some kept) : Spare t tiles known kept := by
  obtain ⟨hunused, hfree, hbelow⟩ := fresh?_spec hfresh
  refine ⟨hfree, hbelow, fun y hy => ?_⟩
  obtain ⟨a, ha, hget⟩ := h.placed y hy
  refine ⟨a, hget, ?_⟩
  rintro rfl
  exact hunused ha

lemma sumOp_takes (op : SumOp) : TileOp.takes op.op = true := by
  cases op <;> rfl

lemma value_plays {e : Expr} (hcode : ValueCode t tiles used e frag)
    (hoccupies : Occupies tiles used known) : Plays t tiles (rolesOf known e.uses) frag := by
  induction hcode with
  | var hx => exact .cons (.reads rfl (hoccupies.denotes hx)) .nil
  | call => exact .cons .inbox .nil
  | callWith => exact .cons .inbox .nil
  | assign _ hx ih =>
      rw [rolesOf, Expr.uses, List.map_append]
      exact (ih hoccupies).append (.cons (.stores (hoccupies.denotes hx)) .nil)
  | pre hx => exact .cons (.bumps (hoccupies.denotes hx)) .nil
  | post hx hfresh =>
      have hx' := hoccupies.denotes hx
      exact .cons (.reads rfl hx') (.cons (.spills (hoccupies.spare hfresh))
        (.cons (.bumps hx') (.cons (.recalls rfl) .nil)))
  | @sumVar used op left v line code x _ hx ih =>
      rw [rolesOf, Expr.uses, Expr.var?, combineUses, List.map_append]
      exact (ih hoccupies).append (.cons (.reads (sumOp_takes op) (hoccupies.denotes hx)) .nil)
  | @sum used op left right line kept rightCode leftCode hvar hfresh _ _ ihr ihl =>
      rw [rolesOf, Expr.uses, hvar, combineUses, List.map_append, List.map_cons, List.map_append]
      exact (ihr (hoccupies.keep kept)).append (.cons (.spills (hoccupies.spare hfresh))
        ((ihl (hoccupies.keep kept)).append (.cons (.recalls (sumOp_takes op)) .nil)))

lemma effect_plays {e : Expr} (hcode : EffectCode t tiles used e frag)
    (hoccupies : Occupies tiles used known) : Plays t tiles (rolesOf known e.effectUses) frag := by
  cases hcode with
  | output hvalue =>
      rw [rolesOf, Expr.effectUses, if_pos rfl, List.map_append]
      exact (value_plays hvalue hoccupies).append (.cons .outbox .nil)
  | inputWith => exact .cons .inbox .nil
  | nothingWith hout hin =>
      rw [rolesOf, Expr.effectUses, if_neg hout, if_neg hin]
      exact .nil
  | input => exact .cons .inbox .nil
  | nothing hin =>
      rw [rolesOf, Expr.effectUses, if_neg hin]
      exact .nil
  | bump hx => exact .cons (.bumps (hoccupies.denotes hx)) .nil
  | value hbump hcall hcallWith hvalue =>
      have huses : e.effectUses = e.uses := by
        cases e with
        | bump target direction post line => exact absurd rfl (hbump target direction post line)
        | call function line => exact absurd rfl (hcall function line)
        | callWith function arg line => exact absurd rfl (hcallWith function arg line)
        | _ => rfl
      rw [huses]
      exact value_plays hvalue hoccupies

/-- Jumps have no part in what tiles hold. -/
lemma jumpOps_plays (op : Comparison) (target skip : String) :
    Plays t tiles (rolesOf known (.replicate op.jumps .other)) (jumpOps op target skip) := by
  cases op
  case eq | lt => exact .cons .jump .nil
  case le | ne | ge => exact .cons .jump (.cons .jump .nil)
  case gt => exact .cons .jump (.cons .jump (.cons .jump .nil))

/-- What has a value is no literal. -/
lemma value_not_literal {e : Expr} (hcode : ValueCode t tiles used e frag) :
    Scope.isLiteral e = false := by
  cases hcode <;> rfl

lemma compareUses_both {left right : Expr} (hleft : Scope.isLiteral left = false)
    (hright : Scope.isLiteral right = false) (op : Comparison) :
    compareUses op left right
      = combineUses left.uses right.uses right.var? ++ .replicate op.jumps .other := by
  cases right with
  | num => cases hright
  | _ =>
      cases left with
      | num => cases hleft
      | _ => rfl

lemma compareUses_left {right : Expr} (hright : Scope.isLiteral right = false) (op : Comparison)
    (n line : Nat) :
    compareUses op (.num n line) right = right.uses ++ .replicate op.swap.jumps .other := by
  cases right with
  | num => cases hright
  | _ => rfl

lemma compare_plays {op sign : Comparison} {left right : Expr}
    (hcode : DifferenceCode t tiles used op left right sign frag)
    (hoccupies : Occupies tiles used known) (target skip : String) :
    Plays t tiles (rolesOf known (compareUses op left right))
      (frag ++ jumpOps sign target skip) := by
  cases hcode with
  | right hvalue =>
      rw [compareUses, rolesOf, List.map_append]
      exact (value_plays hvalue hoccupies).append (jumpOps_plays ..)
  | left hvalue =>
      rw [compareUses_left (value_not_literal hvalue), rolesOf, List.map_append]
      exact (value_plays hvalue hoccupies).append (jumpOps_plays ..)
  | both hvalue =>
      have hsides : Scope.isLiteral left = false ∧ Scope.isLiteral right = false := by
        cases hvalue with
        | sumVar hleft _ => exact ⟨value_not_literal hleft, rfl⟩
        | sum _ _ hright hleft => exact ⟨value_not_literal hleft, value_not_literal hright⟩
      have hplays := value_plays hvalue hoccupies
      rw [Expr.uses] at hplays
      rw [compareUses_both hsides.1 hsides.2, rolesOf, List.map_append]
      exact hplays.append (jumpOps_plays ..)

/-- The instructions of conditions. -/
def CondPart.uses (wanted : Bool) : CondPart → List Use
  | .one e => e.branchUses wanted
  | .any others => others.anyUses wanted
  | .all _ others => others.allUses wanted

lemma cond_plays {part : CondPart} {target : String} {wanted : Bool} {n m : Nat}
    (hcode : CondCode t tiles used part target wanted n frag m)
    (hoccupies : Occupies tiles used known) :
    Plays t tiles (rolesOf known (part.uses wanted)) frag := by
  induction hcode with
  | jump =>
      rw [CondPart.uses, Expr.branchUses, if_pos rfl]
      exact .cons .jump .nil
  | fall hb =>
      rw [CondPart.uses, Expr.branchUses, if_neg hb]
      exact .nil
  | compare hdifference => exact compare_plays hdifference hoccupies _ _
  | anyOf hop _ _ ihf iho =>
      rw [CondPart.uses, Expr.branchUses, if_pos hop, rolesOf, List.map_append]
      exact ihf.append iho
  | allOf hop _ _ ihf iho =>
      rw [CondPart.uses, Expr.branchUses, if_neg hop, rolesOf, List.map_append]
      exact ihf.append (iho.labelled _)
  | anyLast _ ih => exact ih
  | anyMore _ _ ihf iho =>
      rw [CondPart.uses, Operands.anyUses, rolesOf, List.map_append]
      exact ihf.append iho
  | allLast _ ih => exact ih
  | allMore _ _ ihf iho =>
      rw [CondPart.uses, Operands.allUses, rolesOf, List.map_append]
      exact ihf.append iho

/-- A variable gets a tile. -/
lemma Occupies.place {k : Stock} (h : Occupies k.tiles k.used known) (name : String)
    (address : Nat) :
    Occupies (k.place name address).tiles (k.place name address).used (name :: known) := by
  have hget : ∀ x, (k.place name address).tiles.get? x
      = if name = x then some address else k.tiles.get? x := fun x => Assoc.get?_put ..
  refine ⟨fun y hy => ?_, fun y a hy => ?_⟩
  · rw [hget]
    by_cases hname : name = y
    · exact ⟨address, List.mem_cons_self, if_pos hname⟩
    · obtain ⟨a, ha, hold⟩ := h.placed y ((List.mem_cons.mp hy).resolve_left (Ne.symm hname))
      exact ⟨a, List.mem_cons_of_mem _ ha, by rw [if_neg hname, hold]⟩
  · rw [hget] at hy
    by_cases hname : name = y
    · exact List.mem_cons.mpr (.inl hname.symm)
    · rw [if_neg hname] at hy
      exact List.mem_cons_of_mem _ (h.known y a hy)

lemma Occupies.of_mem {known' : List String} (h : Occupies tiles used known)
    (hknown : ∀ y, y ∈ known' ↔ y ∈ known) : Occupies tiles used known' :=
  ⟨fun y hy => h.placed y ((hknown y).mp hy), fun y a hy => (hknown y).mpr (h.known y a hy)⟩

/-- Some names can be declared, each of them once. -/
structure Ready (t : Target) (k : Stock) (names known : List String) : Prop where
  sound : k.Sound t
  nodup : names.Nodup
  lacks : ∀ x ∈ names, k.tiles.get? x = none
  occupies : Occupies k.tiles k.used known

section Ready

variable {k k' : Stock} {names names' known' : List String}

lemma Ready.relabel (h : Ready t k names known) (n : Nat) :
    Ready t { k with labels := n } names known :=
  ⟨h.sound.relabel n, h.nodup, h.lacks, h.occupies⟩

lemma Ready.left (h : Ready t k (names ++ names') known) : Ready t k names known :=
  ⟨h.sound, (List.nodup_append.mp h.nodup).1, fun x hx => h.lacks x (List.mem_append_left _ hx),
    h.occupies⟩

lemma Ready.right (h : Ready t k (names ++ names') known) : Ready t k names' known :=
  ⟨h.sound, (List.nodup_append.mp h.nodup).2.1, fun x hx => h.lacks x (List.mem_append_right _ hx),
    h.occupies⟩

/-- The rest can be declared behind the first ones. -/
lemma Ready.behind (h : Ready t k (names ++ names') known) (hsound : k'.Sound t)
    (hgrows : k.Grows k' names) (hoccupies : Occupies k'.tiles k'.used known') :
    Ready t k' names' known' :=
  ⟨hsound, (List.nodup_append.mp h.nodup).2.1, hgrows.lacks h.nodup h.lacks, hoccupies⟩

lemma Ready.stock (h : Ready t k names known) {part : Part} (hcode : StmtCode t part k frag k')
    (hnames : part.declared = names) : k'.Sound t ∧ k.Grows k' names := by
  subst hnames
  exact stmt_stock hcode h.sound h.nodup h.lacks

end Ready

/-- **Statements.**  The instructions of statements serve their roles. -/
lemma stmt_plays {part : Part} {k k' : Stock} (hcode : StmtCode t part k frag k')
    {known : List String} (hready : Ready t k part.declared known) :
    Plays t k'.tiles (part.roles known) frag ∧
      Occupies k'.tiles k'.used (part.placed ++ known) := by
  induction hcode generalizing known with
  | constant hconst =>
      simp only [Part.roles, Stmt.roles, Part.placed, Stmt.placed, hconst, if_true]
      exact ⟨.nil, hready.occupies⟩
  | declare hconst hinit =>
      simp only [Part.roles, Stmt.roles, Part.placed, Stmt.placed, hconst, hinit,
        Bool.false_eq_true, if_false]
      exact ⟨.nil, hready.occupies.place _ _⟩
  | @define d k address e code hconst hinit _ hvalue =>
      simp only [Part.roles, Stmt.roles, Part.placed, Stmt.placed, hconst, hinit,
        Bool.false_eq_true, if_false, rolesOf, List.map_append]
      have hplaced := hready.occupies.place d.name address
      have htile : (k.place d.name address).tiles.get? d.name = some address :=
        (Assoc.get?_put ..).trans (if_pos rfl)
      refine ⟨(value_plays hvalue hplaced).append (.cons (.stores ?_) .nil), hplaced⟩
      exact .placed List.mem_cons_self htile
  | expr heffect => exact ⟨effect_plays heffect hready.occupies, hready.occupies⟩
  | ifTrue _ ih => exact ih hready
  | ifFalse => exact ⟨.nil, hready.occupies⟩
  | ifThen hbool hcond hbody ih =>
      obtain ⟨hplays, hoccupies⟩ := ih (hready.relabel _)
      have hkeeps := ((hready.relabel _).stock hbody rfl).2.keeps
      simp only [Part.roles, Stmt.roles, Part.placed, Stmt.placed, literal?_eq_none hbool,
        reduceCtorEq, if_false]
      exact ⟨((cond_plays hcond hready.occupies).mono hkeeps).append (hplays.labelled _), hoccupies⟩
  | elseTrue _ ih => exact ih hready.left
  | elseFalse _ ih => exact ih hready.right
  | @ifElse cond body other line k code n code' k' code'' k'' hbool hcond hbody hother ihb iho =>
      have hready1 := hready.relabel n
      obtain ⟨hplays1, hoccupies1⟩ := ihb hready1.left
      obtain ⟨hsound1, hgrows1⟩ := hready1.left.stock hbody rfl
      have hready2 := (hready1.behind hsound1 hgrows1 hoccupies1).relabel (k'.labels + 1)
      obtain ⟨hplays2, hoccupies2⟩ := iho hready2
      have hkeeps2 := (hready2.stock hother rfl).2.keeps
      simp only [Part.roles, Stmt.roles, Part.placed, Stmt.placed, literal?_eq_none hbool]
      have hmem : ∀ y, y ∈ body.placed ++ other.placed ++ known
          ↔ y ∈ other.placed ++ (body.placed ++ known) := by grind
      refine ⟨?_, hoccupies2.of_mem hmem⟩
      refine ((cond_plays hcond hready.occupies).mono ?_).append
        ((hplays1.mono hkeeps2).append (.cons .jump ((hplays2.labelled _).label _)))
      exact fun x a hx => hkeeps2 x a (hgrows1.keeps x a hx)
  | forever hbody ih =>
      obtain ⟨hplays, hoccupies⟩ := ih (hready.relabel _)
      exact ⟨(hplays.append (.cons .jump .nil)).label _, hoccupies⟩
  | never => exact ⟨.nil, hready.occupies⟩
  | whileDo hbool hcond hbody ih =>
      obtain ⟨hplays, hoccupies⟩ := ih (hready.relabel _)
      have hkeeps := ((hready.relabel _).stock hbody rfl).2.keeps
      simp only [Part.roles, Stmt.roles, Part.placed, Stmt.placed, literal?_eq_none hbool,
        reduceCtorEq, if_false]
      refine ⟨(((cond_plays hcond hready.occupies).mono hkeeps).append (hplays.append ?_)).label _,
        hoccupies⟩
      exact .cons .jump (Plays.nil.label _)
  | block _ ih => exact ih hready
  | done => exact ⟨.nil, hready.occupies⟩
  | @next s rest k code k' code' k'' hs hrest ihs ihr =>
      obtain ⟨hplays1, hoccupies1⟩ := ihs hready.left
      obtain ⟨hsound1, hgrows1⟩ := hready.left.stock hs rfl
      have hready2 := hready.behind hsound1 hgrows1 hoccupies1
      obtain ⟨hplays2, hoccupies2⟩ := ihr hready2
      have hkeeps2 := (hready2.stock hrest rfl).2.keeps
      have hmem : ∀ y, y ∈ s.placed ++ placedAll rest ++ known
          ↔ y ∈ placedAll rest ++ (s.placed ++ known) := by grind
      exact ⟨(hplays1.mono hkeeps2).append hplays2, hoccupies2.of_mem hmem⟩

/-- An accepted program declares each name once. -/
lemma lower_ready {size : Int} {program : List Stmt}
    (haccepted : (check size program).diagnostics = []) :
    Ready ⟨(check size program).symbols, size⟩ ⟨[], [], 0⟩ (declaredAll program) [] :=
  ⟨Stock.sound_empty _, (check_proper haccepted).2.1, fun _ _ => rfl, by simp, by simp [Assoc.get?]⟩

/-- **Programs.**  The instructions of a compiled listing serve the roles of the program. -/
theorem lower_plays {size : Int} {program : List Stmt} {final : Lowering}
    (haccepted : (check size program).diagnostics = [])
    (hlower : lower size (check size program).symbols program = (none, final)) :
    Plays ⟨(check size program).symbols, size⟩ final.tiles (rolesAll [] program) final.ops ∧
      Occupies final.tiles final.used (placedAll program) := by
  have hplays := stmt_plays (lower_code hlower) (lower_ready haccepted)
  rwa [List.append_nil] at hplays

end Code

end Mailroom.Source
