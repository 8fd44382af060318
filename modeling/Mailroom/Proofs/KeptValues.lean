import Mathlib
import Mailroom.Proofs.Declarations
import Mailroom.Proofs.Passages
import Mailroom.Proofs.Roles
import Mailroom.Proofs.Safety

/-!
# How long variables keep their values

A variable has a tile of its own, which is never taken back.  Without pointers, what lies there
changes when the variable is written to, and in one other way.  Before the variable was declared a
value in between may have been put on the same tile.  If the declaration stands in a loop, a run
comes back to the place of that value, and the value is put there again.

Which instructions use a variable and which ones write to it is read off the program (`rolesAll`),
and the instructions do just that (`lower_plays`).

- `recurringAll`: the variables that are declared in loops.
- `spillsOnto`: an instruction puts a value in between on the tile of a variable, at a place where
  the variable is not known yet.
- `stmt_divides`: other variables are known wherever a run comes to once they have been.
- `value_kept`: so a variable keeps its value until it is next written to, unless it is declared in
  a loop and a value in between has been put on its tile since.
-/

namespace Mailroom.Source

/-! ## Where variables are declared -/

mutual

/-- The variables that a statement declares in loops. -/
def Stmt.recurring : Stmt → List String
  | .decl _ | .expr _ _ => []
  | .ifThen _ body _ => body.recurring
  | .ifElse _ body other _ => body.recurring ++ other.recurring
  | .whileDo _ body _ => body.declared
  | .block body _ => recurringAll body

/-- The variables that statements declare in loops. -/
def recurringAll : List Stmt → List String
  | [] => []
  | s :: rest => s.recurring ++ recurringAll rest

end

/-- The variables that a part of a program declares in loops. -/
def Part.recurring : Part → List String
  | .one s => s.recurring
  | .many body => recurringAll body

mutual

/-- What gets a tile has been declared as a variable. -/
lemma Stmt.placed_decl : ∀ (s : Stmt), ∀ x ∈ s.placed,
    ∃ d ∈ s.decls, d.name = x ∧ d.constant = false
  | .decl d, x, hx => by
      rw [Stmt.placed] at hx
      split at hx
      · cases hx
      · rename_i hconst
        exact ⟨d, List.mem_cons_self, (List.mem_singleton.mp hx).symm, by simpa using hconst⟩
  | .expr _ _, _, hx => by cases hx
  | .ifThen cond body _, x, hx => by
      have := body.placed_decl x
      grind [Stmt.placed, Stmt.decls]
  | .whileDo cond body _, x, hx => by
      have := body.placed_decl x
      grind [Stmt.placed, Stmt.decls]
  | .ifElse cond body other _, x, hx => by
      have := body.placed_decl x
      have := other.placed_decl x
      grind [Stmt.placed, Stmt.decls]
  | .block body _, x, hx => placedAll_decl body x hx

lemma placedAll_decl : ∀ (body : List Stmt), ∀ x ∈ placedAll body,
    ∃ d ∈ declsAll body, d.name = x ∧ d.constant = false
  | [], _, hx => by cases hx
  | s :: rest, x, hx => by
      have := s.placed_decl x
      have := placedAll_decl rest x
      grind [placedAll, declsAll]

end

mutual

lemma Stmt.declared_eq : ∀ (s : Stmt), s.declared = s.decls.map (·.name)
  | .decl _ | .expr _ _ => rfl
  | .ifThen _ body _ | .whileDo _ body _ => body.declared_eq
  | .ifElse _ body other _ => by
      rw [Stmt.declared, Stmt.decls, List.map_append, body.declared_eq, other.declared_eq]
  | .block body _ => declaredAll_eq body

lemma declaredAll_eq : ∀ (body : List Stmt), declaredAll body = (declsAll body).map (·.name)
  | [] => rfl
  | s :: rest => by
      rw [declaredAll, declsAll, List.map_append, s.declared_eq, declaredAll_eq rest]

end

lemma Stmt.placed_subset (s : Stmt) : s.placed ⊆ s.declared := by
  intro x hx
  obtain ⟨d, hd, rfl, -⟩ := s.placed_decl x hx
  rw [s.declared_eq]
  exact List.mem_map_of_mem hd

lemma Part.placed_subset (part : Part) : part.placed ⊆ part.declared := by
  cases part with
  | one s => exact s.placed_subset
  | many body =>
      intro x hx
      obtain ⟨d, hd, rfl, -⟩ := placedAll_decl body x hx
      rw [Part.declared, declaredAll_eq]
      exact List.mem_map_of_mem hd

lemma rolesOf_known {known : List String} {uses : List Use} {role : Role}
    (h : role ∈ rolesOf known uses) : role.known = known := by
  obtain ⟨use, -, rfl⟩ := List.mem_map.mp h
  rfl

mutual

/-- What is known in a statement was known before or gets a tile there. -/
lemma Stmt.roles_known : ∀ (s : Stmt) (known : List String), ∀ role ∈ s.roles known,
    known ⊆ role.known ∧ role.known ⊆ s.placed ++ known
  | .decl d, known => by
      rw [Stmt.roles, Stmt.placed]
      split
      · rename_i hconst hinit
        intro role hrole
        rw [rolesOf_known hrole, hconst]
        simp
      · simp
  | .expr e _, known => by
      intro role hrole
      rw [rolesOf_known hrole]
      simp
  | .ifThen cond body _, known => by
      have := body.roles_known known
      rw [Stmt.roles, Stmt.placed]
      split <;> grind [rolesOf_known]
  | .whileDo cond body _, known => by
      have := body.roles_known known
      rw [Stmt.roles, Stmt.placed]
      split <;> grind [rolesOf_known]
  | .ifElse cond body other _, known => by
      have := body.roles_known known
      have := other.roles_known known
      have := other.roles_known (body.placed ++ known)
      rw [Stmt.roles, Stmt.placed]
      split <;> grind [rolesOf_known]
  | .block body _, known => rolesAll_known body known

lemma rolesAll_known : ∀ (body : List Stmt) (known : List String), ∀ role ∈ rolesAll known body,
    known ⊆ role.known ∧ role.known ⊆ placedAll body ++ known
  | [], _ => by simp [rolesAll]
  | s :: rest, known => by
      have := s.roles_known known
      have := rolesAll_known rest (s.placed ++ known)
      grind [rolesAll, placedAll]

end

/-! ## The place where a variable becomes known -/

/-- The instructions of a listing are divided by a variable: it is unknown in front and known
behind, and no jump leads from behind to the front. -/
structure Divided (x : String) (front back : List Role) (pre post : List Op) : Prop where
  aligned : front.length = (instrs pre).length
  unknown : ∀ role ∈ front, x ∉ role.known
  known : ∀ role ∈ back, x ∈ role.known
  closed : ∀ op ∈ post, JumpsTo (labelNames post) op

/-- A variable divides a listing with the roles of its instructions. -/
def Divides (x : String) (roles : List Role) (code : List Op) : Prop :=
  ∃ front back pre post, roles = front ++ back ∧ code = pre ++ post ∧ Divided x front back pre post

section Divides

variable {x : String} {roles roles' : List Role} {code code' : List Op}

/-- A variable that is known throughout. -/
lemma divides_known (hknown : ∀ role ∈ roles, x ∈ role.known)
    (hclosed : ∀ op ∈ code, JumpsTo (labelNames code) op) : Divides x roles code :=
  ⟨[], roles, [], code, rfl, rfl, rfl, by simp, hknown, hclosed⟩

lemma Divides.prepend (h : Divides x roles code) (hlength : roles'.length = (instrs code').length)
    (hunknown : ∀ role ∈ roles', x ∉ role.known) : Divides x (roles' ++ roles) (code' ++ code) := by
  obtain ⟨front, back, pre, post, rfl, rfl, hdivided⟩ := h
  refine ⟨roles' ++ front, back, code' ++ pre, post, by simp, by simp, ?_, ?_, hdivided.known,
    hdivided.closed⟩
  · rw [instrs_append, List.length_append, List.length_append, hlength, hdivided.aligned]
  · exact List.forall_mem_append.mpr ⟨hunknown, hdivided.unknown⟩

lemma Divides.append (h : Divides x roles code) (hknown : ∀ role ∈ roles', x ∈ role.known)
    (hclosed : ∀ op ∈ code', JumpsTo (labelNames code') op) :
    Divides x (roles ++ roles') (code ++ code') := by
  obtain ⟨front, back, pre, post, rfl, rfl, hdivided⟩ := h
  refine ⟨front, back ++ roles', pre, post ++ code', by simp, by simp, hdivided.aligned,
    hdivided.unknown, List.forall_mem_append.mpr ⟨hdivided.known, hknown⟩, ?_⟩
  rw [labelNames_append, List.forall_mem_append]
  exact ⟨fun op hop => (hdivided.closed op hop).mono (List.subset_append_left _ _),
    fun op hop => (hclosed op hop).mono (List.subset_append_right _ _)⟩

lemma Divides.labelled (h : Divides x roles code) (name : String) :
    Divides x roles (code ++ [.label name]) := by
  have hlabel : Divides x (roles ++ []) (code ++ [.label name]) :=
    h.append (by simp) (by simp [JumpsTo])
  rwa [List.append_nil] at hlabel

end Divides

section Code

variable {t : Target} {k k' : Stock} {frag : List Op} {known : List String}

/-- What can still be declared is not known. -/
lemma Ready.unknown {names : List String} (h : Ready t k names known) {x : String}
    (hx : x ∈ names) : x ∉ known := by
  intro hknown
  obtain ⟨a, -, hget⟩ := h.occupies.placed x hknown
  rw [h.lacks x hx] at hget
  cases hget

/-- **Places.**  A variable that is declared outside loops divides the code. -/
lemma stmt_divides {part : Part} (hcode : StmtCode t part k frag k')
    (hready : Ready t k part.declared known) {x : String} (hplaced : x ∈ part.placed)
    (honce : x ∉ part.recurring) : Divides x (part.roles known) frag := by
  have hclosed := stmt_jumps hcode
  induction hcode generalizing known with
  | constant hconst => simp [Part.placed, Stmt.placed, hconst] at hplaced
  | @declare d k address hconst hinit _ =>
      simp only [Part.roles, Stmt.roles, hconst, hinit]
      exact divides_known (by simp) (by simp)
  | @define d k address e code hconst hinit hfresh hvalue =>
      simp only [Part.placed, Stmt.placed, hconst, Bool.false_eq_true, if_false,
        List.mem_singleton] at hplaced
      simp only [Part.roles, Stmt.roles, hconst, hinit]
      refine divides_known (fun role hrole => ?_) hclosed
      rw [rolesOf_known hrole, hplaced]
      exact List.mem_cons_self
  | expr => simp [Part.placed, Stmt.placed] at hplaced
  | ifTrue _ ih => exact ih hready hplaced honce hclosed
  | ifFalse => simp [Part.placed, Stmt.placed, Expr.literal?] at hplaced
  | @ifThen cond body line k code n code' k' hbool hcond hbody ih =>
      have hunknown := hready.unknown (Part.placed_subset _ hplaced)
      simp only [Part.placed, Stmt.placed, literal?_eq_none hbool, reduceCtorEq, if_false]
        at hplaced
      have hdivides := ih (hready.relabel n) hplaced honce (stmt_jumps hbody)
      simp only [Part.roles, Stmt.roles, literal?_eq_none hbool]
      exact (hdivides.labelled _).prepend (cond_plays hcond hready.occupies).length
        fun role hrole => rolesOf_known hrole ▸ hunknown
  | elseTrue _ ih =>
      exact ih hready.left hplaced (fun h => honce (List.mem_append_left _ h)) hclosed
  | elseFalse _ ih =>
      exact ih hready.right hplaced (fun h => honce (List.mem_append_right _ h)) hclosed
  | @ifElse cond body other line k code n code' k' code'' k'' hbool hcond hbody hother ihb iho =>
      have hunknown := hready.unknown (Part.placed_subset _ hplaced)
      have hready1 := hready.relabel n
      obtain ⟨hplays1, hoccupies1⟩ := stmt_plays hbody hready1.left
      obtain ⟨hsound1, hgrows1⟩ := hready1.left.stock hbody rfl
      have hready2 := (hready1.behind hsound1 hgrows1 hoccupies1).relabel (k'.labels + 1)
      simp only [Part.placed, Stmt.placed, literal?_eq_none hbool, List.mem_append] at hplaced
      simp only [Part.recurring, Stmt.recurring, List.mem_append, not_or] at honce
      simp only [Part.roles, Stmt.roles, literal?_eq_none hbool]
      refine Divides.prepend ?_ (cond_plays hcond hready.occupies).length
        fun role hrole => rolesOf_known hrole ▸ hunknown
      rcases hplaced with hplaced | hplaced
      · -- declared in the first branch, so known in the other one
        have hdivides := ihb hready1.left hplaced honce.1 (stmt_jumps hbody)
        have hknown : x ∈ body.placed ++ known := List.mem_append_left _ hplaced
        refine hdivides.append (List.forall_mem_cons.mpr ⟨hknown, fun role hrole => ?_⟩) ?_
        · exact (other.roles_known _ role hrole).1 hknown
        · have hjumps := stmt_jumps hother
          simp only [List.forall_mem_cons, List.forall_mem_append]
          refine ⟨?_, trivial, fun op hop => (hjumps op hop).mono ?_, trivial, by simp⟩
          · simp [jumpTo, JumpsTo, labelNames]
          · grind [labelNames_append, labelNames, jumpTo]
      · -- declared in the second branch, so unknown in the first one
        have hunknown' : x ∉ body.placed ++ known := hready2.unknown (other.placed_subset hplaced)
        have hdivides := iho hready2 hplaced honce.2 (stmt_jumps hother)
        have hjump : Plays t k'.tiles [⟨.other, body.placed ++ known⟩]
            [jumpTo .always (labelAt "endif" (k'.labels + 1)),
              .label (labelAt "else" (k.labels + 1))] :=
          .cons .jump (Plays.nil.label _)
        refine ((hdivides.labelled _).prepend hjump.length
          (List.forall_mem_singleton.mpr hunknown')).prepend hplays1.length ?_
        exact fun role hrole hx => hunknown' ((body.roles_known _ role hrole).2 hx)
  | @forever b body line k code k' hbody ih => exact absurd (body.placed_subset hplaced) honce
  | never => simp [Part.placed, Stmt.placed, Expr.literal?] at hplaced
  | @whileDo cond body line k code n code' k' hbool hcond hbody ih =>
      simp only [Part.placed, Stmt.placed, literal?_eq_none hbool, reduceCtorEq, if_false]
        at hplaced
      exact absurd (body.placed_subset hplaced) honce
  | block _ ih => exact ih hready hplaced honce hclosed
  | done => simp [Part.placed, placedAll] at hplaced
  | @next s rest k code k' code' k'' hs hrest ihs ihr =>
      obtain ⟨hplays1, hoccupies1⟩ := stmt_plays hs hready.left
      obtain ⟨hsound1, hgrows1⟩ := hready.left.stock hs rfl
      have hready2 := hready.behind hsound1 hgrows1 hoccupies1
      simp only [Part.placed, placedAll, List.mem_append] at hplaced
      simp only [Part.recurring, recurringAll, List.mem_append, not_or] at honce
      rcases hplaced with hplaced | hplaced
      · have hknown : x ∈ s.placed ++ known := List.mem_append_left _ hplaced
        refine (ihs hready.left hplaced honce.1 (stmt_jumps hs)).append ?_ (stmt_jumps hrest)
        exact fun role hrole => (rolesAll_known rest _ role hrole).1 hknown
      · have hunknown := hready2.unknown (Part.placed_subset (.many rest) hplaced)
        refine (ihr hready2 hplaced honce.2 (stmt_jumps hrest)).prepend hplays1.length ?_
        exact fun role hrole hx => hunknown ((s.roles_known _ role hrole).2 hx)

end Code

/-! ## Runs -/

section Runs

variable {x : String} {m m' : Machine}

/-- Behind the place where a variable becomes known, it is known. -/
lemma Divided.known_iff {front back : List Role} {pre post : List Op}
    (h : Divided x front back pre post) (pc : Nat) :
    (∀ role, (front ++ back)[pc]? = some role → x ∈ role.known) ↔ front.length ≤ pc := by
  constructor
  · intro hknown
    by_contra hpc
    rw [not_le] at hpc
    have hrole : (front ++ back)[pc]? = some front[pc] := by
      rw [List.getElem?_append_left hpc, List.getElem?_eq_getElem hpc]
    exact h.unknown _ (List.getElem_mem hpc) (hknown _ hrole)
  · intro hpc role hrole
    rw [List.getElem?_append_right hpc] at hrole
    exact h.known role (List.mem_of_getElem? hrole)

/-- No step leads from behind that place to the front. -/
lemma Divided.goes {front back : List Role} {pre post : List Op} {row : Row}
    (h : Divided x front back pre post) (hnodup : (labelNames (pre ++ post)).Nodup)
    (hloaded : Loaded m.program (pre ++ post)) (hgoes : m.Goes m' row)
    (hpc : front.length ≤ m.pc) : front.length ≤ m'.pc := by
  obtain ⟨way, hperform, ⟨-, hnext⟩ | ⟨label, rfl, haddress⟩⟩ := hgoes.desk
  · omega
  obtain ⟨-, kind, hjump⟩ := Desk.perform_taken hperform
  rw [h.aligned] at hpc ⊢
  have hpost : Op.instr (.jump kind label) ∈ post := by
    have hfetch := hloaded.fetch m.pc
    rw [hgoes.fetched, Option.map_some, hjump, instrs_append, List.getElem?_append_right hpc]
      at hfetch
    exact mem_instrs.mp (List.mem_of_getElem? hfetch.symm)
  have hlabel : after label post ≠ none := fun hnone => after_eq_none_iff.mp hnone (h.closed _ hpost)
  obtain ⟨rest, hrest⟩ := Option.ne_none_iff_exists'.mp hlabel
  have hsuffix := after_suffix hrest
  rw [hloaded.address, after_of_nodup hnodup (hsuffix.trans (List.suffix_append _ _)),
    Option.map_some, Option.some.injEq, instrs_append, List.length_append] at haddress
  have hle := instrs_length_le ((List.suffix_cons _ _).trans hsuffix)
  omega

/-- Once a variable that divides a listing is known, it is known on the whole trail. -/
lemma Divides.passes {roles : List Role} {code : List Op} {trail : List Nat}
    (h : Divides x roles code) (hnodup : (labelNames code).Nodup) (hloaded : Loaded m.program code)
    (hon : m.On) (hpasses : m.Passes trail m')
    (hknown : ∀ role, roles[m.pc]? = some role → x ∈ role.known) :
    (∀ role, roles[m'.pc]? = some role → x ∈ role.known) ∧
      ∀ pc ∈ trail, ∀ role, roles[pc]? = some role → x ∈ role.known := by
  obtain ⟨front, back, pre, post, rfl, rfl, hdivided⟩ := h
  simp only [hdivided.known_iff] at hknown ⊢
  induction hpasses with
  | start => exact ⟨hknown, by simp⟩
  | step hpasses hrunning ih =>
      obtain ⟨row, hgoes⟩ := Machine.step_goes (hpasses.on hon) hrunning
      rw [← (hpasses.kept hon).1] at hloaded
      exact ⟨hdivided.goes hnodup hloaded hgoes ih.1, List.forall_mem_cons.mpr ih⟩

end Runs

/-! ## The tile of a variable -/

/-- The variable whose value an instruction uses. -/
def Use.read? : Use → Option Var
  | .reads v | .bumps v => some v
  | _ => none

/-- Whether the instruction at an address uses the value of a variable. -/
def readsAt (program : List Stmt) (x : String) (pc : Nat) : Bool :=
  (rolesAll [] program)[pc]?.any fun role => role.use.read?.any (·.name = x)

/-- Whether the instruction at an address writes to a variable. -/
def writesAt (program : List Stmt) (x : String) (pc : Nat) : Bool :=
  (rolesAll [] program)[pc]?.any fun role => role.use.written?.any (·.name = x)

/-- Whether the instruction at an address puts a value in between on the tile of a variable, which
is not known there. -/
def spillsOnto (program : List Stmt) (final : Lowering) (x : String) (pc : Nat) : Bool :=
  ((rolesAll [] program)[pc]?.any fun role => role.use = .spills && !role.known.contains x) &&
    (final.tiles.get? x).any fun a => (instrs final.ops)[pc]? = some (.tile .copyTo ⟨a, false⟩)

lemma readsAt_iff {program : List Stmt} {x : String} {pc : Nat} : readsAt program x pc = true ↔
    ∃ role v, (rolesAll [] program)[pc]? = some role ∧ role.use.read? = some v ∧ v.name = x := by
  simp [readsAt, Option.any_eq_true]

lemma writesAt_iff {program : List Stmt} {x : String} {pc : Nat} : writesAt program x pc = true ↔
    ∃ role v, (rolesAll [] program)[pc]? = some role ∧ role.use.written? = some v ∧ v.name = x := by
  simp [writesAt, Option.any_eq_true]

lemma spillsOnto_iff {program : List Stmt} {final : Lowering} {x : String} {pc : Nat} :
    spillsOnto program final x pc = true ↔
      (∃ role, (rolesAll [] program)[pc]? = some role ∧ role.use = .spills ∧ x ∉ role.known) ∧
        ∃ a, final.tiles.get? x = some a ∧
          (instrs final.ops)[pc]? = some (.tile .copyTo ⟨a, false⟩) := by
  simp [spillsOnto, Option.any_eq_true]

lemma bump_takes (direction : Bump) : TileOp.takes (Bump.op direction) = false := by
  cases direction <;> rfl

section Variables

variable {size : Int} {program : List Stmt} {final : Lowering} {x : String} {a : Nat}
  (haccepted : (check size program).diagnostics = [])
  (hlower : lower size (check size program).symbols program = (none, final))

include haccepted hlower

/-- The operand of a variable is its tile, and the variable is known. -/
lemma denotes_variable (hx : final.tiles.get? x = some a) {known : List String} {v : Var} {y : Tile}
    (hdenotes : Denotes ⟨(check size program).symbols, size⟩ final.tiles known v y)
    (hname : v.name = x) : y = ⟨a, v.deref⟩ ∧ x ∈ known := by
  subst hname
  cases hdenotes with
  | constant hsym haddress =>
      have hplaced := (lower_plays haccepted hlower).2.known _ _ hx
      obtain ⟨d, hd, hname, hconst⟩ := placedAll_decl program _ hplaced
      rw [check_variable haccepted hd hconst (hname ▸ hsym)] at haddress
      cases haddress
  | placed hknown htile =>
      rw [hx] at htile
      cases htile
      exact ⟨rfl, hknown⟩

/-- Without pointers that are no constants, operands name their tiles. -/
lemma lower_direct (hpointers : ∀ d ∈ declsAll program, d.pointer = true → d.constant = true)
    {pc : Nat} {op : TileOp} {y : Tile} (hi : (instrs final.ops)[pc]? = some (.tile op y)) :
    y.indirect = false := by
  have hop := mem_instrs.mp (List.mem_of_getElem? hi)
  by_contra hindirect
  rw [Bool.not_eq_false] at hindirect
  obtain ⟨v, hv, hfollows⟩ := (lower_grounded haccepted hlower _ hop).2 hindirect
  obtain ⟨-, sym, hsym, hpointer, hconst⟩ := follows_pointer haccepted hv hfollows
  obtain ⟨d, hd, -, hfixed⟩ := check_symbol haccepted hsym
  have hconst' : sym.constant = d.constant := congrArg (·.2.1) hfixed
  have hpointer' : sym.pointer = d.pointer := congrArg (·.2.2) hfixed
  rw [hconst', hpointers d hd (hpointer' ▸ hpointer)] at hconst
  cases hconst

/-- Where a variable is written to, an instruction stores to its tile, and the variable is known. -/
lemma writesAt_stores {pc : Nat} (h : writesAt program x pc = true)
    (hx : final.tiles.get? x = some a) :
    (∃ op y, (instrs final.ops)[pc]? = some (.tile op y) ∧ op.takes = false ∧ y.address = a) ∧
      ∀ role, (rolesAll [] program)[pc]? = some role → x ∈ role.known := by
  obtain ⟨role, v, hrole, hwritten, hname⟩ := writesAt_iff.mp h
  obtain ⟨i, hi, hserves⟩ := (lower_plays haccepted hlower).1.served hrole
  simp only [hrole, Option.some.injEq, forall_eq']
  cases hserves with
  | stores hdenotes =>
      cases hwritten
      obtain ⟨rfl, hknown⟩ := denotes_variable haccepted hlower hx hdenotes hname
      exact ⟨⟨_, _, hi, rfl, rfl⟩, hknown⟩
  | bumps hdenotes =>
      cases hwritten
      obtain ⟨rfl, hknown⟩ := denotes_variable haccepted hlower hx hdenotes hname
      exact ⟨⟨_, _, hi, bump_takes _, rfl⟩, hknown⟩
  | reads | spills | recalls | inbox | outbox | jump => cases hwritten

/-- Where the value of a variable is used, an instruction takes it from its tile. -/
lemma readsAt_takes {pc : Nat} (h : readsAt program x pc = true)
    (hx : final.tiles.get? x = some a) :
    ∃ op y, (instrs final.ops)[pc]? = some (.tile op y) ∧ op ≠ .copyTo ∧ y.address = a := by
  obtain ⟨role, v, hrole, hread, hname⟩ := readsAt_iff.mp h
  obtain ⟨i, hi, hserves⟩ := (lower_plays haccepted hlower).1.served hrole
  cases hserves with
  | reads hop hdenotes =>
      cases hread
      obtain ⟨rfl, -⟩ := denotes_variable haccepted hlower hx hdenotes hname
      exact ⟨_, _, hi, (by rintro rfl; cases hop), rfl⟩
  | @bumps v known direction y hdenotes =>
      cases hread
      obtain ⟨rfl, -⟩ := denotes_variable haccepted hlower hx hdenotes hname
      exact ⟨_, _, hi, by cases direction <;> simp [Bump.op], rfl⟩
  | stores | spills | recalls | inbox | outbox | jump => cases hread

/-- **Stores.**  An instruction that stores to the tile of a variable writes to the variable, or
comes before it is known. -/
lemma stores_variable (hx : final.tiles.get? x = some a) {pc : Nat} {op : TileOp} {y : Tile}
    (hi : (instrs final.ops)[pc]? = some (.tile op y)) (hop : op.takes = false)
    (hy : y.address = a) : writesAt program x pc = true ∨ spillsOnto program final x pc = true := by
  have hsound := lower_sound haccepted hlower
  obtain ⟨role, hrole, hserves⟩ := (lower_plays haccepted hlower).1.serves hi
  -- no other variable has the tile, and no constant names it
  have hvariable : ∀ {known v}, Denotes ⟨(check size program).symbols, size⟩ final.tiles known v y →
      v.name = x := by
    intro known v hdenotes
    cases hdenotes with
    | constant hsym haddress =>
        refine absurd ?_ (hsound.free _ (hsound.inUse _ _ hx)).1
        rw [← hy]
        exact List.mem_filterMap.mpr ⟨_, Assoc.mem_of_get? hsym, haddress⟩
    | placed _ htile =>
        rw [← hy] at hx
        exact hsound.apart _ _ _ htile hx
  cases hserves with
  | reads htakes => rw [htakes] at hop; cases hop
  | recalls htakes => rw [htakes] at hop; cases hop
  | stores hdenotes => exact .inl (writesAt_iff.mpr ⟨_, _, hrole, rfl, hvariable hdenotes⟩)
  | bumps hdenotes => exact .inl (writesAt_iff.mpr ⟨_, _, hrole, rfl, hvariable hdenotes⟩)
  | spills hspare =>
      subst hy
      refine .inr (spillsOnto_iff.mpr ⟨⟨_, hrole, rfl, fun hknown => ?_⟩, _, hx, hi⟩)
      obtain ⟨b, hb, hne⟩ := hspare.apart x hknown
      rw [hx] at hb
      cases hb
      exact hne rfl

/-- A variable that is declared outside loops divides the listing. -/
lemma lower_divides (hx : final.tiles.get? x = some a) (honce : x ∉ recurringAll program) :
    Divides x (rolesAll [] program) final.ops :=
  stmt_divides (lower_code hlower) (lower_ready haccepted)
    ((lower_plays haccepted hlower).2.known x a hx) honce

section Passages

variable {m m' : Machine} {trail : List Nat} (hloaded : Loaded m.program final.ops) (hon : m.On)
  (hpasses : m.Passes trail m') (hx : final.tiles.get? x = some a)

include hloaded hon hx

/-- What has been written to a variable lies on its tile. -/
lemma writesAt_lands (hpointers : ∀ d ∈ declsAll program, d.pointer = true → d.constant = true)
    (h : writesAt program x m.pc = true) (hrunning : m.step.outcome = .running) :
    ∃ v, m.step.machine.hand = some v ∧ m.step.machine.floor.get a = .ok v := by
  obtain ⟨⟨op, y, hi, hop, rfl⟩, -⟩ := writesAt_stores haccepted hlower h hx
  obtain ⟨row, hgoes⟩ := Machine.step_goes hon hrunning
  have hrow : row.instr = .tile op y := by
    rwa [← hloaded.fetch, hgoes.fetched, Option.map_some, Option.some.injEq] at hi
  have hdirect := lower_direct haccepted hlower hpointers hi
  obtain ⟨hhas, v, hfloor, hhand⟩ := hgoes.stores hrow hop hdirect
  exact ⟨v, hhand, by rw [hfloor, Floor.get_put_self v hhas]⟩

include hpasses

/-- A variable that is not written to keeps its value, unless a value in between is put on its
tile. -/
lemma kept_or_spilled (hpointers : ∀ d ∈ declsAll program, d.pointer = true → d.constant = true)
    (hquiet : ∀ pc ∈ trail, writesAt program x pc = false) :
    m'.floor.get a = m.floor.get a ∨ ∃ pc ∈ trail, spillsOnto program final x pc = true := by
  rw [or_iff_not_imp_right]
  intro hnone
  refine hpasses.floor_get hon fun pc hpc row hrow op y hinstr hop => ?_
  have hi : (instrs final.ops)[pc]? = some (.tile op y) := by
    rw [← hloaded.fetch, hrow, Option.map_some, hinstr]
  refine ⟨lower_direct haccepted hlower hpointers hi, fun hy => ?_⟩
  rcases stores_variable haccepted hlower hx hi hop (Int.ofNat_inj.mp hy) with hwrites | hspills
  · exact absurd hwrites (by simp [hquiet pc hpc])
  · exact hnone ⟨pc, hpc, hspills⟩

/-- No value in between is put on the tile of a variable that is declared outside loops, once it is
known. -/
lemma unspilled (honce : x ∉ recurringAll program)
    (hknown : ∀ role, (rolesAll [] program)[m.pc]? = some role → x ∈ role.known) :
    ∀ pc ∈ trail, spillsOnto program final x pc = false := by
  have htrail := ((lower_divides haccepted hlower hx honce).passes (lower_nodup hlower) hloaded hon
    hpasses hknown).2
  intro pc hpc
  by_contra hspills
  obtain ⟨⟨role, hrole, -, hunknown⟩, -⟩ := spillsOnto_iff.mp (Bool.not_eq_false _ ▸ hspills)
  exact hunknown (htrail pc hpc role hrole)

end Passages

end Variables

/-- **Variables keep their values.**  Take an accepted program whose pointers are constants, and a
run of its listing.  When a variable has been written to, its tile holds the value that was written.
As long as it is not written to again, the instructions that use its value take what is on that
tile, and that is still the value written, unless the variable is declared in a loop and a value in
between has been put on its tile since, where the variable is not known. -/
theorem value_kept {size : Int} {program : List Stmt} {final : Lowering}
    (haccepted : (check size program).diagnostics = [])
    (hlower : lower size (check size program).symbols program = (none, final))
    (hpointers : ∀ d ∈ declsAll program, d.pointer = true → d.constant = true)
    {m loaded : Machine} (hload : m.load (render final.ops) = (loaded, none))
    {x : String} {a : Nat} (hx : final.tiles.get? x = some a)
    {trail : List Nat} {m1 : Machine} (hpasses : loaded.Passes trail m1)
    (hwrites : writesAt program x m1.pc = true) (hrunning : m1.step.outcome = .running)
    {trail' : List Nat} {m2 : Machine} (hlater : m1.step.machine.Passes trail' m2)
    (hquiet : ∀ pc ∈ trail', writesAt program x pc = false) :
    ∃ v, m1.step.machine.hand = some v ∧ m1.step.machine.floor.get a = .ok v ∧
      (readsAt program x m2.pc = true → ∃ op, op ≠ .copyTo ∧
        (m2.program.fetch? m2.pc).map (·.instr) = some (.tile op ⟨a, false⟩)) ∧
      (m2.floor.get a = .ok v ∨
        x ∈ recurringAll program ∧ ∃ pc ∈ trail', spillsOnto program final x pc = true) := by
  have hon := (Machine.load_ok hload).on
  have hon1 := hpasses.on hon
  have hloaded := Machine.load_loaded (lower_spelled hlower) hload
  rw [← (hpasses.kept hon).1] at hloaded
  -- the state behind the write
  have hwritten : m1.Passes [m1.pc] m1.step.machine := .step .start hrunning
  have hloaded' := hloaded
  rw [← (hwritten.kept hon1).1] at hloaded'
  obtain ⟨v, hhand, hfloor⟩ := writesAt_lands haccepted hlower hloaded hon1 hx hpointers hwrites
    hrunning
  refine ⟨v, hhand, hfloor, fun hreads => ?_, ?_⟩
  · obtain ⟨op, ⟨address, indirect⟩, hi, hop, rfl⟩ := readsAt_takes haccepted hlower hreads hx
    cases lower_direct haccepted hlower hpointers hi
    rw [(hlater.kept (hwritten.on hon1)).1, hloaded'.fetch, hi]
    exact ⟨op, hop, rfl⟩
  · have hon2 := hwritten.on hon1
    rcases kept_or_spilled haccepted hlower hloaded' hon2 hlater hx hpointers hquiet with
      hkept | hspills
    · exact .inl (hkept.trans hfloor)
    · refine .inr ⟨?_, hspills⟩
      by_contra honce
      have hknown := (writesAt_stores haccepted hlower hwrites hx).2
      have hknown' := ((lower_divides haccepted hlower hx honce).passes (lower_nodup hlower) hloaded
        hon1 hwritten hknown).1
      obtain ⟨pc, hpc, hspill⟩ := hspills
      have hnone := unspilled haccepted hlower hloaded' hon2 hlater hx honce hknown' pc hpc
      simp [hnone] at hspill

/-- A variable on tile 0 is bumped while its old value waits on tile 1: between the two it still
holds the 5 that was written. -/
theorem value_kept_spill :
    let program : List Stmt := [.decl ⟨"x", false, false, some (.call "input" 1), 1⟩,
      .expr (.callWith "output" (.bump ⟨"x", false, 1⟩ .up true 1) 1) 1]
    let m : Machine := { floor := .ofSize 2, inbox := .ofValues [5], maxSteps := 9 }
    ∃ final loaded m1 m2, (check 2 program).diagnostics = [] ∧
      lower 2 (check 2 program).symbols program = (none, final) ∧
      (∀ d ∈ declsAll program, d.pointer = true → d.constant = true) ∧
      m.load (render final.ops) = (loaded, none) ∧ final.tiles.get? "x" = some 0 ∧
      loaded.Passes [0] m1 ∧ writesAt program "x" m1.pc = true ∧ m1.step.outcome = .running ∧
      m1.step.machine.Passes [3, 2] m2 ∧ (∀ pc ∈ [3, 2], writesAt program "x" pc = false) ∧
      readsAt program "x" m2.pc = true ∧ m2.floor.get 0 = .ok 5 := by
  intro program m
  have haccepted : (check 2 program).diagnostics = [] := by cbv
  have hpointers : ∀ d ∈ declsAll program, d.pointer = true → d.constant = true := by decide
  have hquiet : ∀ pc ∈ [3, 2], writesAt program "x" pc = false := by decide
  obtain ⟨final, hlower, hx, hrun⟩ : ∃ final,
      lower 2 (check 2 program).symbols program = (none, final) ∧ final.tiles.get? "x" = some 0 ∧
      (fun r : Machine × Option LineError => r.2 = none ∧ (r.1.travel 1).1 = [0] ∧
        (r.1.travel 1).2.pc = 1 ∧ (r.1.travel 1).2.step.outcome = .running ∧
        (r.1.travel 1).2.step.machine.hand = some 5 ∧
        ((r.1.travel 1).2.step.machine.travel 2).1 = [3, 2] ∧
        ((r.1.travel 1).2.step.machine.travel 2).2.pc = 4) (m.load (render final.ops)) :=
    ⟨⟨[.instr .inbox, .instr (.tile .copyTo ⟨0, false⟩), .instr (.tile .copyFrom ⟨0, false⟩),
        .instr (.tile .copyTo ⟨1, false⟩), .instr (.tile .bumpUp ⟨0, false⟩),
        .instr (.tile .copyFrom ⟨1, false⟩), .instr .outbox], [("x", 0)], [0], 0⟩,
      by cbv, by cbv, by cbv⟩
  rcases hload : m.load (render final.ops) with ⟨loaded, error⟩
  rw [hload] at hrun
  obtain ⟨rfl, htrail, hpc, hrunning, hhand, htrail', hpc'⟩ := hrun
  have hpasses := loaded.passes_travel 1
  have hlater := (loaded.travel 1).2.step.machine.passes_travel 2
  have hwrites : writesAt program "x" (loaded.travel 1).2.pc = true := by
    rw [hpc]
    decide
  have hreads : readsAt program "x" ((loaded.travel 1).2.step.machine.travel 2).2.pc = true := by
    rw [hpc']
    decide
  rw [htrail] at hpasses
  rw [htrail'] at hlater
  obtain ⟨v, hv, -, -, hkept | ⟨hrecurring, -⟩⟩ := value_kept haccepted hlower hpointers hload hx
    hpasses hwrites hrunning hlater hquiet
  · rw [hhand] at hv
    cases hv
    exact ⟨final, loaded, _, _, haccepted, hlower, hpointers, hload, hx, hpasses, hwrites, hrunning,
      hlater, hquiet, hreads, hkept⟩
  · exact absurd hrecurring (by decide)

/-- A variable that is declared in a loop.  The first round writes 7 to it.  The second one does not
write to it, but puts a value in between on its tile before the declaration, and then sends that
value, which is 5. -/
theorem value_lost :
    let text := "while(true){int a=input();output(a-input());if(a==0){int x=input();}output(x);}"
    let m : Machine := { floor := .ofSize 100, inbox := .ofValues [0, 5, 7, 1, 5], maxSteps := 99 }
    ∃ program final loaded m1 trail m2, parse text.toList = .ok program ∧
      (check 100 program).diagnostics = [] ∧
      lower 100 (check 100 program).symbols program = (none, final) ∧
      (∀ d ∈ declsAll program, d.pointer = false) ∧
      m.load (render final.ops) = (loaded, none) ∧ final.tiles.get? "x" = some 1 ∧
      (∃ trail, loaded.Passes trail m1) ∧ writesAt program "x" m1.pc = true ∧
      m1.step.outcome = .running ∧ m1.step.machine.hand = some 7 ∧
      m1.step.machine.Passes trail m2 ∧ (∀ pc ∈ trail, writesAt program "x" pc = false) ∧
      readsAt program "x" m2.pc = true ∧ m2.floor.get 1 = .ok 5 ∧
      loaded.run.2.emitted = #[-5, 7, -4, 5] := by
  intro text m
  obtain ⟨program, hparse, haccepted, hpointers, hwrites, hquiet, hreads, final, hlower, hx, hrun⟩ :
      ∃ program, parse
          "while(true){int a=input();output(a-input());if(a==0){int x=input();}output(x);}".toList
            = .ok program ∧
        (check 100 program).diagnostics = [] ∧ (∀ d ∈ declsAll program, d.pointer = false) ∧
        writesAt program "x" 11 = true ∧
        (∀ pc ∈ [9, 8, 7, 6, 5, 4, 3, 2, 1, 0, 14, 13, 12], writesAt program "x" pc = false) ∧
        readsAt program "x" 12 = true ∧
        ∃ final, lower 100 (check 100 program).symbols program = (none, final) ∧
          final.tiles.get? "x" = some 1 ∧
          (fun r : Machine × Option LineError => r.2 = none ∧ (r.1.travel 10).2.pc = 11 ∧
            (r.1.travel 10).2.step.outcome = .running ∧
            (r.1.travel 10).2.step.machine.hand = some 7 ∧
            ((r.1.travel 10).2.step.machine.travel 13).1
              = [9, 8, 7, 6, 5, 4, 3, 2, 1, 0, 14, 13, 12] ∧
            ((r.1.travel 10).2.step.machine.travel 13).2.pc = 12 ∧
            ((r.1.travel 10).2.step.machine.travel 13).2.floor.get 1 = .ok 5 ∧
            r.1.run.2.emitted = #[-5, 7, -4, 5]) (m.load (render final.ops)) :=
    ⟨[.whileDo (.bool true 1) (.block [
        .decl ⟨"a", false, false, some (.call "input" 1), 1⟩,
        .expr (.callWith "output" (.sum .minus (.var ⟨"a", false, 1⟩) (.call "input" 1) 1) 1) 1,
        .ifThen (.compare .eq (.var ⟨"a", false, 1⟩) (.num 0 1) 1)
          (.block [.decl ⟨"x", false, false, some (.call "input" 1), 1⟩] 1) 1,
        .expr (.callWith "output" (.var ⟨"x", false, 1⟩) 1) 1] 1) 1],
      by cbv, by cbv, by decide, by decide, by decide, by decide,
      ⟨[.label "loop1", .instr .inbox, .instr (.tile .copyTo ⟨0, false⟩), .instr .inbox,
          .instr (.tile .copyTo ⟨1, false⟩), .instr (.tile .copyFrom ⟨0, false⟩),
          .instr (.tile .sub ⟨1, false⟩), .instr .outbox, .instr (.tile .copyFrom ⟨0, false⟩),
          .instr (.jump .ifZero "skip3"), .instr (.jump .always "else2"), .label "skip3",
          .instr .inbox, .instr (.tile .copyTo ⟨1, false⟩), .label "else2",
          .instr (.tile .copyFrom ⟨1, false⟩), .instr .outbox, .instr (.jump .always "loop1")],
        [("a", 0), ("x", 1)], [1, 0], 3⟩, by cbv, by cbv, by cbv⟩
  rcases hload : m.load (render final.ops) with ⟨loaded, error⟩
  rw [hload] at hrun
  obtain ⟨rfl, hpc, hrunning, hhand, htrail, hpc', hlost, hsent⟩ := hrun
  refine ⟨program, final, loaded, (loaded.travel 10).2, _, _, hparse, haccepted, hlower, hpointers,
    hload, hx, ⟨_, loaded.passes_travel 10⟩, hpc ▸ hwrites, hrunning, hhand,
    (loaded.travel 10).2.step.machine.passes_travel 13, htrail ▸ hquiet, hpc' ▸ hreads, hlost,
    hsent⟩

end Mailroom.Source
