import Mathlib
import Mailroom.Proofs.Declarations
import Mailroom.Proofs.Passages
import Mailroom.Proofs.Roles
import Mailroom.Proofs.Safety

/-!
# Constant tiles stay constant

A program changes what lies on a tile by assigning to a variable, by bumping one, or by putting a
value in between there.  If it follows no pointer in order to write, all of these are tiles that have
been given out, and neither a tile that a constant names nor one beyond the floor that the program
was compiled for is ever given out.  So these hold the same in every state that a run comes to.

- `writtenAll`: the variables that a program writes to.
- `lower_stores`: where the instructions of a compiled listing store to.
- `compile_keeps`: what the runs of a compiled listing leave alone.
-/

namespace Mailroom.Source

/-! ## What a program writes to -/

mutual

/-- The variables that an expression writes to. -/
def Expr.written : Expr → List Var
  | .num _ _ | .bool _ _ | .call _ _ | .var _ => []
  | .callWith _ arg _ => arg.written
  | .assign target e _ => target :: e.written
  | .bump target _ _ _ => [target]
  | .sum _ left right _ | .compare _ left right _ => left.written ++ right.written
  | .logical _ first others _ => first.written ++ others.written

/-- The variables that conditions write to. -/
def Operands.written : Operands → List Var
  | .last e => e.written
  | .more e others => e.written ++ others.written

end

mutual

/-- The variables that a statement writes to. -/
def Stmt.written : Stmt → List Var
  | .decl d =>
    match d.constant, d.init with
    | false, some e => ⟨d.name, false, d.line⟩ :: e.written
    | _, _ => []
  | .expr e _ => e.written
  | .ifThen cond body _ | .whileDo cond body _ => cond.written ++ body.written
  | .ifElse cond body other _ => cond.written ++ (body.written ++ other.written)
  | .block body _ => writtenAll body

/-- The variables that statements write to. -/
def writtenAll : List Stmt → List Var
  | [] => []
  | s :: rest => s.written ++ writtenAll rest

end

/-- Instructions that write to some variables only. -/
def WriteTo (vars : List Var) (uses : List Use) : Prop :=
  ∀ use ∈ uses, ∀ v, use.written? = some v → v ∈ vars

section Written

variable {vars vars' : List Var} {uses uses' : List Use}

lemma WriteTo.append (h : WriteTo vars uses) (h' : WriteTo vars' uses') :
    WriteTo (vars ++ vars') (uses ++ uses') := by
  grind [WriteTo]

lemma combineUses_written (h : WriteTo vars uses) (h' : WriteTo vars' uses') (v? : Option Var) :
    WriteTo (vars ++ vars') (combineUses uses uses' v?) := by
  cases v? <;> grind [WriteTo, combineUses, Use.written?]

lemma uses_written : ∀ (e : Expr), WriteTo e.written e.uses
  | .num _ _ | .bool _ _ | .compare _ _ _ _ | .logical _ _ _ _ => by simp [WriteTo, Expr.uses]
  | .var _ | .call _ _ | .callWith _ _ _ => by simp [WriteTo, Expr.uses, Use.written?]
  | .assign target e _ => by
      have := uses_written e
      grind [WriteTo, Expr.uses, Expr.written, Use.written?]
  | .bump target _ post _ => by
      cases post <;> simp [WriteTo, Expr.uses, Expr.written, Use.written?]
  | .sum _ left right _ => combineUses_written (uses_written left) (uses_written right) _

lemma effectUses_written (e : Expr) : WriteTo e.written e.effectUses := by
  have := uses_written e
  cases e with
  | callWith function arg line =>
      have := uses_written arg
      grind [WriteTo, Expr.effectUses, Expr.written, Use.written?]
  | _ => grind [WriteTo, Expr.effectUses, Expr.written, Use.written?]

lemma compareUses_written (op : Comparison) (left right : Expr) :
    WriteTo (left.written ++ right.written) (compareUses op left right) := by
  have hleft := uses_written left
  have hright := uses_written right
  have hboth := combineUses_written hleft hright right.var?
  unfold compareUses
  split <;> grind [WriteTo, Use.written?]

mutual

lemma branchUses_written (wanted : Bool) : ∀ (e : Expr), WriteTo e.written (e.branchUses wanted)
  | .compare op left right _ => compareUses_written _ left right
  | .logical op first others _ => by
      rw [Expr.branchUses, Expr.written]
      split
      · exact (branchUses_written wanted first).append (anyUses_written wanted others)
      · exact (branchUses_written (!wanted) first).append (allUses_written wanted others)
  | .bool b _ => by
      rw [Expr.branchUses]
      split <;> simp [WriteTo, Use.written?]
  | .num _ _ | .var _ | .call _ _ | .callWith _ _ _ | .assign _ _ _ | .bump _ _ _ _
  | .sum _ _ _ _ => by simp [WriteTo, Expr.branchUses]

lemma anyUses_written (wanted : Bool) : ∀ (others : Operands),
    WriteTo others.written (others.anyUses wanted)
  | .last e => branchUses_written wanted e
  | .more e others => (branchUses_written wanted e).append (anyUses_written wanted others)

lemma allUses_written (wanted : Bool) : ∀ (others : Operands),
    WriteTo others.written (others.allUses wanted)
  | .last e => branchUses_written wanted e
  | .more e others => (branchUses_written (!wanted) e).append (allUses_written wanted others)

end

lemma map_use_rolesOf (known : List String) (uses : List Use) :
    (rolesOf known uses).map (·.use) = uses := by
  simp [rolesOf, Function.comp_def]

mutual

lemma roles_written : ∀ (s : Stmt) (known : List String),
    WriteTo s.written ((s.roles known).map (·.use))
  | .decl d, known => by
      rw [Stmt.roles, Stmt.written]
      cases d.constant with
      | true => simp [WriteTo]
      | false =>
          cases hinit : d.init with
          | none => simp [WriteTo]
          | some e =>
              have := uses_written e
              dsimp only
              rw [map_use_rolesOf]
              grind [WriteTo, Use.written?]
  | .expr e _, known => by
      rw [Stmt.roles, map_use_rolesOf]
      exact effectUses_written e
  | .ifThen cond body _, known => by
      have := roles_written body known
      have := branchUses_written false cond
      rw [Stmt.roles, Stmt.written]
      split <;> grind [WriteTo, map_use_rolesOf]
  | .ifElse cond body other _, known => by
      have := roles_written body known
      have := roles_written other known
      have := roles_written other (body.placed ++ known)
      have := branchUses_written false cond
      rw [Stmt.roles, Stmt.written]
      split <;> grind [WriteTo, map_use_rolesOf, Use.written?]
  | .whileDo cond body _, known => by
      have := roles_written body known
      have := branchUses_written false cond
      rw [Stmt.roles, Stmt.written]
      split <;> grind [WriteTo, map_use_rolesOf, Use.written?]
  | .block body _, known => rolesAll_written body known

lemma rolesAll_written : ∀ (body : List Stmt) (known : List String),
    WriteTo (writtenAll body) ((rolesAll known body).map (·.use))
  | [], _ => by simp [WriteTo, rolesAll]
  | s :: rest, known => by
      rw [rolesAll, List.map_append]
      exact (roles_written s known).append (rolesAll_written rest _)

end

mutual

lemma Expr.written_subset : ∀ (e : Expr), e.written ⊆ e.mentions
  | .num _ _ | .bool _ _ | .call _ _ | .var _ => by simp [Expr.written]
  | .callWith _ arg _ => arg.written_subset
  | .assign target e _ => List.cons_subset_cons target e.written_subset
  | .bump _ _ _ _ => by simp [Expr.written, Expr.mentions]
  | .sum _ left right _ | .compare _ left right _ => by
      have := left.written_subset
      have := right.written_subset
      grind [Expr.written, Expr.mentions]
  | .logical _ first others _ => by
      have := first.written_subset
      have := others.written_subset
      grind [Expr.written, Expr.mentions]

lemma Operands.written_subset : ∀ (others : Operands), others.written ⊆ others.mentions
  | .last e => e.written_subset
  | .more e others => by
      have := e.written_subset
      have := others.written_subset
      grind [Operands.written, Operands.mentions]

end

mutual

/-- A statement writes to variables that it mentions, or to those that it declares. -/
lemma Stmt.written_origin : ∀ (s : Stmt), ∀ v ∈ s.written,
    v ∈ s.mentions ∨ ∃ d ∈ s.decls, d.constant = false ∧ d.name = v.name
  | .decl d, v, hv => by
      rw [Stmt.written] at hv
      rw [Stmt.mentions, Stmt.decls]
      cases hconst : d.constant with
      | true => simp [hconst] at hv
      | false =>
          cases hinit : d.init with
          | none => simp [hinit] at hv
          | some e =>
              rw [hconst, hinit] at hv
              rcases List.mem_cons.mp hv with rfl | hv
              · exact .inr ⟨d, List.mem_cons_self, hconst, rfl⟩
              · exact .inl (e.written_subset hv)
  | .expr e _, v, hv => .inl (e.written_subset hv)
  | .ifThen cond body _, v, hv => by
      have := body.written_origin v
      have := cond.written_subset
      grind [Stmt.written, Stmt.mentions, Stmt.decls]
  | .whileDo cond body _, v, hv => by
      have := body.written_origin v
      have := cond.written_subset
      grind [Stmt.written, Stmt.mentions, Stmt.decls]
  | .ifElse cond body other _, v, hv => by
      have := body.written_origin v
      have := other.written_origin v
      have := cond.written_subset
      grind [Stmt.written, Stmt.mentions, Stmt.decls]
  | .block body _, v, hv => writtenAll_origin body v hv

lemma writtenAll_origin : ∀ (body : List Stmt), ∀ v ∈ writtenAll body,
    v ∈ mentionsAll body ∨ ∃ d ∈ declsAll body, d.constant = false ∧ d.name = v.name
  | [], _, hv => by simp [writtenAll] at hv
  | s :: rest, v, hv => by
      have := s.written_origin v
      have := writtenAll_origin rest v
      grind [writtenAll, mentionsAll, declsAll]

end

end Written

/-! ## Where compiled code stores to -/

section Stores

variable {size : Int} {program : List Stmt} {final : Lowering}

/-- A constant is written to only by following it. -/
lemma written_variable (haccepted : (check size program).diagnostics = []) {v : Var}
    (hv : v ∈ writtenAll program) (hderef : v.deref = false) {sym : Symbol}
    (hsym : (check size program).symbols.get? v.name = some sym) : sym.address = none := by
  rcases writtenAll_origin program v hv with hmention | ⟨d, hd, hconst, hname⟩
  · have hproper := properAll_mentions program (check_proper haccepted).1 v hmention
    rw [Var.proper, hsym] at hproper
    simpa [hderef] using hproper
  · exact check_variable haccepted hd hconst (hname ▸ hsym)

/-- **Stores.**  The instructions of a program that follows no pointer in order to write store to
tiles of the floor that no constant names. -/
lemma lower_stores (haccepted : (check size program).diagnostics = [])
    (hlower : lower size (check size program).symbols program = (none, final))
    (hdirect : ∀ v ∈ writtenAll program, v.deref = false) {op : TileOp} {x : Tile}
    (hop : .instr (.tile op x) ∈ final.ops) (hstores : op.takes = false) :
    x.indirect = false ∧ (x.address : Int) < size ∧
      x.address ∉ (check size program).symbols.reserved := by
  have hsound := lower_sound haccepted hlower
  obtain ⟨hplays, -⟩ := lower_plays haccepted hlower
  obtain ⟨pc, hpc⟩ := List.mem_iff_getElem?.mp (mem_instrs.mpr hop)
  obtain ⟨role, hrole, hserves⟩ := hplays.serves hpc
  have hwritten : ∀ v, role.use.written? = some v → v ∈ writtenAll program :=
    rolesAll_written program [] _ (List.mem_map.mpr ⟨role, List.mem_of_getElem? hrole, rfl⟩)
  -- what a variable denotes that is written to
  have hvariable : ∀ {known v}, v ∈ writtenAll program →
      Denotes ⟨(check size program).symbols, size⟩ final.tiles known v x →
      x.indirect = false ∧ (x.address : Int) < size ∧
        x.address ∉ (check size program).symbols.reserved := by
    intro known v hv hdenotes
    have hderef := hdirect v hv
    cases hdenotes with
    | constant hsym haddress =>
        rw [written_variable haccepted hv hderef hsym] at haddress
        cases haddress
    | placed _ htile =>
        obtain ⟨hfree, hbelow⟩ := hsound.free _ (hsound.inUse _ _ htile)
        exact ⟨hderef, hbelow, hfree⟩
  cases hserves with
  | reads htakes => rw [htakes] at hstores; cases hstores
  | recalls htakes => rw [htakes] at hstores; cases hstores
  | spills hspare => exact ⟨rfl, hspare.below, hspare.free⟩
  | stores hdenotes => exact hvariable (hwritten _ rfl) hdenotes
  | bumps hdenotes => exact hvariable (hwritten _ rfl) hdenotes

end Stores

/-- **Constant tiles stay constant.**  Take a program that never follows a pointer in order to write,
and its listing, shortened or not.  Wherever a run of the listing comes to, on any floor and with any
inbox and limit, every tile that a constant names and every tile beyond the floor that the program
was compiled for holds what it held at the start. -/
theorem compile_keeps {options : CompileOptions} {text : List Char} {listing : List String}
    {program : List Stmt} (hcompile : (compile options text).outcome = .ok listing)
    (hparse : parse text = .ok program) (hdirect : ∀ v ∈ writtenAll program, v.deref = false)
    {m loaded m' : Machine} (hload : m.load listing = (loaded, none)) (hvisits : loaded.Visits m')
    {a : Int} (ha : options.floorSize ≤ a ∨
      ∃ d ∈ declsAll program, ∃ n : Nat, d.address? = some n ∧ a = n) :
    m'.floor.get a = m.floor.get a := by
  obtain ⟨program', final, code, hparse', haccepted, hlower, rfl, -, hfrom⟩ := compile_ok hcompile
  rw [hparse] at hparse'
  cases hparse'
  have hloads := Machine.load_ok hload
  have hloaded := Machine.load_loaded
    (fun op hop => (hfrom op hop).spelled (lower_spelled hlower)) hload
  rw [← hloads.floor]
  refine hvisits.floor_get hloads.on fun pc row hrow op x hinstr hstores => ?_
  have hmem : Op.instr (.tile op x) ∈ code := by
    have hfetch := hloaded.fetch pc
    rw [hrow, Option.map_some, hinstr] at hfetch
    exact mem_instrs.mp (List.mem_of_getElem? hfetch.symm)
  have hop : Op.instr (.tile op x) ∈ final.ops := by
    rcases hfrom _ hmem with hop | ⟨kind, old, label, hjump, -⟩
    · exact hop
    · cases hjump
  obtain ⟨hindirect, hbelow, hfree⟩ := lower_stores haccepted hlower hdirect hop hstores
  refine ⟨hindirect, ?_⟩
  rintro rfl
  rcases ha with hbeyond | ⟨d, hd, n, haddress, hn⟩
  · omega
  · obtain ⟨sym, hsym, hfixed⟩ := check_enters haccepted hd
    have hnamed : sym.address = some n := (congrArg Prod.fst hfixed).trans haddress
    refine hfree (List.mem_filterMap.mpr ⟨_, Assoc.mem_of_get? hsym, ?_⟩)
    rw [hnamed]
    exact congrArg some (by omega)

/-- A constant on tile 0, a variable on tile 1 and a value in between on tile 2: after the run the
constant's tile and the one beyond the floor hold what they held before. -/
theorem compile_keeps_seven :
    let m : Machine := { floor := ⟨4, #[7, 0, 0, 9], rfl⟩, inbox := .ofValues [5], maxSteps := 99 }
    ∃ program listing loaded,
      parse "const int*P=0;int x=input();output(x++);".toList = .ok program ∧
      (∀ v ∈ writtenAll program, v.deref = false) ∧
      (compile ⟨3, false⟩ "const int*P=0;int x=input();output(x++);".toList).outcome = .ok listing ∧
      m.load listing = (loaded, none) ∧ loaded.run.2.floor.tiles = #[7, 6, 5, 9] ∧
      loaded.run.2.floor.get 0 = m.floor.get 0 ∧ loaded.run.2.floor.get 3 = m.floor.get 3 := by
  intro m
  have hparse : parse "const int*P=0;int x=input();output(x++);".toList
      = .ok [.decl ⟨"P", true, true, some (.num 0 1), 1⟩,
        .decl ⟨"x", false, false, some (.call "input" 1), 1⟩,
        .expr (.callWith "output" (.bump ⟨"x", false, 1⟩ .up true 1) 1) 1] := by cbv
  have hcompile : (compile ⟨3, false⟩ "const int*P=0;int x=input();output(x++);".toList).outcome
      = .ok ["    INBOX", "    COPYTO 1", "    COPYFROM 1", "    COPYTO 2", "    BUMPUP 1",
        "    COPYFROM 2", "    OUTBOX"] := by
    rw [compile, hparse]
    cbv
  have htiles : (m.load ["    INBOX", "    COPYTO 1", "    COPYFROM 1", "    COPYTO 2",
      "    BUMPUP 1", "    COPYFROM 2", "    OUTBOX"]).1.run.2.floor.tiles = #[7, 6, 5, 9] := by cbv
  have hload : (m.load ["    INBOX", "    COPYTO 1", "    COPYFROM 1", "    COPYTO 2",
      "    BUMPUP 1", "    COPYFROM 2", "    OUTBOX"]).2 = none := by cbv
  have hdirect : ∀ v ∈ writtenAll [.decl ⟨"P", true, true, some (.num 0 1), 1⟩,
      .decl ⟨"x", false, false, some (.call "input" 1), 1⟩,
      .expr (.callWith "output" (.bump ⟨"x", false, 1⟩ .up true 1) 1) 1], v.deref = false := by
    decide
  refine ⟨_, _, _, hparse, hdirect, hcompile, Prod.ext rfl hload, htiles, ?_, ?_⟩
  · exact compile_keeps hcompile hparse hdirect (Prod.ext rfl hload) (.inr rfl)
      (.inr ⟨_, List.mem_cons_self, 0, rfl, rfl⟩)
  · exact compile_keeps hcompile hparse hdirect (Prod.ext rfl hload) (.inr rfl) (.inl (by decide))

end Mailroom.Source
