import Mailroom.Proofs.Lines
import Mailroom.Proofs.Scopes
import Mailroom.Proofs.Statements

/-!
# Compiled programs do what they mean

The listing of a program is loaded and run.  The run ends as the meaning of the program does: with
the same outbox, the same inbox and the same floor, apart from the tiles that the listing keeps for
itself.

- `lower_fits`, `lower_within`: the layout of a listing goes with what was given out for it.
- `Mirrors`: how a run shows what a program means.
- `run_mirrors`: runs of compiled programs do.
-/

namespace Mailroom

open Text Source

/-! ## Runs that pass a place -/

/-- A machine passes every place that its listing leads to, unless the limit ends its run before
that. -/
lemma run_passes {m : Machine} {code : List Op} {desk : Desk} (hm : Shows m code (.start code desk))
    {c : Config} (hleads : Leads code (.start code desk) c) :
    ∃ halt last, Closes m.run halt last ∧
      (halt = .fault (.stepLimit m.maxSteps) ∧ m.maxSteps ≤ last.steps ∧ Leads code last c ∨
        Leads code c last ∧
          (last.advance code = .error halt ∨ halt = .fault (.stepLimit m.maxSteps) ∧
            m.maxSteps ≤ last.steps)) := by
  obtain ⟨halt, last, hfinishes, hcloses⟩ := run_finishes hm
  obtain ⟨hlast, hstop⟩ := hfinishes.leads
  have hidle : last.idle + 0 ≤ 0 + last.steps := hlast.idle_bound
  have hlimit : halt = .fault (.stepLimit m.maxSteps) → m.maxSteps ≤ last.steps := by
    rintro rfl
    have := hfinishes.limit_le
    omega
  refine ⟨halt, last, hcloses, ?_⟩
  rcases hleads.total hlast with hbefore | hbehind
  · exact .inr ⟨hbefore, hstop.imp_right fun h => ⟨h, hlimit h⟩⟩
  · rcases hstop with hstop | hstop
    · rw [hbehind.eq_of_stop hstop]
      exact .inr ⟨.refl, .inl hstop⟩
    · exact .inl ⟨hstop, hlimit hstop, hbehind⟩

end Mailroom

namespace Mailroom.Source

open Text

/-! ## Layouts of listings -/

section Layouts

variable {size : Int} {program : List Stmt} {final : Lowering}

lemma mem_kept {symbols : Symbols} {a : Nat} : a ∈ (Layout.ofLowering symbols final).kept ↔
    (a ∈ final.tiles.map (·.2) ∨ a ∈ operandAddresses final.ops) ∧ a ∉ symbols.reserved := by
  simp only [Layout.ofLowering, List.mem_filter, List.mem_append, decide_eq_true_eq]

/-- The layout of a listing. -/
lemma lower_fits (haccepted : (check size program).diagnostics = [])
    (hlower : lower size (check size program).symbols program = (none, final)) :
    Fits ⟨(check size program).symbols, size⟩
      (Layout.ofLowering (check size program).symbols final) := by
  have hsound := lower_sound haccepted hlower
  refine ⟨fun _ => rfl, ?_, ?_, hsound.unique⟩
  · intro x a hx
    obtain ⟨sym, hsym, haddress⟩ := Option.bind_eq_some_iff.mp hx
    refine ⟨fun hkept => ?_, ((check_proper haccepted).2.2 x sym hsym).2 a haddress⟩
    exact (mem_kept.mp hkept).2 (List.mem_filterMap.mpr ⟨_, Assoc.mem_of_get? hsym, haddress⟩)
  · intro k hk
    rcases (mem_kept.mp hk).1 with htile | hoperand
    · obtain ⟨⟨x, k'⟩, hmem, rfl⟩ := List.mem_map.mp htile
      exact (hsound.free _ (hsound.inUse x _ (Assoc.get?_of_mem hsound.unique hmem))).2
    · exact lower_operand haccepted hlower hoperand

lemma lower_within (haccepted : (check size program).diagnostics = [])
    (hlower : lower size (check size program).symbols program = (none, final)) :
    final.stock.Within (Layout.ofLowering (check size program).symbols final) := by
  have hsound := lower_sound haccepted hlower
  refine ⟨fun _ _ h => h, fun a ha => mem_kept.mpr ⟨.inl ?_, (hsound.free a ha).1⟩⟩
  obtain ⟨x, hx⟩ := hsound.owned a ha
  exact List.mem_map.mpr ⟨_, Assoc.mem_of_get? hx, rfl⟩

/-- The whole listing does what the program means. -/
lemma lower_implements (haccepted : (check size program).diagnostics = [])
    (hlower : lower size (check size program).symbols program = (none, final)) (fuel : Nat) :
    Implements final.ops (Layout.ofLowering (check size program).symbols final) fuel
      (Represents ⟨(check size program).symbols, size⟩
        (Layout.ofLowering (check size program).symbols final) [] [])
      ((Layout.ofLowering (check size program).symbols final).execAll fuel program) final.ops
      fun _ => Represents ⟨(check size program).symbols, size⟩
        (Layout.ofLowering (check size program).symbols final) final.tiles [] := by
  obtain ⟨hproper, hnames, -⟩ := check_proper haccepted
  exact stmt_implements (lower_fits haccepted hlower) (lower_nodup hlower) (lower_code hlower)
    hproper (Stock.sound_empty _) hnames (fun _ _ => rfl) (lower_within haccepted hlower)
    fun k hk hreserved => mem_kept.mpr ⟨.inr hk, hreserved⟩

end Layouts

/-! ## Runs -/

/-- A run ends in some way, with what can be seen of a world. -/
structure EndsWith (l : Layout) (h : Halt) (w : World) (r : Option InboxError × Machine) :
    Prop where
  error : r.1 = h.error?
  halted : r.2.halted = r.1.isNone
  cause : r.2.fault.map (·.cause) = h.cause?
  desk : ∃ d, r.2.desk = h.leave d ∧ Agrees l w d

/-- How a run shows what a program means, if its loops go round less than `fuel` times. -/
def Mirrors (l : Layout) (fuel : Nat) (r : Option InboxError × Machine) :
    EStateM.Result Stop World Unit → Prop
  | .ok _ w => EndsWith l .ended w r ∧
      ∀ x v, w.vars x = some (some v) → ∃ k, l.placed.get? x = some k ∧ r.2.floor.item k = v
  | .error .inputOver w => EndsWith l .dry w r
  | .error (.spoiled e) w => EndsWith l (.failed e) w r
  | .error (.offFloor e) w => EndsWith l (.fault (.offFloor e)) w r
  -- what happens from here on is not said, but what happened before is the same
  | .error (.undefined _) w | .error (.stray _) w => w.sent.toList <+: r.2.emitted.toList
  | .error .outOfFuel w => fuel ≤ r.2.steps ∧ w.sent.toList <+: r.2.emitted.toList
  | .error .illFormed _ | .error (.outOfScope _) _ => False

/-- The world that a program leaves behind. -/
def worldOf : EStateM.Result Stop World Unit → World
  | .ok _ w | .error _ w => w

/-- A run that the limit ends, with the first of what a program sends. -/
structure CutShort (limit : Int) (r : Option InboxError × Machine)
    (result : EStateM.Result Stop World Unit) : Prop where
  cause : r.2.fault.map (·.cause) = some (.stepLimit limit)
  emitted : r.2.emitted.toList <+: (worldOf result).sent.toList

section Runs

variable {l : Layout} {fuel : Nat} {code : List Op} {m : Machine} {halt : Halt} {w : World}
  {c last : Config}

/-- The limit ends a run before it has sent more than a world has. -/
lemma cutShort_of_leads {result : EStateM.Result Stop World Unit}
    (hcloses : Closes m.run (.fault (.stepLimit m.maxSteps)) last) (hbehind : Leads code last c)
    (hagrees : Agrees l (worldOf result) c.desk) : CutShort m.maxSteps m.run result := by
  refine ⟨hcloses.cause, ?_⟩
  have hemitted : m.run.2.emitted = last.desk.emitted :=
    congrArg Desk.emitted hcloses.desk
  rw [hemitted, ← hagrees.sent]
  exact hbehind.emitted

/-- What has been sent at a place that a run passes. -/
lemma sent_of_leads (hcloses : Closes m.run halt last) (hbehind : Leads code c last)
    (hagrees : Agrees l w c.desk) : w.sent.toList <+: m.run.2.emitted.toList := by
  have hemitted : m.run.2.emitted = last.desk.emitted :=
    (congrArg Desk.emitted hcloses.desk).trans (Halt.leave_emitted halt last.desk)
  rw [hemitted, ← hagrees.sent]
  exact hbehind.emitted

/-- A run that passes a place where it goes no further ends there. -/
lemma endsWith_of_stop {h : Halt} (hcloses : Closes m.run halt last) (hbehind : Leads code c last)
    (hstop : last.advance code = .error halt ∨ halt = .fault (.stepLimit m.maxSteps) ∧
      m.maxSteps ≤ last.steps)
    (hhere : c.advance code = .error h) (hagrees : Agrees l w c.desk) :
    (halt = h ∧ last = c ∧ EndsWith l h w m.run) ∨
      (halt = .fault (.stepLimit m.maxSteps) ∧ m.maxSteps ≤ c.steps ∧ last = c) := by
  obtain rfl := hbehind.eq_of_stop hhere
  rcases hstop with hstop | ⟨hstop, hle⟩
  · rw [hhere] at hstop
    cases hstop
    exact .inl ⟨rfl, rfl, hcloses.error, hcloses.halted, hcloses.cause, _, hcloses.desk, hagrees⟩
  · exact .inr ⟨hstop, hle, rfl⟩

end Runs

/-- **Code generation preserves meaning.**  Take a program without complaints that uses its
variables where they are declared, and the listing that it is lowered to for a floor of some size.
On every floor of at least this size the listing can be loaded, and with every inbox the run shows
what the program means.  The limit may cut it short; but it is enough to allow a certain number of
instructions without a value read. -/
theorem run_mirrors {size : Int} {program : List Stmt} {final : Lowering}
    (haccepted : (check size program).diagnostics = [])
    (hlower : lower size (check size program).symbols program = (none, final))
    (hscoped : WellScoped (check size program).symbols program)
    (hdigits : ∀ a ∈ operandAddresses final.ops, Numeral.fits a = true)
    (floor : Floor) (hroom : size ≤ floor.size) (inbox : Inbox) (fuel : Nat) :
    ∃ least : Nat, ∀ m : Machine, m.floor = floor → m.inbox = inbox →
      ∃ m', m.load (render final.ops) = (m', none) ∧ m'.maxSteps = m.maxSteps ∧
        let l := Layout.ofLowering (check size program).symbols final
        let result := l.execAll fuel program (World.start floor inbox)
        (Mirrors l fuel m'.run result ∨ CutShort m.maxSteps m'.run result) ∧
          (least ≤ m.maxSteps → Mirrors l fuel m'.run result) := by
  set l := Layout.ofLowering (check size program).symbols final with hl
  have hrep : Represents ⟨(check size program).symbols, size⟩ l [] [] (World.start floor inbox)
      ⟨none, floor, inbox, #[]⟩ :=
    ⟨⟨rfl, rfl, rfl, fun _ _ _ => rfl⟩, hroom, nofun, nofun, nofun⟩
  obtain ⟨c, hleads, hresult⟩ := lower_implements haccepted hlower fuel [] (by simp)
    (World.start floor inbox) (.start final.ops ⟨none, floor, inbox, #[]⟩)
    (by simp [Config.start]) hrep
  have hsafe : Safe (Covers []) (l.execAll fuel program) _ :=
    execAll_safe (fun _ => rfl) (check_proper haccepted).1 (Option.some_get hscoped).symm
  have hsafe := hsafe (World.start floor inbox) nofun
  refine ⟨c.steps + 1, fun m hfloor hinbox => ?_⟩
  obtain ⟨m', hload, hmost, hshows⟩ :=
    load_shows (lower_spelled hlower) (lower_legible hlower hdigits) m
  rw [hfloor, hinbox] at hshows
  refine ⟨m', hload, hmost, ?_⟩
  dsimp only
  obtain ⟨halt, last, hcloses, hpassed⟩ := run_passes hshows hleads
  suffices h : Mirrors l fuel m'.run (l.execAll fuel program (World.start floor inbox)) ∨
      (CutShort m'.maxSteps m'.run (l.execAll fuel program (World.start floor inbox)) ∧
        m'.maxSteps ≤ c.steps) by
    rw [← hmost]
    exact ⟨h.imp_right fun h => h.1, fun hle => h.resolve_right fun h => by omega⟩
  have hagrees : Agrees l (worldOf (l.execAll fuel program (World.start floor inbox))) c.desk := by
    cases hrun : l.execAll fuel program (World.start floor inbox) with
    | ok u w =>
        rw [hrun] at hresult
        exact hresult.2.toAgrees
    | error s w =>
        rw [hrun] at hresult
        exact hresult.1
  generalize l.execAll fuel program (World.start floor inbox) = result at hresult hsafe hagrees ⊢
  rcases hpassed with ⟨rfl, hle, hbefore⟩ | ⟨hbehind, hstop⟩
  · have hsteps := hbefore.steps_le
    exact .inr ⟨cutShort_of_leads hcloses hbefore hagrees, by omega⟩
  -- the run passes the place where the meaning ends, and ends there if the meaning says how
  have hends : ∀ {h : Halt}, c.advance final.ops = .error h →
      (halt = h ∧ last = c ∧ EndsWith l h (worldOf result) m'.run) ∨
        (CutShort m'.maxSteps m'.run result ∧ m'.maxSteps ≤ c.steps) := by
    intro h hhere
    refine (endsWith_of_stop hcloses hbehind hstop hhere hagrees).imp_right ?_
    rintro ⟨rfl, hle, rfl⟩
    exact ⟨cutShort_of_leads hcloses hbehind hagrees, hle⟩
  have hsent := sent_of_leads hcloses hbehind hagrees
  match result, hresult, hsafe with
  | .ok _ w, ⟨hup, hrep'⟩, _ =>
      have hhere : c.advance final.ops = .error .ended := by
        rw [Config.advance, hup]
        rfl
      refine (hends hhere).imp_left ?_
      rintro ⟨rfl, rfl, hended⟩
      refine ⟨hended, fun x v hx => ?_⟩
      have hfloor' : m'.run.2.floor = last.desk.floor := congrArg Desk.floor hcloses.desk
      rw [hfloor']
      exact hrep'.vars x v hx
  | .error .inputOver w, ⟨_, hhere⟩, _ => exact (hends hhere).imp_left fun h => h.2.2
  | .error (.spoiled e) w, ⟨_, hhere⟩, _ => exact (hends hhere).imp_left fun h => h.2.2
  | .error (.offFloor e) w, ⟨_, hhere⟩, _ => exact (hends hhere).imp_left fun h => h.2.2
  | .error (.undefined _) w, _, _ => exact .inl hsent
  | .error (.stray _) w, _, _ => exact .inl hsent
  | .error .outOfFuel w, ⟨_, hfuel⟩, _ =>
      have hsteps := hbehind.steps_le
      refine .inl ⟨?_, hsent⟩
      rw [hcloses.steps]
      simp only [Stop.Shows, Config.start] at hfuel
      omega

/-- A program that sends the negative ones of the values that it reads. -/
def negatives : List Stmt :=
  [.decl ⟨"x", false, false, none, 1⟩,
    .whileDo (.bool true 2) (.block
      [.expr (.assign ⟨"x", false, 3⟩ (.call "input" 3) 3) 3,
        .ifThen (.compare .lt (.var ⟨"x", false, 4⟩) (.num 0 4) 4)
          (.expr (.callWith "output" (.var ⟨"x", false, 5⟩) 5) 5) 4] 2) 2]

/-- The hypotheses hold of a program with a loop, a branch and both calls. -/
theorem run_mirrors_negatives :
    let listing := (lower 1 (check 1 negatives).symbols negatives).2.ops
    ∃ least : Nat, ∀ m : Machine, m.floor = .ofSize 1 → m.inbox = .ofValues [3, -4] →
      least ≤ m.maxSteps → ∃ m', m.load (render listing) = (m', none) ∧
        m'.run.2.halted = true ∧ m'.run.2.emitted = #[-4] := by
  intro listing
  obtain ⟨least, h⟩ := @run_mirrors 1 negatives (lower 1 (check 1 negatives).symbols negatives).2
    (by decide) (Prod.ext (by decide) rfl) (by decide) (by decide +kernel) (.ofSize 1) (by decide)
    (.ofValues [3, -4]) 9
  refine ⟨least, fun m hfloor hinbox hle => ?_⟩
  obtain ⟨m', hload, -, -, hmirrors⟩ := h m hfloor hinbox
  have hmeaning : ∃ w, (Layout.ofLowering (check 1 negatives).symbols
      (lower 1 (check 1 negatives).symbols negatives).2).execAll 9 negatives
      (World.start (.ofSize 1) (.ofValues [3, -4])) = .error .inputOver w ∧ w.sent = #[-4] :=
    ⟨_, rfl, by decide⟩
  obtain ⟨w, hw, hsent⟩ := hmeaning
  have hends := hmirrors hle
  rw [hw] at hends
  obtain ⟨d, hdesk, hagrees⟩ := hends.desk
  refine ⟨m', hload, by rw [hends.halted, hends.error]; rfl, ?_⟩
  calc m'.run.2.emitted
    _ = (Halt.dry.leave d).emitted := congrArg Desk.emitted hdesk
    _ = #[-4] := by rw [Halt.leave_emitted, hagrees.sent, hsent]

end Mailroom.Source
