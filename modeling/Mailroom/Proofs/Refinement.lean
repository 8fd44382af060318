import Mailroom.Proofs.Execution

/-!
# Listings that do the same

A listing refines another one when runs of the two end alike: the same halt with the same desk, and
in no more instructions.  The refined listing may leave instructions out, so it may get through
under a limit that stops the other one, and nothing is said about runs that the limit ends.

A `Rewriting` ties the places of two listings to each other.  At related places the same instruction
comes next, up to the names of labels, or the first listing has an instruction more, which changes
nothing and leaves less of the listing to go.  `Rewriting.refines` turns that into a refinement.
-/

namespace Mailroom

open Source

/-- The halt at a limit. -/
def Halt.isLimit : Halt → Bool
  | .fault (.stepLimit _) => true
  | _ => false

/-- Runs of the second listing end as runs of the first do. -/
structure Refines (src tgt : List Op) : Prop where
  forward : ∀ (desk : Desk) (limit : Int) (h : Halt) (last : Config), h.isLimit = false →
    Finishes src limit (.start src desk) h last →
    ∃ last', Finishes tgt limit (.start tgt desk) h last' ∧ last'.desk = last.desk ∧
      last'.steps ≤ last.steps
  backward : ∀ (desk : Desk) (limit : Int) (h : Halt) (last' : Config), h.isLimit = false →
    Finishes tgt limit (.start tgt desk) h last' →
    ∃ limit' last, Finishes src limit' (.start src desk) h last

lemma Refines.refl (code : List Op) : Refines code code where
  forward := fun _ _ _ last _ hfinishes => ⟨last, hfinishes, rfl, le_refl _⟩
  backward := fun _ limit _ last _ hfinishes => ⟨limit, last, hfinishes⟩

lemma Refines.trans {src mid tgt : List Op} (h1 : Refines src mid) (h2 : Refines mid tgt) :
    Refines src tgt where
  forward := by
    intro desk limit h last hlimit hfinishes
    obtain ⟨last1, hfinishes1, hdesk1, hsteps1⟩ := h1.forward desk limit h last hlimit hfinishes
    obtain ⟨last2, hfinishes2, hdesk2, hsteps2⟩ := h2.forward desk limit h last1 hlimit hfinishes1
    exact ⟨last2, hfinishes2, hdesk2.trans hdesk1, hsteps2.trans hsteps1⟩
  backward := by
    intro desk limit h last hlimit hfinishes
    obtain ⟨limit1, last1, hfinishes1⟩ := h2.backward desk limit h last hlimit hfinishes
    exact h1.backward desk limit1 h last1 hlimit hfinishes1

/-! ## Rewritings -/

/-- An instruction with another name for the label it leads to. -/
def Instr.redirect (name : String → String) : Instr → Instr
  | .jump kind label => .jump kind (name label)
  | i => i

lemma Instr.redirect_eq_inbox {name : String → String} {i : Instr} :
    i.redirect name = .inbox ↔ i = .inbox := by
  cases i <;> simp [redirect]

lemma Instr.redirect_id (i : Instr) : i.redirect id = i := by
  cases i <;> rfl

/-- Names of labels make no difference to what an instruction does. -/
lemma Desk.perform_redirect (name : String → String) (d : Desk) (i : Instr) :
    d.perform (i.redirect name)
      = (d.perform i).map fun (desk, way) => (desk, way.map name) := by
  cases i with
  | inbox =>
      simp only [Instr.redirect, perform]
      split <;> rfl
  | outbox =>
      simp only [Instr.redirect, perform]
      split <;> rfl
  | tile op t =>
      simp only [Instr.redirect, perform]
      split <;> rfl
  | jump kind label =>
      have htakes : d.takes kind (name label) = d.takes kind label := by cases kind <;> rfl
      simp only [Instr.redirect, perform, htakes]
      split <;> rfl

/-- An instruction that changes nothing leads to a place. -/
def Idles (code : List Op) (d : Desk) (i : Instr) (later rest : List Op) : Prop :=
  i ≠ .inbox ∧
    (d.perform i = .ok (d, none) ∧ rest = later ∨
      ∃ label, d.perform i = .ok (d, some label) ∧ after label code = some rest)

/-- Places of two listings that go together, given what is on the desk. -/
structure Rewriting (src tgt : List Op) (name : String → String)
    (At : List Op → List Op → Desk → Prop) : Prop where
  start : ∀ d, At src tgt d
  ended : ∀ {r r' d}, At r r' d → upcoming r = none → upcoming r' = none
  next : ∀ {r r' d i later}, r <:+ src → At r r' d → upcoming r = some (i, later) →
    (∃ later', upcoming r' = some (i.redirect name, later') ∧
        ∀ d', d.perform i = .ok (d', none) → At later later' d') ∨
      ∃ rest, Idles src d i later rest ∧ rest.length < r.length ∧ At rest r' d
  target : ∀ {kind label}, .instr (.jump kind label) ∈ src →
    (after label src = none ∧ name label = label ∧ after label tgt = none) ∨
      ∃ q q', after label src = some q ∧ after (name label) tgt = some q' ∧ ∀ d, At q q' d

/-- The second configuration has come as far as the first, in no more instructions. -/
structure Keeps (src : List Op) (At : List Op → List Op → Desk → Prop) (c d : Config) : Prop where
  desk : d.desk = c.desk
  idle : d.idle ≤ c.idle
  steps : d.steps ≤ c.steps
  suffix : c.rest <:+ src
  place : At c.rest d.rest c.desk

namespace Rewriting

variable {src tgt : List Op} {name : String → String} {At : List Op → List Op → Desk → Prop}
  {c c' d : Config}

/-- An instruction that changes nothing is carried out. -/
lemma advance_idles {i : Instr} {later rest : List Op}
    (hup : upcoming c.rest = some (i, later)) (h : Idles src c.desk i later rest) :
    c.advance src = .ok (c.move i rest c.desk) := by
  obtain ⟨-, ⟨hperform, rfl⟩ | ⟨label, hperform, hafter⟩⟩ := h
  · simp only [Config.advance, hup, hperform]
  · simp only [Config.advance, hup, hperform, hafter]

lemma keeps_move (h : Keeps src At c d) {i : Instr} {rest rest' : List Op} {desk : Desk}
    (hsuffix : rest <:+ src) (hat : At rest rest' desk) :
    Keeps src At (c.move i rest desk) (d.move (i.redirect name) rest' desk) where
  desk := rfl
  idle := by
    have := h.idle
    simp only [Config.move, Instr.redirect_eq_inbox]
    split <;> omega
  steps := Nat.succ_le_succ h.steps
  suffix := hsuffix
  place := hat

/-- A step of the first listing is one of the second, or changes nothing. -/
lemma advance_ok (hr : Rewriting src tgt name At) (h : Keeps src At c d)
    (hadvance : c.advance src = .ok c') :
    (Keeps src At c' d ∧ c'.rest.length < c.rest.length) ∨
      ∃ d', d.advance tgt = .ok d' ∧ Keeps src At c' d' := by
  cases hup : upcoming c.rest with
  | none => simp [Config.advance, hup] at hadvance
  | some next =>
      obtain ⟨i, later⟩ := next
      have hmem := (upcoming_eq_some hup).2.trans h.suffix
      rcases hr.next h.suffix h.place hup with ⟨later', hup', hfall⟩ | ⟨rest, hidles, hlt, hat⟩
      · right
        have hperform' := Desk.perform_redirect name c.desk i
        rw [Config.advance, hup] at hadvance
        simp only [Config.advance, hup', h.desk]
        cases hperform : c.desk.perform i with
        | error halt => simp [hperform] at hadvance
        | ok result =>
            obtain ⟨desk, way⟩ := result
            rw [hperform] at hperform'
            cases way with
            | none =>
                simp only [hperform, Except.ok.injEq] at hadvance
                subst hadvance
                rw [hperform']
                exact ⟨_, rfl, keeps_move h ((List.suffix_cons _ _).trans hmem) (hfall desk hperform)⟩
            | some label =>
                obtain ⟨rfl, kind, rfl⟩ := Desk.perform_taken hperform
                simp only [hperform] at hadvance
                rcases hr.target (hmem.subset List.mem_cons_self) with
                  ⟨hafter, -⟩ | ⟨q, q', hafter, hafter', hat⟩
                · simp [hafter] at hadvance
                · simp only [hafter, Except.ok.injEq] at hadvance
                  subst hadvance
                  rw [hperform']
                  simp only [Except.map, Option.map_some, hafter']
                  exact ⟨_, rfl, keeps_move h ((List.suffix_cons _ _).trans (after_suffix hafter))
                    (hat _)⟩
      · left
        rw [advance_idles hup hidles] at hadvance
        cases hadvance
        refine ⟨⟨h.desk, ?_, h.steps.trans (Nat.le_succ _), ?_, hat⟩, hlt⟩
        · have := h.idle
          simp only [Config.move, if_neg hidles.1]
          omega
        · obtain ⟨-, ⟨-, rfl⟩ | ⟨label, -, hafter⟩⟩ := hidles
          · exact (List.suffix_cons _ _).trans hmem
          · exact (List.suffix_cons _ _).trans (after_suffix hafter)

/-- Where the first listing goes no further, neither does the second. -/
lemma advance_error (hr : Rewriting src tgt name At) (h : Keeps src At c d) {halt : Halt}
    (hadvance : c.advance src = .error halt) : d.advance tgt = .error halt := by
  cases hup : upcoming c.rest with
  | none =>
      simp only [Config.advance, hup, Except.error.injEq] at hadvance
      simp only [Config.advance, hr.ended h.place hup, hadvance]
  | some next =>
      obtain ⟨i, later⟩ := next
      have hmem := (upcoming_eq_some hup).2.trans h.suffix
      rcases hr.next h.suffix h.place hup with ⟨later', hup', -⟩ | ⟨rest, hidles, -⟩
      · have hperform' := Desk.perform_redirect name c.desk i
        rw [Config.advance, hup] at hadvance
        simp only [Config.advance, hup', h.desk]
        cases hperform : c.desk.perform i with
        | error halt' =>
            rw [hperform] at hperform'
            simp only [hperform, Except.error.injEq] at hadvance
            rw [hperform', ← hadvance]
            rfl
        | ok result =>
            obtain ⟨desk, way⟩ := result
            rw [hperform] at hperform'
            cases way with
            | none => simp [hperform] at hadvance
            | some label =>
                obtain ⟨rfl, kind, rfl⟩ := Desk.perform_taken hperform
                simp only [hperform] at hadvance
                rcases hr.target (hmem.subset List.mem_cons_self) with
                  ⟨hafter, hname, hafter'⟩ | ⟨q, q', hafter, -⟩
                · simp only [hafter, Except.error.injEq] at hadvance
                  rw [hperform', ← hadvance]
                  simp only [Except.map, Option.map_some, hname, hafter']
                · simp [hafter] at hadvance
      · rw [advance_idles hup hidles] at hadvance
        cases hadvance

/-- The limit does not stop the second listing where it does not stop the first. -/
lemma turn_eq (hr : Rewriting src tgt name At) (h : Keeps src At c d) {limit : Int}
    (hlimit : ¬ ((upcoming c.rest).isSome ∧ limit ≤ c.idle)) :
    d.turn tgt limit = d.advance tgt := by
  rw [Config.turn, if_neg]
  rintro ⟨hsome, hle⟩
  refine hlimit ⟨?_, ?_⟩
  · by_contra hnone
    have hup : upcoming c.rest = none := by simpa using hnone
    rw [hr.ended h.place hup] at hsome
    exact Bool.noConfusion hsome
  · have := h.idle
    omega

lemma finishes (hr : Rewriting src tgt name At) {limit : Int} {halt : Halt} {last : Config}
    (hhalt : halt.isLimit = false) (hfinishes : Finishes src limit c halt last)
    (h : Keeps src At c d) :
    ∃ last', Finishes tgt limit d halt last' ∧ last'.desk = last.desk ∧ last'.steps ≤ last.steps := by
  induction hfinishes generalizing d with
  | @stop c halt hturn =>
      have hlimit : ¬ ((upcoming c.rest).isSome ∧ limit ≤ c.idle) := by
        intro hstop
        rw [Config.turn, if_pos hstop] at hturn
        cases hturn
        exact Bool.noConfusion hhalt
      refine ⟨d, .stop ?_, h.desk, h.steps⟩
      rw [hr.turn_eq h hlimit]
      rw [Config.turn, if_neg hlimit] at hturn
      exact hr.advance_error h hturn
  | @step c c' last halt hturn _ ih =>
      have hlimit : ¬ ((upcoming c.rest).isSome ∧ limit ≤ c.idle) := by
        intro hstop
        rw [Config.turn, if_pos hstop] at hturn
        cases hturn
      rcases hr.advance_ok h (Config.advance_of_turn hturn) with ⟨hkeeps, -⟩ | ⟨d', hadvance, hkeeps⟩
      · exact ih hhalt hkeeps
      · obtain ⟨last', hfinishes, hlast⟩ := ih hhalt hkeeps
        refine ⟨last', .step ?_ hfinishes, hlast⟩
        rw [hr.turn_eq h hlimit]
        exact hadvance

/-- The first listing gets to where the second takes a step. -/
lemma catch_up (hr : Rewriting src tgt name At) {c d' : Config} (h : Keeps src At c d)
    (hadvance : d.advance tgt = .ok d') : ∃ c', Leads src c c' ∧ Keeps src At c' d' := by
  cases hc : c.advance src with
  | error halt =>
      rw [hr.advance_error h hc] at hadvance
      cases hadvance
  | ok next =>
      rcases hr.advance_ok h hc with ⟨hkeeps, hlt⟩ | ⟨d'', hd, hkeeps⟩
      · obtain ⟨c', hleads, hkeeps'⟩ := catch_up hr hkeeps hadvance
        exact ⟨c', .head hc hleads, hkeeps'⟩
      · rw [hadvance] at hd
        cases hd
        exact ⟨next, .single hc, hkeeps⟩
termination_by c.rest.length

/-- The first listing gets to where the second goes no further. -/
lemma catch_up_error (hr : Rewriting src tgt name At) {c : Config} {halt : Halt}
    (h : Keeps src At c d)
    (hadvance : d.advance tgt = .error halt) :
    ∃ c', Leads src c c' ∧ c'.advance src = .error halt := by
  cases hc : c.advance src with
  | error halt' =>
      rw [hr.advance_error h hc] at hadvance
      exact ⟨c, .refl, hc.trans hadvance⟩
  | ok next =>
      rcases hr.advance_ok h hc with ⟨hkeeps, hlt⟩ | ⟨d'', hd, -⟩
      · obtain ⟨c', hleads, herror⟩ := catch_up_error hr hkeeps hadvance
        exact ⟨c', .head hc hleads, herror⟩
      · rw [hadvance] at hd
        cases hd
termination_by c.rest.length

lemma leads (hr : Rewriting src tgt name At) {d' : Config} (h : Keeps src At c d)
    (hleads : Leads tgt d d') : ∃ c', Leads src c c' ∧ Keeps src At c' d' := by
  induction hleads with
  | refl => exact ⟨c, .refl, h⟩
  | tail _ hadvance ih =>
      obtain ⟨c', hleads, hkeeps⟩ := ih
      obtain ⟨c'', hleads', hkeeps'⟩ := hr.catch_up hkeeps hadvance
      exact ⟨c'', hleads.trans hleads', hkeeps'⟩

/-- **Rewritings are refinements.** -/
theorem refines (hr : Rewriting src tgt name At) : Refines src tgt where
  forward := by
    intro desk limit halt last hhalt hfinishes
    exact hr.finishes hhalt hfinishes ⟨rfl, le_refl _, le_refl _, List.suffix_refl _, hr.start desk⟩
  backward := by
    intro desk limit halt last' hhalt hfinishes
    obtain ⟨hleads, hstop⟩ := hfinishes.leads
    have herror : last'.advance tgt = .error halt := by
      rcases hstop with hstop | rfl
      · exact hstop
      · exact Bool.noConfusion hhalt
    have hstart : Keeps src At (.start src desk) (.start tgt desk) :=
      ⟨rfl, le_refl _, le_refl _, List.suffix_refl _, hr.start desk⟩
    obtain ⟨c, hleads', hkeeps⟩ := hr.leads hstart hleads
    obtain ⟨last, hleads'', herror'⟩ := hr.catch_up_error hkeeps herror
    have hall : Leads src (.start src desk) last := hleads'.trans hleads''
    refine ⟨last.steps + 1, last, hall.finishes herror' ?_⟩
    simp only [Config.start]
    omega

end Rewriting

end Mailroom
