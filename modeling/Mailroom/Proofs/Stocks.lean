import Mailroom.Proofs.Acceptance
import Mailroom.Proofs.Fragments
import Mailroom.Proofs.Places

/-!
# What is given out while code is made

Variables get tiles and lines get labels.  No tile and no label is given out twice, as long as every
name is declared once.

- `Stock.Sound`: the tiles of variables are those in use, each of one variable.
- `Stock.Grows`: variables keep their tiles.
- `stmt_stock`: both, for the code of statements.
- `Labelled`: the labels of a piece of code bear numbers of their own.
- `stmt_labelled`: so for the code of statements; in particular no label stands twice.
-/

namespace Mailroom.Source

open Text

/-! ## Tiles -/

/-- The tiles of the variables are those in use, each of one variable, on the floor and away from
those of constants. -/
structure Stock.Sound (t : Target) (k : Stock) : Prop where
  inUse : ∀ x a, k.tiles.get? x = some a → a ∈ k.used
  apart : ∀ x y a, k.tiles.get? x = some a → k.tiles.get? y = some a → x = y
  owned : ∀ a ∈ k.used, ∃ x, k.tiles.get? x = some a
  unique : (k.tiles.map (·.1)).Nodup
  free : ∀ a ∈ k.used, a ∉ t.symbols.reserved ∧ (a : Int) < t.size

/-- Variables keep their tiles, and only some names get new ones. -/
structure Stock.Grows (k k' : Stock) (names : List String) : Prop where
  keeps : ∀ x a, k.tiles.get? x = some a → k'.tiles.get? x = some a
  new : ∀ x a, k'.tiles.get? x = some a → k.tiles.get? x = some a ∨ x ∈ names

/-- The names that are declared. -/
def Part.declared : Part → List String
  | .one s => s.declared
  | .many body => declaredAll body

section Tiles

variable {t : Target} {k k' k'' : Stock} {names names' : List String}

lemma Stock.Grows.refl (k : Stock) (names : List String) : k.Grows k names :=
  ⟨fun _ _ h => h, fun _ _ h => .inl h⟩

lemma Stock.Grows.trans (h : k.Grows k' names) (h' : k'.Grows k'' names') :
    k.Grows k'' (names ++ names') := by
  refine ⟨fun x a hx => h'.keeps x a (h.keeps x a hx), fun x a hx => ?_⟩
  rcases h'.new x a hx with hx | hx
  · exact (h.new x a hx).imp_right fun hmem => List.mem_append_left _ hmem
  · exact .inr (List.mem_append_right _ hx)

lemma Stock.Grows.mono (h : k.Grows k' names) (hnames : names ⊆ names') : k.Grows k' names' :=
  ⟨h.keeps, fun x a hx => (h.new x a hx).imp_right fun hmem => hnames hmem⟩

/-- Names that are declared later have no tile yet. -/
lemma Stock.Grows.lacks (h : k.Grows k' names) (hnodup : (names ++ names').Nodup)
    (hlacks : ∀ x ∈ names ++ names', k.tiles.get? x = none) :
    ∀ x ∈ names', k'.tiles.get? x = none := by
  intro x hx
  cases hget : k'.tiles.get? x with
  | none => rfl
  | some a =>
      rcases h.new x a hget with hold | hnew
      · rw [hlacks x (List.mem_append_right _ hx)] at hold
        cases hold
      · exact absurd rfl ((List.nodup_append.mp hnodup).2.2 x hnew x hx)

/-- Labels make no difference to tiles. -/
lemma Stock.Sound.relabel (h : k.Sound t) (n : Nat) : Stock.Sound t { k with labels := n } :=
  ⟨h.inUse, h.apart, h.owned, h.unique, h.free⟩

lemma Stock.Grows.of_relabel {n : Nat} (h : Stock.Grows { k with labels := n } k' names) :
    k.Grows k' names :=
  ⟨h.keeps, h.new⟩

/-- A variable gets a tile. -/
lemma Stock.Sound.place (h : k.Sound t) {name : String} {address : Nat}
    (hfresh : t.fresh? k.used = some address) (hnew : k.tiles.get? name = none) :
    (k.place name address).Sound t := by
  obtain ⟨hunused, hfree⟩ := fresh?_spec hfresh
  have hget : ∀ x, (k.place name address).tiles.get? x
      = if name = x then some address else k.tiles.get? x := fun x => Assoc.get?_put ..
  refine ⟨?_, ?_, ?_, Assoc.nodup_put h.unique name address, ?_⟩
  · intro x a hx
    rw [hget] at hx
    split at hx
    · cases hx
      exact List.mem_cons_self
    · exact List.mem_cons_of_mem _ (h.inUse x a hx)
  · intro x y a hx hy
    rw [hget] at hx hy
    split at hx <;> split at hy
    · exact ‹name = x›.symm.trans ‹name = y›
    · cases hx
      exact absurd (h.inUse y _ hy) hunused
    · cases hy
      exact absurd (h.inUse x _ hx) hunused
    · exact h.apart x y a hx hy
  · intro a ha
    rcases List.mem_cons.mp ha with rfl | ha
    · exact ⟨name, by rw [hget, if_pos rfl]⟩
    · obtain ⟨x, hx⟩ := h.owned a ha
      refine ⟨x, ?_⟩
      rw [hget, if_neg]
      · exact hx
      · rintro rfl
        rw [hnew] at hx
        cases hx
  · intro a ha
    rcases List.mem_cons.mp ha with rfl | ha
    · exact hfree
    · exact h.free a ha

lemma Stock.grows_place {name : String} (hnew : k.tiles.get? name = none) (address : Nat) :
    k.Grows (k.place name address) [name] := by
  have hget : ∀ x, (k.place name address).tiles.get? x
      = if name = x then some address else k.tiles.get? x := fun x => Assoc.get?_put ..
  refine ⟨fun x a hx => ?_, fun x a hx => ?_⟩
  · rw [hget, if_neg]
    · exact hx
    · rintro rfl
      rw [hnew] at hx
      cases hx
  · rw [hget] at hx
    split at hx
    · exact .inr (List.mem_singleton.mpr ‹name = x›.symm)
    · exact .inl hx

/-- **Tiles.**  The code of statements gives tiles to the variables that they declare. -/
lemma stmt_stock {part : Part} {frag : List Op} (hcode : StmtCode t part k frag k')
    (hsound : k.Sound t) (hnodup : part.declared.Nodup)
    (hlacks : ∀ x ∈ part.declared, k.tiles.get? x = none) :
    k'.Sound t ∧ k.Grows k' part.declared := by
  induction hcode with
  | constant => exact ⟨hsound, .refl _ _⟩
  | declare _ _ hfresh =>
      have hnew := hlacks _ List.mem_cons_self
      exact ⟨hsound.place hfresh hnew, Stock.grows_place hnew _⟩
  | define _ _ hfresh _ =>
      have hnew := hlacks _ List.mem_cons_self
      exact ⟨hsound.place hfresh hnew, Stock.grows_place hnew _⟩
  | expr => exact ⟨hsound, .refl _ _⟩
  | ifTrue _ ih => exact ih hsound hnodup hlacks
  | ifFalse => exact ⟨hsound, .refl _ _⟩
  | ifThen _ _ _ ih =>
      obtain ⟨hsound', hgrows⟩ := ih (hsound.relabel _) hnodup hlacks
      exact ⟨hsound', hgrows.of_relabel⟩
  | elseTrue _ ih =>
      obtain ⟨hsound', hgrows⟩ := ih hsound (List.nodup_append.mp hnodup).1
        fun x hx => hlacks x (List.mem_append_left _ hx)
      exact ⟨hsound', hgrows.mono (List.subset_append_left _ _)⟩
  | elseFalse _ ih =>
      obtain ⟨hsound', hgrows⟩ := ih hsound (List.nodup_append.mp hnodup).2.1
        fun x hx => hlacks x (List.mem_append_right _ hx)
      exact ⟨hsound', hgrows.mono (List.subset_append_right _ _)⟩
  | ifElse _ _ _ _ ihb iho =>
      obtain ⟨hnodup1, hnodup2, -⟩ := List.nodup_append.mp hnodup
      obtain ⟨hsound1, hgrows1⟩ := ihb (hsound.relabel _) hnodup1
        fun x hx => hlacks x (List.mem_append_left _ hx)
      obtain ⟨hsound2, hgrows2⟩ := iho (hsound1.relabel _) hnodup2
        (hgrows1.lacks hnodup hlacks)
      exact ⟨hsound2, hgrows1.of_relabel.trans hgrows2.of_relabel⟩
  | forever _ ih =>
      obtain ⟨hsound', hgrows⟩ := ih (hsound.relabel _) hnodup hlacks
      exact ⟨hsound', hgrows.of_relabel⟩
  | never => exact ⟨hsound, .refl _ _⟩
  | whileDo _ _ _ ih =>
      obtain ⟨hsound', hgrows⟩ := ih (hsound.relabel _) hnodup hlacks
      exact ⟨hsound', hgrows.of_relabel⟩
  | block _ ih => exact ih hsound hnodup hlacks
  | done => exact ⟨hsound, .refl _ _⟩
  | next _ _ ihs ihr =>
      obtain ⟨hnodup1, hnodup2, -⟩ := List.nodup_append.mp hnodup
      obtain ⟨hsound1, hgrows1⟩ := ihs hsound hnodup1
        fun x hx => hlacks x (List.mem_append_left _ hx)
      obtain ⟨hsound2, hgrows2⟩ := ihr hsound1 hnodup2 (hgrows1.lacks hnodup hlacks)
      exact ⟨hsound2, hgrows1.trans hgrows2⟩

/-- Nothing has been given out at the start. -/
lemma Stock.sound_empty (t : Target) : Stock.Sound t ⟨[], [], 0⟩ :=
  ⟨nofun, nofun, nofun, List.nodup_nil, nofun⟩

lemma lower_sound {size : Int} {program : List Stmt} {final : Lowering}
    (haccepted : (check size program).diagnostics = [])
    (hlower : lower size (check size program).symbols program = (none, final)) :
    final.stock.Sound ⟨(check size program).symbols, size⟩ :=
  (stmt_stock (lower_code hlower) (Stock.sound_empty _) (check_proper haccepted).2.1
    fun _ _ => rfl).1

end Tiles

/-! ## Labels -/

/-- The words that labels begin with. -/
def stems : List String := ["skip", "else", "endif", "loop", "end"]

/-- A label can be told from one with another number. -/
lemma labelAt_inj {stem stem' : String} (hstem : stem ∈ stems) (hstem' : stem' ∈ stems) {i j : Nat}
    (h : labelAt stem i = labelAt stem' j) : i = j := by
  have hdigits : ∀ {stem : String} {n : Nat}, stem ∈ stems →
      (labelAt stem n).toList.filter Char.isDigit = Nat.toDigits 10 n := by
    intro stem n hstem
    have hnone : stem.toList.filter Char.isDigit = [] := by
      revert stem
      decide
    rw [labelAt, String.toList_append, List.filter_append, hnone, List.nil_append,
      Numeral.natText, String.toList_ofList, List.filter_eq_self]
    exact fun c hc => Numeral.isDigit_toDigits hc
  have hsame : Nat.toDigits 10 i = Nat.toDigits 10 j := by
    rw [← hdigits hstem, h, hdigits hstem']
  rw [← Numeral.ofDigits_toDigits i, hsame, Numeral.ofDigits_toDigits]

/-- The labels of a piece of code bear numbers of their own, above `lo` and up to `hi`. -/
structure Labelled (lo hi : Nat) (frag : List Op) : Prop where
  nodup : (labelNames frag).Nodup
  range : ∀ name ∈ labelNames frag,
    ∃ stem ∈ stems, ∃ i, name = labelAt stem i ∧ lo < i ∧ i ≤ hi

lemma Labelled.mono {lo hi lo' hi' : Nat} {frag : List Op} (h : Labelled lo hi frag)
    (hlo : lo' ≤ lo) (hhi : hi ≤ hi') : Labelled lo' hi' frag := by
  refine ⟨h.nodup, fun name hname => ?_⟩
  obtain ⟨stem, hstem, i, rfl, h1, h2⟩ := h.range name hname
  exact ⟨stem, hstem, i, rfl, by omega, by omega⟩

/-- Pieces of code whose numbers do not overlap. -/
lemma Labelled.append {lo hi lo' hi' : Nat} {frag frag' : List Op} (h : Labelled lo hi frag)
    (h' : Labelled lo' hi' frag') (hapart : hi ≤ lo' ∨ hi' ≤ lo) :
    Labelled (min lo lo') (max hi hi') (frag ++ frag') := by
  refine ⟨?_, fun name hname => ?_⟩
  · rw [labelNames_append]
    refine List.nodup_append.mpr ⟨h.nodup, h'.nodup, ?_⟩
    rintro name hname _ hname' rfl
    obtain ⟨stem, hstem, i, hi1, h1, h2⟩ := h.range name hname
    obtain ⟨stem', hstem', j, hj1, h3, h4⟩ := h'.range name hname'
    have := labelAt_inj hstem hstem' (hi1.symm.trans hj1)
    omega
  · rw [labelNames_append] at hname
    rcases List.mem_append.mp hname with hname | hname
    · exact (h.mono (Nat.min_le_left _ _) (Nat.le_max_left _ _)).range name hname
    · exact (h'.mono (Nat.min_le_right _ _) (Nat.le_max_right _ _)).range name hname

lemma Labelled.none {frag : List Op} (h : labelNames frag = []) (n : Nat) : Labelled n n frag := by
  refine ⟨?_, fun name hname => ?_⟩
  · rw [h]
    exact List.nodup_nil
  · rw [h] at hname
    cases hname

lemma Labelled.label {stem : String} (hstem : stem ∈ stems) (n : Nat) :
    Labelled n (n + 1) [.label (labelAt stem (n + 1))] := by
  refine ⟨List.nodup_singleton _, fun name hname => ?_⟩
  exact ⟨stem, hstem, n + 1, List.mem_singleton.mp hname, by omega, by omega⟩

section Labels

variable {t : Target} {tiles : Assoc String Nat} {used : List Nat} {frag : List Op}

lemma value_labels {e : Expr} (hcode : ValueCode t tiles used e frag) : labelNames frag = [] := by
  induction hcode with
  | assign _ _ ih => rw [labelNames_append, ih]; rfl
  | sumVar _ _ ih => rw [labelNames_append, ih]; rfl
  | sum _ _ _ _ ihr ihl =>
      rw [labelNames_append, ihr, ← List.singleton_append, labelNames_append, labelNames_append, ihl]
      rfl
  | _ => rfl

lemma effect_labels {e : Expr} (hcode : EffectCode t tiles used e frag) :
    labelNames frag = [] := by
  cases hcode with
  | output hvalue => rw [labelNames_append, value_labels hvalue]; rfl
  | value _ _ _ hvalue => exact value_labels hvalue
  | _ => rfl

lemma difference_labels {op sign : Comparison} {left right : Expr}
    (hcode : DifferenceCode t tiles used op left right sign frag) : labelNames frag = [] := by
  cases hcode with
  | right hvalue => exact value_labels hvalue
  | left hvalue => exact value_labels hvalue
  | both hvalue => exact value_labels hvalue

lemma jumpOps_labelled (sign : Comparison) (target : String) (n : Nat) :
    Labelled n (if jumpSkips sign then n + 1 else n)
      (jumpOps sign target (labelAt "skip" (n + 1))) := by
  have hlabel : Labelled n (n + 1) [.label (labelAt "skip" (n + 1))] := .label (by decide) n
  cases sign with
  | eq => exact .none rfl n
  | lt => exact .none rfl n
  | le => exact .none rfl n
  | ne => exact ⟨hlabel.nodup, hlabel.range⟩
  | ge => exact ⟨hlabel.nodup, hlabel.range⟩
  | gt => exact ⟨hlabel.nodup, hlabel.range⟩

/-- The labels of a condition. -/
lemma cond_labelled {part : CondPart} {target : String} {wanted : Bool} {n m : Nat}
    (hcode : CondCode t tiles used part target wanted n frag m) : n ≤ m ∧ Labelled n m frag := by
  induction hcode with
  | jump => exact ⟨le_refl _, .none rfl _⟩
  | fall => exact ⟨le_refl _, .none rfl _⟩
  | @compare op left right line target wanted n sign code hdifference =>
      have hjumps := jumpOps_labelled sign target n
      have hvalue := Labelled.none (difference_labels hdifference) n
      have hle : n ≤ if jumpSkips sign then n + 1 else n := by split <;> omega
      exact ⟨hle, (hvalue.append hjumps (.inl (le_refl _))).mono (by omega) (by omega)⟩
  | anyOf _ _ _ ihf iho =>
      exact ⟨by omega, (ihf.2.append iho.2 (.inl (le_refl _))).mono (by omega) (by omega)⟩
  | @allOf op first others line target wanted n m k code code' _ _ _ ihf iho =>
      have hlabel : Labelled n (n + 1) [.label (labelAt "skip" (n + 1))] := .label (by decide) n
      have hcode := ihf.2.append iho.2 (.inl (le_refl _))
      rw [← List.append_assoc]
      exact ⟨by omega, (hcode.append hlabel (by omega)).mono (by omega) (by omega)⟩
  | anyLast _ ih => exact ih
  | anyMore _ _ ihf iho =>
      exact ⟨by omega, (ihf.2.append iho.2 (.inl (le_refl _))).mono (by omega) (by omega)⟩
  | allLast _ ih => exact ih
  | allMore _ _ ihf iho =>
      exact ⟨by omega, (ihf.2.append iho.2 (.inl (le_refl _))).mono (by omega) (by omega)⟩

/-- **Labels.**  The labels of statements bear numbers that were not given out before. -/
lemma stmt_labelled {part : Part} {k k' : Stock} (hcode : StmtCode t part k frag k') :
    k.labels ≤ k'.labels ∧ Labelled k.labels k'.labels frag := by
  have hlabel : ∀ stem ∈ stems, ∀ n,
      Labelled n (n + 1) [.label (labelAt stem (n + 1))] := fun _ hstem n => .label hstem n
  have hjump : ∀ {lo hi : Nat} {op : Op}, Labelled lo hi [op] → ∀ target,
      Labelled lo hi [jumpTo .always target, op] := fun h _ => ⟨h.nodup, h.range⟩
  induction hcode with
  | constant => exact ⟨le_refl _, .none rfl _⟩
  | declare => exact ⟨le_refl _, .none rfl _⟩
  | @define d k address e code _ _ _ hvalue =>
      refine ⟨le_refl _, .none ?_ _⟩
      rw [labelNames_append, value_labels hvalue]
      rfl
  | expr heffect => exact ⟨le_refl _, .none (effect_labels heffect) _⟩
  | ifTrue _ ih => exact ih
  | ifFalse => exact ⟨le_refl _, .none rfl _⟩
  | @ifThen cond body line k code n code' k' _ hcond _ ih =>
      obtain ⟨hle, hcond⟩ := cond_labelled hcond
      obtain ⟨hle', hbody⟩ := ih
      dsimp only at hle' hbody
      have hcode := hcond.append hbody (.inl (le_refl _))
      rw [← List.append_assoc]
      exact ⟨by omega, (hcode.append (hlabel "else" (by decide) k.labels) (by omega)).mono
        (by omega) (by omega)⟩
  | elseTrue _ ih => exact ih
  | elseFalse _ ih => exact ih
  | @ifElse cond body other line k code n code' k' code'' k'' _ hcond _ _ ihb iho =>
      obtain ⟨hle, hcond⟩ := cond_labelled hcond
      obtain ⟨hle', hbody⟩ := ihb
      obtain ⟨hle'', hother⟩ := iho
      dsimp only [Stock.label] at hle' hbody hle'' hother
      have hfirst := (hcond.append hbody (.inl (le_refl _))).append
        (hjump (hlabel "else" (by decide) k.labels) (labelAt "endif" (k'.labels + 1))) (by omega)
      have hsecond := hother.append (hlabel "endif" (by decide) k'.labels) (by omega)
      have hgroup : ∀ jump no stop : Op, code ++ (code' ++ jump :: no :: (code'' ++ [stop]))
          = (code ++ code') ++ [jump, no] ++ (code'' ++ [stop]) := by simp
      rw [hgroup]
      exact ⟨by omega, (hfirst.append hsecond (by omega)).mono (by omega) (by omega)⟩
  | @forever b body line k code k' _ ih =>
      obtain ⟨hle, hbody⟩ := ih
      dsimp only [Stock.label] at hle hbody
      have hback : Labelled k'.labels k'.labels
          [jumpTo .always (labelAt "loop" (k.labels + 1))] := .none rfl _
      have hround := hbody.append hback (.inl (le_refl _))
      have htop := (hlabel "loop" (by decide) k.labels).append hround (.inl (by omega))
      exact ⟨by omega, htop.mono (by omega) (by omega)⟩
  | never => exact ⟨le_refl _, .none rfl _⟩
  | @whileDo cond body line k code n code' k' _ hcond _ ih =>
      obtain ⟨hle, hcond⟩ := cond_labelled hcond
      obtain ⟨hle', hbody⟩ := ih
      dsimp only at hle' hbody
      have hround := (hcond.append hbody (.inl (le_refl _))).append
        (hjump (hlabel "end" (by decide) (k.labels + 1)) (labelAt "loop" (k.labels + 1))) (by omega)
      have htop := (hlabel "loop" (by decide) k.labels).append hround (.inl (by omega))
      rw [List.append_assoc] at htop
      exact ⟨by omega, htop.mono (by omega) (by omega)⟩
  | block _ ih => exact ih
  | done => exact ⟨le_refl _, .none rfl _⟩
  | next _ _ ihs ihr =>
      exact ⟨by omega, (ihs.2.append ihr.2 (.inl (le_refl _))).mono (by omega) (by omega)⟩

end Labels

end Mailroom.Source
