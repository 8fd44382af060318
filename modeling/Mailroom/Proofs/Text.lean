import Mathlib.Data.List.Basic
import Mathlib.Data.List.Infix
import Mathlib.Data.List.TakeWhile
import Mathlib.Tactic.Common
import Mailroom.Text.Numeral
import Mailroom.Text.Search

/-!
# Texts that are read back as they were written

What listings need of the functions on texts, in three groups.

**Blanks.**  A text that neither starts nor ends with a blank is left alone by `trim`
(`trim_eq_self`), and what `trim` leaves is such a text (`trim_tight`); blanks behind a text play no
part in that (`trim_append_of_blank`).  Words are free of blanks and are stretches of the text they
come from (`mem_words`), the last one ends where the text ends (`getLast?_words`), and a blank parts
a word from the words behind it (`words_append`).

**Marks.**  `before` leaves a text alone exactly when the mark does not occur in it
(`before_eq_self`), the mark does not occur in what it leaves (`not_infix_before`), and what stands
behind a text it takes away as a whole or not at all (`before_append_tail`).  What stands behind the
mark does not count (`before_append_mark`).

**Numerals.**  The decimal digits of a number are read as that number if they keep within the limit
on digits, and are refused otherwise (`read_toDigits`).  Digits of other scripts are read as well
(`exists_read_of_isDecimalDigit`).
-/

namespace Mailroom.Text

/-- What holds of every character of a text can be found by going through it. -/
lemma forall_mem_of_all {p : Char → Prop} [DecidablePred p] {cs : List Char}
    (h : cs.all (p ·) = true) : ∀ c ∈ cs, p c := by
  simpa using h

/-! ## Blanks -/

/-- The characters of ASCII behind the space are not blank. -/
lemma isBlank_of_ascii {c : Char} (h1 : 32 < c.toNat) (h2 : c.toNat < 127) : isBlank c = false := by
  rw [isBlank, Ranges.contains, List.any_eq_false]
  intro range hrange
  simp only [blankRanges, List.mem_cons, List.not_mem_nil, or_false] at hrange
  rcases hrange with rfl | rfl | rfl | rfl | rfl | rfl | rfl | rfl | rfl | rfl <;>
    simp only [Bool.and_eq_true, decide_eq_true_eq] <;> omega

/-- A text with no blank at either end. -/
structure Tight (cs : List Char) : Prop where
  head : ∀ c ∈ cs.head?, isBlank c = false
  last : ∀ c ∈ cs.getLast?, isBlank c = false

lemma tight_of_nonblank {cs : List Char} (h : ∀ c ∈ cs, isBlank c = false) : Tight cs where
  head := fun c hc => h c (List.mem_of_mem_head? hc)
  last := fun c hc => h c (List.mem_of_mem_getLast? hc)

lemma dropEndWhile_append_of_neg {p : Char → Bool} {cs : List Char} {c : Char}
    (h : p c = false) : dropEndWhile p (cs ++ [c]) = cs ++ [c] := by
  simp [dropEndWhile, h]

/-- A text whose last character is out of the class keeps all of its characters. -/
lemma dropEndWhile_eq_self {p : Char → Bool} {cs : List Char}
    (h : ∀ c ∈ cs.getLast?, p c = false) : dropEndWhile p cs = cs := by
  rcases List.eq_nil_or_concat cs with rfl | ⟨cs, c, rfl⟩
  · rfl
  · rw [List.concat_eq_append] at h ⊢
    exact dropEndWhile_append_of_neg (h c (by simp))

/-- Characters of the class at the end of a text are lost. -/
lemma dropEndWhile_append_of_pos {p : Char → Bool} {cs tail : List Char}
    (h : ∀ c ∈ tail, p c = true) : dropEndWhile p (cs ++ tail) = dropEndWhile p cs := by
  rw [dropEndWhile, List.reverse_append, List.dropWhile_append_of_pos (by simpa using h),
    dropEndWhile]

/-- What is lost at the end of a text are characters of the class. -/
lemma exists_dropEndWhile_append (p : Char → Bool) (cs : List Char) :
    ∃ tail, cs = dropEndWhile p cs ++ tail ∧ ∀ c ∈ tail, p c = true := by
  refine ⟨(cs.reverse.takeWhile p).reverse, ?_, fun c hc => ?_⟩
  · rw [dropEndWhile, ← List.reverse_append, List.takeWhile_append_dropWhile, List.reverse_reverse]
  · exact List.mem_takeWhile_imp (List.mem_reverse.mp hc)

/-- Nothing is dropped in front of a part of which something is left. -/
lemma dropEndWhile_append_of_ne_nil {p : Char → Bool} {tail : List Char}
    (h : dropEndWhile p tail ≠ []) (cs : List Char) :
    dropEndWhile p (cs ++ tail) = cs ++ dropEndWhile p tail := by
  have hne : ((tail.reverse.dropWhile p).isEmpty = true) = False := by
    simpa [dropEndWhile] using h
  rw [dropEndWhile, List.reverse_append, List.dropWhile_append]
  simp only [hne, if_false]
  rw [List.reverse_append, List.reverse_reverse, dropEndWhile]

lemma dropWhile_eq_self {p : Char → Bool} {cs : List Char}
    (h : ∀ c ∈ cs.head?, p c = false) : cs.dropWhile p = cs := by
  cases cs with
  | nil => rfl
  | cons c cs => simp [h c (by simp)]

lemma trim_eq_self {cs : List Char} (h : Tight cs) : trim cs = cs := by
  rw [trim, dropWhile_eq_self h.head, dropEndWhile_eq_self h.last]

/-- Blanks in front of a text are lost with `trim`. -/
lemma trim_blanks_append {front : List Char} (hfront : ∀ c ∈ front, isBlank c = true)
    (cs : List Char) : trim (front ++ cs) = trim cs := by
  rw [trim, List.dropWhile_append_of_pos hfront, trim]

/-- Blanks behind a text are lost with `trim`. -/
lemma trim_append_of_blank {cs tail : List Char} (h : ∀ c ∈ tail, isBlank c = true) :
    trim (cs ++ tail) = trim cs := by
  rw [trim, List.dropWhile_append]
  split
  · rename_i hempty
    rw [trim, List.isEmpty_iff.mp hempty, List.dropWhile_eq_nil_iff.mpr h]
  · rw [dropEndWhile_append_of_pos h, trim]

lemma dropEndWhile_isPrefix (p : Char → Bool) (cs : List Char) : dropEndWhile p cs <+: cs := by
  rw [dropEndWhile, ← List.reverse_suffix, List.reverse_reverse]
  exact List.dropWhile_suffix p

lemma trim_isInfix (cs : List Char) : trim cs <:+: cs :=
  (dropEndWhile_isPrefix isBlank _).isInfix.trans (List.dropWhile_suffix isBlank).isInfix

lemma trim_tight (cs : List Char) : Tight (trim cs) := by
  have hlast : ∀ ds : List Char, ∀ c ∈ (dropEndWhile isBlank ds).getLast?, isBlank c = false := by
    intro ds c hc
    rw [dropEndWhile, List.getLast?_reverse] at hc
    have := List.head?_dropWhile_not isBlank ds.reverse
    rw [Option.mem_def.mp hc] at this
    simpa using this
  refine ⟨?_, hlast _⟩
  intro c hc
  have hpre := dropEndWhile_isPrefix isBlank (cs.dropWhile isBlank)
  have hne : trim cs ≠ [] := by
    rintro h
    rw [h] at hc
    simp at hc
  have hhead : (cs.dropWhile isBlank).head? = some c := by
    obtain ⟨t, ht⟩ := hpre
    rw [← ht]
    exact (List.head?_append_of_ne_nil (trim cs) hne).trans hc
  have := List.head?_dropWhile_not isBlank cs
  rw [hhead] at this
  simpa using this

/-! ## Words -/

/-- Characters that are not blank go on with the word that is open. -/
lemma wordsFrom_append {cs : List Char} (h : ∀ c ∈ cs, isBlank c = false) (word rest : List Char) :
    wordsFrom word (cs ++ rest) = wordsFrom (cs.reverse ++ word) rest := by
  induction cs generalizing word with
  | nil => rfl
  | cons c cs ih =>
      have hc : isBlank c = false := h c (by simp)
      have hcs : ∀ d ∈ cs, isBlank d = false := fun d hd => h d (by simp [hd])
      rw [List.cons_append, wordsFrom, hc, if_neg (by simp), ih hcs]
      simp

lemma words_single {w : List Char} (h : ∀ c ∈ w, isBlank c = false) (hw : w ≠ []) :
    words w = [w] := by
  have := wordsFrom_append h [] []
  rw [List.append_nil, List.append_nil] at this
  rw [words, this, wordsFrom, if_neg (by simpa using hw), List.reverse_reverse]

/-- A word with a blank behind it. -/
lemma words_append {v : List Char} {b : Char} (hv : ∀ c ∈ v, isBlank c = false) (hv' : v ≠ [])
    (hb : isBlank b = true) (w : List Char) : words (v ++ b :: w) = v :: words w := by
  rw [words, wordsFrom_append hv, List.append_nil, wordsFrom, if_pos hb,
    if_neg (by simpa using hv'), List.reverse_reverse]
  rfl

/-- What a word is: a stretch of the text without blanks. -/
lemma mem_wordsFrom {cs word w : List Char} (hword : ∀ c ∈ word, isBlank c = false)
    (h : w ∈ wordsFrom word cs) :
    w ≠ [] ∧ (∀ c ∈ w, isBlank c = false) ∧ w <:+: word.reverse ++ cs := by
  induction cs generalizing word with
  | nil =>
      rw [wordsFrom] at h
      split at h
      · simp at h
      · rename_i hne
        rw [List.mem_singleton] at h
        subst h
        exact ⟨by simpa using hne, by simpa using hword, by simp⟩
  | cons c cs ih =>
      have hnil : ∀ d ∈ ([] : List Char), isBlank d = false := by simp
      rw [wordsFrom] at h
      split at h
      · split at h
        · obtain ⟨h1, h2, h3⟩ := ih hnil h
          exact ⟨h1, h2, h3.trans ⟨word.reverse ++ [c], [], by simp⟩⟩
        · rename_i hne
          rcases List.mem_cons.mp h with rfl | h
          · exact ⟨by simpa using hne, by simpa using hword, ⟨[], c :: cs, by simp⟩⟩
          · obtain ⟨h1, h2, h3⟩ := ih hnil h
            exact ⟨h1, h2, h3.trans ⟨word.reverse ++ [c], [], by simp⟩⟩
      · rename_i hc
        have hword' : ∀ d ∈ c :: word, isBlank d = false := by
          intro d hd
          rcases List.mem_cons.mp hd with rfl | hd
          · simpa using hc
          · exact hword d hd
        obtain ⟨h1, h2, h3⟩ := ih hword' h
        exact ⟨h1, h2, by simpa using h3⟩

lemma mem_words {cs w : List Char} (h : w ∈ words cs) :
    w ≠ [] ∧ (∀ c ∈ w, isBlank c = false) ∧ w <:+: cs := by
  simpa using mem_wordsFrom (by simp) h

/-- The last word ends where the text ends, if that is not with a blank. -/
lemma getLast?_wordsFrom {cs word : List Char}
    (h : ∀ c ∈ (word.reverse ++ cs).getLast?, isBlank c = false) :
    ((wordsFrom word cs).getLast?.bind List.getLast?) = (word.reverse ++ cs).getLast? := by
  induction cs generalizing word with
  | nil =>
      rw [wordsFrom]
      split
      · rename_i hw
        simp [List.isEmpty_iff.mp hw]
      · simp
  | cons c cs ih =>
      rw [wordsFrom]
      split
      · rename_i hc
        have hcs : cs ≠ [] := by
          rintro rfl
          have := h c (by simp)
          rw [hc] at this
          exact Bool.noConfusion this
        have hlast : ∀ (front : List Char), (front ++ c :: cs).getLast? = cs.getLast? := by
          intro front
          rw [List.getLast?_append_of_ne_nil _ (by simp), List.getLast?_cons_of_ne_nil hcs]
        have h' : ∀ d ∈ (([] : List Char).reverse ++ cs).getLast?, isBlank d = false := by
          intro d hd
          refine h d ?_
          rw [hlast]
          simpa using hd
        have hih := ih h'
        rw [hlast]
        split
        · simpa using hih
        · have hne : wordsFrom [] cs ≠ [] := by
            intro h0
            rw [h0] at hih
            simp only [List.getLast?_nil, Option.bind_none, List.reverse_nil, List.nil_append] at hih
            exact hcs (List.getLast?_eq_none_iff.mp hih.symm)
          rw [List.getLast?_cons_of_ne_nil hne]
          simpa using hih
      · have h' : ∀ d ∈ ((c :: word).reverse ++ cs).getLast?, isBlank d = false := by
          intro d hd
          exact h d (by simpa using hd)
        simpa using ih h'

lemma getLast?_words {cs : List Char} (h : Tight cs) :
    (words cs).getLast?.bind List.getLast? = cs.getLast? := by
  have hlast : ∀ c ∈ ([].reverse ++ cs).getLast?, isBlank c = false := h.last
  exact getLast?_wordsFrom hlast

lemma split_blank {cs : List Char} {b : Char} (hmem : b ∈ cs) (hb : isBlank b = true) :
    ∃ v c rest, cs = v ++ c :: rest ∧ (∀ d ∈ v, isBlank d = false) ∧ isBlank c = true := by
  induction cs with
  | nil => cases hmem
  | cons c cs ih =>
      cases hc : isBlank c with
      | true => exact ⟨[], c, cs, rfl, List.forall_mem_nil _, hc⟩
      | false =>
          have hmem' : b ∈ cs := by
            rcases List.mem_cons.mp hmem with rfl | hmem
            · rw [hb] at hc
              exact Bool.noConfusion hc
            · exact hmem
          obtain ⟨v, d, rest, rfl, hv, hd⟩ := ih hmem'
          exact ⟨c :: v, d, rest, rfl, List.forall_mem_cons.mpr ⟨hc, hv⟩, hd⟩

/-- A text with a blank inside has more than one word. -/
lemma words_of_blank {cs : List Char} (h : Tight cs) {b : Char} (hmem : b ∈ cs)
    (hb : isBlank b = true) : ∃ v w rest, words cs = v :: w :: rest := by
  obtain ⟨v, c, rest, rfl, hv, hc⟩ := split_blank hmem hb
  have hne : ∀ {d}, isBlank d = false → d ≠ c := by
    rintro d hd rfl
    rw [hc] at hd
    exact Bool.noConfusion hd
  have hvne : v ≠ [] := by
    rintro rfl
    exact hne (h.head c rfl) rfl
  have hrest : rest ≠ [] := by
    rintro rfl
    exact hne (h.last c (by simp)) rfl
  have hlast : ∀ d ∈ ([].reverse ++ rest).getLast?, isBlank d = false := by
    intro d hd
    refine h.last d ?_
    rw [List.getLast?_append_of_ne_nil _ (by simp), List.getLast?_cons_of_ne_nil hrest]
    exact hd
  have hend := getLast?_wordsFrom hlast
  rw [words_append hv hvne hc]
  cases hw : words rest with
  | nil =>
      rw [words] at hw
      rw [hw, List.getLast?_nil, Option.bind_none] at hend
      exact absurd (List.getLast?_eq_none_iff.mp hend.symm) hrest
  | cons w ws => exact ⟨v, w, ws, rfl⟩

/-! ## Marks -/

lemma before_isPrefix (mark cs : List Char) : before mark cs <+: cs := by
  induction cs with
  | nil => exact List.prefix_refl _
  | cons c cs ih =>
      rw [before]
      split
      · exact List.nil_prefix
      · exact (List.prefix_cons_inj c).mpr ih

/-- A text in which the mark does not occur is left alone. -/
lemma before_eq_self {mark cs : List Char} (h : ¬ mark <:+: cs) : before mark cs = cs := by
  induction cs with
  | nil => rfl
  | cons c cs ih =>
      have hpre : ¬ mark.isPrefixOf (c :: cs) = true :=
        fun hm => h ( List.isPrefixOf_iff_prefix.mp hm).isInfix
      have htail : ¬ mark <:+: cs := fun hm => h (hm.trans (List.suffix_cons c cs).isInfix)
      rw [before, if_neg hpre, ih htail]

/-- What stands in front of a text and has no part in the mark stays there. -/
lemma before_append_front {mark front : List Char} (hne : mark ≠ [])
    (hmark : ∀ c ∈ mark, c ∉ front) (cs : List Char) :
    before mark (front ++ cs) = front ++ before mark cs := by
  induction front with
  | nil => rfl
  | cons c front ih =>
      have hpre : ¬ mark.isPrefixOf (c :: (front ++ cs)) = true := by
        intro hm
        obtain ⟨d, mark, rfl⟩ := List.exists_cons_of_ne_nil hne
        obtain ⟨rfl, -⟩ := List.cons_prefix_cons.mp ( List.isPrefixOf_iff_prefix.mp hm)
        exact hmark d List.mem_cons_self List.mem_cons_self
      have htail : ∀ d ∈ mark, d ∉ front :=
        fun d hd hmem => hmark d hd (List.mem_cons_of_mem c hmem)
      rw [List.cons_append, before, if_neg hpre, ih htail, List.cons_append]

/-- A mark that starts a longer text starts the text itself, if what is behind that has no part in
the mark. -/
lemma prefix_of_prefix_append {mark cs tail : List Char} (hmark : ∀ c ∈ mark, c ∉ tail)
    (h : mark <+: cs ++ tail) : mark <+: cs := by
  rcases List.prefix_or_prefix_of_prefix h (List.prefix_append cs tail) with hcs | ⟨more, rfl⟩
  · exact hcs
  · rw [List.prefix_append_right_inj] at h
    cases more with
    | nil => rw [List.append_nil]
    | cons c more => exact absurd (h.subset (List.mem_cons_self ..)) (hmark c (by simp))

/-- What stands behind a text and has no part in the mark is kept as a whole or not at all. -/
lemma before_append_tail {mark tail : List Char} (hne : mark ≠ []) (hmark : ∀ c ∈ mark, c ∉ tail)
    (cs : List Char) :
    before mark (cs ++ tail) = before mark cs ∨
      before mark (cs ++ tail) = before mark cs ++ tail := by
  induction cs with
  | nil =>
      right
      refine before_eq_self fun h => ?_
      obtain ⟨c, hc⟩ := List.exists_mem_of_ne_nil mark hne
      exact hmark c hc (h.subset hc)
  | cons c cs ih =>
      rw [List.cons_append, before, before]
      by_cases hpre : mark <+: c :: cs
      · left
        have hlong : mark <+: c :: (cs ++ tail) := hpre.trans (List.prefix_append (c :: cs) tail)
        rw [if_pos ( List.isPrefixOf_iff_prefix.mpr hpre),
          if_pos ( List.isPrefixOf_iff_prefix.mpr hlong)]
      · have hlong : ¬ mark <+: c :: (cs ++ tail) := fun h =>
          hpre (prefix_of_prefix_append hmark (List.cons_append ▸ h))
        rw [if_neg fun h => hpre ( List.isPrefixOf_iff_prefix.mp h),
          if_neg fun h => hlong ( List.isPrefixOf_iff_prefix.mp h)]
        exact ih.imp (congrArg (c :: ·)) (congrArg (c :: ·))

/-- What stands behind a mark does not count, where the mark cannot start any earlier. -/
lemma before_append_mark {mark : List Char} (hne : mark ≠ []) {cs : List Char}
    (hseam : ∀ c ∈ cs.getLast?, c ∉ mark) (tail : List Char) :
    before mark (cs ++ (mark ++ tail)) = before mark cs := by
  induction cs with
  | nil =>
      obtain ⟨c, mark, rfl⟩ := List.exists_cons_of_ne_nil hne
      have hstart : c :: mark <+: c :: (mark ++ tail) := List.prefix_append (c :: mark) tail
      rw [List.nil_append, List.cons_append, before.eq_2,
        if_pos ( List.isPrefixOf_iff_prefix.mpr hstart)]
      rfl
  | cons c cs ih =>
      have hlater : ∀ d ∈ cs.getLast?, d ∉ mark := by
        intro d hd
        have hcs : cs ≠ [] := by
          rintro rfl
          cases hd
        exact hseam d (by rwa [List.getLast?_cons_of_ne_nil hcs])
      have hstart : mark <+: c :: (cs ++ (mark ++ tail)) ↔ mark <+: c :: cs := by
        refine ⟨fun h => ?_, fun h => h.trans (List.prefix_append (c :: cs) _)⟩
        rcases List.prefix_or_prefix_of_prefix h (List.prefix_append (c :: cs) _) with hpre | hpre
        · exact hpre
        · obtain ⟨d, hd⟩ := Option.isSome_iff_exists.mp
            (List.getLast?_isSome.mpr (List.cons_ne_nil c cs))
          exact absurd (hpre.subset (List.mem_of_mem_getLast? hd)) (hseam d hd)
      rw [List.cons_append, before, before, ih hlater]
      simp only [ List.isPrefixOf_iff_prefix, hstart]

/-- The mark does not occur in front of its first occurrence. -/
lemma not_infix_before {mark : List Char} (hmark : mark ≠ []) (cs : List Char) :
    ¬ mark <:+: before mark cs := by
  induction cs with
  | nil => simpa [before] using hmark
  | cons c cs ih =>
      rw [before]
      split
      · simpa using hmark
      · rename_i hc
        rw [List.infix_cons_iff]
        rintro (h | h)
        · refine hc ( List.isPrefixOf_iff_prefix.mpr (h.trans ?_))
          exact (List.prefix_cons_inj c).mpr (before_isPrefix mark cs)
        · exact ih h

/-! ## Numerals -/

namespace Numeral

lemma isDigit_iff {c : Char} : c.isDigit = true ↔ 48 ≤ c.toNat ∧ c.toNat ≤ 57 := by
  rw [Char.isDigit, Bool.and_eq_true, decide_eq_true_eq, decide_eq_true_eq]
  exact Iff.rfl

/-- The digits of ASCII come first in the table of scripts. -/
lemma digitValue?_of_isDigit {c : Char} (h : c.isDigit = true) :
    digitValue? c = some (c.toNat - 48) := by
  obtain ⟨h1, h2⟩ := isDigit_iff.mp h
  have h3 : c.toNat < 58 := by omega
  simp [digitValue?, digitZeros, h1, h3]

lemma digitBelow?_of_isDigit {c : Char} (h : c.isDigit = true) :
    digitBelow? 10 c = some (c.toNat - 48) := by
  obtain ⟨h1, h2⟩ := isDigit_iff.mp h
  rw [digitBelow?, digit?, digitValue?_of_isDigit h, Option.filter_some, if_pos]
  rw [decide_eq_true_eq]
  omega

/-- A text of digits is taken whole. -/
lemma takeDigits_of_isDigit {cs : List Char} (h : ∀ c ∈ cs, c.isDigit = true) (mayPause : Bool)
    (hcs : mayPause = true ∨ cs ≠ []) :
    takeDigits 10 mayPause cs = some (cs.map (·.toNat - 48), []) := by
  induction cs generalizing mayPause with
  | nil =>
      rcases hcs with rfl | hcs
      · rfl
      · exact absurd rfl hcs
  | cons c cs ih =>
      have hc : c.isDigit = true := h c (by simp)
      have hrest := ih (fun d hd => h d (by simp [hd])) true (Or.inl rfl)
      simp only [takeDigits, digitBelow?_of_isDigit hc, hrest, Option.map_some, List.map_cons]

lemma isDigit_toDigits {n : Nat} {c : Char} (h : c ∈ Nat.toDigits 10 n) : c.isDigit = true :=
  Nat.isDigit_of_mem_toDigits (by decide) (by decide) h

lemma ofDigits_toDigits (n : Nat) :
    ofDigits 10 ((Nat.toDigits 10 n).map (·.toNat - 48)) = n := by
  have hfold : ∀ (cs : List Char) (start : Nat),
      (cs.map (·.toNat - 48)).foldl (fun n d => n * 10 + d) start
        = Nat.ofDigitChars 10 cs start := by
    intro cs
    induction cs with
    | nil => intro start; rfl
    | cons c cs ih =>
        intro start
        rw [List.map_cons, List.foldl_cons, ih, Nat.ofDigitChars_cons, Nat.mul_comm]
        rfl
  rw [ofDigits, hfold, Nat.ofDigitChars_ten_toDigits]

/-- The digits of a number that is not zero start with another digit than zero. -/
lemma head?_toDigits_ne_zero {n : Nat} (hn : 0 < n) : (Nat.toDigits 10 n).head? ≠ some '0' := by
  induction n using Nat.strongRecOn with
  | _ n ih =>
      by_cases hlt : n < 10
      · rw [Nat.toDigits_of_lt_base hlt]
        have hchar := Nat.toNat_digitChar_of_lt_ten hlt
        intro h
        rw [List.head?_cons, Option.some.injEq] at h
        rw [h] at hchar
        simp only [Char.reduceToNat] at hchar
        omega
      · rw [Nat.toDigits_of_base_le (by decide) (by omega),
          List.head?_append_of_ne_nil _ Nat.toDigits_ne_nil]
        exact ih (n / 10) (by omega) (by omega)

/-- Decimal digits carry no tag, and no zero in front that would have to stand alone. -/
lemma body_toDigits (form : Form) (n : Nat) :
    body form (Nat.toDigits 10 n) = ⟨10, false, Nat.toDigits 10 n⟩ := by
  cases form with
  | plain => rfl
  | tagged =>
      by_cases hlt : n < 10
      · rw [Nat.toDigits_of_lt_base hlt]
        rfl
      · have hhead := head?_toDigits_ne_zero (n := n) (by omega)
        have hdigit : ∀ c ∈ Nat.toDigits 10 n, c.isDigit = true := fun c => isDigit_toDigits
        generalize Nat.toDigits 10 n = cs at hhead hdigit
        match cs with
        | [] => rfl
        | [_] => rfl
        | z :: t :: rest =>
            have hz : z.isDigit = true := hdigit z (by simp)
            have hne : z.toNat - 48 ≠ 0 := by
              intro h0
              obtain ⟨h1, h2⟩ := isDigit_iff.mp hz
              have : z.toNat = '0'.toNat := by
                have : '0'.toNat = 48 := rfl
                omega
              exact hhead (by rw [List.head?_cons, Char.toNat_inj.mp this])
            rw [body, digitValue?_of_isDigit hz, if_neg]
            simpa using hne

lemma isMargin_of_isDigit {c : Char} (h : c.isDigit = true) : isMargin c = false := by
  obtain ⟨h1, h2⟩ := isDigit_iff.mp h
  rw [isMargin, isBlank_of_ascii (by omega) (by omega), Bool.false_and]

lemma fits_iff_length {n : Nat} : fits n = true ↔ (Nat.toDigits 10 n).length ≤ digitLimit := by
  rw [fits, decide_eq_true_eq,
    Nat.length_toDigits_le_iff (b := 10) (k := digitLimit) (by decide) (by decide)]
  unfold writeLimit
  -- the power is not to be computed
  generalize digitLimit = k
  rfl

/-- **Numbers are read back.**  The decimal digits of a number are read as that number, unless
there are more of them than are allowed. -/
lemma read_toDigits (form : Form) (n : Nat) :
    read form (Nat.toDigits 10 n)
      = if fits n then .ok (n : Int)
        else .error (.tooManyDigits (Nat.toDigits 10 n).length) := by
  have hdigit : ∀ c ∈ Nat.toDigits 10 n, c.isDigit = true := fun c => isDigit_toDigits
  have htake : takeDigits 10 false (Nat.toDigits 10 n)
      = some ((Nat.toDigits 10 n).map (·.toNat - 48), []) :=
    takeDigits_of_isDigit hdigit false (Or.inr Nat.toDigits_ne_nil)
  have hdrop : (Nat.toDigits 10 n).dropWhile isMargin = Nat.toDigits 10 n :=
    dropWhile_eq_self fun c hc => isMargin_of_isDigit (hdigit c (List.mem_of_mem_head? hc))
  have hlimit : fits n = true ↔ ¬ digitLimit < (Nat.toDigits 10 n).length := by
    rw [fits_iff_length, not_lt]
  have hnat : ∀ malformed, readNat form malformed (Nat.toDigits 10 n)
      = if fits n then .ok n else .error (.tooManyDigits (Nat.toDigits 10 n).length) := by
    intro malformed
    simp only [readNat, body_toDigits, htake, ofDigits_toDigits, List.length_map, true_and,
      Bool.false_eq_true, false_and, if_false, List.all_nil, if_true]
    by_cases h : fits n = true
    · rw [if_pos h, if_neg (hlimit.mp h)]
    · rw [if_neg h, if_pos (not_not.mp fun hl => h (hlimit.mpr hl))]
  have hfirst : ∀ c ∈ (Nat.toDigits 10 n).head?, c ≠ '-' ∧ c ≠ '+' := by
    intro c hc
    have := hdigit c (List.mem_of_mem_head? hc)
    constructor <;> (rintro rfl; revert this; decide)
  simp only [read, hdrop]
  split
  · rename_i heq
    exact absurd rfl (hfirst '-' (by rw [heq]; rfl)).1
  · rename_i heq
    exact absurd rfl (hfirst '+' (by rw [heq]; rfl)).2
  · rw [hnat]
    split <;> rfl

end Numeral

/-! ## Digits of any script -/

lemma exists_zero_of_isDecimalDigit {c : Char} (h : isDecimalDigit c = true) :
    ∃ nought ∈ digitZeros, digitValue? c = some (c.toNat - nought) ∧ nought ≤ c.toNat ∧
      c.toNat < nought + 10 := by
  rw [isDecimalDigit, Option.isSome_iff_exists] at h
  obtain ⟨d, hd⟩ := h
  obtain ⟨nought, hfind, rfl⟩ := Option.map_eq_some_iff.mp hd
  have hrange := List.find?_some hfind
  simp only [Bool.and_eq_true, decide_eq_true_eq] at hrange
  exact ⟨nought, List.mem_of_find?_eq_some hfind, hd, hrange⟩

/-- No run of decimal digits meets a range of blanks. -/
lemma digitZeros_apart : ∀ nought ∈ digitZeros, ∀ range ∈ blankRanges,
    range.2 < nought ∨ nought + 10 ≤ range.1 := by
  decide +kernel

lemma isBlank_of_isDecimalDigit {c : Char} (h : isDecimalDigit c = true) : isBlank c = false := by
  obtain ⟨nought, hmem, -, hle, hlt⟩ := exists_zero_of_isDecimalDigit h
  rw [isBlank, Ranges.contains, List.any_eq_false]
  intro range hrange
  have := digitZeros_apart nought hmem range hrange
  simp only [Bool.and_eq_true, decide_eq_true_eq]
  omega

namespace Numeral

lemma digitBelow?_of_isDecimalDigit {c : Char} (h : isDecimalDigit c = true) :
    ∃ d, digitBelow? 10 c = some d := by
  obtain ⟨nought, -, hvalue, hle, hlt⟩ := exists_zero_of_isDecimalDigit h
  refine ⟨c.toNat - nought, ?_⟩
  rw [digitBelow?, digit?, hvalue]
  simp only [Option.filter_some, decide_eq_true_eq]
  rw [if_pos (by omega)]

lemma takeDigits_of_isDecimalDigit {cs : List Char} (h : ∀ c ∈ cs, isDecimalDigit c = true)
    (mayPause : Bool) (hcs : mayPause = true ∨ cs ≠ []) :
    ∃ ds, takeDigits 10 mayPause cs = some (ds, []) ∧ ds.length = cs.length := by
  induction cs generalizing mayPause with
  | nil =>
      obtain rfl : mayPause = true := by simpa using hcs
      exact ⟨[], rfl, rfl⟩
  | cons c cs ih =>
      obtain ⟨d, hd⟩ := digitBelow?_of_isDecimalDigit (h c List.mem_cons_self)
      obtain ⟨ds, hds, hlength⟩ :=
        ih (fun x hx => h x (List.mem_cons_of_mem c hx)) true (.inl rfl)
      refine ⟨d :: ds, ?_, by rw [List.length_cons, List.length_cons, hlength]⟩
      rw [takeDigits, hd]
      dsimp only
      rw [hds, Option.map_some]

/-- Decimal digits of any scripts, within the limit, are a numeral. -/
lemma exists_read_of_isDecimalDigit {cs : List Char} (hne : cs ≠ [])
    (hdigits : ∀ c ∈ cs, isDecimalDigit c = true) (hlength : cs.length ≤ digitLimit) :
    ∃ n, read .plain cs = .ok n := by
  obtain ⟨ds, hds, hds_length⟩ := takeDigits_of_isDecimalDigit hdigits false (.inr hne)
  have hread : ∀ malformed, readNat .plain malformed cs = .ok (ofDigits 10 ds) := by
    intro malformed
    have hbody : body .plain cs = ⟨10, false, cs⟩ := rfl
    rw [readNat, hbody]
    dsimp only
    rw [hds]
    simp [show ¬ digitLimit < ds.length by omega]
  cases cs with
  | nil => exact absurd rfl hne
  | cons c cs =>
      have hc := hdigits c List.mem_cons_self
      have hmargin : isMargin c = false := by simp [isMargin, isBlank_of_isDecimalDigit hc]
      have hminus : c ≠ '-' := by rintro rfl; revert hc; decide
      have hplus : c ≠ '+' := by rintro rfl; revert hc; decide
      refine ⟨Int.ofNat (ofDigits 10 ds), ?_⟩
      rw [read, List.dropWhile_cons_of_neg (by simp [hmargin])]
      simp [hminus, hplus, hread, Except.map]

end Numeral

end Mailroom.Text
