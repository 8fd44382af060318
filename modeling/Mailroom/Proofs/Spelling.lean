import Mathlib
import Mailroom.Proofs.Splitting
import Mailroom.Proofs.Text

/-!
# Digits spell their number

The hundreds, the tens and the ones of a number, written one behind the other, are the number as it
is written.  This needs no bound: of a large number the hundreds are more than a digit, and a
negative number is sent on as it is.

- `explode_cases`: the digits by the size of the number, as quotients and remainders.
- `Numeral.write_ediv_append`: the last digit of a number that is written.
- `explode_spells`: the digits spell the number.
-/

namespace Mailroom

open Text

/-! ## Digits as quotients and remainders -/

lemma timesTaken_of_nonneg {unit n : Int} (hn : 0 ≤ n) : timesTaken unit n = n / unit := by
  rw [timesTaken]
  split
  · rename_i hlt
    exact (Int.ediv_eq_zero_of_lt hn hlt).symm
  · rfl

section Sizes

variable {n : Int}

lemma explode_of_lt_ten (h : n < 10) : explode n = [n] := by
  have hhundreds : timesTaken 100 n = 0 := timesTaken_of_lt (by omega)
  have htens : timesTaken 10 n = 0 := timesTaken_of_lt h
  simp [explode_eq, Split.of_eq, Split.digits, hhundreds, htens]

lemma explode_of_lt_hundred (hten : 10 ≤ n) (h : n < 100) : explode n = [n / 10, n % 10] := by
  have hhundreds : timesTaken 100 n = 0 := timesTaken_of_lt h
  have htens : timesTaken 10 n = n / 10 := timesTaken_of_nonneg (by omega)
  have hne : n / 10 ≠ 0 := by omega
  have hones : n - 10 * (n / 10) = n % 10 := by omega
  simp [explode_eq, Split.of_eq, Split.digits, hhundreds, htens, hne, hones]

lemma explode_of_hundred_le (h : 100 ≤ n) : explode n = [n / 100, n / 10 % 10, n % 10] := by
  have hhundreds : timesTaken 100 n = n / 100 := timesTaken_of_nonneg (by omega)
  have hrest : n - 100 * (n / 100) = n % 100 := by omega
  have htens : timesTaken 10 (n % 100) = n % 100 / 10 := timesTaken_of_nonneg (by omega)
  have hne : n / 100 ≠ 0 := by omega
  have hdigit : n % 100 / 10 = n / 10 % 10 := by omega
  have hones : n % 100 - 10 * (n / 10 % 10) = n % 10 := by omega
  simp [explode_eq, Split.of_eq, Split.digits, hhundreds, hrest, htens, hne, hdigit, hones]

end Sizes

/-- All that the digits of a number can be. -/
lemma explode_cases (n : Int) :
    (n < 10 ∧ explode n = [n]) ∨
      (10 ≤ n ∧ n < 100 ∧ explode n = [n / 10, n % 10]) ∨
      (100 ≤ n ∧ explode n = [n / 100, n / 10 % 10, n % 10]) := by
  rcases lt_or_ge n 10 with hten | hten
  · exact .inl ⟨hten, explode_of_lt_ten hten⟩
  · rcases lt_or_ge n 100 with hhundred | hhundred
    · exact .inr (.inl ⟨hten, hhundred, explode_of_lt_hundred hten hhundred⟩)
    · exact .inr (.inr ⟨hhundred, explode_of_hundred_le hhundred⟩)

/-- No digit is further from zero than the number. -/
lemma natAbs_le_of_mem_explode {n v : Int} (hv : v ∈ explode n) : v.natAbs ≤ n.natAbs := by
  obtain ⟨-, h⟩ | ⟨hten, -, h⟩ | ⟨hhundred, h⟩ := explode_cases n
  all_goals
    simp only [h, List.mem_cons, List.not_mem_nil, or_false] at hv
    omega

/-! ## Written numbers -/

namespace Text.Numeral

/-- A number of two digits or more is written as what is in front of its last digit, and that
digit. -/
lemma write_ediv_append {n : Int} (h : 10 ≤ n) : write (n / 10) ++ write (n % 10) = write n := by
  obtain ⟨m, rfl⟩ := Int.eq_ofNat_of_zero_le (show 0 ≤ n by omega)
  have hdigits := Nat.toDigits_append_toDigits (b := 10) (n := m / 10) (d := m % 10)
    (by decide) (by omega) (by omega)
  rw [Nat.div_add_mod] at hdigits
  exact hdigits

lemma fits_of_natAbs_le {v n : Int} (hle : v.natAbs ≤ n.natAbs) (h : fits n = true) :
    fits v = true := by
  rw [fits, decide_eq_true_eq] at h ⊢
  exact lt_of_le_of_lt hle h

end Text.Numeral

/-- Written one behind the other, the digits of a number are the number as it is written. -/
lemma flatMap_write_explode (n : Int) : (explode n).flatMap Numeral.write = Numeral.write n := by
  obtain ⟨-, h⟩ | ⟨hten, -, h⟩ | ⟨hhundred, h⟩ := explode_cases n
  · simp [h]
  · simp [h, Numeral.write_ediv_append hten]
  · have hfront : Numeral.write (n / 100) ++ Numeral.write (n / 10 % 10)
        = Numeral.write (n / 10) := by
      have hquotient : n / 100 = n / 10 / 10 := by omega
      rw [hquotient, Numeral.write_ediv_append (by omega)]
    have hlast : Numeral.write (n / 10) ++ Numeral.write (n % 10) = Numeral.write n :=
      Numeral.write_ediv_append (by omega)
    simp only [h, List.flatMap_cons, List.flatMap_nil, List.append_nil]
    rw [← List.append_assoc, hfront, hlast]

/-- **The digits spell the number.**  What one step of a splitter sends for a number is, written one
behind the other, the number as it is written, and each part can be written if the number can.  A
number has one part below ten, two below a hundred and three from there on, and all parts but the
first are digits. -/
theorem explode_spells (n : Int) :
    SplitEvent.sent (Splitter.step { inbox := .ofValues [n] }).events = explode n ∧
      String.join ((explode n).map Numeral.text) = Numeral.text n ∧
      (Numeral.fits n = true → ∀ v ∈ explode n, Numeral.fits v = true) ∧
      (explode n).length = (if n < 10 then 1 else if n < 100 then 2 else 3) ∧
      ∀ v ∈ (explode n).tail, 0 ≤ v ∧ v ≤ 9 := by
  have hjoin : String.join ((explode n).map Numeral.text) = Numeral.text n := by
    apply String.toList_injective
    rw [Numeral.text, String.toList_ofList, ← flatMap_write_explode]
    simp [Numeral.text, Function.comp_def, List.flatMap]
  refine ⟨rfl, hjoin, fun hfits v hv => ?_, ?_⟩
  · exact Numeral.fits_of_natAbs_le (natAbs_le_of_mem_explode hv) hfits
  · obtain ⟨hten, h⟩ | ⟨hten, hhundred, h⟩ | ⟨hhundred, h⟩ := explode_cases n
    · simp [h, hten]
    · rw [h, if_neg (by omega), if_pos hhundred]
      refine ⟨rfl, fun v hv => ?_⟩
      simp only [List.tail_cons, List.mem_singleton] at hv
      omega
    · rw [h, if_neg (by omega), if_neg (by omega)]
      refine ⟨rfl, fun v hv => ?_⟩
      simp only [List.tail_cons, List.mem_cons, List.not_mem_nil, or_false] at hv
      omega

/-- Twelve hundreds are one part, and no tens are another one. -/
theorem explode_spells_twelve_hundreds :
    explode 1204 = [12, 0, 4] ∧ Numeral.fits 1204 = true ∧
      (∀ v ∈ explode 1204, Numeral.fits v = true) ∧
      String.join ((explode 1204).map Numeral.text) = "1204" := by
  obtain ⟨-, hjoin, hfits, -, -⟩ := explode_spells 1204
  have hwritten : Numeral.fits 1204 = true := by
    apply Numeral.fits_iff_length.mpr
    decide +kernel
  exact ⟨by decide +kernel, hwritten, hfits hwritten, hjoin⟩

end Mailroom
