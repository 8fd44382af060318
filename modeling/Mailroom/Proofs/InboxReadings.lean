import Mathlib
import Mailroom.Outbox
import Mailroom.Proofs.Spelling
import Mailroom.Proofs.TextLayouts

/-!
# What reading a text gives

A text is read one integer after the other, up to the first token that is none.  What integers look
like is said here without the reader: decimal digits, any zeros in front of them, and a minus sign
where the integer is not positive.  Of the digits, those zeros included, there may only be so many.

- `reading`, `Yields`: what reading gives, again and again.
- `Spells`: an integer as it may be written; `HasForm`: a token that looks like one.
- `slip_of_spells`, `slip_of_not_form`, `slip_of_many`: what becomes of a token.
- `laid_written`: how an outbox lays out what it writes.
- `ofText_yields`: what becomes of a text; `ofText_many_zeros`: zeros count as digits.
-/

namespace Mailroom.Inbox

open Text

/-! ## Reading again and again -/

/-- What reading gives after it has been done `n` times. -/
def reading (inbox : Inbox) : Nat → Reading
  | 0 => inbox.next.1
  | n + 1 => inbox.next.2.reading n

/-- Reading gives these, and from then on that nothing is left. -/
def Yields (inbox : Inbox) (readings : List Reading) : Prop :=
  ∀ n, inbox.reading n = readings[n]?.getD .empty

lemma yields_nil : Yields ⟨[]⟩ [] := by
  intro n
  induction n with
  | zero => rfl
  | succ n ih => exact ih

lemma Yields.value {rest : List Slip} {readings : List Reading} (h : Yields ⟨rest⟩ readings)
    (v : Int) : Yields ⟨.value v :: rest⟩ (.value v :: readings) := by
  intro n
  cases n with
  | zero => rfl
  | succ n => exact h n

lemma Yields.values {rest : List Slip} {readings : List Reading} (h : Yields ⟨rest⟩ readings)
    (values : List Int) :
    Yields ⟨values.map .value ++ rest⟩ (values.map .value ++ readings) := by
  induction values with
  | nil => exact h
  | cons v values ih => exact ih.value v

/-- Nothing can be read behind a slip that is spoiled. -/
lemma yields_spoiled (e : InboxError) (rest : List Slip) :
    Yields ⟨.spoiled e :: rest⟩ [.failed e] := by
  intro n
  cases n with
  | zero => rfl
  | succ n => exact yields_nil n

/-! ## Integers as they are written -/

/-- An integer as it may be written. -/
inductive Spells : List Char → Int → Prop
  | plain (zeros n : Nat) : Spells (List.replicate zeros '0' ++ Nat.toDigits 10 n) n
  | minus (zeros n : Nat) : Spells ('-' :: (List.replicate zeros '0' ++ Nat.toDigits 10 n)) (-n)

/-- A token that looks like an integer: digits, with or without a minus sign in front. -/
def HasForm (token : List Char) : Prop :=
  ∃ digits, digits ≠ [] ∧ (∀ c ∈ digits, c.isDigit = true) ∧
    (token = digits ∨ token = '-' :: digits)

/-- How many digits a token has. -/
def digitCount (token : List Char) : Nat :=
  token.countP Char.isDigit

/-- A token, wherever it stands, that is read as an integer. -/
def Carries (place : Nat × List Char) (v : Int) : Prop :=
  Spells place.2 v ∧ digitCount place.2 ≤ Numeral.digitLimit

lemma isIntegerToken_iff {token : List Char} : isIntegerToken token = true ↔ HasForm token := by
  have hdigits : ∀ digits : List Char,
      (!digits.isEmpty && digits.all fun c => '0' ≤ c && c ≤ '9') = true
        ↔ digits ≠ [] ∧ ∀ c ∈ digits, c.isDigit = true := by
    intro digits
    rw [Bool.and_eq_true, List.all_eq_true, Bool.not_eq_true', List.isEmpty_eq_false_iff]
    rfl
  simp only [isIntegerToken, hdigits]
  constructor
  · rintro ⟨hne, hall⟩
    refine ⟨_, hne, hall, ?_⟩
    split
    · rename_i hminus
      exact .inr (List.cons_head?_tail hminus).symm
    · exact .inl rfl
  · rintro ⟨digits, hne, hall, rfl | rfl⟩
    · have hplain : token.head? ≠ some '-' := fun hminus =>
        absurd (hall '-' (List.mem_of_mem_head? hminus)) (by decide)
      rw [if_neg hplain]
      exact ⟨hne, hall⟩
    · exact ⟨hne, hall⟩

/-- Zeros in front of a number make no difference to it. -/
lemma ofDigits_zeros (zeros n : Nat) :
    Numeral.ofDigits 10 ((List.replicate zeros '0' ++ Nat.toDigits 10 n).map (·.toNat - 48)) = n := by
  have hzeros : (List.replicate zeros 0).foldl (fun n d => n * 10 + d) 0 = 0 := by
    induction zeros with
    | zero => rfl
    | succ zeros ih => exact ih
  have hnumber := Numeral.ofDigits_toDigits n
  rw [Numeral.ofDigits] at hnumber
  rw [Numeral.ofDigits, List.map_append, List.map_replicate, List.foldl_append]
  exact (congrArg (fun start => List.foldl _ start _) hzeros).trans hnumber

/-- Digits are read as their number, unless there are too many. -/
lemma readNat_digits {digits : List Char} (hne : digits ≠ [])
    (hdigits : ∀ c ∈ digits, c.isDigit = true) (malformed : Numeral.Error) :
    Numeral.readNat .plain malformed digits
      = if Numeral.digitLimit < digits.length then .error (.tooManyDigits digits.length)
        else .ok (Numeral.ofDigits 10 (digits.map (·.toNat - 48))) := by
  have htake := Numeral.takeDigits_of_isDigit hdigits false (.inr hne)
  have hbody : Numeral.body .plain digits = ⟨10, false, digits⟩ := rfl
  rw [Numeral.readNat, hbody]
  dsimp only
  rw [htake]
  simp

section Digits

variable {digits : List Char}

lemma read_digits (hne : digits ≠ []) (hdigits : ∀ c ∈ digits, c.isDigit = true) :
    Numeral.read .plain digits
      = if Numeral.digitLimit < digits.length then .error (.tooManyDigits digits.length)
        else .ok (Numeral.ofDigits 10 (digits.map (·.toNat - 48)) : Int) := by
  have hfirst : ∀ c ∈ digits.head?, Numeral.isMargin c = false ∧ c ≠ '-' ∧ c ≠ '+' := by
    intro c hc
    have hdigit := hdigits c (List.mem_of_mem_head? hc)
    refine ⟨Numeral.isMargin_of_isDigit hdigit, ?_, ?_⟩ <;> (rintro rfl; cases hdigit)
  have hdrop : digits.dropWhile Numeral.isMargin = digits :=
    dropWhile_eq_self fun c hc => (hfirst c hc).1
  simp only [Numeral.read, hdrop]
  split
  · exact absurd rfl (hfirst '-' rfl).2.1
  · exact absurd rfl (hfirst '+' rfl).2.2
  · rw [readNat_digits hne hdigits]
    split <;> rfl

lemma read_minus (hne : digits ≠ []) (hdigits : ∀ c ∈ digits, c.isDigit = true) :
    Numeral.read .plain ('-' :: digits)
      = if Numeral.digitLimit < digits.length then .error (.tooManyDigits digits.length)
        else .ok (-(Numeral.ofDigits 10 (digits.map (·.toNat - 48)) : Int)) := by
  have hdrop : ('-' :: digits).dropWhile Numeral.isMargin = '-' :: digits :=
    List.dropWhile_cons_of_neg (by decide)
  rw [Numeral.read, hdrop]
  simp only [readNat_digits hne hdigits]
  split <;> rfl

end Digits

/-! ## What becomes of a token -/

lemma digitCount_digits {digits : List Char} (h : ∀ c ∈ digits, c.isDigit = true) :
    digitCount digits = digits.length :=
  List.countP_eq_length.mpr h

lemma digitCount_minus (digits : List Char) : digitCount ('-' :: digits) = digitCount digits :=
  List.countP_cons_of_neg (by decide)

lemma isDigit_zeros {zeros n : Nat} {c : Char}
    (h : c ∈ List.replicate zeros '0' ++ Nat.toDigits 10 n) : c.isDigit = true := by
  rcases List.mem_append.mp h with h | h
  · obtain rfl := List.eq_of_mem_replicate h
    rfl
  · exact Numeral.isDigit_toDigits h

lemma zeros_ne_nil (zeros n : Nat) : List.replicate zeros '0' ++ Nat.toDigits 10 n ≠ [] := by
  simp [Nat.toDigits_ne_nil]

lemma Spells.hasForm {token : List Char} {v : Int} (h : Spells token v) : HasForm token := by
  cases h with
  | plain zeros n => exact ⟨_, zeros_ne_nil zeros n, fun _ => isDigit_zeros, .inl rfl⟩
  | minus zeros n => exact ⟨_, zeros_ne_nil zeros n, fun _ => isDigit_zeros, .inr rfl⟩

section Slips

variable {token : List Char} (line : Nat)

lemma slip_of_spells {v : Int} (h : Spells token v)
    (hcount : digitCount token ≤ Numeral.digitLimit) : slip line token = .value v := by
  rw [slip, if_pos (isIntegerToken_iff.mpr h.hasForm)]
  cases h with
  | plain zeros n =>
      rw [digitCount_digits fun _ => isDigit_zeros] at hcount
      rw [read_digits (zeros_ne_nil zeros n) fun _ => isDigit_zeros, if_neg (by omega),
        ofDigits_zeros]
  | minus zeros n =>
      rw [digitCount_minus, digitCount_digits fun _ => isDigit_zeros] at hcount
      rw [read_minus (zeros_ne_nil zeros n) fun _ => isDigit_zeros, if_neg (by omega),
        ofDigits_zeros]

lemma slip_of_not_form (h : ¬ HasForm token) :
    slip line token = .spoiled (.notInteger line (String.ofList token)) := by
  rw [slip, if_neg fun hinteger => h (isIntegerToken_iff.mp hinteger)]

/-- Digits are counted whether they make a difference to the integer or not. -/
lemma slip_of_many (h : HasForm token) (hcount : Numeral.digitLimit < digitCount token) :
    slip line token = .spoiled (.numeral (.tooManyDigits (digitCount token))) := by
  rw [slip, if_pos (isIntegerToken_iff.mpr h)]
  obtain ⟨digits, hne, hdigits, rfl | rfl⟩ := h
  · rw [digitCount_digits hdigits] at hcount ⊢
    rw [read_digits hne hdigits, if_pos hcount]
  · rw [digitCount_minus, digitCount_digits hdigits] at hcount ⊢
    rw [read_minus hne hdigits, if_pos hcount]

end Slips

/-! ## What becomes of a text -/

lemma ofText_eq {text : List Char} {places : List (Nat × List Char)} (h : Laid [] text places) :
    ofText text = ⟨places.map fun place => slip place.1 place.2⟩ := by
  have hplaced := h.placed_eq
  rw [List.count_nil, Nat.add_zero] at hplaced
  rw [ofText, slips_eq_placed, hplaced]

lemma map_slip_of_carries {places : List (Nat × List Char)} {values : List Int}
    (h : List.Forall₂ Carries places values) :
    places.map (fun place => slip place.1 place.2) = values.map .value := by
  induction h with
  | nil => rfl
  | @cons place v _ _ hplace _ ih =>
      rw [List.map_cons, List.map_cons, slip_of_spells place.1 hplace.1 hplace.2, ih]

/-! ## What an outbox has written -/

/-- Letters, digits and signs of ASCII can stand in a token. -/
lemma solid_of_ascii {c : Char} (hlow : 32 < c.toNat) (hhigh : c.toNat < 127) (hcomma : c ≠ ',')
    (hhash : c ≠ '#') : ¬ IsMark c ∧ c ≠ '#' := by
  refine ⟨?_, hhash⟩
  rintro (rfl | hblank)
  · exact hcomma rfl
  · rw [isBlank_of_ascii hlow hhigh] at hblank
    cases hblank

lemma HasForm.isToken {token : List Char} (h : HasForm token) : IsToken token := by
  have hsolid : ∀ c : Char, c = '-' ∨ c.isDigit = true → ¬ IsMark c ∧ c ≠ '#' := by
    rintro c (rfl | hdigit)
    · decide
    · obtain ⟨hle, hge⟩ := Numeral.isDigit_iff.mp hdigit
      refine solid_of_ascii (by omega) (by omega) ?_ ?_ <;> (rintro rfl; cases hdigit)
  obtain ⟨digits, hne, hdigits, rfl | rfl⟩ := h
  · exact ⟨hne, fun c hc => hsolid c (.inr (hdigits c hc))⟩
  · refine ⟨List.cons_ne_nil _ _, fun c hc => hsolid c ?_⟩
    exact (List.mem_cons.mp hc).imp_right (hdigits c)

/-- An integer as it is written. -/
lemma carries_write {v : Int} (h : Numeral.fits v = true) (line : Nat) :
    Carries (line, Numeral.write v) v := by
  have hlength : Numeral.fits (v.natAbs : Int) = true :=
    Numeral.fits_of_natAbs_le (Int.natAbs_natCast _).le h
  rw [Numeral.fits_iff_length] at hlength
  have hdigits : ∀ c ∈ Nat.toDigits 10 v.natAbs, c.isDigit = true :=
    fun _ => Numeral.isDigit_toDigits
  cases v with
  | ofNat n =>
      refine ⟨.plain 0 n, ?_⟩
      exact (digitCount_digits hdigits).trans_le hlength
  | negSucc n =>
      refine ⟨.minus 0 (n + 1), ?_⟩
      exact ((digitCount_minus _).trans (digitCount_digits hdigits)).trans_le hlength

/-- The text of integers, each on a line. -/
def written (values : List Int) : List Char :=
  values.flatMap fun v => Numeral.write v ++ ['\n']

lemma foldl_write (values : List Int) (start : String) :
    values.foldl (fun tray v => Tray.write v tray) (.text start)
      = .text (start ++ String.ofList (written values)) := by
  induction values generalizing start with
  | nil => simp [written]
  | cons v values ih =>
      rw [List.foldl_cons, Tray.write, ih]
      congr 1
      apply String.toList_injective
      simp [written, Numeral.text]

/-- Such a text has the integers for its tokens. -/
lemma laid_written {values : List Int} (hfits : ∀ v ∈ values, Numeral.fits v = true)
    (before : List Char) {parting : List Char} (hparting : Parting parting)
    (happart : before = [] ∨ parting ≠ []) :
    ∃ places, Laid before (parting ++ written values) places ∧
      List.Forall₂ Carries places values := by
  induction values generalizing before parting with
  | nil =>
      refine ⟨[], .ending (.parting ?_), .nil⟩
      simpa [written] using hparting
  | cons v values ih =>
      have hnewline : Parting ['\n'] := .mark (.inr (by decide)) .nil
      have hv := carries_write (hfits v List.mem_cons_self)
      obtain ⟨places, hlaid, hcarries⟩ := ih (fun w hw => hfits w (List.mem_cons_of_mem v hw))
        (before ++ parting ++ Numeral.write v) hnewline (.inr (List.cons_ne_nil _ _))
      have hrest : parting ++ written (v :: values)
          = parting ++ (Numeral.write v ++ (['\n'] ++ written values)) := by
        simp [written]
      rw [hrest]
      exact ⟨_, .token hparting happart (hv 0).1.hasForm.isToken hlaid, .cons (hv _) hcarries⟩

/-- **Texts are read up to the first flaw.**  Every text has one layout, and reading it gives the
integers of its tokens, as long as each is spelled with no more digits than are allowed, zeros
included, and then nothing any more.  A token that does not look like an integer is reported once,
with the line that it stands on, and one with too many digits once as well; nothing is read from there
on.  What an outbox has written is read back. -/
theorem ofText_yields (text : List Char) :
    (∃! places, Laid [] text places) ∧
      (∀ places, Laid [] text places →
        (∀ values : List Int, List.Forall₂ Carries places values →
          (ofText text).Yields (values.map .value)) ∧
        ∀ good line token later, places = good ++ (line, token) :: later →
          ∀ values : List Int, List.Forall₂ Carries good values →
          (¬ HasForm token → (ofText text).Yields
            (values.map .value ++ [.failed (.notInteger line (String.ofList token))])) ∧
          (HasForm token → Numeral.digitLimit < digitCount token → (ofText text).Yields
            (values.map .value ++ [.failed (.numeral (.tooManyDigits (digitCount token)))]))) ∧
      ∀ values : List Int, (∀ v ∈ values, Numeral.fits v = true) →
        ∃ sheet, values.foldl (fun tray v => Tray.write v tray) (.text "") = .text sheet ∧
          (ofText sheet.toList).Yields (values.map .value) := by
  have hread : ∀ {cs places} {values : List Int}, Laid [] cs places →
      List.Forall₂ Carries places values → (ofText cs).Yields (values.map .value) := by
    intro cs places values hlaid hcarries
    rw [ofText_eq hlaid, map_slip_of_carries hcarries]
    simpa using yields_nil.values values
  refine ⟨?_, fun places hlaid => ⟨fun values => hread hlaid, ?_⟩, ?_⟩
  · obtain ⟨places, hlaid⟩ := exists_laid [] text (.inl rfl)
    exact ⟨places, hlaid, fun places' hlaid' => hlaid'.placed_eq.symm.trans hlaid.placed_eq⟩
  · rintro good line token later rfl values hcarries
    have hflawed : ∀ e, slip line token = .spoiled e →
        (ofText text).Yields (values.map .value ++ [.failed e]) := by
      intro e hslip
      rw [ofText_eq hlaid, List.map_append, map_slip_of_carries hcarries, List.map_cons, hslip]
      exact (yields_spoiled e _).values values
    exact ⟨fun hform => hflawed _ (slip_of_not_form line hform),
      fun hform hcount => hflawed _ (slip_of_many line hform hcount)⟩
  · intro values hfits
    obtain ⟨places, hlaid, hcarries⟩ := laid_written hfits [] .nil (.inl rfl)
    refine ⟨_, foldl_write values "", ?_⟩
    simpa using hread hlaid hcarries

/-- Zeros in front, a comma, a comment right behind a token, a blank that is no space, and a token
that is no integer on the second line. -/
theorem ofText_yields_flawed :
    (ofText "007,-3#a\n\u00a05x 9".toList).Yields
      [.value 7, .value (-3), .failed (.notInteger 2 "5x")] := by
  have hsolid : ∀ c ∈ ['5', 'x'], ¬ IsMark c ∧ c ≠ '#' := by
    rw [List.forall_mem_cons, List.forall_mem_singleton]
    constructor <;> exact solid_of_ascii (by decide) (by decide) (by decide) (by decide)
  have hnine : Laid "007,-3#a\n\u00a05x".toList " 9".toList [(2, ['9'])] :=
    @Laid.token _ [' '] ['9'] [] [] (.mark (by decide) .nil) (by decide)
      (Spells.plain 0 9).hasForm.isToken (.ending (.parting .nil))
  have hflaw : Laid "007,-3".toList "#a\n\u00a05x 9".toList [(2, ['5', 'x']), (2, ['9'])] :=
    @Laid.token _ "#a\n\u00a0".toList ['5', 'x'] _ _
      (@Parting.comment ['a'] _ (by decide) (.mark (by decide) .nil)) (by decide)
      ⟨by decide, hsolid⟩ hnine
  have hminus : Laid "007".toList ",-3#a\n\u00a05x 9".toList
      [(1, ['-', '3']), (2, ['5', 'x']), (2, ['9'])] :=
    @Laid.token _ [','] ['-', '3'] _ _ (.mark (by decide) .nil) (by decide)
      (Spells.minus 0 3).hasForm.isToken hflaw
  have hlaid : Laid [] "007,-3#a\n\u00a05x 9".toList
      [(1, ['0', '0', '7']), (1, ['-', '3']), (2, ['5', 'x']), (2, ['9'])] :=
    @Laid.token _ [] ['0', '0', '7'] _ _ .nil (by decide) (Spells.plain 2 7).hasForm.isToken hminus
  have hform : ¬ HasForm ['5', 'x'] := by
    rw [← isIntegerToken_iff]
    decide
  exact (((ofText_yields _).2.1 _ hlaid).2 [(1, ['0', '0', '7']), (1, ['-', '3'])] 2 ['5', 'x']
    [(2, ['9'])] rfl [7, -3]
    (.cons ⟨.plain 2 7, by decide⟩ (.cons ⟨.minus 0 3, by decide⟩ .nil))).1 hform

/-- Zero can be written with so many zeros that it is not read. -/
theorem ofText_many_zeros :
    Laid [] (List.replicate 4301 '0') [(1, List.replicate 4301 '0')] ∧
      Spells (List.replicate 4301 '0') 0 ∧ Numeral.fits 0 = true ∧
      ¬ (ofText (List.replicate 4301 '0')).Yields [.value 0] := by
  have hdigits : ∀ c ∈ List.replicate 4301 '0', c.isDigit = true := by
    intro c hc
    rw [List.eq_of_mem_replicate hc]
    rfl
  have hspells : Spells (List.replicate 4301 '0') 0 := by
    rw [List.replicate_succ']
    exact .plain 4300 0
  have hlaid : Laid [] (List.replicate 4301 '0') [(1, List.replicate 4301 '0')] := by
    have htoken : Laid [] ([] ++ (List.replicate 4301 '0' ++ []))
        [(1 + List.count '\n' [], List.replicate 4301 '0')] :=
      .token .nil (.inl rfl) hspells.hasForm.isToken (.ending (.parting .nil))
    rwa [List.append_nil, List.nil_append] at htoken
  refine ⟨hlaid, hspells, (Numeral.fits_iff_length (n := 0)).mpr (by decide), fun hyields => ?_⟩
  have hcount : Numeral.digitLimit < digitCount (List.replicate 4301 '0') := by
    rw [digitCount_digits hdigits, List.length_replicate]
    decide
  rw [ofText_eq hlaid, List.map_singleton, slip_of_many 1 hspells.hasForm hcount] at hyields
  have hfirst : Reading.failed _ = .value 0 := hyields 0
  cases hfirst

end Mailroom.Inbox
