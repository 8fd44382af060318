import Mathlib
import Mailroom.Proofs.Tables
import Mailroom.Proofs.Text
import Mailroom.Text.Json.Printer
import Mailroom.Text.Json.Reader

/-!
# Values that are read back as they were written

A value is written over several lines, with escapes for what cannot stand in a string, and read by a
descent that passes over white space and keeps the last of several fields with one name.  Reading
what has been written gives the value again, if it holds no fraction, no integer with too many
digits and no object with a name twice, and if there is room for its containers.

- `stringTail_string`, `number?_write`: strings and integers, whatever stands behind them.
- `Takes`: a step that takes something off the front of a text, and what it leaves.
- `Plain`: the values in question.
- `renderAt_takes`: an induction on the value, for all texts that may stand behind it.
- `parse_render`: whole texts.
- `parse_brackets`: a text that opens one array more than there is room for.
-/

namespace Mailroom.Text.Json

/-! ## Strings -/

/-- The rest of an escape is passed over. -/
lemma stringTail_skip (left : Nat) (front cs : List Char) :
    stringTail left front.length (front ++ cs) = stringTail left 0 cs := by
  induction front with
  | nil => rfl
  | cons c front ih =>
      rw [List.length_cons, List.cons_append, stringTail]
      exact ih

lemma stringTail_char {left : Nat} {c spelled : Char} (front : List Char) {cs : List Char}
    (hc : c ≠ '"') (h : stringChar left c (front ++ cs) = .ok (spelled, front.length)) :
    stringTail left 0 (c :: (front ++ cs))
      = (stringTail left 0 cs).map fun r => (spelled :: r.1, r.2) := by
  rw [stringTail, if_neg hc, h, ← stringTail_skip left front cs]

lemma fourHex?_control : ∀ n < 32, (padStart 4 '0' (Nat.toDigits 16 n)).length = 4 ∧
    fourHex? (padStart 4 '0' (Nat.toDigits 16 n)) = some n := by
  decide +kernel

/-- A control character is spelled by its number. -/
lemma stringChar_control {left : Nat} {c : Char} (hc : c.toNat < 32) {cs : List Char}
    (hcs : cs ≠ []) :
    stringChar left '\\' ('u' :: padStart 4 '0' (Nat.toDigits 16 c.toNat) ++ cs)
      = .ok (c, ('u' :: padStart 4 '0' (Nat.toDigits 16 c.toNat)).length) := by
  obtain ⟨hlength, hvalue⟩ := fourHex?_control c.toNat hc
  have hpoint : codePoint (padStart 4 '0' (Nat.toDigits 16 c.toNat) ++ cs)
      = .ok (c.toNat, 4) := by
    have hmore : ¬ (padStart 4 '0' (Nat.toDigits 16 c.toNat) ++ cs).length ≤ 4 := by
      have := List.length_pos_of_ne_nil hcs
      rw [List.length_append, hlength]
      omega
    have hhigh : isHighSurrogate c.toNat = false := by
      rw [isHighSurrogate, Bool.and_eq_false_iff]
      left
      simp only [decide_eq_false_iff_not]
      omega
    rw [codePoint, if_neg hmore, List.take_left' hlength, hvalue]
    simp only [hhigh, Bool.false_and, Bool.false_eq_true, if_false]
  unfold stringChar
  simp only [List.cons_append, if_true, hpoint, Except.map, Char.ofNat_toNat, List.length_cons,
    hlength]

/-- **One character.**  What it is written as is read as the character. -/
lemma stringTail_escape (left : Nat) (c : Char) {cs : List Char} (hcs : cs ≠ []) :
    stringTail left 0 (escape c ++ cs)
      = (stringTail left 0 cs).map fun r => (c :: r.1, r.2) := by
  have hshort : ∀ e plain : Char, e ≠ 'u' → shortEscape? e = some plain →
      stringTail left 0 (['\\', e] ++ cs)
        = (stringTail left 0 cs).map fun r => (plain :: r.1, r.2) := by
    intro e plain he hplain
    refine stringTail_char [e] (by decide) ?_
    unfold stringChar
    simp only [List.cons_append, List.nil_append, if_true, he, if_false, hplain,
      List.length_singleton]
  have hnamed : ∀ n : Nat, c.toNat = n → c = Char.ofNat n := by
    rintro n rfl
    exact (Char.ofNat_toNat c).symm
  rw [escape]
  split_ifs with hquote hslash hn hr ht hb hf hcontrol
  · exact hquote ▸ hshort '"' '"' (by decide) rfl
  · exact hslash ▸ hshort '\\' '\\' (by decide) rfl
  · exact hn ▸ hshort 'n' '\n' (by decide) rfl
  · exact hr ▸ hshort 'r' '\r' (by decide) rfl
  · exact ht ▸ hshort 't' '\t' (by decide) rfl
  · exact hnamed 8 hb ▸ hshort 'b' (Char.ofNat 8) (by decide) rfl
  · exact hnamed 12 hf ▸ hshort 'f' (Char.ofNat 12) (by decide) rfl
  · exact stringTail_char _ (by decide) (stringChar_control hcontrol hcs)
  · refine stringTail_char [] hquote ?_
    unfold stringChar
    rw [if_neg hslash, if_neg hcontrol]
    rfl

/-- **Strings are read back.**  What follows the closing quote is left. -/
lemma stringTail_string (left : Nat) (s rest : List Char) :
    stringTail left 0 (s.flatMap escape ++ '"' :: rest) = .ok (s, rest) := by
  induction s with
  | nil => rfl
  | cons c s ih =>
      rw [List.flatMap_cons, List.append_assoc, stringTail_escape left c (by simp), ih]
      rfl

/-! ## Integers -/

/-- A text with which no number goes on. -/
def Closes (rest : List Char) : Prop :=
  ∀ c ∈ rest.head?, isDigit c = false ∧ c ≠ '.' ∧ c ≠ 'e' ∧ c ≠ 'E'

lemma digitsValue_toDigits (n : Nat) : digitsValue (Nat.toDigits 10 n) = n := by
  have hvalue := Numeral.ofDigits_toDigits n
  rw [Numeral.ofDigits, List.foldl_map] at hvalue
  exact hvalue

lemma wholeDigits_toDigits (n : Nat) {rest : List Char} (hrest : Closes rest) :
    wholeDigits (Nat.toDigits 10 n ++ rest) = Nat.toDigits 10 n := by
  have hdigits : ∀ c ∈ Nat.toDigits 10 n, isDigit c = true := fun c => Numeral.isDigit_toDigits
  have htake : rest.takeWhile isDigit = [] := by
    cases rest with
    | nil => rfl
    | cons d rest => rw [List.takeWhile_cons, (hrest d rfl).1]; rfl
  rcases Nat.eq_zero_or_pos n with rfl | hn
  · rfl
  · have hhead := Numeral.head?_toDigits_ne_zero hn
    cases hcs : Nat.toDigits 10 n with
    | nil => exact absurd hcs Nat.toDigits_ne_nil
    | cons c cs =>
        rw [hcs] at hhead hdigits
        have hzero : c ≠ '0' := fun hc => hhead (by rw [hc]; rfl)
        rw [List.cons_append, wholeDigits, if_neg hzero, if_pos (hdigits c List.mem_cons_self),
          List.takeWhile_append_of_pos fun d hd => hdigits d (List.mem_cons_of_mem c hd), htake,
          List.append_nil]

/-- The sign of an integer as it is written. -/
def signText (n : Int) : List Char :=
  if n < 0 then ['-'] else []

/-- An integer is written as its sign and digits. -/
lemma write_eq (n : Int) : Numeral.write n = signText n ++ Nat.toDigits 10 n.natAbs := by
  cases n with
  | ofNat n => rfl
  | negSucc n => rw [signText, if_pos (Int.negSucc_lt_zero n)]; rfl

lemma take_sign (n : Int) (rest : List Char) :
    (signText n ++ (Nat.toDigits 10 n.natAbs ++ rest)).take
      (if (signText n ++ (Nat.toDigits 10 n.natAbs ++ rest)).head? = some '-' then 1 else 0)
      = signText n := by
  rw [signText]
  split
  · rfl
  · rw [List.nil_append, if_neg, List.take_zero]
    rw [List.head?_append_of_ne_nil _ Nat.toDigits_ne_nil]
    intro hhead
    have hdigit := Numeral.isDigit_toDigits (List.mem_of_mem_head? hhead)
    revert hdigit
    decide

/-- **Integers are read back,** within the limit on digits. -/
lemma number?_write {n : Int} (hfits : Numeral.fits n = true) {rest : List Char}
    (hrest : Closes rest) :
    number? (Numeral.write n ++ rest) = .ok (some (.int n, (Numeral.write n).length)) := by
  have hlimit : ¬ Numeral.digitLimit < (Nat.toDigits 10 n.natAbs).length :=
    not_lt.mpr (Numeral.fits_iff_length.mp hfits)
  have hsome : (Nat.toDigits 10 n.natAbs).isEmpty = false := by
    simp [Nat.toDigits_ne_nil]
  have hfraction : fractionDigits rest = [] := by
    cases rest with
    | nil => rfl
    | cons c rest =>
        rw [fractionDigits]
        rintro _ ⟨⟩
        exact (hrest '.' rfl).2.1 rfl
  have hexponent : exponentPart rest = none := by
    cases rest with
    | nil => rfl
    | cons c rest =>
        have hc := hrest c rfl
        rw [exponentPart, if_neg (not_or.mpr ⟨hc.2.2.1, hc.2.2.2⟩)]
  have hsigned : (if (!(signText n).isEmpty) = true then -((n.natAbs : Nat) : Int)
      else ((n.natAbs : Nat) : Int)) = n := by
    by_cases hn : n < 0
    · rw [signText, if_pos hn]
      change -((n.natAbs : Nat) : Int) = n
      omega
    · rw [signText, if_neg hn]
      change ((n.natAbs : Nat) : Int) = n
      omega
  rw [write_eq, List.append_assoc, number?]
  simp only [take_sign, List.drop_left, wholeDigits_toDigits n.natAbs hrest, hsome,
    Bool.false_eq_true, if_false, ← List.drop_drop, hfraction, List.isEmpty_nil, if_true,
    List.drop_zero, hexponent, hlimit, digitsValue_toDigits, hsigned, Nat.add_zero,
    List.length_append]

/-! ## Steps of the descent -/

/-- A step takes something off the front of a text and leaves the rest. -/
def Takes {α : Type} {cs : List Char} (step : Except Failure (α × Rest cs)) (a : α)
    (rest : List Char) : Prop :=
  ∃ h, step = .ok (a, ⟨rest, h⟩)

lemma skipSpace_eq {cs ds : List Char} (h : cs.dropWhile isSpace = ds) :
    ∃ hle, skipSpace cs = ⟨ds, hle⟩ := by
  subst h
  exact ⟨_, rfl⟩

lemma parseString_takes (s : String) (rest : List Char) :
    Takes (parseString (s.toList.flatMap escape ++ '"' :: rest)) s rest := by
  unfold parseString
  split
  · rename_i h
    rw [stringTail_string] at h
    cases h
  · rename_i h
    rw [stringTail_string] at h
    cases h
    exact ⟨_, by rw [String.ofList_toList]⟩

section Steps

variable {room : Nat}

lemma parseValue_string (s : String) (rest : List Char) :
    Takes (parseValue room (renderString s ++ rest)) (.str s) rest := by
  obtain ⟨h, hs⟩ := parseString_takes s rest
  have htext : renderString s ++ rest = '"' :: (s.toList.flatMap escape ++ '"' :: rest) := by
    simp [renderString]
  rw [htext]
  unfold parseValue
  rw [if_pos rfl, hs]
  exact ⟨_, rfl⟩

lemma parseValue_object {tail rest : List Char} {fields : Assoc String Json}
    (h : Takes (parseFields room true [] tail) fields rest) :
    Takes (parseValue (room + 1) ('\x7b' :: tail)) (.obj fields) rest := by
  obtain ⟨hlt, hfields⟩ := h
  rw [parseValue, if_neg (by decide), if_pos rfl, hfields]
  exact ⟨_, rfl⟩

lemma parseValue_array {tail rest : List Char} {items : List Json}
    (h : Takes (parseItems room true tail) items rest) :
    Takes (parseValue (room + 1) ('[' :: tail)) (.arr items) rest := by
  obtain ⟨hlt, hitems⟩ := h
  rw [parseValue, if_neg (by decide), if_neg (by decide), if_pos rfl, hitems]
  exact ⟨_, rfl⟩

/-- A word or a number is told from the other kinds of values by its first character. -/
lemma parseValue_scalar (c : Char) (front : List Char) {rest : List Char} {v : Json}
    (hquote : c ≠ '"') (hbrace : c ≠ '\x7b') (hbracket : c ≠ '[')
    (h : scalar? (c :: (front ++ rest)) = .ok (some (v, front.length + 1))) :
    Takes (parseValue room (c :: (front ++ rest))) v rest := by
  unfold parseValue
  rw [if_neg hquote, if_neg hbrace, if_neg hbracket, h]
  refine ⟨by simp, ?_⟩
  simp only [Nat.add_sub_cancel, List.drop_left]

lemma parseItems_none (rest : List Char) :
    Takes (parseItems room true (']' :: rest)) [] rest := by
  obtain ⟨_, hskip⟩ := skipSpace_eq (show (']' :: rest).dropWhile isSpace = ']' :: rest from rfl)
  rw [parseItems, hskip]
  exact ⟨_, if_pos ⟨rfl, rfl⟩⟩

lemma parseFields_none (rest : List Char) :
    Takes (parseFields room true [] ('\x7d' :: rest)) [] rest := by
  obtain ⟨_, hskip⟩ :=
    skipSpace_eq (show ('\x7d' :: rest).dropWhile isSpace = '\x7d' :: rest from rfl)
  rw [parseFields, hskip]
  exact ⟨_, if_pos ⟨rfl, rfl⟩⟩

lemma parseItems_last {first : Bool} {cs tail rest more : List Char} {c : Char} {item : Json}
    (hcs : cs.dropWhile isSpace = c :: tail) (hc : c ≠ ']')
    (hitem : Takes (parseValue room (c :: tail)) item rest)
    (hrest : rest.dropWhile isSpace = ']' :: more) :
    Takes (parseItems room first cs) [item] more := by
  obtain ⟨_, hskip⟩ := skipSpace_eq hcs
  obtain ⟨_, hvalue⟩ := hitem
  obtain ⟨_, hskip'⟩ := skipSpace_eq hrest
  rw [parseItems, hskip]
  simp only [hc, and_false, if_false, hvalue, hskip', if_true]
  exact ⟨_, rfl⟩

lemma parseItems_more {first : Bool} {cs tail rest tail' more : List Char} {c : Char} {item : Json}
    {items : List Json} (hcs : cs.dropWhile isSpace = c :: tail) (hc : c ≠ ']')
    (hitem : Takes (parseValue room (c :: tail)) item rest)
    (hrest : rest.dropWhile isSpace = ',' :: tail')
    (hitems : Takes (parseItems room false tail') items more) :
    Takes (parseItems room first cs) (item :: items) more := by
  obtain ⟨_, hskip⟩ := skipSpace_eq hcs
  obtain ⟨_, hvalue⟩ := hitem
  obtain ⟨_, hskip'⟩ := skipSpace_eq hrest
  obtain ⟨_, hlater⟩ := hitems
  rw [parseItems, hskip]
  have hcomma : (',' : Char) ≠ ']' := by decide
  simp only [hc, and_false, if_false, hvalue, hskip', hcomma, if_true, hlater]
  exact ⟨_, rfl⟩

/-- A field: its name, a colon and its value, with white space between them. -/
def HasField (room : Nat) (cs : List Char) (name : String) (value : Json) (rest : List Char) :
    Prop :=
  ∃ tail colon inner, cs.dropWhile isSpace = '"' :: tail ∧ Takes (parseString tail) name colon ∧
    colon.dropWhile isSpace = ':' :: inner ∧ Takes (parseValue room (skipSpace inner).1) value rest

lemma parseFields_last {first : Bool} {done : Assoc String Json} {cs rest more : List Char}
    {name : String} {value : Json} (hfield : HasField room cs name value rest)
    (hrest : rest.dropWhile isSpace = '\x7d' :: more) :
    Takes (parseFields room first done cs) (done.put name value) more := by
  obtain ⟨_, _, _, hquote, ⟨_, hname⟩, hcolon, _, hvalue⟩ := hfield
  obtain ⟨_, hskipQuote⟩ := skipSpace_eq hquote
  obtain ⟨_, hskipColon⟩ := skipSpace_eq hcolon
  obtain ⟨_, hskipRest⟩ := skipSpace_eq hrest
  have hopen : ('"' : Char) ≠ '\x7d' := by decide
  rw [parseFields, hskipQuote]
  simp only [hopen, and_false, if_false, if_true, hname, hskipColon, hvalue, hskipRest]
  exact ⟨_, rfl⟩

lemma parseFields_more {first : Bool} {done fields : Assoc String Json}
    {cs rest tail more : List Char} {name : String} {value : Json}
    (hfield : HasField room cs name value rest) (hrest : rest.dropWhile isSpace = ',' :: tail)
    (hfields : Takes (parseFields room false (done.put name value) tail) fields more) :
    Takes (parseFields room first done cs) fields more := by
  obtain ⟨_, _, _, hquote, ⟨_, hname⟩, hcolon, _, hvalue⟩ := hfield
  obtain ⟨_, hskipQuote⟩ := skipSpace_eq hquote
  obtain ⟨_, hskipColon⟩ := skipSpace_eq hcolon
  obtain ⟨_, hskipRest⟩ := skipSpace_eq hrest
  obtain ⟨_, hlater⟩ := hfields
  have hopen : ('"' : Char) ≠ '\x7d' := by decide
  have hcomma : (',' : Char) ≠ '\x7d' := by decide
  rw [parseFields, hskipQuote]
  simp only [hopen, and_false, if_false, if_true, hname, hskipColon, hvalue, hskipRest, hcomma,
    hlater]
  exact ⟨_, rfl⟩

end Steps

/-! ## Values -/

/-- Values that are read back as they were written where there is room for so many containers inside
one another. -/
inductive Plain : Nat → Json → Prop where
  | null {room : Nat} : Plain room .null
  | bool {room : Nat} (b : Bool) : Plain room (.bool b)
  | int {room : Nat} {n : Int} : Numeral.fits n = true → Plain room (.int n)
  | str {room : Nat} (s : String) : Plain room (.str s)
  | arr {room : Nat} {items : List Json} : (∀ item ∈ items, Plain room item) →
      Plain (room + 1) (.arr items)
  | obj {room : Nat} {fields : List (String × Json)} : (fields.map (·.1)).Nodup →
      (∀ field ∈ fields, Plain room field.2) → Plain (room + 1) (.obj fields)

/-- An integer starts with a digit, or with a minus sign and a digit. -/
lemma write_head (n : Int) : ∃ c tail, Numeral.write n = c :: tail ∧
    (c.isDigit = true ∨ c = '-' ∧ ∃ d tail', tail = d :: tail' ∧ d.isDigit = true) := by
  obtain ⟨d, tail, hdigits⟩ := List.exists_cons_of_ne_nil (Nat.toDigits_ne_nil (b := 10)
    (n := n.natAbs))
  have hd : d.isDigit = true := Numeral.isDigit_toDigits (n := n.natAbs) (by simp [hdigits])
  rw [write_eq, signText, hdigits]
  split
  · exact ⟨'-', _, rfl, .inr ⟨rfl, d, tail, rfl, hd⟩⟩
  · exact ⟨d, tail, rfl, .inl hd⟩

/-- No word that stands for a value is the start of an integer. -/
lemma literal_not_start (n : Int) (rest : List Char) {entry : String × Json}
    (hentry : entry ∈ literals) : ¬ entry.1.toList <+: Numeral.write n ++ rest := by
  have hwords : (literals.map (·.1)).all (fun word => 2 ≤ word.toList.length
      && (word.toList.take 2).all fun c => !c.isDigit) = true := by
    decide +kernel
  have hword := List.all_eq_true.mp hwords entry.1 (List.mem_map_of_mem hentry)
  simp only [Bool.and_eq_true, decide_eq_true_eq, List.all_eq_true, Bool.not_eq_true'] at hword
  obtain ⟨hlength, hletters⟩ := hword
  obtain ⟨c, tail, htext, hc⟩ := write_head n
  rw [htext]
  rcases hword : entry.1.toList with _ | ⟨a, _ | ⟨b, word⟩⟩
  · simp [hword] at hlength
  · simp [hword] at hlength
  · rw [hword] at hletters
    intro hstart
    rw [List.cons_append, List.cons_prefix_cons] at hstart
    obtain ⟨rfl, hstart⟩ := hstart
    rcases hc with hc | ⟨rfl, d, tail', rfl, hd⟩
    · rw [hletters a (by simp)] at hc
      cases hc
    · rw [List.cons_append, List.cons_prefix_cons] at hstart
      rw [← hstart.1, hletters b (by simp)] at hd
      cases hd

lemma scalar?_write {n : Int} (hfits : Numeral.fits n = true) {rest : List Char}
    (hrest : Closes rest) :
    scalar? (Numeral.write n ++ rest) = .ok (some (.int n, (Numeral.write n).length)) := by
  unfold scalar?
  split
  · rename_i hfind
    have hstart := List.find?_some hfind
    exact absurd ( List.isPrefixOf_iff_prefix.mp hstart)
      (literal_not_start n rest (List.mem_of_find?_eq_some hfind))
  · exact number?_write hfits hrest

lemma isDigit_solid {c : Char} (h : c.isDigit = true ∨ c = '-') :
    isSpace c = false ∧ c ≠ ']' ∧ c ≠ '"' ∧ c ≠ '\x7b' ∧ c ≠ '[' ∧ c ≠ Char.ofNat 0xFEFF := by
  rcases h with h | rfl
  · refine ⟨?_, ?_, ?_, ?_, ?_, ?_⟩
    · rw [isSpace]
      simp only [Bool.or_eq_false_iff, beq_eq_false_iff_ne]
      refine ⟨⟨⟨?_, ?_⟩, ?_⟩, ?_⟩ <;> (rintro rfl; revert h; decide)
    all_goals (rintro rfl; revert h; decide)
  · decide

/-- **What a value starts with.**  No white space, and nothing that could close an array. -/
lemma renderAt_head {room : Nat} {v : Json} (h : Plain room v) (level : Nat) : ∃ c tail,
    renderAt level v = c :: tail ∧ isSpace c = false ∧ c ≠ ']' ∧ c ≠ Char.ofNat 0xFEFF := by
  cases h with
  | null => exact ⟨'n', _, rfl, by decide⟩
  | bool b =>
      cases b with
      | false => exact ⟨'f', _, rfl, by decide⟩
      | true => exact ⟨'t', _, rfl, by decide⟩
  | @int _ n _ =>
      obtain ⟨c, tail, htext, hc⟩ := write_head n
      obtain ⟨h1, h2, -, -, -, h3⟩ := isDigit_solid (hc.imp_right And.left)
      exact ⟨c, tail, htext, h1, h2, h3⟩
  | str s => exact ⟨'"', _, rfl, by decide⟩
  | @arr _ items _ =>
      cases items with
      | nil => exact ⟨'[', _, rfl, by decide⟩
      | cons item items =>
          refine ⟨'[', newLine (level + 1) ++ renderAt (level + 1) item
            ++ renderItems (level + 1) items ++ newLine level ++ [']'], ?_, by decide⟩
          rw [renderAt]
          simp only [List.cons_append]
  | @obj _ fields _ _ =>
      cases fields with
      | nil => exact ⟨'\x7b', _, rfl, by decide⟩
      | cons field fields =>
          obtain ⟨name, value⟩ := field
          refine ⟨'\x7b', newLine (level + 1) ++ renderString name ++ [':', ' ']
            ++ renderAt (level + 1) value ++ renderFields (level + 1) fields
            ++ newLine level ++ ['\x7d'], ?_, by decide⟩
          rw [renderAt]
          simp only [List.cons_append]

/-! ## Several values -/

lemma dropWhile_newLine (level : Nat) {c : Char} (hc : isSpace c = false) (cs : List Char) :
    (newLine level ++ c :: cs).dropWhile isSpace = c :: cs := by
  have hspaces : ∀ d ∈ newLine level, isSpace d = true := by
    intro d hd
    rcases List.mem_cons.mp hd with rfl | hd
    · decide
    · rw [List.eq_of_mem_replicate hd]
      decide
  rw [List.dropWhile_append_of_pos hspaces, List.dropWhile_cons_of_neg (by simp [hc])]

lemma closes_comma (cs : List Char) : Closes (',' :: cs) := by
  rintro c ⟨⟩
  decide

lemma closes_newLine (level : Nat) (cs : List Char) : Closes (newLine level ++ cs) := by
  rintro c ⟨⟩
  decide

/-- A value is read back, whatever may stand behind it. -/
def ReadsBack (room : Nat) (v : Json) : Prop :=
  ∀ level rest, Closes rest → Takes (parseValue room (renderAt level v ++ rest)) v rest

section Several

variable {room : Nat}

/-- Items are read back up to the bracket that closes the array. -/
lemma renderItems_takes (l k : Nat) {items : List Json} {item : Json}
    (hitems : ∀ i ∈ item :: items, Plain room i ∧ ReadsBack room i) (first : Bool) (more : List Char) :
    Takes (parseItems room first (newLine l ++ (renderAt l item ++ (renderItems l items
      ++ (newLine k ++ ']' :: more))))) (item :: items) more := by
  obtain ⟨hplain, hread⟩ := hitems item List.mem_cons_self
  obtain ⟨c, tail, htext, hspace, hc, -⟩ := renderAt_head hplain l
  induction items generalizing item first c tail with
  | nil =>
      have hvalue := hread l _ (closes_newLine k (']' :: more))
      rw [htext] at hvalue ⊢
      exact parseItems_last (dropWhile_newLine l hspace _) hc hvalue
        (dropWhile_newLine k (by decide) _)
  | cons next items ih =>
      have hlater : ∀ i ∈ next :: items, Plain room i ∧ ReadsBack room i :=
        fun i hi => hitems i (List.mem_cons_of_mem item hi)
      obtain ⟨hplain', hread'⟩ := hlater next List.mem_cons_self
      obtain ⟨c', tail', htext', hspace', hc', -⟩ := renderAt_head hplain' l
      have hrest := ih hlater false hplain' hread' c' tail' htext' hspace' hc'
      have hvalue := hread l _ (closes_comma
        (newLine l ++ (renderAt l next ++ (renderItems l items ++ (newLine k ++ ']' :: more)))))
      rw [renderItems, List.cons_append, List.cons_append, List.cons_append, List.append_assoc,
        List.append_assoc]
      rw [htext] at hvalue ⊢
      exact parseItems_more (dropWhile_newLine l hspace _) hc hvalue rfl hrest

/-- The text of a field in front of whatever follows its value. -/
def fieldText (level : Nat) (name : String) (value : Json) (rest : List Char) : List Char :=
  newLine level ++ (renderString name ++ (':' :: ' ' :: (renderAt level value ++ rest)))

/-- A field is read back. -/
lemma hasField_fieldText (level : Nat) (name : String) {value : Json}
    (hplain : Plain room value) (hread : ReadsBack room value) {rest : List Char} (hrest : Closes rest) :
    HasField room (fieldText level name value rest) name value rest := by
  obtain ⟨c, tail, htext, hspace, -⟩ := renderAt_head hplain level
  have hinner : (skipSpace (' ' :: (renderAt level value ++ rest))).1
      = renderAt level value ++ rest := by
    change (' ' :: (renderAt level value ++ rest)).dropWhile isSpace = _
    rw [htext, List.cons_append, List.dropWhile_cons_of_pos rfl,
      List.dropWhile_cons_of_neg (by rw [hspace]; exact Bool.false_ne_true)]
  refine ⟨name.toList.flatMap escape ++ '"' :: ':' :: ' ' :: (renderAt level value ++ rest),
    ':' :: ' ' :: (renderAt level value ++ rest), ' ' :: (renderAt level value ++ rest), ?_,
    parseString_takes name _, rfl, ?_⟩
  · rw [fieldText, renderString, List.cons_append, List.cons_append, List.append_assoc,
      dropWhile_newLine level (by decide)]
    rfl
  · rw [hinner]
    exact hread level rest hrest

/-- Fields are read back up to the brace that closes the object. -/
lemma renderFields_takes (l k : Nat) {fields : List (String × Json)} {name : String} {value : Json}
    (hfields : ∀ field ∈ (name, value) :: fields, Plain room field.2 ∧ ReadsBack room field.2)
    {done : Assoc String Json}
    (hnames : (List.map (·.1) (done ++ (name, value) :: fields)).Nodup) (first : Bool)
    (more : List Char) :
    Takes (parseFields room first done (fieldText l name value (renderFields l fields
      ++ (newLine k ++ '\x7d' :: more)))) (done ++ (name, value) :: fields) more := by
  obtain ⟨hplain, hread⟩ := hfields (name, value) List.mem_cons_self
  have hput := Assoc.put_of_notMem (Assoc.notMem_of_nodup hnames) value
  induction fields generalizing name value done first with
  | nil =>
      rw [← hput]
      exact parseFields_last (hasField_fieldText l name hplain hread (closes_newLine k _))
        (dropWhile_newLine k (by decide) more)
  | cons field fields ih =>
      obtain ⟨name', value'⟩ := field
      have hlater : ∀ field ∈ (name', value') :: fields, Plain room field.2 ∧ ReadsBack room field.2 :=
        fun field hfield => hfields field (List.mem_cons_of_mem _ hfield)
      have hnames' : (List.map (·.1) (done.put name value ++ (name', value') :: fields)).Nodup := by
        rw [hput]
        simpa using hnames
      obtain ⟨hplain', hread'⟩ := hlater (name', value') List.mem_cons_self
      have hrest := ih hlater hnames' false hplain' hread'
        (Assoc.put_of_notMem (Assoc.notMem_of_nodup hnames') value')
      have htext : renderFields l ((name', value') :: fields) ++ (newLine k ++ '\x7d' :: more)
          = ',' :: fieldText l name' value'
            (renderFields l fields ++ (newLine k ++ '\x7d' :: more)) := by
        simp [renderFields, fieldText]
      have hwhole : done.put name value ++ (name', value') :: fields
          = done ++ (name, value) :: (name', value') :: fields := by
        rw [hput, List.append_assoc]
        rfl
      rw [htext]
      rw [hwhole] at hrest
      exact parseFields_more (hasField_fieldText l name hplain hread (closes_comma _)) rfl hrest

end Several

/-! ## Whole texts -/

/-- **Values are read back.**  What stands behind a value is left as it is. -/
lemma renderAt_takes {room : Nat} {v : Json} (h : Plain room v) : ReadsBack room v := by
  induction h with
  | null =>
      intro level rest _
      rw [renderAt]
      exact parseValue_scalar 'n' "ull".toList (by decide) (by decide) (by decide) rfl
  | bool b =>
      intro level rest _
      rw [renderAt]
      cases b with
      | false =>
          exact parseValue_scalar 'f' "alse".toList (by decide) (by decide) (by decide) rfl
      | true => exact parseValue_scalar 't' "rue".toList (by decide) (by decide) (by decide) rfl
  | @int _ n hfits =>
      intro level rest hrest
      obtain ⟨c, tail, htext, hc⟩ := write_head n
      obtain ⟨-, -, hquote, hbrace, hbracket, -⟩ := isDigit_solid (hc.imp_right And.left)
      have hscalar := scalar?_write hfits hrest
      rw [renderAt]
      rw [htext] at hscalar ⊢
      exact parseValue_scalar c tail hquote hbrace hbracket hscalar
  | str s => exact fun level rest _ => parseValue_string s rest
  | @arr _ items hplain ih =>
      intro level rest _
      cases items with
      | nil => exact parseValue_array (parseItems_none rest)
      | cons item items =>
          have hitems := renderItems_takes (level + 1) level
            (fun i hi => ⟨hplain i hi, ih i hi⟩) true rest
          have htext : renderAt level (.arr (item :: items)) ++ rest
              = '[' :: (newLine (level + 1) ++ (renderAt (level + 1) item
                ++ (renderItems (level + 1) items ++ (newLine level ++ ']' :: rest)))) := by
            simp [renderAt]
          rw [htext]
          exact parseValue_array hitems
  | @obj _ fields hnames hplain ih =>
      intro level rest _
      cases fields with
      | nil => exact parseValue_object (parseFields_none rest)
      | cons field fields =>
          obtain ⟨name, value⟩ := field
          have hfields := renderFields_takes (level + 1) level
            (fun field hfield => ⟨hplain field hfield, ih field hfield⟩)
            (show (List.map (·.1) (([] : Assoc String Json) ++ (name, value) :: fields)).Nodup
              from hnames) true rest
          have htext : renderAt level (.obj ((name, value) :: fields)) ++ rest
              = '\x7b' :: fieldText (level + 1) name value (renderFields (level + 1) fields
                ++ (newLine level ++ '\x7d' :: rest)) := by
            simp [renderAt, fieldText]
          rw [htext]
          exact parseValue_object hfields

/-- **Texts are read back.** -/
lemma parse_render {room : Nat} {v : Json} (h : Plain room v) :
    parse room (render v).toList = .ok v := by
  obtain ⟨c, tail, htext, hspace, -, hmark⟩ := renderAt_head h 0
  have hskip : renderAt 0 v ++ [] = (renderAt 0 v).dropWhile isSpace := by
    rw [htext, List.append_nil, List.dropWhile_cons_of_neg (by simp [hspace])]
  have hhead : (renderAt 0 v).head? ≠ some (Char.ofNat 0xFEFF) := by
    rw [htext]
    rintro ⟨⟩
    exact hmark rfl
  have htakes := renderAt_takes h 0 [] (by rintro c ⟨⟩)
  rw [hskip] at htakes
  obtain ⟨_, hvalue⟩ := htakes
  rw [render, String.toList_ofList, parse, if_neg hhead, hvalue]
  rfl

/-! ## Texts that are nested too deep -/

/-- Each bracket takes some of the room, and the last one finds none, whatever stands behind it. -/
lemma parseValue_brackets (room : Nat) (rest : List Char) :
    parseValue room (List.replicate (room + 1) '[' ++ rest) = .error (.tooDeep .array) := by
  induction room with
  | zero => rw [List.replicate_one, List.singleton_append, parseValue, if_neg (by decide),
      if_neg (by decide), if_pos rfl]
  | succ room ih =>
      have hitems : parseItems room true (List.replicate (room + 1) '[' ++ rest)
          = .error (.tooDeep .array) := by
        rw [List.replicate_succ, List.cons_append] at ih ⊢
        obtain ⟨_, hskip⟩ := skipSpace_eq (show
          ('[' :: (List.replicate room '[' ++ rest)).dropWhile isSpace
            = '[' :: (List.replicate room '[' ++ rest) from rfl)
        rw [parseItems, hskip]
        dsimp only
        rw [if_neg (by decide), ih]
      rw [List.replicate_succ, List.cons_append, parseValue, if_neg (by decide),
        if_neg (by decide), if_pos rfl, hitems]

lemma parse_brackets (room : Nat) (rest : List Char) :
    parse room (List.replicate (room + 1) '[' ++ rest) = .error (.tooDeep .array) := by
  have hhead : (List.replicate (room + 1) '[' ++ rest).head? ≠ some (Char.ofNat 0xFEFF) := by
    rw [List.replicate_succ, List.cons_append, List.head?_cons]
    decide
  have hvalue : parseValue room ((List.replicate (room + 1) '[' ++ rest).dropWhile isSpace)
      = .error (.tooDeep .array) := by
    have hskip : (List.replicate (room + 1) '[' ++ rest).dropWhile isSpace
        = List.replicate (room + 1) '[' ++ rest := rfl
    rw [hskip]
    exact parseValue_brackets room rest
  rw [parse, if_neg hhead, hvalue]
  rfl

end Mailroom.Text.Json
