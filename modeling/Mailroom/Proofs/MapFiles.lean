import Mathlib
import Mailroom.Keyboard.MapFile
import Mailroom.Proofs.JsonText

/-!
# Map files are read back

The map of a keyboard is written as a text, the text goes to a file as bytes, and the bytes of the
file are read as a text in which all line ends are alike.  None of this changes what is in the map:
the text has no line ends but its own, and reading it gives the rows that were written, all of them
and in their order.

- `Utf8.decode_toUTF8`: the bytes of a text are read as the text.
- `Json.renderAt_noReturn`: no carriage return stands in a text that is written.
- `rowsOf_mapJson`: the rows of a map.
- `read_pair`: files that have been written.
-/

namespace Mailroom

open Text

/-! ## Bytes -/

namespace Text.Utf8

lemma toNat_ofNat_of_lt {n : Nat} (h : n < 256) : (UInt8.ofNat n).toNat = n := by
  rw [UInt8.toNat_ofNat']
  exact Nat.mod_eq_of_lt h

lemma continuation?_ofNat {n : Nat} (h : n < 64) :
    continuation? (UInt8.ofNat (n + 0x80)) = some n := by
  have hvalue := toNat_ofNat_of_lt (show n + 0x80 < 256 by omega)
  have hrange : (0x80 : UInt8) ≤ UInt8.ofNat (n + 0x80) ∧ UInt8.ofNat (n + 0x80) < 0xC0 := by
    rw [UInt8.le_iff_toNat_le, UInt8.lt_iff_toNat_lt, hvalue]
    simp only [UInt8.reduceToNat]
    omega
  rw [continuation?, if_pos hrange, hvalue, Nat.add_sub_cancel]

/-- A byte may come second unless the first one excludes it. -/
lemma second?_ofNat {first : UInt8} {n : Nat} (h : n < 64)
    (hE0 : first.toNat = 0xE0 → 0x20 ≤ n) (hED : first.toNat = 0xED → n < 0x20)
    (hF0 : first.toNat = 0xF0 → 0x10 ≤ n) (hF4 : first.toNat = 0xF4 → n < 0x10) :
    second? first (UInt8.ofNat (n + 0x80)) = some n := by
  have hvalue := toNat_ofNat_of_lt (show n + 0x80 < 256 by omega)
  rw [second?, continuation?_ofNat h, Option.filter_some, if_pos]
  simp only [Bool.not_eq_true', Bool.or_eq_false_iff, Bool.and_eq_false_iff,
    decide_eq_false_iff_not, UInt8.lt_iff_toNat_lt, UInt8.le_iff_toNat_le, hvalue,
    ← UInt8.toNat_inj, UInt8.reduceToNat]
  omega

section Heads

variable {v : Nat}

lemma ofNat_lt_iff {n : Nat} (h : n < 256) (b : UInt8) : UInt8.ofNat n < b ↔ n < b.toNat := by
  rw [UInt8.lt_iff_toNat_lt, toNat_ofNat_of_lt h]

lemma head_one (h : v ≤ 0x7f) (rest : List UInt8) :
    head (UInt8.ofNat v) rest = .char (Char.ofNat v) 1 := by
  have hsmall : v < 256 := by omega
  unfold head
  rw [if_pos ((ofNat_lt_iff hsmall 0x80).mpr (show v < 0x80 by omega)),
    toNat_ofNat_of_lt hsmall]

lemma head_two (h1 : 0x7f < v) (h2 : v ≤ 0x7ff) (rest : List UInt8) :
    head (UInt8.ofNat (v / 64 % 0x20 + 0xc0)) (UInt8.ofNat (v % 0x40 + 0x80) :: rest)
      = .char (Char.ofNat v) 2 := by
  have hsmall : v / 64 % 0x20 + 0xc0 < 256 := by omega
  have hlt := ofNat_lt_iff hsmall
  unfold head
  rw [if_neg ((hlt 0x80).not.mpr (show ¬ _ < 0x80 by omega)),
    if_neg ((hlt 0xC2).not.mpr (show ¬ _ < 0xC2 by omega)),
    if_pos ((hlt 0xE0).mpr (show _ < 0xE0 by omega)), toNat_ofNat_of_lt hsmall]
  dsimp only
  rw [continuation?_ofNat (by omega)]
  dsimp only
  rw [show (v / 64 % 0x20 + 0xc0 - 0xC0) * 64 + v % 0x40 = v by omega]

lemma head_three (h1 : 0x7ff < v) (h2 : v ≤ 0xffff) (hvalid : v < 0xD800 ∨ 0xDFFF < v)
    (rest : List UInt8) :
    head (UInt8.ofNat (v / 4096 % 0x10 + 0xe0))
      (UInt8.ofNat (v / 64 % 0x40 + 0x80) :: UInt8.ofNat (v % 0x40 + 0x80) :: rest)
      = .char (Char.ofNat v) 3 := by
  have hsmall : v / 4096 % 0x10 + 0xe0 < 256 := by omega
  have hlt := ofNat_lt_iff hsmall
  have hfirst := toNat_ofNat_of_lt hsmall
  have hsecond : second? (UInt8.ofNat (v / 4096 % 0x10 + 0xe0)) (UInt8.ofNat (v / 64 % 0x40 + 0x80))
      = some (v / 64 % 0x40) := by
    refine second?_ofNat (by omega) ?_ ?_ ?_ ?_ <;> (rw [hfirst]; omega)
  unfold head
  rw [if_neg ((hlt 0x80).not.mpr (show ¬ _ < 0x80 by omega)),
    if_neg ((hlt 0xC2).not.mpr (show ¬ _ < 0xC2 by omega)),
    if_neg ((hlt 0xE0).not.mpr (show ¬ _ < 0xE0 by omega)),
    if_pos ((hlt 0xF0).mpr (show _ < 0xF0 by omega)), hfirst]
  unfold headThree
  dsimp only
  rw [hsecond]
  dsimp only
  rw [continuation?_ofNat (by omega)]
  dsimp only
  rw [show ((v / 4096 % 0x10 + 0xe0 - 0xE0) * 64 + v / 64 % 0x40) * 64 + v % 0x40 = v by omega]

lemma head_four (h1 : 0xffff < v) (h2 : v < 0x110000) (rest : List UInt8) :
    head (UInt8.ofNat (v / 262144 % 0x08 + 0xf0))
      (UInt8.ofNat (v / 4096 % 0x40 + 0x80) :: UInt8.ofNat (v / 64 % 0x40 + 0x80)
        :: UInt8.ofNat (v % 0x40 + 0x80) :: rest)
      = .char (Char.ofNat v) 4 := by
  have hsmall : v / 262144 % 0x08 + 0xf0 < 256 := by omega
  have hlt := ofNat_lt_iff hsmall
  have hfirst := toNat_ofNat_of_lt hsmall
  have hsecond : second? (UInt8.ofNat (v / 262144 % 0x08 + 0xf0))
      (UInt8.ofNat (v / 4096 % 0x40 + 0x80)) = some (v / 4096 % 0x40) := by
    refine second?_ofNat (by omega) ?_ ?_ ?_ ?_ <;> (rw [hfirst]; omega)
  unfold head
  rw [if_neg ((hlt 0x80).not.mpr (show ¬ _ < 0x80 by omega)),
    if_neg ((hlt 0xC2).not.mpr (show ¬ _ < 0xC2 by omega)),
    if_neg ((hlt 0xE0).not.mpr (show ¬ _ < 0xE0 by omega)),
    if_neg ((hlt 0xF0).not.mpr (show ¬ _ < 0xF0 by omega)),
    if_pos ((hlt 0xF5).mpr (show _ < 0xF5 by omega)), hfirst]
  unfold headFour
  dsimp only
  rw [hsecond]
  dsimp only
  rw [continuation?_ofNat (by omega)]
  dsimp only
  rw [continuation?_ofNat (by omega)]
  dsimp only
  rw [show (((v / 262144 % 0x08 + 0xf0 - 0xF0) * 64 + v / 4096 % 0x40) * 64 + v / 64 % 0x40) * 64
    + v % 0x40 = v by omega]

end Heads

/-- **One character.**  Its bytes are read as the character. -/
lemma head_utf8EncodeChar (c : Char) (rest : List UInt8) : ∃ b bs,
    String.utf8EncodeChar c = b :: bs ∧ head b (bs ++ rest) = .char c (bs.length + 1) := by
  have hvalid : c.val.toNat < 0xD800 ∨ 0xDFFF < c.val.toNat ∧ c.val.toNat < 0x110000 := c.valid
  have hpoint : Char.ofNat c.val.toNat = c := Char.ofNat_toNat c
  nth_rewrite 2 [← hpoint]
  unfold String.utf8EncodeChar
  dsimp only
  split_ifs with h1 h2 h3
  · exact ⟨_, _, rfl, head_one h1 _⟩
  · exact ⟨_, _, rfl, head_two (not_le.mp h1) h2 _⟩
  · exact ⟨_, _, rfl, head_three (not_le.mp h2) h3 (by omega) _⟩
  · exact ⟨_, _, rfl, head_four (not_le.mp h3) (by omega) _⟩

lemma decodeFrom_skip (position : Nat) (front rest : List UInt8) :
    decodeFrom position front.length (front ++ rest)
      = decodeFrom (position + front.length) 0 rest := by
  induction front generalizing position with
  | nil => rfl
  | cons b front ih =>
      rw [List.length_cons, List.cons_append, decodeFrom, ih, Nat.add_right_comm, Nat.add_assoc]

lemma decodeFrom_utf8Encode (position : Nat) (cs : List Char) :
    decodeFrom position 0 (cs.flatMap String.utf8EncodeChar) = .ok ⟨cs, []⟩ := by
  induction cs generalizing position with
  | nil => rfl
  | cons c cs ih =>
      obtain ⟨b, bs, hbytes, hhead⟩ := head_utf8EncodeChar c (cs.flatMap String.utf8EncodeChar)
      rw [List.flatMap_cons, hbytes, List.cons_append, decodeFrom, hhead]
      dsimp only
      rw [Nat.add_sub_cancel, decodeFrom_skip, ih]
      rfl

/-- **Bytes are read back.**  The bytes of a text are read as the text. -/
lemma decode_toUTF8 (s : String) : decode s.toUTF8.data.toList = .ok s.toList := by
  have hbytes : s.toUTF8.data.toList = s.toList.flatMap String.utf8EncodeChar := by
    rw [String.toUTF8_eq_toByteArray, ← String.utf8Encode_toList, List.utf8Encode,
      List.toList_data_toByteArray]
  rw [hbytes, decode, decodeFrom_utf8Encode]

end Text.Utf8

/-! ## Line ends -/

lemma Text.unifyNewlines_eq_self {cs : List Char} (h : '\r' ∉ cs) : unifyNewlines cs = cs := by
  induction cs with
  | nil => rfl
  | cons c cs ih =>
      rw [List.mem_cons, not_or] at h
      rw [unifyNewlines, ih h.2]
      · rintro _ rfl _
        exact h.1 rfl
      · exact Ne.symm h.1

namespace Text.Json

lemma escape_noReturn (c : Char) : '\r' ∉ escape c := by
  have hhex : ∀ n < 32, '\r' ∉ '\\' :: 'u' :: padStart 4 '0' (Nat.toDigits 16 n) := by
    decide +kernel
  rw [escape]
  split_ifs with _ _ _ hr _ _ _ hcontrol
  · decide
  · decide
  · decide
  · decide
  · decide
  · decide
  · decide
  · exact hhex c.toNat hcontrol
  · simpa using Ne.symm hr

lemma renderString_noReturn (s : String) : '\r' ∉ renderString s := by
  intro h
  simp only [renderString, List.cons_append, List.mem_cons, List.mem_append, List.mem_flatMap,
    List.not_mem_nil, or_false] at h
  rcases h with h | ⟨c, -, hc⟩ | h
  · exact absurd h (by decide)
  · exact escape_noReturn c hc
  · exact absurd h (by decide)

lemma newLine_noReturn (level : Nat) : '\r' ∉ newLine level := by
  intro h
  rcases List.mem_cons.mp h with h | h
  · exact absurd h (by decide)
  · exact absurd (List.eq_of_mem_replicate h) (by decide)

lemma write_noReturn (n : Int) : '\r' ∉ Numeral.write n := by
  intro h
  rw [write_eq, List.mem_append] at h
  rcases h with h | h
  · rw [signText] at h
    split at h
    · exact absurd h (by decide)
    · cases h
  · exact absurd (Numeral.isDigit_toDigits h) (by decide)

lemma renderItems_noReturn {level : Nat} {items : List Json}
    (h : ∀ item ∈ items, '\r' ∉ renderAt level item) : '\r' ∉ renderItems level items := by
  induction items with
  | nil => exact List.not_mem_nil
  | cons item items ih =>
      rw [List.forall_mem_cons] at h
      simp only [renderItems, List.cons_append, List.mem_cons, List.mem_append, not_or]
      exact ⟨by decide, ⟨newLine_noReturn level, h.1⟩, ih h.2⟩

lemma renderFields_noReturn {level : Nat} {fields : List (String × Json)}
    (h : ∀ field ∈ fields, '\r' ∉ renderAt level field.2) : '\r' ∉ renderFields level fields := by
  induction fields with
  | nil => exact List.not_mem_nil
  | cons field fields ih =>
      obtain ⟨name, value⟩ := field
      rw [List.forall_mem_cons] at h
      simp only [renderFields, List.cons_append, List.mem_cons, List.mem_append, not_or]
      exact ⟨by decide, ⟨⟨⟨newLine_noReturn level, renderString_noReturn name⟩, by decide⟩, h.1⟩,
        ih h.2⟩

/-- Inside strings a carriage return is written as an escape, and elsewhere there is none. -/
lemma renderAt_noReturn {room : Nat} {v : Json} (h : Plain room v) (level : Nat) : '\r' ∉ renderAt level v := by
  induction h generalizing level with
  | null => rw [renderAt]; decide
  | bool b => cases b <;> (rw [renderAt]; decide)
  | @int _ n _ => rw [renderAt]; exact write_noReturn n
  | str s => rw [renderAt]; exact renderString_noReturn s
  | @arr _ items _ ih =>
      cases items with
      | nil => rw [renderAt]; decide
      | cons item items =>
          rw [List.forall_mem_cons] at ih
          simp only [renderAt, List.cons_append, List.mem_cons, List.mem_append, not_or]
          exact ⟨by decide, ⟨⟨⟨newLine_noReturn _, ih.1 _⟩,
            renderItems_noReturn fun item hitem => ih.2 item hitem _⟩, newLine_noReturn _⟩,
            by decide⟩
  | @obj _ fields _ _ ih =>
      cases fields with
      | nil => rw [renderAt]; decide
      | cons field fields =>
          obtain ⟨name, value⟩ := field
          rw [List.forall_mem_cons] at ih
          simp only [renderAt, List.cons_append, List.mem_cons, List.mem_append, not_or]
          exact ⟨by decide, ⟨⟨⟨⟨⟨newLine_noReturn _, renderString_noReturn name⟩, by decide⟩,
            ih.1 _⟩, renderFields_noReturn fun field hfield => ih.2 field hfield _⟩,
            newLine_noReturn _⟩, by decide⟩

end Text.Json

/-! ## Maps -/

namespace MapFile

lemma rowOf?_rowJson (row : LedRow) : rowOf? (rowJson row) = .ok (some row) :=
  rfl

lemma rowsOfItems_rowJson (rows : List LedRow) : rowsOfItems (rows.map rowJson) = .ok rows := by
  induction rows with
  | nil => rfl
  | cons row rows ih =>
      rw [List.map_cons, rowsOfItems, rowOf?_rowJson, ih]
      rfl

lemma rowsOf_mapJson (rows : List LedRow) (keyboard : Option String) :
    rowsOf (mapJson rows keyboard) = .ok rows :=
  rowsOfItems_rowJson rows

lemma plain_mapJson {rows : List LedRow} (h : ∀ row ∈ rows, Numeral.fits row.index = true)
    (keyboard : Option String) (spare : Nat) : Json.Plain (spare + 3) (mapJson rows keyboard) := by
  have hrow : ∀ row ∈ rows, Json.Plain (spare + 1) (rowJson row) := by
    intro row hrow
    refine .obj (show ["index", "name_raw"].Nodup by decide) ?_
    intro field hfield
    simp only [List.mem_cons, List.not_mem_nil, or_false] at hfield
    rcases hfield with rfl | rfl
    · exact .int (h row hrow)
    · exact .str row.name
  refine .obj (show ["keyboard", "leds"].Nodup by decide) ?_
  intro field hfield
  simp only [List.mem_cons, List.not_mem_nil, or_false] at hfield
  rcases hfield with rfl | rfl
  · cases keyboard with
    | none => exact .null
    | some name => exact .str name
  · refine .arr fun item hitem => ?_
    obtain ⟨row, hmem, rfl⟩ := List.mem_map.mp hitem
    exact hrow row hmem

/-- **Maps are read back.**  The file that is written for the lights of a keyboard lists these
lights, whatever their names are, as long as no index has too many digits, and no room to spare is
needed to read it.  So a map that has been written gives the labels the same lights as the keyboard
itself. -/
theorem read_pair (rows : List LedRow) (keyboard : Option String) (folder path : String)
    (spare : Nat)
    (h : ∀ row ∈ rows, (Nat.toDigits 10 row.index.natAbs).length ≤ Numeral.digitLimit) :
    read spare path (.ok (pair rows keyboard folder).json.toUTF8.data.toList) = .ok rows ∧
      (choose none
        (some (read spare path (.ok (pair rows keyboard folder).json.toUTF8.data.toList)))).map
        LabelMap.ofRows = (choose (some rows) none).map LabelMap.ofRows := by
  have hplain : Json.Plain (spare + 3) (mapJson rows keyboard) :=
    plain_mapJson (fun row hrow => Numeral.fits_iff_length.mpr (h row hrow)) keyboard spare
  have htext : '\r' ∉ (pair rows keyboard folder).json.toList := by
    rw [pair, Json.render, String.toList_ofList]
    exact Json.renderAt_noReturn hplain 0
  have hread : read spare path (.ok (pair rows keyboard folder).json.toUTF8.data.toList)
      = .ok rows := by
    rw [read, readText, Utf8.decode_toUTF8, Except.map, unifyNewlines_eq_self htext]
    dsimp only
    rw [ofText, pair, Json.parse_render hplain]
    exact rowsOf_mapJson rows keyboard
  exact ⟨hread, by rw [hread]; rfl⟩

/-- A negative index, and names with a quote, a backslash, line ends, a control character and
characters of two and four bytes. -/
def oddRows : List LedRow :=
  [⟨-7, "Key: \"\\\r\n\x01"⟩, ⟨0, "é 😀"⟩]

theorem read_pair_odd_names :
    (∀ row ∈ oddRows, (Nat.toDigits 10 row.index.natAbs).length ≤ Numeral.digitLimit) ∧
      read 0 "map.json" (.ok (pair oddRows (some "Odd\t1") "maps").json.toUTF8.data.toList)
        = .ok oddRows := by
  have hdigits : ∀ row ∈ oddRows,
      (Nat.toDigits 10 row.index.natAbs).length ≤ Numeral.digitLimit := by
    intro row hrow
    simp only [oddRows, List.mem_cons, List.not_mem_nil, or_false] at hrow
    rcases hrow with rfl | rfl
    · decide +kernel
    · decide +kernel
  exact ⟨hdigits, (read_pair oddRows (some "Odd\t1") "maps" "map.json" 0 hdigits).1⟩

end MapFile

end Mailroom
