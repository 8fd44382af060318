import Mathlib
import Mailroom.Keyboard.LabelMap
import Mailroom.Proofs.Tables

/-!
# Labels depend on which lights there are

A keyboard lists its lights in some order, and it may list a light more than once.  Neither plays a
part in which label belongs to which light: all that counts is the set of lights that go by a name,
and a label belongs to a light if this set has no other member.

- `namedLights`, `looselyNamedLights`: the lights that go by one of some names.
- `Groups.enter`, `nameTable_groups`: what one row and all rows leave in the table of names.
- `mem_named`, `mem_looselyNamed`: what the loops over names and table gather.
- `distinct_eq_singleton`: a list in which one integer stands and no other.
- `lightFor?_eq_some`: the light of some names, in terms of these sets.
- `ofRows_determined`: the lights of all labels.
-/

namespace Mailroom

open Text

lemma Text.hasInfix_iff {needle cs : List Char} : hasInfix needle cs = true ↔ needle <:+: cs := by
  induction cs with
  | nil => simp [hasInfix]
  | cons c cs ih =>
      rw [hasInfix, Bool.or_eq_true, ih, List.infix_cons_iff, List.isPrefixOf_iff_prefix]

/-- Values that are worked out for the entries of a table, where there are any, and put one after
the other into another table, are found there under the same keys. -/
lemma Assoc.get?_foldl_put_some {κ ν ν' : Type} [DecidableEq κ] {entries : Assoc κ ν}
    (hkeys : (entries.map (·.1)).Nodup) {f : ν → Option ν'}
    {enter : Assoc κ ν' → κ × ν → Assoc κ ν'}
    (hsome : ∀ table key v w, f v = some w → enter table (key, v) = table.put key w)
    (hnone : ∀ table key v, f v = none → enter table (key, v) = table)
    (table : Assoc κ ν') (key : κ) :
    (entries.foldl enter table).get? key = ((entries.get? key).bind f).or (table.get? key) := by
  induction entries generalizing table with
  | nil => rfl
  | cons entry entries ih =>
      obtain ⟨k, v⟩ := entry
      rw [List.map_cons, List.nodup_cons] at hkeys
      rw [List.foldl_cons, ih hkeys.2, Assoc.get?]
      by_cases hk : k = key
      · subst hk
        rw [Assoc.get?_of_notMem hkeys.1, if_pos rfl, Option.bind_none, Option.none_or,
          Option.bind_some]
        cases hv : f v with
        | none => rw [hnone table k v hv, Option.none_or]
        | some w => rw [hsome table k v w hv, Assoc.get?_put, if_pos rfl, Option.some_or]
      · rw [if_neg hk]
        cases hv : f v with
        | none => rw [hnone table k v hv]
        | some w => rw [hsome table k v w hv, Assoc.get?_put, if_neg hk]

namespace LabelMap

/-- The lights that have one of the names. -/
def namedLights (rows : List LedRow) (names : List String) : Set Int :=
  {i | ∃ row ∈ rows, row.index = i ∧
    ∃ name ∈ names, normalise row.name.toList = normalise name.toList}

/-- The lights whose names contain one of the names that are longer than a character. -/
def looselyNamedLights (rows : List LedRow) (names : List String) : Set Int :=
  {i | ∃ row ∈ rows, row.index = i ∧
    ∃ name ∈ names, 2 ≤ (normalise name.toList).length ∧
      normalise name.toList <:+: normalise row.name.toList}

/-! ## The table of names -/

/-- Under every name there are the lights of the rows with that name, and no others. -/
structure Groups (rows : List LedRow) (table : NameTable) : Prop where
  nodup : (table.map (·.1)).Nodup
  mem : ∀ name i, i ∈ (table.get? name).getD [] ↔
    ∃ row ∈ rows, row.index = i ∧ normalise row.name.toList = name

section Table

variable {rows : List LedRow} {table : NameTable}

/-- **One row.**  A light joins those that have its name, and those of other names stay. -/
lemma Groups.enter (h : Groups rows table) (row : LedRow) :
    Groups (rows ++ [row]) (enter table row) := by
  refine ⟨Assoc.nodup_put h.nodup _ _, fun name i => ?_⟩
  have hrows : (∃ r ∈ rows ++ [row], r.index = i ∧ normalise r.name.toList = name) ↔
      (∃ r ∈ rows, r.index = i ∧ normalise r.name.toList = name) ∨
        row.index = i ∧ normalise row.name.toList = name := by
    simp only [List.mem_append, List.mem_singleton, or_and_right, exists_or, exists_eq_left]
  rw [hrows, ← h.mem name i, LabelMap.enter, Assoc.get?_put]
  by_cases hname : normalise row.name.toList = name
  · subst hname
    rw [if_pos rfl, Option.getD_some, List.mem_append, List.mem_singleton]
    exact or_congr_right ⟨fun hi => ⟨hi.symm, rfl⟩, fun hi => hi.1.symm⟩
  · rw [if_neg hname]
    exact ⟨.inl, fun hi => hi.resolve_right fun hi => hname hi.2⟩

lemma Groups.foldl_enter {done : List LedRow} (h : Groups done table) (rows : List LedRow) :
    Groups (done ++ rows) (rows.foldl LabelMap.enter table) := by
  induction rows generalizing done table with
  | nil => rwa [List.append_nil]
  | cons row rows ih =>
      have hrest := ih (h.enter row)
      rwa [List.append_assoc] at hrest

/-- **All rows.** -/
lemma nameTable_groups (rows : List LedRow) : Groups rows (nameTable rows) := by
  have hempty : Groups [] [] := ⟨List.nodup_nil, fun name i => by simp [Assoc.get?]⟩
  exact hempty.foldl_enter rows

end Table

/-! ## Lights gathered one after the other -/

/-- What a loop gathers, if each round adds to what has been found so far. -/
lemma mem_foldl_gather {α : Type} {gather : List Int → α → List Int} {items : List α}
    {hit : α → Int → Prop}
    (hgather : ∀ found, ∀ a ∈ items, ∀ i, i ∈ gather found a ↔ i ∈ found ∨ hit a i)
    (found : List Int) (i : Int) :
    i ∈ items.foldl gather found ↔ i ∈ found ∨ ∃ a ∈ items, hit a i := by
  induction items generalizing found with
  | nil => simp
  | cons a items ih =>
      have hrest := ih (fun found b hb => hgather found b (List.mem_cons_of_mem a hb))
        (gather found a)
      rw [List.foldl_cons, hrest, hgather found a List.mem_cons_self, or_assoc,
        List.exists_mem_cons_iff]

section Names

variable (rows : List LedRow) (names : List String)

/-- One round: the rows with a name. -/
lemma mem_gather (found : List Int) (name : String) (i : Int) :
    i ∈ gather (nameTable rows) found name ↔ i ∈ found ∨
      ∃ row ∈ rows, row.index = i ∧ normalise row.name.toList = normalise name.toList := by
  rw [← (nameTable_groups rows).mem, gather]
  cases (nameTable rows).get? (normalise name.toList) with
  | none => simp
  | some indices => simp

/-- The loop over the names finds the lights that have one of them. -/
lemma mem_named (i : Int) : i ∈ named (nameTable rows) names ↔ i ∈ namedLights rows names := by
  rw [named, mem_foldl_gather fun found name _ => mem_gather rows found name]
  simp only [namedLights, Set.mem_ofPred_eq, List.not_mem_nil, false_or]
  constructor
  · rintro ⟨name, hname, row, hrow, hi, heq⟩
    exact ⟨row, hrow, hi, name, hname, heq⟩
  · rintro ⟨row, hrow, hi, name, hname, heq⟩
    exact ⟨name, hname, row, hrow, hi, heq⟩

/-- The loop over the whole table finds the lights whose names contain a part. -/
lemma mem_foldl_infix (part : List Char) (found : List Int) (i : Int) :
    i ∈ (nameTable rows).foldl (fun found entry =>
        if hasInfix part entry.1 then found ++ entry.2 else found) found ↔
      i ∈ found ∨ ∃ row ∈ rows, row.index = i ∧ part <:+: normalise row.name.toList := by
  have hgroups := nameTable_groups rows
  have hround : ∀ found, ∀ entry ∈ nameTable rows, ∀ j,
      j ∈ (if hasInfix part entry.1 then found ++ entry.2 else found) ↔
      j ∈ found ∨ part <:+: entry.1 ∧ ∃ row ∈ rows, row.index = j ∧
        normalise row.name.toList = entry.1 := by
    intro found entry hentry j
    -- no name stands in the table twice, so that an entry is what is found under its name
    have hfind := Assoc.get?_of_mem hgroups.nodup hentry
    rw [← hgroups.mem, hfind, Option.getD_some, ← hasInfix_iff]
    cases hasInfix part entry.1 with
    | false => simp
    | true => simp
  rw [mem_foldl_gather hround]
  refine or_congr_right ⟨?_, ?_⟩
  · rintro ⟨entry, -, hpart, row, hrow, hi, heq⟩
    exact ⟨row, hrow, hi, heq ▸ hpart⟩
  · rintro ⟨row, hrow, hi, hpart⟩
    -- the name of a row has an entry, since the light is found under it
    have hmem := (hgroups.mem (normalise row.name.toList) i).mpr ⟨row, hrow, hi, rfl⟩
    cases hfind : (nameTable rows).get? (normalise row.name.toList) with
    | none =>
        rw [hfind] at hmem
        cases hmem
    | some indices =>
        refine ⟨(normalise row.name.toList, indices), Assoc.mem_of_get? hfind, ?_⟩
        dsimp only
        exact ⟨hpart, row, hrow, hi, rfl⟩

/-- One round: the rows whose names contain a name, if that is longer than a character. -/
lemma mem_gatherLoosely (found : List Int) (name : String) (i : Int) :
    i ∈ gatherLoosely (nameTable rows) found name ↔ i ∈ found ∨
      2 ≤ (normalise name.toList).length ∧ ∃ row ∈ rows, row.index = i ∧
        normalise name.toList <:+: normalise row.name.toList := by
  rw [gatherLoosely]
  by_cases hshort : (normalise name.toList).length < 2
  · rw [if_pos hshort]
    exact ⟨.inl, fun h => h.resolve_right fun h => absurd h.1 (Nat.not_le.mpr hshort)⟩
  · rw [if_neg hshort, mem_foldl_infix]
    exact or_congr_right ⟨fun h => ⟨Nat.not_lt.mp hshort, h⟩, And.right⟩

/-- The loops over the names and the table find the lights whose names contain one of the names. -/
lemma mem_looselyNamed (i : Int) :
    i ∈ looselyNamed (nameTable rows) names ↔ i ∈ looselyNamedLights rows names := by
  rw [looselyNamed, mem_foldl_gather fun found name _ => mem_gatherLoosely rows found name]
  simp only [looselyNamedLights, Set.mem_ofPred_eq, List.not_mem_nil, false_or]
  constructor
  · rintro ⟨name, hname, hlong, row, hrow, hi, hpart⟩
    exact ⟨row, hrow, hi, name, hname, hlong, hpart⟩
  · rintro ⟨row, hrow, hi, name, hname, hlong, hpart⟩
    exact ⟨name, hname, hlong, row, hrow, hi, hpart⟩

end Names

/-! ## The only light -/

lemma mem_insertNew {i j : Int} {l : List Int} : j ∈ insertNew i l ↔ j = i ∨ j ∈ l := by
  induction l with
  | nil => simp [insertNew]
  | cons k l ih =>
      rw [insertNew]
      split_ifs with hlt heq
      · rw [List.mem_cons]
      · subst heq
        simp
      · rw [List.mem_cons, ih, List.mem_cons, or_left_comm]

lemma mem_distinct {j : Int} {l : List Int} : j ∈ distinct l ↔ j ∈ l := by
  induction l with
  | nil => rfl
  | cons i l ih => rw [distinct, List.foldr_cons, mem_insertNew, List.mem_cons, ← ih, distinct]

lemma insertNew_ascending (i : Int) {l : List Int} (h : l.Pairwise (· < ·)) :
    (insertNew i l).Pairwise (· < ·) := by
  induction l with
  | nil => simp [insertNew]
  | cons k l ih =>
      rw [List.pairwise_cons] at h
      rw [insertNew]
      split_ifs with hlt heq
      · refine List.pairwise_cons.mpr ⟨fun j hj => ?_, List.pairwise_cons.mpr h⟩
        rcases List.mem_cons.mp hj with rfl | hj
        · exact hlt
        · exact hlt.trans (h.1 j hj)
      · exact List.pairwise_cons.mpr h
      · refine List.pairwise_cons.mpr ⟨fun j hj => ?_, ih h.2⟩
        rcases mem_insertNew.mp hj with rfl | hj
        · omega
        · exact h.1 j hj

lemma distinct_ascending (l : List Int) : (distinct l).Pairwise (· < ·) := by
  induction l with
  | nil => exact List.Pairwise.nil
  | cons i l ih => exact insertNew_ascending i ih

/-- One integer is left exactly if no other one is in the list. -/
lemma distinct_eq_singleton {l : List Int} {i : Int} :
    distinct l = [i] ↔ {j | j ∈ l} = ({i} : Set Int) := by
  have hnodup : (distinct l).Nodup := (distinct_ascending l).imp ne_of_lt
  rw [← List.perm_singleton, List.perm_ext_iff_of_nodup hnodup (List.nodup_singleton i),
    Set.ext_iff]
  simp only [mem_distinct, List.mem_singleton, Set.mem_ofPred_eq, Set.mem_singleton_iff]

lemma only?_distinct {l : List Int} {i : Int} :
    only? (distinct l) = some i ↔ {j | j ∈ l} = ({i} : Set Int) := by
  rw [← distinct_eq_singleton]
  rcases distinct l with _ | ⟨j, _ | ⟨k, rest⟩⟩
  · simp [only?]
  · simp [only?]
  · simp [only?]

/-- **The light of some names.**  It is the only one that has one of them, or the only one whose
name contains one of them where none has. -/
lemma lightFor?_eq_some (rows : List LedRow) (names : List String) (i : Int) :
    lightFor? (nameTable rows) names = some i ↔
      namedLights rows names = {i} ∨
        namedLights rows names = ∅ ∧ looselyNamedLights rows names = {i} := by
  have hnamed : {j | j ∈ named (nameTable rows) names} = namedLights rows names :=
    Set.ext (mem_named rows names)
  have hloose : {j | j ∈ looselyNamed (nameTable rows) names} = looselyNamedLights rows names :=
    Set.ext (mem_looselyNamed rows names)
  rw [lightFor?, only?_distinct, ← hnamed, ← hloose]
  cases named (nameTable rows) names with
  | nil =>
      have hnone : {j | j ∈ ([] : List Int)} = (∅ : Set Int) := by
        ext j
        simp
      rw [List.isEmpty_nil, if_pos rfl, hnone]
      exact ⟨fun h => .inr ⟨rfl, h⟩,
        fun h => h.elim (fun h => absurd h (Set.singleton_ne_empty i).symm) And.right⟩
  | cons k found =>
      have hsome : {j | j ∈ k :: found} ≠ (∅ : Set Int) :=
        Set.Nonempty.ne_empty ⟨k, List.mem_cons_self⟩
      rw [List.isEmpty_cons, if_neg Bool.false_ne_true]
      exact ⟨.inl, fun h => h.resolve_right fun h' => hsome h'.1⟩

/-- Lists with the same rows have the same light for the same names. -/
lemma lightFor?_congr {rows rows' : List LedRow} (h : ∀ row, row ∈ rows' ↔ row ∈ rows)
    (names : List String) :
    lightFor? (nameTable rows') names = lightFor? (nameTable rows) names := by
  have hnamed : namedLights rows' names = namedLights rows names := by
    simp only [namedLights, h]
  have hloose : looselyNamedLights rows' names = looselyNamedLights rows names := by
    simp only [looselyNamedLights, h]
  ext i
  rw [lightFor?_eq_some, lightFor?_eq_some, hnamed, hloose]

lemma aliases_nodup : (aliases.map (·.1)).Nodup := by
  decide

/-- The light of a label is the one that goes by its names. -/
lemma get?_ofRows (rows : List LedRow) (label : String) :
    (ofRows rows).get? label = (Assoc.get? label aliases).bind (lightFor? (nameTable rows)) := by
  have hempty : Assoc.get? label ([] : LabelMap) = none := rfl
  rw [ofRows, Assoc.get?_foldl_put_some (f := lightFor? (nameTable rows)) aliases_nodup]
  · rw [hempty, Option.or_none]
  · intro map name names i hlight
    simp only [putLabel, hlight]
  · intro map name names hlight
    simp only [putLabel, hlight]

/-- **Labels depend on the set of lights.**  A label belongs to a light if no other light has one of
its names, or if none has and no other light has a name that contains one of those names that are
longer than a character.  Therefore the order of the rows plays no part, and neither does how often
a row comes. -/
theorem ofRows_determined (rows : List LedRow) :
    (∀ label i, (ofRows rows).get? label = some i ↔
      ∃ names, (label, names) ∈ aliases ∧
        (namedLights rows names = {i} ∨
          namedLights rows names = ∅ ∧ looselyNamedLights rows names = {i})) ∧
    ∀ rows', (∀ row, row ∈ rows' ↔ row ∈ rows) → ofRows rows' = ofRows rows := by
  constructor
  · intro label i
    have hfind := get?_ofRows rows label
    rw [hfind, Option.bind_eq_some_iff]
    constructor
    · rintro ⟨names, hnames, hlight⟩
      exact ⟨names, Assoc.mem_of_get? hnames, (lightFor?_eq_some rows names i).mp hlight⟩
    · rintro ⟨names, hnames, hlight⟩
      exact ⟨names, Assoc.get?_of_mem aliases_nodup hnames,
        (lightFor?_eq_some rows names i).mpr hlight⟩
  · intro rows' h
    have hput : putLabel (nameTable rows') = putLabel (nameTable rows) := by
      funext map entry
      rw [putLabel, lightFor?_congr h, putLabel]
    rw [ofRows, ofRows, hput]

/-- Rows in another order, some of them twice: one label goes by a name, the other one by a part of
a name. -/
theorem ofRows_determined_shuffled :
    (∀ row, row ∈ [⟨9, "Numpad Left"⟩, ⟨4, "key 1"⟩, ⟨9, "Numpad Left"⟩, ⟨4, "Key: 1"⟩] ↔
      row ∈ [(⟨4, "Key: 1"⟩ : LedRow), ⟨9, "Numpad Left"⟩, ⟨4, "key 1"⟩]) ∧
    ofRows [⟨9, "Numpad Left"⟩, ⟨4, "key 1"⟩, ⟨9, "Numpad Left"⟩, ⟨4, "Key: 1"⟩]
      = [("1", 4), ("left", 9)] ∧
    ∃ names, ("left", names) ∈ aliases ∧
      (namedLights [⟨4, "Key: 1"⟩, ⟨9, "Numpad Left"⟩, ⟨4, "key 1"⟩] names = {9} ∨
        namedLights [⟨4, "Key: 1"⟩, ⟨9, "Numpad Left"⟩, ⟨4, "key 1"⟩] names = ∅ ∧
          looselyNamedLights [⟨4, "Key: 1"⟩, ⟨9, "Numpad Left"⟩, ⟨4, "key 1"⟩] names = {9}) := by
  have hrows : ∀ row, row ∈ [⟨9, "Numpad Left"⟩, ⟨4, "key 1"⟩, ⟨9, "Numpad Left"⟩, ⟨4, "Key: 1"⟩] ↔
      row ∈ [(⟨4, "Key: 1"⟩ : LedRow), ⟨9, "Numpad Left"⟩, ⟨4, "key 1"⟩] := by
    intro row
    simp only [List.mem_cons, List.not_mem_nil, or_false]
    tauto
  have hmap : ofRows [⟨4, "Key: 1"⟩, ⟨9, "Numpad Left"⟩, ⟨4, "key 1"⟩]
      = [("1", 4), ("left", 9)] := by decide +kernel
  refine ⟨hrows, ((ofRows_determined _).2 _ hrows).trans hmap, ?_⟩
  refine ((ofRows_determined _).1 "left" 9).mp ?_
  rw [hmap]
  rfl

end LabelMap

end Mailroom
