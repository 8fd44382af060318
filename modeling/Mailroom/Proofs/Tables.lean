import Mathlib.Tactic.Common
import Mailroom.Assoc

/-!
# Tables by their entries

What is found in a table after an entry has been made, and when an entry is what is found under its
key: with no key twice it always is, and no way of making entries brings in a key twice.
-/

namespace Mailroom.Assoc

variable {κ ν : Type} [DecidableEq κ]

lemma get?_put (table : Assoc κ ν) (key name : κ) (v : ν) :
    (table.put key v).get? name = if key = name then some v else table.get? name := by
  induction table with
  | nil => rfl
  | cons entry table ih =>
      obtain ⟨k, w⟩ := entry
      rw [put]
      by_cases hk : k = key
      · subst hk
        rw [if_pos rfl]
        simp only [get?]
        split <;> rfl
      · rw [if_neg hk]
        simp only [get?, ih]
        by_cases hname : k = name
        · subst hname
          rw [if_pos rfl, if_neg (Ne.symm hk), if_pos rfl]
        · rw [if_neg hname, if_neg hname]

lemma get?_append (table : Assoc κ ν) (key name : κ) (v : ν) :
    get? name (table ++ [(key, v)]) = (table.get? name).or (if key = name then some v else none) := by
  induction table with
  | nil => rfl
  | cons entry table ih =>
      obtain ⟨k, w⟩ := entry
      by_cases hk : k = name
      · simp [get?, hk]
      · simp only [List.cons_append, get?, if_neg hk]
        exact ih

lemma get?_putNew (table : Assoc κ ν) (key name : κ) (v : ν) :
    (table.putNew key v).get? name
      = (table.get? name).or (if key = name then some v else none) := by
  rw [putNew]
  by_cases hhas : table.has key = true
  · rw [if_pos hhas]
    by_cases hk : key = name
    · subst hk
      obtain ⟨w, hw⟩ := Option.isSome_iff_exists.mp hhas
      rw [hw, Option.some_or]
    · rw [if_neg hk, Option.or_none]
  · rw [if_neg hhas]
    exact get?_append table key name v

lemma mem_of_get? {table : Assoc κ ν} {name : κ} {v : ν} (h : table.get? name = some v) :
    (name, v) ∈ table := by
  induction table with
  | nil => cases h
  | cons entry table ih =>
      obtain ⟨k, w⟩ := entry
      rw [get?] at h
      split at h
      · rename_i hk
        cases h
        simp [hk]
      · exact List.mem_cons_of_mem _ (ih h)

/-- With no key twice, an entry is what is found under its key. -/
lemma get?_of_mem {table : Assoc κ ν} (hunique : (table.map (·.1)).Nodup) {name : κ} {v : ν}
    (h : (name, v) ∈ table) : table.get? name = some v := by
  induction table with
  | nil => cases h
  | cons entry table ih =>
      obtain ⟨k, w⟩ := entry
      rw [List.map_cons, List.nodup_cons] at hunique
      rw [get?]
      rcases List.mem_cons.mp h with heq | hmem
      · cases heq
        rw [if_pos rfl]
      · rw [if_neg]
        · exact ih hunique.2 hmem
        · rintro rfl
          exact hunique.1 (List.mem_map.mpr ⟨_, hmem, rfl⟩)

lemma get?_of_notMem {table : Assoc κ ν} {name : κ} (h : name ∉ table.map (·.1)) :
    table.get? name = none := by
  cases hget : table.get? name with
  | none => rfl
  | some v => exact absurd (List.mem_map.mpr ⟨_, mem_of_get? hget, rfl⟩) h

lemma mem_keys_put {table : Assoc κ ν} {key name : κ} {v : ν}
    (h : name ∈ (table.put key v).map (·.1)) : name = key ∨ name ∈ table.map (·.1) := by
  induction table with
  | nil => exact .inl (List.mem_singleton.mp h)
  | cons entry table ih =>
      obtain ⟨k, w⟩ := entry
      rw [put] at h
      by_cases hk : k = key
      · rw [if_pos hk] at h
        exact .inr h
      · rw [if_neg hk, List.map_cons, List.mem_cons] at h
        rw [List.map_cons, List.mem_cons]
        rcases h with h | h
        · exact .inr (.inl h)
        · exact (ih h).imp_right .inr

/-- An entry brings in no key twice. -/
lemma nodup_put {table : Assoc κ ν} (h : (table.map (·.1)).Nodup) (key : κ) (v : ν) :
    ((table.put key v).map (·.1)).Nodup := by
  induction table with
  | nil => simp [put]
  | cons entry table ih =>
      obtain ⟨k, w⟩ := entry
      rw [put]
      by_cases hk : k = key
      · rw [if_pos hk]
        exact h
      · rw [if_neg hk]
        rw [List.map_cons, List.nodup_cons] at h ⊢
        refine ⟨fun hmem => ?_, ih h.2⟩
        rcases mem_keys_put hmem with hkey | hold
        · exact hk hkey
        · exact h.1 hold

lemma mem_putNew {table : Assoc κ ν} {key : κ} {v : ν} {entry : κ × ν}
    (h : entry ∈ table.putNew key v) : entry ∈ table ∨ entry = (key, v) := by
  rw [putNew] at h
  split at h
  · exact .inl h
  · simpa using h

lemma nodup_putNew {table : Assoc κ ν} (h : (table.map (·.1)).Nodup) (key : κ) (v : ν) :
    ((table.putNew key v).map (·.1)).Nodup := by
  rw [putNew]
  by_cases hhas : table.has key = true
  · rw [if_pos hhas]
    exact h
  · rw [if_neg hhas, List.map_append, List.nodup_append]
    refine ⟨h, by simp, ?_⟩
    rintro k hk k' hk' rfl
    obtain ⟨⟨k, w⟩, hmem, rfl⟩ := List.mem_map.mp hk
    obtain rfl : k = key := List.mem_singleton.mp hk'
    exact hhas (by rw [has, get?_of_mem h hmem]; rfl)

/-! ## Entries made one after the other -/

lemma get?_foldl_put {α : Type} {f : α → κ} {g : α → ν} {items : List α} {name : κ}
    (h : name ∉ items.map f) (table : Assoc κ ν) :
    (items.foldl (fun table a => table.put (f a) (g a)) table).get? name = table.get? name := by
  induction items generalizing table with
  | nil => rfl
  | cons a items ih =>
      simp only [List.map_cons, List.mem_cons, not_or] at h
      rw [List.foldl_cons, ih h.2, get?_put, if_neg (Ne.symm h.1)]

lemma get?_foldl_put_of_mem {α : Type} {f : α → κ} {g : α → ν} {items : List α}
    (hnodup : (items.map f).Nodup) {a : α} (h : a ∈ items) (table : Assoc κ ν) :
    (items.foldl (fun table a => table.put (f a) (g a)) table).get? (f a) = some (g a) := by
  obtain ⟨front, back, rfl⟩ := List.append_of_mem h
  rw [List.map_append, List.map_cons, List.nodup_append] at hnodup
  rw [List.foldl_append, List.foldl_cons,
    get?_foldl_put (List.nodup_cons.mp hnodup.2.1).1, get?_put, if_pos rfl]

lemma mem_of_get?_foldl_put {name : κ} {v : ν} (pairs : List (κ × ν)) (table : Assoc κ ν)
    (h : (pairs.foldl (fun table (k, v) => table.put k v) table).get? name = some v) :
    (name, v) ∈ pairs ∨ table.get? name = some v := by
  induction pairs generalizing table with
  | nil => exact .inr h
  | cons entry pairs ih =>
      obtain ⟨k, w⟩ := entry
      rcases ih _ h with hmem | hget
      · exact .inl (List.mem_cons_of_mem _ hmem)
      · rw [get?_put] at hget
        split at hget
        · rename_i hk
          cases hget
          exact .inl (by simp [hk])
        · exact .inr hget

lemma get?_ofPairs_none {name : κ} {pairs : List (κ × ν)} (h : name ∉ pairs.map (·.1)) :
    (ofPairs pairs).get? name = none :=
  get?_foldl_put (f := Prod.fst) (g := Prod.snd) h []

lemma get?_ofPairs_some {name : κ} {v : ν} {pairs : List (κ × ν)}
    (hnodup : (pairs.map (·.1)).Nodup) (h : (name, v) ∈ pairs) :
    (ofPairs pairs).get? name = some v :=
  get?_foldl_put_of_mem (f := Prod.fst) (g := Prod.snd) hnodup h []

lemma put_of_notMem {table : Assoc κ ν} {key : κ} (h : key ∉ table.map (·.1)) (v : ν) :
    table.put key v = table ++ [(key, v)] := by
  induction table with
  | nil => rfl
  | cons entry table ih =>
      simp only [List.map_cons, List.mem_cons, not_or] at h
      rw [put, if_neg (Ne.symm h.1), ih h.2]
      rfl

lemma putNew_of_notMem {table : Assoc κ ν} {key : κ} (h : key ∉ table.map (·.1)) (v : ν) :
    table.putNew key v = table ++ [(key, v)] := by
  rw [putNew, has, get?_of_notMem h]
  rfl

omit [DecidableEq κ] in
/-- The key of the next pair is new, if no key comes twice. -/
lemma notMem_of_nodup {table pairs : Assoc κ ν} {key : κ} {v : ν}
    (h : (List.map (·.1) (table ++ (key, v) :: pairs)).Nodup) : key ∉ table.map (·.1) := by
  intro hmem
  rw [List.map_append, List.nodup_append] at h
  exact h.2.2 key hmem key (by simp) rfl

lemma foldl_put_of_nodup (pairs : List (κ × ν)) (table : Assoc κ ν)
    (h : (List.map (·.1) (table ++ pairs)).Nodup) :
    pairs.foldl (fun table (k, v) => table.put k v) table = table ++ pairs := by
  induction pairs generalizing table with
  | nil => exact (List.append_nil table).symm
  | cons entry pairs ih =>
      obtain ⟨k, v⟩ := entry
      rw [List.foldl_cons]
      dsimp only
      rw [put_of_notMem (notMem_of_nodup h), ih _ (by simpa using h), List.append_assoc]
      rfl

/-- Pairs without a key twice are a table as they are. -/
lemma ofPairs_of_nodup {pairs : List (κ × ν)} (h : (pairs.map (·.1)).Nodup) :
    ofPairs pairs = pairs :=
  foldl_put_of_nodup pairs [] h

/-- A table of keys with what belongs to each. -/
lemma get?_map_pair (keys : List κ) (f : κ → ν) (name : κ) :
    get? name (keys.map fun key => (key, f key)) = if name ∈ keys then some (f name) else none := by
  induction keys with
  | nil => rfl
  | cons key keys ih =>
      rw [List.map_cons, get?, ih]
      by_cases hkey : key = name
      · simp [hkey]
      · simp [hkey, Ne.symm hkey]

end Mailroom.Assoc
