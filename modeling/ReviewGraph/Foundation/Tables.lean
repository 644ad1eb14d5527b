import Mathlib.Data.List.Basic
import Mathlib.Data.List.Nodup

/-!
# Tables

A table is the list of its entries in insertion order, with a value for each key.  Setting a value
keeps the place of an existing entry.
-/

namespace Table

variable {κ α : Type*} [DecidableEq κ]

/-- The value under a key. -/
def get? (table : List (κ × α)) (key : κ) : Option α :=
  (table.find? fun entry => entry.1 = key).map Prod.snd

/-- Set the value under a key. -/
def set (table : List (κ × α)) (key : κ) (value : α) : List (κ × α) :=
  if key ∈ table.map Prod.fst then table.map fun entry =>
    if entry.1 = key then (key, value) else entry
  else table ++ [(key, value)]

/-- An entry behind a change is the new one or an old one under another key. -/
lemma mem_set {table : List (κ × α)} {key : κ} {value : α} {entry : κ × α} :
    entry ∈ set table key value ↔ entry = (key, value) ∨ entry ∈ table ∧ entry.1 ≠ key := by
  unfold set
  split
  · rename_i hmem
    rw [List.mem_map]
    constructor
    · rintro ⟨old, hold, rfl⟩
      split
      · exact .inl rfl
      · rename_i hne
        exact .inr ⟨hold, hne⟩
    · rintro (rfl | ⟨hentry, hne⟩)
      · obtain ⟨old, hold, hkey⟩ := List.mem_map.1 hmem
        exact ⟨old, hold, if_pos hkey⟩
      · exact ⟨entry, hentry, if_neg hne⟩
  · rename_i hmem
    rw [List.mem_append, List.mem_singleton]
    constructor
    · rintro (hentry | rfl)
      · exact .inr ⟨hentry, fun hkey => hmem (hkey ▸ List.mem_map_of_mem hentry)⟩
      · exact .inl rfl
    · rintro (rfl | ⟨hentry, -⟩)
      · exact .inr rfl
      · exact .inl hentry

/-- A new key is the last one. -/
lemma keys_set (table : List (κ × α)) (key : κ) (value : α) :
    (set table key value).map Prod.fst =
      if key ∈ table.map Prod.fst then table.map Prod.fst else table.map Prod.fst ++ [key] := by
  unfold set
  split
  · rw [List.map_map]
    refine List.map_congr_left fun entry _ => ?_
    rw [Function.comp_apply]
    split
    · rename_i hkey
      exact hkey.symm
    · rfl
  · rw [List.map_append]
    rfl

/-- Keys stay distinct. -/
lemma nodup_keys_set {table : List (κ × α)} (h : (table.map Prod.fst).Nodup) (key : κ) (value : α) :
    ((set table key value).map Prod.fst).Nodup := by
  rw [keys_set]
  split
  · exact h
  · rename_i hmem
    exact List.nodup_append.2 ⟨h, List.nodup_singleton _, by
      rintro a ha _ hb rfl
      exact hmem (List.mem_singleton.1 hb ▸ ha)⟩

/-- The value under a key that occurs once. -/
lemma get?_eq_some_iff {table : List (κ × α)} (h : (table.map Prod.fst).Nodup) {key : κ}
    {value : α} :
    get? table key = some value ↔ (key, value) ∈ table := by
  unfold get?
  constructor
  · intro hget
    obtain ⟨entry, hfind, rfl⟩ := Option.map_eq_some_iff.1 hget
    have hkey := List.find?_some hfind
    rw [← of_decide_eq_true hkey]
    exact List.mem_of_find?_eq_some hfind
  · intro hmem
    induction table with
    | nil => contradiction
    | cons entry table ih =>
      rw [List.map_cons, List.nodup_cons] at h
      rcases List.mem_cons.1 hmem with rfl | hmem
      · simp
      · have hne : entry.1 ≠ key := fun hkey => h.1 (hkey ▸ List.mem_map_of_mem hmem)
        rw [List.find?_cons_of_neg (by simpa using hne)]
        exact ih h.2 hmem

/-- A key without a value does not occur. -/
lemma get?_eq_none_iff {table : List (κ × α)} {key : κ} :
    get? table key = none ↔ key ∉ table.map Prod.fst := by
  unfold get?
  rw [Option.map_eq_none_iff, List.find?_eq_none]
  simp only [decide_eq_true_eq, List.mem_map, not_exists, not_and]

end Table
