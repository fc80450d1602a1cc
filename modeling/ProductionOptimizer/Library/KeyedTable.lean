import Mathlib.Data.List.Nodup

/-!
# Tables with a primary key

A table is a list of rows in the order in which they were inserted, no two of them with one key.
What a statement does to it is read off as what `find` answers afterwards.
-/

set_option autoImplicit false

structure KeyedTable {R K : Type} (key : R → K) where
  rows : List R
  primaryKey : (rows.map key).Nodup

namespace KeyedTable
variable {R K : Type} [DecidableEq K] {key : R → K}

def empty : KeyedTable key := ⟨[], List.nodup_nil⟩

def find (table : KeyedTable key) (k : K) : Option R := table.rows.find? fun row => key row = k

theorem key_of_find {table : KeyedTable key} {k : K} {row : R} (h : table.find k = some row) :
    key row = k := by
  unfold find at h
  simpa using List.find?_some h

theorem find_eq_some {table : KeyedTable key} {k : K} {row : R} :
    table.find k = some row ↔ row ∈ table.rows ∧ key row = k := by
  constructor
  · intro h
    exact ⟨List.mem_of_find?_eq_some h, key_of_find h⟩
  · rintro ⟨hmem, hkey⟩
    cases hfind : table.find k with
    | none =>
      have hno := List.find?_eq_none.mp hfind row hmem
      exact absurd (decide_eq_true hkey) hno
    | some found =>
      rw [List.inj_on_of_nodup_map table.primaryKey (List.mem_of_find?_eq_some hfind) hmem
        ((key_of_find hfind).trans hkey.symm)]

theorem find_eq_none {table : KeyedTable key} {k : K} :
    table.find k = none ↔ ∀ row ∈ table.rows, key row ≠ k := by
  unfold find
  rw [List.find?_eq_none]
  exact forall₂_congr fun row _ => by rw [decide_eq_true_iff]

theorem nodup_insert {table : KeyedTable key} {row : R} (hnew : table.find (key row) = none) :
    ((table.rows ++ [row]).map key).Nodup := by
  rw [List.map_append, List.map_singleton]
  apply table.primaryKey.append (List.nodup_singleton _)
  intro k hk hrow
  obtain ⟨old, hold, rfl⟩ := List.mem_map.mp hk
  exact find_eq_none.mp hnew old hold (List.mem_singleton.mp hrow)

/-- `INSERT` of a row whose key is not taken. -/
def insert (table : KeyedTable key) (row : R) (hnew : table.find (key row) = none) :
    KeyedTable key :=
  ⟨table.rows ++ [row], nodup_insert hnew⟩

theorem find_insert {table : KeyedTable key} {row : R} (hnew : table.find (key row) = none)
    (k : K) : (table.insert row hnew).find k = if key row = k then some row else table.find k := by
  by_cases hk : key row = k
  · rw [if_pos hk, find_eq_some]
    exact ⟨List.mem_append_right _ (List.mem_singleton_self row), hk⟩
  · rw [if_neg hk]
    unfold find insert
    rw [List.find?_append, List.find?_singleton, if_neg (by simpa using hk), Option.or_none]

/-- `UPDATE` of the rows with a key, which leaves the key alone. -/
def update (table : KeyedTable key) (k : K) (touch : R → R)
    (hkey : ∀ row, key (touch row) = key row) : KeyedTable key where
  rows := table.rows.map fun row => if key row = k then touch row else row
  primaryKey := by
    have hkeys : (table.rows.map fun row => if key row = k then touch row else row).map key =
        table.rows.map key := by
      rw [List.map_map]
      refine List.map_congr_left fun row _ => ?_
      rw [Function.comp_apply, apply_ite key, hkey, ite_self]
    rw [hkeys]
    exact table.primaryKey

theorem find_update (table : KeyedTable key) (k : K) (touch : R → R)
    (hkey : ∀ row, key (touch row) = key row) (k' : K) :
    (table.update k touch hkey).find k' =
      if k' = k then (table.find k').map touch else table.find k' := by
  have hsame : ∀ row, key (if key row = k then touch row else row) = key row := fun row => by
    rw [apply_ite key, hkey, ite_self]
  have hmapped : (table.update k touch hkey).find k' =
      (table.find k').map fun row => if key row = k then touch row else row := by
    unfold find update
    rw [List.find?_map]
    simp only [Function.comp_def, hsame]
  rw [hmapped]
  cases hfind : table.find k' with
  | none => simp
  | some row =>
    rw [Option.map_some, Option.map_some, key_of_find hfind, apply_ite some]

end KeyedTable
