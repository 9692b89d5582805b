import Mathlib.Data.List.Basic
import Mathlib.Data.List.Induction
import Mathlib.Data.List.Nodup

/-!
# Yakr.Lib.Table

**Keyed tables.** A table is a list of rows with a key projection; at most one
row per key is kept by the six changes. Five are the SQL statements `INSERT OR REPLACE`
(`upsert`), `INSERT OR IGNORE` (`insertNew`), `INSERT … ON CONFLICT DO UPDATE` (`merge`),
`UPDATE … WHERE key = …` (`update`) and `DELETE … WHERE key = …` (`delete`); `put` is the
assignment of a dictionary. A row that `upsert` replaces goes to the end, as it gets a new row
id; an updated one stays, and so does the entry of a dictionary.
-/

namespace Lib
namespace Table

variable {κ ρ : Type} [DecidableEq κ] (key : ρ → κ)

/-- The row with key `k`. -/
def find (k : κ) (rows : List ρ) : Option ρ := rows.find? fun r => key r = k

/-- `INSERT OR REPLACE`. -/
def upsert (r : ρ) (rows : List ρ) : List ρ := rows.filter (fun x => key x ≠ key r) ++ [r]

/-- `INSERT OR IGNORE`. -/
def insertNew (r : ρ) (rows : List ρ) : List ρ :=
  if rows.any (fun x => key x = key r) then rows else rows ++ [r]

/-- `UPDATE … WHERE key = k`. -/
def update (k : κ) (change : ρ → ρ) (rows : List ρ) : List ρ :=
  rows.map fun x => if key x = k then change x else x

/-- `INSERT … ON CONFLICT DO UPDATE`. -/
def merge (r : ρ) (change : ρ → ρ) (rows : List ρ) : List ρ :=
  if rows.any (fun x => key x = key r) then update key (key r) change rows else rows ++ [r]

/-- `rows[key] = r` of a dictionary. -/
def put (r : ρ) (rows : List ρ) : List ρ :=
  if rows.any (fun x => key x = key r) then rows.map fun x => if key x = key r then r else x
  else rows ++ [r]

/-- `DELETE … WHERE key = k`. -/
def delete (k : κ) (rows : List ρ) : List ρ := rows.filter fun x => key x ≠ k

/-! ### Membership -/

variable {key} {k : κ} {r x : ρ} {rows : List ρ}

@[simp] theorem mem_upsert : x ∈ upsert key r rows ↔ x ∈ rows ∧ key x ≠ key r ∨ x = r := by
  simp [upsert]

@[simp] theorem mem_delete : x ∈ delete key k rows ↔ x ∈ rows ∧ key x ≠ k := by
  simp [delete]

omit [DecidableEq κ] in
theorem nodup_filter {keep : ρ → Bool} (h : (rows.map key).Nodup) :
    ((rows.filter keep).map key).Nodup := h.sublist (List.filter_sublist.map key)

theorem nodup_upsert (h : (rows.map key).Nodup) : ((upsert key r rows).map key).Nodup := by
  rw [upsert, List.map_append, List.nodup_append]
  refine ⟨nodup_filter h, List.nodup_singleton _, ?_⟩
  intro k hk k' hk' heq
  obtain ⟨x, hx, rfl⟩ := List.mem_map.mp hk
  obtain rfl := List.mem_singleton.mp hk'
  exact of_decide_eq_true (List.mem_filter.mp hx).2 heq

theorem length_upsert_le : (upsert key r rows).length ≤ rows.length + 1 := by
  simpa [upsert] using List.length_filter_le (fun x => decide (key x ≠ key r)) rows

theorem mem_put (h : x ∈ put key r rows) : x ∈ rows ∨ x = r := by
  rw [put] at h
  split at h
  · obtain ⟨y, hy, hx⟩ := List.mem_map.mp h
    split at hx
    · exact Or.inr hx.symm
    · exact Or.inl (hx ▸ hy)
  · simpa using h

theorem length_put_le : (put key r rows).length ≤ rows.length + 1 := by
  rw [put]
  split
  · simp
  · simp

/-! ### Lookup -/

theorem find_mem (h : find key k rows = some r) : r ∈ rows := List.mem_of_find?_eq_some h

theorem find_key (h : find key k rows = some r) : key r = k := by
  have hp := List.find?_some h
  simpa using hp

theorem find_of_mem (hnodup : (rows.map key).Nodup) (hr : r ∈ rows) :
    find key (key r) rows = some r := by
  cases hfind : find key (key r) rows with
  | none =>
      have hnone := List.find?_eq_none.mp hfind r hr
      exact absurd (decide_eq_true rfl) hnone
  | some x =>
      have hkey : key x = key r := find_key hfind
      rw [List.inj_on_of_nodup_map hnodup (find_mem hfind) hr hkey]

@[simp] theorem find_upsert_self : find key (key r) (upsert key r rows) = some r := by
  have hnone : (rows.filter fun x => key x ≠ key r).find? (fun x => key x = key r) = none := by
    rw [List.find?_eq_none]
    intro x hx
    simpa using (List.mem_filter.mp hx).2
  rw [find, upsert, List.find?_append, hnone]
  simp

theorem find_filter_ne (h : key r ≠ k) :
    (rows.filter fun x => key x ≠ key r).find? (fun x => key x = k)
      = rows.find? fun x => key x = k := by
  rw [List.find?_filter]
  congr 1
  funext x
  by_cases hx : key x = k
  · simp [hx, Ne.symm h]
  · simp [hx]

/-- A row that a `DELETE` leaves is still found. -/
theorem find_filter {keep : ρ → Bool} (hkeep : keep r) (h : find key k rows = some r) :
    find key k (rows.filter keep) = some r := by
  induction rows with
  | nil => cases h
  | cons x rows ih =>
      rw [find, List.find?_cons] at h
      rw [find, List.filter_cons]
      by_cases hx : key x = k
      · simp only [hx, decide_true, Option.some.injEq] at h
        subst h
        simp [hkeep, hx]
      · simp only [hx, decide_false] at h
        split
        · rw [List.find?_cons]
          simp only [hx, decide_false]
          exact ih h
        · exact ih h

theorem find_upsert_of_ne (h : key r ≠ k) :
    find key k (upsert key r rows) = find key k rows := by
  rw [find, upsert, List.find?_append, find_filter_ne h]
  simp [find, h]

@[simp] theorem find_delete_self : find key k (delete key k rows) = none := by
  rw [find, List.find?_eq_none]
  intro x hx
  simpa using (mem_delete.mp hx).2

theorem find_delete_of_ne {k' : κ} (h : k' ≠ k) :
    find key k (delete key k' rows) = find key k rows := by
  rw [find, delete, List.find?_filter, find]
  congr 1
  funext x
  by_cases hx : key x = k
  · simp [hx, Ne.symm h]
  · simp [hx]

theorem find_update_self {change : ρ → ρ} (hkey : ∀ x, key (change x) = key x) :
    find key k (update key k change rows) = (find key k rows).map change := by
  induction rows with
  | nil => rfl
  | cons x rows ih =>
      rw [find, update, List.map_cons, List.find?_cons, find, List.find?_cons]
      by_cases hx : key x = k
      · simp [hx, hkey]
      · simp only [hx, if_false, decide_false]
        exact ih

theorem find_update_of_ne {change : ρ → ρ} {k' : κ} (hkey : ∀ x, key (change x) = key x)
    (h : k' ≠ k) : find key k (update key k' change rows) = find key k rows := by
  induction rows with
  | nil => rfl
  | cons x rows ih =>
      rw [find, update, List.map_cons, List.find?_cons, find, List.find?_cons]
      by_cases hx : key x = k'
      · simp only [hx, if_true, hkey, h, decide_false]
        exact ih
      · by_cases hk : key x = k
        · simp [hk, Ne.symm h]
        · simp only [hx, if_false, hk, decide_false]
          exact ih

theorem find_concat_self (hnone : find key (key r) rows = none) :
    find key (key r) (rows ++ [r]) = some r := by
  rw [find, List.find?_append]
  have hrows : rows.find? (fun x => key x = key r) = none := hnone
  simp [hrows]

theorem find_concat_of_ne (h : key r ≠ k) : find key k (rows ++ [r]) = find key k rows := by
  rw [find, List.find?_append]
  simp [find, h]

theorem any_eq_isSome_find : rows.any (fun x => key x = k) = (find key k rows).isSome := by
  rw [find, List.isSome_find?]

theorem find_put_self : find key (key r) (put key r rows) = some r := by
  rw [put, any_eq_isSome_find]
  cases hfind : find key (key r) rows with
  | none => simpa using find_concat_self hfind
  | some found =>
      rw [if_pos (by rfl)]
      induction rows with
      | nil => cases hfind
      | cons x rows ih =>
          rw [find, List.map_cons, List.find?_cons]
          by_cases hx : key x = key r
          · simp [hx]
          · rw [find, List.find?_cons, decide_eq_false hx] at hfind
            simp only [hx, if_false, decide_false]
            exact ih hfind

theorem find_put_of_ne (h : key r ≠ k) : find key k (put key r rows) = find key k rows := by
  rw [put]
  split
  · clear * - h
    induction rows with
    | nil => rfl
    | cons x rows ih =>
        rw [find, List.map_cons, List.find?_cons, find, List.find?_cons]
        by_cases hx : key x = key r
        · simp only [hx, if_true, h, decide_false]
          exact ih
        · by_cases hk : key x = k
          · simp [hk, Ne.symm h]
          · simp only [hx, if_false, hk, decide_false]
            exact ih
  · exact find_concat_of_ne h

/-- An ignored row gives way to the one that is there. -/
theorem find_insertNew_self :
    find key (key r) (insertNew key r rows) = some ((find key (key r) rows).getD r) := by
  rw [insertNew, any_eq_isSome_find]
  cases hfind : find key (key r) rows with
  | none => simpa using find_concat_self hfind
  | some x => simp [hfind]

theorem find_merge_self {change : ρ → ρ} (hkey : ∀ x, key (change x) = key x) :
    find key (key r) (merge key r change rows)
      = some (match find key (key r) rows with
        | some x => change x
        | none => r) := by
  rw [merge, any_eq_isSome_find]
  cases hfind : find key (key r) rows with
  | none => simpa using find_concat_self hfind
  | some x => simp [find_update_self hkey, hfind]

theorem find_merge_of_ne {change : ρ → ρ} (hkey : ∀ x, key (change x) = key x)
    (h : key r ≠ k) : find key k (merge key r change rows) = find key k rows := by
  rw [merge]
  split
  · exact find_update_of_ne hkey h
  · exact find_concat_of_ne h

/-! ### Selections by a part of the key -/

section Part

variable {σ : Type} [DecidableEq σ] (part : κ → σ) {s : σ}

/-- A deletion under another part. -/
theorem filter_part_delete (h : part k ≠ s) :
    (delete key k rows).filter (fun x => part (key x) = s)
      = rows.filter fun x => part (key x) = s := by
  unfold delete
  rw [List.filter_filter]
  refine List.filter_congr fun x _ => ?_
  by_cases hx : part (key x) = s
  · have hne : key x ≠ k := by
      intro hkey
      exact h (hkey ▸ hx)
    simp [hx, hne]
  · simp [hx]

/-- A row with another part. -/
theorem filter_part_upsert (h : part (key r) ≠ s) :
    (upsert key r rows).filter (fun x => part (key x) = s)
      = rows.filter fun x => part (key x) = s := by
  have hkept : (delete key (key r) rows).filter (fun x => part (key x) = s) = _ :=
    filter_part_delete part h
  unfold delete at hkept
  unfold upsert
  rw [List.filter_append, hkept]
  simp [h]

theorem filter_part_insertNew (h : part (key r) ≠ s) :
    (insertNew key r rows).filter (fun x => part (key x) = s)
      = rows.filter fun x => part (key x) = s := by
  unfold insertNew
  split
  · rfl
  · simp [List.filter_append, h]

end Part

/-! ### Writing row after row -/

/-- A table written row after row holds the last row of each key. -/
theorem find_foldl_upsert (written : List ρ) :
    find key k (written.foldl (fun rows r => upsert key r rows) [])
      = (written.filter fun r => key r = k).getLast? := by
  induction written using List.reverseRecOn with
  | nil => rfl
  | append_singleton written r ih =>
      rw [List.foldl_append, List.foldl_cons, List.foldl_nil, List.filter_append]
      by_cases hk : key r = k
      · subst hk
        rw [find_upsert_self]
        simp
      · rw [find_upsert_of_ne hk, ih]
        simp [hk]

end Table
end Lib
