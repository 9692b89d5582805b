import Mathlib.Algebra.Group.Int.Defs
import Mathlib.Data.List.Sort
import Mathlib.Data.String.Basic
import Yakr.Core.Errors

/-!
# Yakr.Core.Sql

**What the statements of the stores share.** A table is a list of rows in the order of
their row ids.
-/

namespace Yakr

/-- `ORDER BY`; rows that compare equal stay in the order of the table. -/
def orderBy {α : Type} (column : α → Int) (rows : List α) : List α :=
  rows.insertionSort fun a b => column a ≤ column b

/-- `ORDER BY` a text column. -/
def orderByText {α : Type} (column : α → String) (rows : List α) : List α :=
  rows.insertionSort fun a b => ¬ column b < column a

/-- Binding an integer to a column; SQLite's integers have 64 bits. -/
def sqlInteger (n : Int) : Except PyExc Unit :=
  if -(2 ^ 63) ≤ n ∧ n < 2 ^ 63 then .ok () else .error (.other "OverflowError")

theorem orderBy_perm {α : Type} (column : α → Int) (rows : List α) :
    (orderBy column rows).Perm rows := List.perm_insertionSort _ rows

theorem pairwise_orderBy {α : Type} (column : α → Int) (rows : List α) :
    (orderBy column rows).Pairwise fun a b => column a ≤ column b := by
  have : Std.Total fun a b : α => column a ≤ column b := ⟨fun a b => Int.le_total _ _⟩
  have : IsTrans α fun a b => column a ≤ column b := ⟨fun a b c => Int.le_trans⟩
  exact List.pairwise_insertionSort _ rows

theorem orderByText_perm {α : Type} (column : α → String) (rows : List α) :
    (orderByText column rows).Perm rows := List.perm_insertionSort _ rows

theorem pairwise_orderByText {α : Type} (column : α → String) (rows : List α) :
    (orderByText column rows).Pairwise fun a b => column a ≤ column b := by
  have : Std.Total fun a b : α => ¬ column b < column a := ⟨fun a b => String.le_total _ _⟩
  have : IsTrans α fun a b => ¬ column b < column a := ⟨fun a b c => String.le_trans⟩
  exact List.pairwise_insertionSort _ rows

/-- What is left out of a sorted table may be left out before a row is inserted. -/
theorem filter_orderedInsert {α : Type} (column : α → Int) (keep : α → Bool) (row : α)
    {sorted : List α} (hsorted : sorted.Pairwise fun a b => column a ≤ column b) :
    (sorted.orderedInsert (fun a b => column a ≤ column b) row).filter keep
      = if keep row then
          (sorted.filter keep).orderedInsert (fun a b => column a ≤ column b) row
        else sorted.filter keep := by
  induction sorted with
  | nil => cases hrow : keep row <;> simp [hrow]
  | cons x sorted ih =>
      obtain ⟨hx, htail⟩ := List.pairwise_cons.mp hsorted
      by_cases hle : column row ≤ column x
      · -- everything after the new row is at least as large
        rw [List.orderedInsert_cons, if_pos hle]
        cases hrow : keep row with
        | false => simp [hrow]
        | true =>
            rw [List.filter_cons_of_pos hrow, if_pos rfl]
            cases hrest : (x :: sorted).filter keep with
            | nil => rfl
            | cons y rest =>
                have hy : y ∈ (x :: sorted).filter keep := by
                  rw [hrest]
                  exact List.mem_cons_self
                have hle' : column row ≤ column y := by
                  rcases List.mem_cons.mp (List.mem_filter.mp hy).1 with rfl | hmem
                  · exact hle
                  · exact Int.le_trans hle (hx y hmem)
                rw [List.orderedInsert_cons, if_pos hle']
      · rw [List.orderedInsert_cons, if_neg hle]
        cases hkeep : keep x with
        | false => simp [hkeep, ih htail]
        | true =>
            rw [List.filter_cons_of_pos hkeep, ih htail, List.filter_cons_of_pos hkeep]
            split
            · rw [List.orderedInsert_cons, if_neg hle]
            · rfl

/-- What is left out of a table may be left out before it is sorted. -/
theorem filter_orderBy {α : Type} (column : α → Int) (keep : α → Bool) (rows : List α) :
    (orderBy column rows).filter keep = orderBy column (rows.filter keep) := by
  induction rows with
  | nil => rfl
  | cons row rows ih =>
      show ((orderBy column rows).orderedInsert _ row).filter keep = _
      rw [filter_orderedInsert column keep row (pairwise_orderBy column rows), ih]
      cases hrow : keep row with
      | false => simp [hrow]
      | true =>
          rw [List.filter_cons_of_pos hrow]
          rfl

/-- Two sorts of the same texts are one list. -/
theorem eq_orderByText {names sorted : List String} (hperm : sorted.Perm names)
    (hsorted : sorted.Pairwise (· ≤ ·)) : sorted = orderByText id names :=
  (hperm.trans (orderByText_perm id names).symm).eq_of_pairwise
    (fun _ _ _ _ => String.le_antisymm) hsorted (pairwise_orderByText id names)

/-- A sorted list is what comes before a text, the text itself and what comes after. -/
theorem sorted_split (z : String) {sorted : List String} (h : sorted.Pairwise (· ≤ ·)) :
    sorted = sorted.filter (· < z) ++ (sorted.filter (· = z) ++ sorted.filter (z < ·)) := by
  induction sorted with
  | nil => rfl
  | cons x sorted ih =>
      obtain ⟨hx, htail⟩ := List.pairwise_cons.mp h
      rcases lt_trichotomy x z with hlt | rfl | hgt
      · rw [List.filter_cons_of_pos (by simpa using hlt),
          List.filter_cons_of_neg (by simpa using hlt.ne),
          List.filter_cons_of_neg (by simpa only [decide_eq_true_eq] using hlt.le.not_gt)]
        exact congrArg (x :: ·) (ih htail)
      · -- nothing after `x` is smaller
        have hnone : sorted.filter (· < x) = [] :=
          List.filter_eq_nil_iff.mpr fun y hy => by
            simpa only [decide_eq_true_eq] using (hx y hy).not_gt
        rw [List.filter_cons_of_neg (by simp), List.filter_cons_of_pos (by simp),
          List.filter_cons_of_neg (by simp), hnone]
        have hrest := ih htail
        rw [hnone] at hrest
        exact congrArg (x :: ·) hrest
      · have hlt : (x :: sorted).filter (· < z) = [] :=
          List.filter_eq_nil_iff.mpr fun y hy => by
            have hle : z ≤ y := by
              rcases List.mem_cons.mp hy with rfl | hy
              · exact hgt.le
              · exact hgt.le.trans (hx y hy)
            simpa only [decide_eq_true_eq] using hle.not_gt
        have heq : (x :: sorted).filter (· = z) = [] :=
          List.filter_eq_nil_iff.mpr fun y hy => by
            have hne : z < y := by
              rcases List.mem_cons.mp hy with rfl | hy
              · exact hgt
              · exact hgt.trans_le (hx y hy)
            simpa using hne.ne'
        have hgreater : (x :: sorted).filter (z < ·) = x :: sorted :=
          List.filter_eq_self.mpr fun y hy => by
            have hlt : z < y := by
              rcases List.mem_cons.mp hy with rfl | hy
              · exact hgt
              · exact hgt.trans_le (hx y hy)
            simpa using hlt
        rw [hlt, heq, hgreater]
        rfl

end Yakr
