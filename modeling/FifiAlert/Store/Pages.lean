import FifiAlert.Store.RowOrder
import Mathlib.Data.List.Range
import Mathlib.Order.Basic

/-!
# Pages of an ordered query

`LIMIT` and `OFFSET` cut a window out of the rows that a query orders. The windows of a walk over
the pages put the rows together again, each in one place. Each page comes from a query of its own,
which may settle ties in its own way; so a walk needs an order without ties.
-/

namespace Store

/-- What `LIMIT` and `OFFSET` leave of the rows. -/
def page {α : Type*} (limit offset : ℕ) (rows : List α) : List α :=
  (rows.drop offset).take limit

section Page

variable {α β : Type*} {limit offset : ℕ} {rows : List α}

theorem length_page_le : (page limit offset rows).length ≤ limit := by
  rw [page, List.length_take]
  exact Nat.min_le_left _ _

theorem page_sublist : (page limit offset rows).Sublist rows :=
  (List.take_sublist _ _).trans (List.drop_sublist _ _)

theorem mem_of_mem_page {a : α} (h : a ∈ page limit offset rows) : a ∈ rows :=
  page_sublist.subset h

theorem map_page (f : α → β) : (page limit offset rows).map f = page limit offset (rows.map f) := by
  rw [page, page, List.map_take, List.map_drop]

/-- The first pages are the first rows. -/
theorem flatMap_page (limit n : ℕ) (rows : List α) :
    (List.range n).flatMap (fun k => page limit (k * limit) rows) = rows.take (n * limit) := by
  induction n with
  | zero => simp
  | succ n ih =>
      rw [List.range_succ, List.flatMap_append, ih, List.flatMap_singleton, page, Nat.succ_mul,
        List.take_add]

/-- A walk over all pages. -/
theorem flatMap_page_of_le {n : ℕ} (h : rows.length ≤ n * limit) :
    (List.range n).flatMap (fun k => page limit (k * limit) rows) = rows := by
  rw [flatMap_page, List.take_of_length_le h]

end Page

namespace RowOrder

variable {α : Type} {rows : List α}

/-- Rows ordered by a key, the greatest first. -/
theorem sorted_desc {κ : Type*} [LinearOrder κ] (O : RowOrder) (key : α → κ) (rows : List α) :
    (O.sort (fun a b => decide (key b ≤ key a)) rows).Pairwise fun a b => key b ≤ key a := by
  refine (O.sorted _ (fun a b => ?_) (fun a b c hab hbc => ?_) rows).imp of_decide_eq_true
  · rw [Bool.or_eq_true, decide_eq_true_eq, decide_eq_true_eq]
    exact le_total _ _
  · rw [decide_eq_true_eq] at hab hbc ⊢
    exact hbc.trans hab

/-- Without ties every order of the rows is the same. -/
theorem sort_eq_of_no_ties (O O' : RowOrder) {le : α → α → Bool}
    (htotal : ∀ a b, (le a b || le b a) = true)
    (htrans : ∀ a b c, le a b = true → le b c = true → le a c = true)
    (hties : ∀ a ∈ rows, ∀ b ∈ rows, le a b = true → le b a = true → a = b) :
    O.sort le rows = O'.sort le rows := by
  refine ((O.perm le rows).trans (O'.perm le rows).symm).eq_of_pairwise (fun a b ha hb => ?_)
    (O.sorted le htotal htrans rows) (O'.sorted le htotal htrans rows)
  exact hties a ((O.perm le rows).mem_iff.1 ha) b ((O'.perm le rows).mem_iff.1 hb)

end RowOrder

end Store
