import Mathlib.Data.List.Sort

/-!
# The order of the rows of a query

A query lists its rows in an order that `ORDER BY` settles only up to ties, and a
query without `ORDER BY` lists them in any order. A `RowOrder` is a sort that
settles the rest; it carries the proof that it sorts, whatever it does with ties.
-/

namespace Store

structure RowOrder where
  sort : {α : Type} → (α → α → Bool) → List α → List α
  perm : ∀ {α : Type} (le : α → α → Bool) (l : List α), (sort le l).Perm l
  sorted : ∀ {α : Type} (le : α → α → Bool), (∀ a b, (le a b || le b a) = true) →
    (∀ a b c, le a b = true → le b c = true → le a c = true) →
      ∀ l : List α, (sort le l).Pairwise fun a b => le a b = true

namespace RowOrder

/-- Rows of a query that asks for no order. -/
def unordered {α : Type} (O : RowOrder) (l : List α) : List α :=
  O.sort (fun _ _ => true) l

@[simp] theorem mem_sort {α : Type} {O : RowOrder} {le : α → α → Bool} {l : List α} {a : α} :
    a ∈ O.sort le l ↔ a ∈ l :=
  (O.perm le l).mem_iff

@[simp] theorem mem_unordered {α : Type} {O : RowOrder} {l : List α} {a : α} :
    a ∈ O.unordered l ↔ a ∈ l :=
  mem_sort

/-- Ties keep the order in which the rows were found. -/
def insertion : RowOrder where
  sort := fun le l => l.insertionSort fun a b => le a b = true
  perm := fun le l => List.perm_insertionSort (fun a b => le a b = true) l
  sorted := by
    intro α le htotal htrans l
    have total : Std.Total fun a b => le a b = true := ⟨fun a b => by simpa using htotal a b⟩
    have trans : IsTrans α fun a b => le a b = true := ⟨htrans⟩
    exact List.pairwise_insertionSort (fun a b => le a b = true) l

/-- Ties are settled by where the rows are, not by what is in them. -/
def Positional (O : RowOrder) : Prop :=
  ∀ {α : Type} (f : α → α) (le : α → α → Bool) (l : List α), (∀ a b, le (f a) (f b) = le a b) →
    O.sort le (l.map f) = (O.sort le l).map f

/-- Rows that look the same to a function are listed the same. -/
theorem Positional.map_sort_eq {α : Type} {O : RowOrder} (hO : O.Positional) (f : α → α)
    (le : α → α → Bool) (hle : ∀ a b, le (f a) (f b) = le a b) {l l' : List α}
    (h : l.map f = l'.map f) : (O.sort le l).map f = (O.sort le l').map f := by
  rw [← hO f le l hle, h, hO f le l' hle]

theorem insertion_positional : insertion.Positional := by
  intro α f le l hle
  refine (List.map_insertionSort _ _ f l ?_).symm
  intro a _ b _
  rw [hle]

end RowOrder

end Store
