import Mathlib.Data.List.MinMax

/-!
# Reducing an array without an initial value

The first element is the first accumulator, so the callback meets an element in its first argument
once, and what it returned itself from then on. A callback that returns the better one of its two
arguments finds the best element. A callback that throws on what it returned has no result for an
array with three elements or more.
-/

namespace Js

variable {α β ε : Type*}

/-- `xs.reduce(callback)`, where an element becomes an accumulator by `start`. -/
def reduce (onEmpty : ε) (start : α → β) (callback : β → α → Except ε β) : List α → Except ε β
  | [] => .error onEmpty
  | x :: xs => xs.foldlM callback (start x)

section Rules

variable {onEmpty : ε} {start : α → β} {callback : β → α → Except ε β}

@[simp] theorem reduce_singleton (x : α) :
    reduce onEmpty start callback [x] = .ok (start x) := rfl

theorem reduce_pair (x y : α) :
    reduce onEmpty start callback [x, y] = callback (start x) y := by
  rw [reduce, List.foldlM_cons]
  exact bind_pure _

/-- What the first call of the callback returned makes the second call throw. -/
theorem reduce_eq_error {x y z : α} {acc : β} {e : ε} (hfirst : callback (start x) y = .ok acc)
    (hsecond : callback acc z = .error e) (l : List α) :
    reduce onEmpty start callback (x :: y :: z :: l) = .error e := by
  rw [reduce, List.foldlM_cons, hfirst]
  change (z :: l).foldlM callback acc = .error e
  rw [List.foldlM_cons, hsecond]
  rfl

end Rules

section Best

variable {γ : Type*} [LinearOrder γ] {rank : α → γ} {callback : α → α → Except ε α}

/-- The loop of a callback that returns the argument with the smaller rank. -/
theorem foldlM_eq_argmin
    (hcallback : ∀ x y, callback x y = .ok (if rank y < rank x then y else x)) (x : α)
    (xs : List α) :
    ∃ best, (x :: xs).argmin rank = some best ∧ xs.foldlM callback x = .ok best := by
  change ∃ best, xs.foldl (List.argAux fun x y => rank x < rank y) (some x) = some best ∧ _
  induction xs generalizing x with
  | nil => exact ⟨x, rfl, rfl⟩
  | cons y xs ih =>
      obtain ⟨best, hbest, hfold⟩ := ih (if rank y < rank x then y else x)
      refine ⟨best, ?_, ?_⟩
      · rw [List.foldl_cons, ← hbest]
        congr 1
        exact (apply_ite some _ _ _).symm
      · rw [List.foldlM_cons, hcallback]
        exact hfold

/-- A callback that returns the argument with the smaller rank finds the first element with the
smallest rank. -/
theorem reduce_eq_argmin (onEmpty : ε) (rank : α → γ)
    (hcallback : ∀ x y, callback x y = .ok (if rank y < rank x then y else x)) {xs : List α}
    (hxs : xs ≠ []) :
    ∃ best, xs.argmin rank = some best ∧ reduce onEmpty id callback xs = .ok best := by
  cases xs with
  | nil => exact absurd rfl hxs
  | cons x xs => exact foldlM_eq_argmin hcallback x xs

end Best

end Js
