import FifiAlert.Store.Table
import Mathlib.Logic.Function.Basic

/-!
# Rows by their history

What the statements of a history did to the rows of a table, newest first, tells which row is under
which key. `replay` reads it off, from the rows at the start. A table that each statement changes
as its event says is the replay of its history.
-/

namespace Store

/-- What a statement does to the rows of a table. -/
inductive RowEvent (κ ρ : Type*) where
  | put (k : κ) (r : ρ)
  | change (k : κ) (f : ρ → ρ)
  | drop (p : ρ → Bool)

variable {κ ρ : Type*} [DecidableEq κ]

def RowEvent.apply : RowEvent κ ρ → (κ → Option ρ) → κ → Option ρ
  | put k r, rows => Function.update rows k (some r)
  | change k f, rows => Function.update rows k ((rows k).map f)
  | drop p, rows => fun k => (rows k).filter fun r => !p r

def replay (start : κ → Option ρ) (events : List (RowEvent κ ρ)) : κ → Option ρ :=
  events.foldr RowEvent.apply start

namespace RowEvent

variable {rows : κ → Option ρ} {k k' : κ} {r r' : ρ} {f : ρ → ρ} {p : ρ → Bool}

theorem of_apply_put (h : (put k r).apply rows k' = some r') :
    k' = k ∧ r' = r ∨ rows k' = some r' := by
  by_cases hk : k' = k
  · subst hk
    rw [apply, Function.update_self] at h
    exact .inl ⟨rfl, (Option.some.inj h).symm⟩
  · rw [apply, Function.update_of_ne hk] at h
    exact .inr h

theorem of_apply_change (h : (change k f).apply rows k' = some r') :
    ∃ r, rows k' = some r ∧ (r' = r ∨ r' = f r) := by
  by_cases hk : k' = k
  · subst hk
    rw [apply, Function.update_self] at h
    obtain ⟨r, hr, rfl⟩ := Option.map_eq_some_iff.1 h
    exact ⟨r, hr, .inr rfl⟩
  · rw [apply, Function.update_of_ne hk] at h
    exact ⟨r', h, .inl rfl⟩

theorem of_apply_drop (h : (drop p).apply rows k = some r) : rows k = some r :=
  (Option.filter_eq_some_iff.1 h).1

/-- A change of a row that is not there. -/
theorem apply_change_of_none (h : rows k = none) : (change k f).apply rows = rows := by
  rw [apply, h, Option.map_none, ← h, Function.update_eq_self]

theorem apply_drop_of_forall (h : ∀ k r, rows k = some r → p r = false) :
    (drop p).apply rows = rows := by
  funext k
  change (rows k).filter _ = rows k
  cases hk : rows k with
  | none => rfl
  | some r => rw [Option.filter_some, h k r hk, Bool.not_false, if_pos rfl]

end RowEvent

theorem replay_append (start : κ → Option ρ) (newer older : List (RowEvent κ ρ)) :
    replay start (newer ++ older) = replay (replay start older) newer :=
  List.foldr_append

namespace Table

variable {key : ρ → κ} {t : Table ρ key}

theorem find?_insertNew_put {r : ρ} (h : t.find? (key r) = none) :
    (t.insertNew r).find? = (RowEvent.put (key r) r).apply t.find? := by
  funext k
  rw [find?_insertNew h, RowEvent.apply, Function.update_apply, ite_cond_congr (propext eq_comm)]

theorem find?_updateMany_change (k : κ) (f : ρ → ρ) (hf : ∀ r, key (f r) = key r) :
    (t.updateMany (fun r => key r = k) f hf).find? = (RowEvent.change k f).apply t.find? := by
  funext k'
  rw [find?_updateMany_ite, RowEvent.apply, Function.update_apply]
  split
  next hk => rw [hk]
  next => rfl

theorem find?_deleteMany_drop (p : ρ → Bool) :
    (t.deleteMany p).find? = (RowEvent.drop p).apply t.find? :=
  funext fun k => find?_deleteMany t p k

end Table

end Store
