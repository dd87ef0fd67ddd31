import Mathlib.Data.List.Count
import Mathlib.Data.List.Nodup

/-!
# Tables with a unique key

A `Table ρ key` is a list of rows no two of which share a key, and it carries
the proof of that, so a lookup by key names at most one row. The operations are
those of a relational store: lookup, insertion, update and deletion of every row
that satisfies a condition. An update may not touch the key.

Everything is stated through `find?`, which reads the table as a partial
function from keys to rows.

A `Serial` is a table whose keys are drawn from a sequence of its own. It carries
the proof that every key in use was drawn before, so the next key is free and a
creation always adds a row.
-/

namespace Store

/-- Rows with pairwise different keys. -/
structure Table {κ : Type*} (ρ : Type*) (key : ρ → κ) where
  rows : List ρ
  nodup : (rows.map key).Nodup

namespace Table

variable {κ ρ : Type*} {key : ρ → κ}

def empty : Table ρ key where
  rows := []
  nodup := List.nodup_nil

instance : Inhabited (Table ρ key) := ⟨empty⟩

theorem eq_of_rows {t t' : Table ρ key} (h : t.rows = t'.rows) : t = t' := by
  cases t
  cases t'
  cases h
  rfl

/-- `findMany`: every row that satisfies the condition, in the order of the
table. -/
def findMany (t : Table ρ key) (p : ρ → Bool) : List ρ :=
  t.rows.filter p

/-- How many rows satisfy the condition. -/
def count (t : Table ρ key) (p : ρ → Bool) : ℕ :=
  t.rows.countP p

/-- `updateMany`: rewrite every row that satisfies the condition. -/
def updateMany (t : Table ρ key) (p : ρ → Bool) (f : ρ → ρ)
    (hf : ∀ r, key (f r) = key r := by intro _; rfl) : Table ρ key where
  rows := t.rows.map fun r => if p r then f r else r
  nodup := by
    have hkey : (key ∘ fun r => if p r then f r else r) = key := by
      funext r
      by_cases hp : p r = true <;> simp [hp, hf]
    rw [List.map_map, hkey]
    exact t.nodup

/-- `deleteMany`: drop every row that satisfies the condition. -/
def deleteMany (t : Table ρ key) (p : ρ → Bool) : Table ρ key where
  rows := t.rows.filter fun r => !p r
  nodup := t.nodup.sublist (List.filter_sublist.map key)

theorem mem_findMany {t : Table ρ key} {p : ρ → Bool} {r : ρ} :
    r ∈ t.findMany p ↔ r ∈ t.rows ∧ p r = true :=
  List.mem_filter

/-- A condition that does not tell rows apart finds rows that look the same. -/
theorem map_findMany_congr {t t' : Table ρ key} {f : ρ → ρ} {p : ρ → Bool}
    (hp : ∀ r, p (f r) = p r) (h : t.rows.map f = t'.rows.map f) :
    (t.findMany p).map f = (t'.findMany p).map f := by
  have hfilter : ∀ u : Table ρ key, (u.findMany p).map f = (u.rows.map f).filter p := by
    intro u
    have hcomp : p ∘ f = p := funext hp
    rw [List.filter_map, hcomp]
    rfl
  rw [hfilter, hfilter, h]

/-- What an update does not touch is found and read as before. -/
theorem map_findMany_updateMany {β : Type*} (t : Table ρ key) {p q : ρ → Bool} {f : ρ → ρ}
    {hf : ∀ r, key (f r) = key r} {g : ρ → β} (hq : ∀ r, q (f r) = q r)
    (hg : ∀ r, g (f r) = g r) :
    ((t.updateMany p f hf).findMany q).map g = (t.findMany q).map g := by
  have hrows : ∀ rows : List ρ,
      ((rows.map fun r => if p r then f r else r).filter q).map g = (rows.filter q).map g := by
    intro rows
    induction rows with
    | nil => rfl
    | cons r rows ih =>
        by_cases hp : p r = true <;> by_cases hr : q r = true <;> simp [hp, hr, hq, hg, ih]
  exact hrows t.rows

/-- A count does not grow when each row it finds stood there before, under the same key. -/
theorem count_le_count {t t' : Table ρ key} {p p' : ρ → Bool}
    (h : ∀ r' ∈ t'.rows, p' r' = true → ∃ r ∈ t.rows, key r = key r' ∧ p r = true) :
    t'.count p' ≤ t.count p := by
  unfold count
  rw [List.countP_eq_length_filter, List.countP_eq_length_filter]
  have hsub : ((t'.rows.filter p').map key).Subperm ((t.rows.filter p).map key) := ?_
  · simpa using hsub.length_le
  apply List.subperm_of_subset
  · exact t'.nodup.sublist (List.filter_sublist.map key)
  · intro k hk
    obtain ⟨r', hr', rfl⟩ := List.mem_map.1 hk
    obtain ⟨hmem, hp⟩ := List.mem_filter.1 hr'
    obtain ⟨r, hr, hkey, hpr⟩ := h r' hmem hp
    exact List.mem_map.2 ⟨r, List.mem_filter.2 ⟨hr, hpr⟩, hkey⟩

/-- A condition that names one key is met by one row at most. -/
theorem count_le_one {t : Table ρ key} {p : ρ → Bool}
    (h : ∀ r ∈ t.rows, ∀ r' ∈ t.rows, p r = true → p r' = true → key r = key r') :
    t.count p ≤ 1 := by
  have hnodup : ((t.rows.filter p).map key).Nodup :=
    t.nodup.sublist (List.filter_sublist.map key)
  have hkey : ∀ r ∈ t.rows.filter p, ∀ r' ∈ t.rows.filter p, key r = key r' := by
    intro r hr r' hr'
    obtain ⟨hmem, hp⟩ := List.mem_filter.1 hr
    obtain ⟨hmem', hp'⟩ := List.mem_filter.1 hr'
    exact h r hmem r' hmem' hp hp'
  unfold count
  rw [List.countP_eq_length_filter]
  generalize t.rows.filter p = l at hnodup hkey
  cases l with
  | nil => exact Nat.zero_le 1
  | cons r l =>
      cases l with
      | nil => exact Nat.le_refl 1
      | cons r' l =>
          rw [List.map_cons, List.map_cons, List.nodup_cons] at hnodup
          have heq := hkey r List.mem_cons_self r' (List.mem_cons_of_mem r List.mem_cons_self)
          exact absurd (heq ▸ List.mem_cons_self) hnodup.1

section Find

variable [DecidableEq κ]

/-- `findUnique`: the row with this key. -/
def find? (t : Table ρ key) (k : κ) : Option ρ :=
  t.rows.find? fun r => decide (key r = k)

theorem key_of_find? {t : Table ρ key} {k : κ} {r : ρ} (h : t.find? k = some r) :
    key r = k := by
  simpa using List.find?_some h

theorem mem_of_find? {t : Table ρ key} {k : κ} {r : ρ} (h : t.find? k = some r) :
    r ∈ t.rows :=
  List.mem_of_find?_eq_some h

/-- A row of the table is found under its key. -/
theorem find?_of_mem {t : Table ρ key} {r : ρ} (h : r ∈ t.rows) :
    t.find? (key r) = some r := by
  have hn := t.nodup
  unfold find?
  generalize t.rows = l at h hn
  induction l with
  | nil => simp at h
  | cons x l ih =>
      rw [List.map_cons, List.nodup_cons] at hn
      rcases List.mem_cons.1 h with rfl | hr
      · simp
      · have hx : key x ≠ key r := fun he =>
          hn.1 (he ▸ List.mem_map_of_mem hr)
        rw [List.find?_cons_of_neg (by simpa using hx)]
        exact ih hr hn.2

theorem find?_eq_some_iff {t : Table ρ key} {k : κ} {r : ρ} :
    t.find? k = some r ↔ r ∈ t.rows ∧ key r = k :=
  ⟨fun h => ⟨mem_of_find? h, key_of_find? h⟩, fun h => h.2 ▸ find?_of_mem h.1⟩

theorem find?_eq_none_iff {t : Table ρ key} {k : κ} :
    t.find? k = none ↔ ∀ r ∈ t.rows, key r ≠ k := by
  simp [find?]

/-- The rows under a key look the same in tables that do. -/
theorem map_find?_congr {t t' : Table ρ key} (f : ρ → ρ) (hf : ∀ r, key (f r) = key r)
    (h : t.rows.map f = t'.rows.map f) (k : κ) : (t.find? k).map f = (t'.find? k).map f := by
  have hfind : ∀ u : Table ρ key,
      (u.find? k).map f = (u.rows.map f).find? fun r => key r = k := by
    intro u
    have hcomp : (fun r => decide (key r = k)) ∘ f = fun r => decide (key r = k) :=
      funext fun r => by rw [Function.comp_apply, hf]
    rw [List.find?_map, hcomp]
    rfl
  rw [hfind, hfind, h]

@[simp] theorem find?_empty (k : κ) : (empty : Table ρ key).find? k = none := rfl

/-- An update is seen through the lookup row by row. -/
@[simp] theorem find?_updateMany (t : Table ρ key) (p : ρ → Bool) (f : ρ → ρ)
    (hf : ∀ r, key (f r) = key r) (k : κ) :
    (t.updateMany p f hf).find? k =
      (t.find? k).map fun r => if p r then f r else r := by
  unfold find? updateMany
  rw [List.find?_map]
  congr 2
  funext r
  by_cases hp : p r = true <;> simp [hp, hf]

/-- The rows that are not any more what they were. -/
def changed [DecidableEq ρ] (t t' : Table ρ key) : List ρ :=
  t.rows.filter fun r => t'.find? (key r) ≠ some r

/-- An update that leaves no row as it is changes the rows that satisfy its condition. -/
theorem changed_updateMany [DecidableEq ρ] {t : Table ρ key} {p : ρ → Bool} {f : ρ → ρ}
    (hf : ∀ r, key (f r) = key r) (h : ∀ r, p r = true → f r ≠ r) :
    t.changed (t.updateMany p f hf) = t.rows.filter p := by
  refine List.filter_congr fun r hr => ?_
  rw [find?_updateMany, find?_of_mem hr, Option.map_some]
  cases hp : p r with
  | false => simp
  | true => simpa using h r hp

omit [DecidableEq κ] in
/-- An update that no row satisfies. -/
theorem updateMany_of_forall_not {t : Table ρ key} {p : ρ → Bool} {f : ρ → ρ}
    {hf : ∀ r, key (f r) = key r} (h : ∀ r ∈ t.rows, p r = false) : t.updateMany p f hf = t := by
  have hrows : (t.rows.map fun r => if p r then f r else r) = t.rows := by
    rw [List.map_congr_left (g := id) fun r hr => by simp [h r hr], List.map_id]
  cases t
  simp only [updateMany, hrows]

/-- The update of the row under a key. -/
theorem find?_updateMany_ite (t : Table ρ key) (k k' : κ) (f : ρ → ρ)
    (hf : ∀ r, key (f r) = key r) :
    (t.updateMany (fun r => key r = k) f hf).find? k' =
      if k' = k then (t.find? k').map f else t.find? k' := by
  rw [find?_updateMany]
  split
  next hk => exact Option.map_congr fun r hr => if_pos (decide_eq_true ((key_of_find? hr).trans hk))
  next hk =>
    refine (Option.map_congr fun r hr => ?_).trans Option.map_id'
    exact if_neg (by simpa [key_of_find? hr] using hk)

/-- The update of the row under a key, seen at the key. -/
theorem find?_updateMany_self (t : Table ρ key) (k : κ) (f : ρ → ρ)
    (hf : ∀ r, key (f r) = key r) :
    (t.updateMany (fun r => key r = k) f hf).find? k = (t.find? k).map f := by
  rw [find?_updateMany_ite, if_pos rfl]

/-- What is found after the update of the row under a key. -/
theorem exists_of_find?_updateMany {t : Table ρ key} {k k' : κ} {r : ρ} {f : ρ → ρ}
    {hf : ∀ r, key (f r) = key r}
    (h : (t.updateMany (fun r => key r = k) f hf).find? k' = some r) :
    ∃ before, t.find? k' = some before ∧ (k' = k ∧ r = f before ∨ k' ≠ k ∧ r = before) := by
  rw [find?_updateMany_ite] at h
  split at h
  next hk =>
    obtain ⟨before, hbefore, rfl⟩ := Option.map_eq_some_iff.1 h
    exact ⟨before, hbefore, .inl ⟨hk, rfl⟩⟩
  next hk => exact ⟨r, h, .inr ⟨hk, rfl⟩⟩

/-- The update of the row under a key that is there. -/
theorem find?_updateMany_key {t : Table ρ key} {k k' : κ} {r : ρ} (f : ρ → ρ)
    (hf : ∀ r, key (f r) = key r) (h : t.find? k = some r) :
    (t.updateMany (fun r => key r = k) f hf).find? k' =
      if k' = k then some (f r) else t.find? k' := by
  rw [find?_updateMany_ite]
  split
  next hk => rw [hk, h, Option.map_some]
  next => rfl

/-- After a deletion a row is found when it was there and was not deleted. -/
theorem find?_deleteMany (t : Table ρ key) (p : ρ → Bool) (k : κ) :
    (t.deleteMany p).find? k = (t.find? k).filter fun r => !p r := by
  cases h : t.find? k with
  | none =>
      rw [Option.filter_none, find?_eq_none_iff]
      intro r hr
      exact find?_eq_none_iff.1 h r (List.mem_of_mem_filter hr)
  | some r =>
      obtain ⟨hmem, hkey⟩ := find?_eq_some_iff.1 h
      by_cases hp : p r = true
      · rw [Option.filter_some, if_neg (by simp [hp]), find?_eq_none_iff]
        intro r' hr' hk'
        obtain ⟨hm, hnp⟩ := List.mem_filter.1 hr'
        have hrr : t.find? k = some r' := find?_eq_some_iff.2 ⟨hm, hk'⟩
        rw [h, Option.some.injEq] at hrr
        simp [← hrr, hp] at hnp
      · rw [Option.filter_some, if_pos (by simp [hp]), find?_eq_some_iff]
        exact ⟨List.mem_filter.2 ⟨hmem, by simp [hp]⟩, hkey⟩

/-- `create`: append the row, unless its key is taken. -/
def insertNew (t : Table ρ key) (r : ρ) : Table ρ key :=
  if h : t.find? (key r) = none then
    { rows := t.rows ++ [r]
      nodup := by
        rw [List.map_append, List.nodup_append]
        refine ⟨t.nodup, by simp, ?_⟩
        intro k hk k' hk' he
        obtain ⟨x, hx, hxk⟩ := List.mem_map.1 hk
        rw [List.map_singleton, List.mem_singleton] at hk'
        exact find?_eq_none_iff.1 h x hx (hxk.trans (he.trans hk')) }
  else t

theorem insertNew_rows {t : Table ρ key} {r : ρ} (h : t.find? (key r) = none) :
    (t.insertNew r).rows = t.rows ++ [r] := by
  simp [insertNew, h]

theorem insertNew_of_some {t : Table ρ key} {r r' : ρ}
    (h : t.find? (key r) = some r') : t.insertNew r = t := by
  simp [insertNew, h]

/-- A row after an insertion was there before or is the inserted one. -/
theorem mem_of_mem_insertNew {t : Table ρ key} {r r' : ρ} (h : r' ∈ (t.insertNew r).rows) :
    r' ∈ t.rows ∨ r' = r := by
  cases hr : t.find? (key r) with
  | none =>
      rw [insertNew_rows hr, List.mem_append, List.mem_singleton] at h
      exact h
  | some _ =>
      rw [insertNew_of_some hr] at h
      exact .inl h

theorem find?_insertNew {t : Table ρ key} {r : ρ} (h : t.find? (key r) = none)
    (k : κ) :
    (t.insertNew r).find? k = if key r = k then some r else t.find? k := by
  unfold find? at h ⊢
  rw [insertNew_rows h, List.find?_append]
  by_cases hk : key r = k
  · subst hk
    simp [h]
  · simp [hk]

/-- Insertion never changes or removes a row. -/
theorem find?_insertNew_of_some {t : Table ρ key} {k : κ} {r r' : ρ}
    (h : t.find? k = some r') : (t.insertNew r).find? k = some r' := by
  cases hr : t.find? (key r) with
  | none =>
      rw [find?_insertNew hr]
      by_cases hk : key r = k
      · rw [hk, h] at hr
        cases hr
      · rw [if_neg hk, h]
  | some _ => rw [insertNew_of_some hr, h]

/-- Rows after an insertion are the inserted row and the rows before. -/
theorem find?_of_insertNew {t : Table ρ key} {k : κ} {r r' : ρ}
    (h : (t.insertNew r).find? k = some r') :
    t.find? k = some r' ∨ (t.find? (key r) = none ∧ key r = k ∧ r' = r) := by
  cases hr : t.find? (key r) with
  | none =>
      rw [find?_insertNew hr] at h
      by_cases hk : key r = k
      · rw [if_pos hk, Option.some.injEq] at h
        exact .inr ⟨rfl, hk, h.symm⟩
      · rw [if_neg hk] at h
        exact .inl h
  | some _ =>
      rw [insertNew_of_some hr] at h
      exact .inl h

/-- `upsert`: a row that is there is changed, else the new one is inserted. -/
def upsert (t : Table ρ key) (r : ρ) (f : ρ → ρ) (hf : ∀ r, key (f r) = key r) : Table ρ key :=
  if (t.find? (key r)).isSome then t.updateMany (fun r' => key r' = key r) f hf else t.insertNew r

theorem find?_upsert (t : Table ρ key) (r : ρ) (f : ρ → ρ) (hf : ∀ r, key (f r) = key r) (k : κ) :
    (t.upsert r f hf).find? k = if k = key r then some ((t.find? k).elim r f) else t.find? k := by
  unfold upsert
  split
  next hsome =>
    obtain ⟨r', hr'⟩ := Option.isSome_iff_exists.1 hsome
    rw [find?_updateMany_ite]
    by_cases hk : k = key r
    · rw [if_pos hk, if_pos hk, hk, hr', Option.map_some, Option.elim_some]
    · rw [if_neg hk, if_neg hk]
  next hnone =>
    have hfree : t.find? (key r) = none := by simpa using hnone
    rw [find?_insertNew hfree]
    by_cases hk : k = key r
    · rw [if_pos hk.symm, if_pos hk, hk, hfree, Option.elim_none]
    · rw [if_neg (Ne.symm hk), if_neg hk]

/-- An insertion adds one row at most to those that satisfy a condition. -/
theorem count_insertNew_le (t : Table ρ key) (r : ρ) (p : ρ → Bool) :
    (t.insertNew r).count p ≤ t.count p + if p r then 1 else 0 := by
  cases hr : t.find? (key r) with
  | none =>
      rw [count, insertNew_rows hr, List.countP_append, List.countP_singleton]
      exact Nat.le_refl _
  | some _ =>
      rw [insertNew_of_some hr]
      exact Nat.le_add_right _ _

/-- Counting the rows with a given key asks one row. -/
theorem count_key (t : Table ρ key) (k : κ) (q : ρ → Bool) :
    t.count (fun r => decide (key r = k) && q r) =
      if (t.find? k).any q then 1 else 0 := by
  have hn := t.nodup
  unfold find? count
  generalize t.rows = l at hn
  induction l with
  | nil => rfl
  | cons x l ih =>
      rw [List.map_cons, List.nodup_cons] at hn
      by_cases hx : key x = k
      · subst hx
        have hzero : l.countP (fun r => decide (key r = key x) && q r) = 0 := by
          rw [List.countP_eq_zero]
          intro r hr
          have hne : key r ≠ key x := fun he =>
            hn.1 (he ▸ List.mem_map_of_mem hr)
          simp [hne]
        simp [List.countP_cons, hzero]
      · simp [hx, ih hn.2]

end Find

end Table

end Store

namespace Store

structure Serial (ρ : Type*) (key : ρ → ℕ) extends Table ρ key where
  next : ℕ
  lt_next : ∀ r ∈ rows, key r < next

namespace Serial

variable {ρ : Type*} {key : ρ → ℕ}

def empty : Serial ρ key where
  toTable := .empty
  next := 0
  lt_next := by simp [Table.empty]

instance : Inhabited (Serial ρ key) := ⟨empty⟩

/-- `create`: the row that `mk` makes of the next key. -/
def create (t : Serial ρ key) (mk : ℕ → ρ) (hmk : ∀ n, key (mk n) = n := by intro _; rfl) :
    Serial ρ key where
  rows := t.rows ++ [mk t.next]
  nodup := by
    rw [List.map_append, List.nodup_append]
    refine ⟨t.nodup, by simp, ?_⟩
    intro k hk k' hk' he
    obtain ⟨r, hr, hrk⟩ := List.mem_map.1 hk
    rw [List.map_singleton, List.mem_singleton] at hk'
    have hlt := t.lt_next r hr
    rw [hrk, he, hk', hmk] at hlt
    exact Nat.lt_irrefl _ hlt
  next := t.next + 1
  lt_next := by
    intro r hr
    rcases List.mem_append.1 hr with hr | hr
    · exact Nat.lt_succ_of_lt (t.lt_next r hr)
    · rw [List.mem_singleton.1 hr, hmk]
      exact Nat.lt_succ_self t.next

/-- `updateMany`: the sequence stays where it is. -/
def updateMany (t : Serial ρ key) (p : ρ → Bool) (f : ρ → ρ)
    (hf : ∀ r, key (f r) = key r := by intro _; rfl) : Serial ρ key where
  toTable := t.toTable.updateMany p f hf
  next := t.next
  lt_next := by
    intro r hr
    obtain ⟨r', hr', rfl⟩ := List.mem_map.1 hr
    by_cases hp : p r' = true
    · rw [if_pos hp, hf]
      exact t.lt_next r' hr'
    · rw [if_neg hp]
      exact t.lt_next r' hr'

/-- `deleteMany`: the keys of the rows that go are not drawn again. -/
def deleteMany (t : Serial ρ key) (p : ρ → Bool) : Serial ρ key where
  toTable := t.toTable.deleteMany p
  next := t.next
  lt_next := fun r hr => t.lt_next r (List.mem_of_mem_filter hr)

@[simp] theorem toTable_updateMany (t : Serial ρ key) (p : ρ → Bool) (f : ρ → ρ)
    (hf : ∀ r, key (f r) = key r) :
    (t.updateMany p f hf).toTable = t.toTable.updateMany p f hf := rfl

@[simp] theorem next_updateMany (t : Serial ρ key) (p : ρ → Bool) (f : ρ → ρ)
    (hf : ∀ r, key (f r) = key r) : (t.updateMany p f hf).next = t.next := rfl

@[simp] theorem rows_create (t : Serial ρ key) (mk : ℕ → ρ) (hmk : ∀ n, key (mk n) = n) :
    (t.create mk hmk).rows = t.rows ++ [mk t.next] := rfl

@[simp] theorem next_create (t : Serial ρ key) (mk : ℕ → ρ) (hmk : ∀ n, key (mk n) = n) :
    (t.create mk hmk).next = t.next + 1 := rfl

theorem lt_next_of_find? {t : Serial ρ key} {k : ℕ} {r : ρ} (h : t.find? k = some r) :
    k < t.next :=
  Table.key_of_find? h ▸ t.lt_next r (Table.mem_of_find? h)

/-- After a creation the new row is found under its key, and the others as before. -/
theorem find?_create (t : Serial ρ key) (mk : ℕ → ρ) (hmk : ∀ n, key (mk n) = n) (k : ℕ) :
    (t.create mk hmk).find? k = if k = t.next then some (mk t.next) else t.find? k := by
  unfold Table.find?
  rw [rows_create, List.find?_append]
  by_cases hk : k = t.next
  · subst hk
    have hnone : t.rows.find? (fun r => key r = t.next) = none := by
      rw [List.find?_eq_none]
      intro r hr
      simpa using Nat.ne_of_lt (t.lt_next r hr)
    rw [hnone, if_pos rfl, Option.none_or, List.find?_singleton, if_pos (by simp [hmk])]
  · have hnot : ¬ decide (key (mk t.next) = k) = true := by
      rw [hmk, decide_eq_true_eq]
      exact Ne.symm hk
    rw [if_neg hk, List.find?_singleton, if_neg hnot, Option.or_none]

end Serial

end Store
