import FifiAlert.Store.Table
import Mathlib.Data.List.MinMax

/-!
# Maps in insertion order

An `Assoc κ ν` is a table of key and value pairs: a map whose entries keep the
order in which their keys were first set. Setting a key again leaves its entry
where it is.

`bestOf key better` reads a list into such a map, one entry for each key. A later
element replaces the entry of its key when it is better. What the map holds under
a key depends on the elements with that key only, and when `better` follows a
rank, no element with the key has a smaller rank than the one that was kept.

When `better` compares a rank in a linear order, `bestOf` keeps under each key the
first element with the smallest rank among those with the key.
-/

namespace Store

variable {κ ν α : Type*}

abbrev Assoc (κ ν : Type*) := Table (κ × ν) Prod.fst

namespace Assoc

def empty : Assoc κ ν := Table.empty

def keys (m : Assoc κ ν) : List κ :=
  m.rows.map Prod.fst

def values (m : Assoc κ ν) : List ν :=
  m.rows.map Prod.snd

theorem nodup_keys (m : Assoc κ ν) : m.keys.Nodup := m.nodup

variable [DecidableEq κ]

def get (m : Assoc κ ν) (k : κ) : Option ν :=
  (m.find? k).map Prod.snd

def has (m : Assoc κ ν) (k : κ) : Bool :=
  (m.find? k).isSome

def set (m : Assoc κ ν) (k : κ) (v : ν) : Assoc κ ν :=
  if m.has k then m.updateMany (fun e => e.1 = k) fun e => (e.1, v) else m.insertNew (k, v)

@[simp] theorem get_empty (k : κ) : (empty : Assoc κ ν).get k = none := rfl

@[simp] theorem isSome_get (m : Assoc κ ν) (k : κ) : (m.get k).isSome = m.has k := by
  simp [get, has]

theorem get_set (m : Assoc κ ν) (k k' : κ) (v : ν) :
    (m.set k v).get k' = if k = k' then some v else m.get k' := by
  unfold set
  cases hm : m.find? k with
  | none =>
      have hhas : m.has k = false := by simp [has, hm]
      rw [hhas, if_neg Bool.false_ne_true, get, Table.find?_insertNew hm]
      by_cases hk : k = k' <;> simp [hk, get]
  | some e =>
      have hhas : m.has k = true := by simp [has, hm]
      rw [if_pos hhas, get, Table.find?_updateMany]
      by_cases hk : k = k'
      · subst hk
        simp [hm, Table.key_of_find? hm]
      · cases hm' : m.find? k' with
        | none => simp [hk, get, hm']
        | some e' =>
            have hkey : e'.1 ≠ k := by
              rw [Table.key_of_find? hm']
              exact Ne.symm hk
            simp [hk, get, hm', hkey]

theorem mem_rows_iff {m : Assoc κ ν} {k : κ} {v : ν} : (k, v) ∈ m.rows ↔ m.get k = some v := by
  constructor
  · intro h
    rw [get, Table.find?_of_mem h, Option.map_some]
  · intro h
    obtain ⟨e, he, rfl⟩ := Option.map_eq_some_iff.1 h
    have hkey := Table.key_of_find? he
    have hmem := Table.mem_of_find? he
    rwa [← hkey]

theorem mem_values_iff {m : Assoc κ ν} {v : ν} : v ∈ m.values ↔ ∃ k, m.get k = some v := by
  simp [values, ← mem_rows_iff]

theorem mem_keys_iff {m : Assoc κ ν} {k : κ} : k ∈ m.keys ↔ m.has k = true := by
  rw [← isSome_get, Option.isSome_iff_exists]
  simp [keys, ← mem_rows_iff]

/-- One element read into the map. -/
def keepBest (key : α → κ) (better : α → α → Bool) (m : Assoc κ α) (x : α) : Assoc κ α :=
  match m.get (key x) with
  | none => m.set (key x) x
  | some y => if better x y then m.set (key x) x else m

/-- A list read into a map that holds, under each key, the best element with it. -/
def bestOf (key : α → κ) (better : α → α → Bool) (l : List α) : Assoc κ α :=
  l.foldl (keepBest key better) empty

/-- The better of what was kept and the next element. -/
def prefer (better : α → α → Bool) : Option α → α → Option α
  | none, x => some x
  | some y, x => if better x y then some x else some y

section Best

variable {key : α → κ} {better : α → α → Bool} {l : List α} {k : κ} {y : α}

theorem get_keepBest (m : Assoc κ α) (x : α) (k : κ) :
    (keepBest key better m x).get k =
      if key x = k then prefer better (m.get k) x else m.get k := by
  unfold keepBest
  cases hm : m.get (key x) with
  | none =>
      simp only [get_set]
      by_cases hk : key x = k
      · simp [← hk, hm, prefer]
      · simp [hk]
  | some y =>
      by_cases hb : better x y = true
      · simp only [hb, if_true, get_set]
        by_cases hk : key x = k
        · simp [← hk, hm, prefer, hb]
        · simp [hk]
      · by_cases hk : key x = k
        · simp [hb, ← hk, hm, prefer]
        · simp [hb, hk]

/-- Under a key the map holds the best of the elements with that key. -/
theorem get_bestOf (l : List α) (k : κ) :
    (bestOf key better l).get k = (l.filter fun x => key x = k).foldl (prefer better) none := by
  have hfold : ∀ (l : List α) (m : Assoc κ α), (l.foldl (keepBest key better) m).get k =
      (l.filter fun x => key x = k).foldl (prefer better) (m.get k) := by
    intro l
    induction l with
    | nil => intro m; rfl
    | cons x l ih =>
        intro m
        rw [List.foldl_cons, ih, get_keepBest]
        by_cases hk : key x = k <;> simp [hk]
  exact hfold l empty

/-- Choosing between elements chooses one of them. -/
theorem mem_of_foldl_prefer {o : Option α} {z : α}
    (h : l.foldl (prefer better) o = some z) : z ∈ l ∨ o = some z := by
  induction l generalizing o with
  | nil => exact .inr h
  | cons x l ih =>
      rcases ih h with hz | hz
      · exact .inl (List.mem_cons_of_mem x hz)
      · cases o with
        | none =>
            have hzx : x = z := by simpa [prefer] using hz
            exact .inl (hzx ▸ List.mem_cons_self)
        | some y =>
            by_cases hb : better x y = true
            · have hzx : x = z := by simpa [prefer, hb] using hz
              exact .inl (hzx ▸ List.mem_cons_self)
            · exact .inr (by simpa [prefer, hb] using hz)

theorem mem_of_get_bestOf (h : (bestOf key better l).get k = some y) : y ∈ l ∧ key y = k := by
  rw [get_bestOf] at h
  rcases mem_of_foldl_prefer h with hy | hy
  · simpa using List.mem_filter.1 hy
  · cases hy

theorem foldl_prefer_some (l : List α) (y : α) :
    ∃ z, l.foldl (prefer better) (some y) = some z := by
  induction l generalizing y with
  | nil => exact ⟨y, rfl⟩
  | cons x l ih =>
      by_cases hb : better x y = true
      · simpa [prefer, hb] using ih x
      · simpa [prefer, hb] using ih y

/-- Every element has somebody kept under its key. -/
theorem get_bestOf_of_mem {x : α} (hx : x ∈ l) :
    ∃ y, (bestOf key better l).get (key x) = some y := by
  rw [get_bestOf]
  have hmem : x ∈ l.filter fun z => key z = key x := by simpa using hx
  cases hl : l.filter fun z => key z = key x with
  | nil =>
      rw [hl] at hmem
      cases hmem
  | cons z zs => exact foldl_prefer_some zs z

theorem rank_foldl_prefer_le {rank : α → ℕ}
    (hlt : ∀ x y, rank x < rank y → better x y = true)
    (hle : ∀ x y, better x y = true → rank x ≤ rank y) {o : Option α} {z : α}
    (h : l.foldl (prefer better) o = some z) :
    (∀ x ∈ l, rank z ≤ rank x) ∧ ∀ y, o = some y → rank z ≤ rank y := by
  induction l generalizing o with
  | nil =>
      have hz : o = some z := h
      simp [hz]
  | cons x l ih =>
      obtain ⟨hl, ho⟩ := ih h
      cases o with
      | none =>
          have hx := ho x rfl
          simpa using ⟨hx, hl⟩
      | some y =>
          by_cases hb : better x y = true
          · have hx := ho x (by simp [prefer, hb])
            have hxy := hle x y hb
            simpa using ⟨⟨hx, hl⟩, Nat.le_trans hx hxy⟩
          · have hy := ho y (by simp [prefer, hb])
            have hxy : rank y ≤ rank x := by
              by_contra hlt'
              exact hb (hlt x y (Nat.lt_of_not_le hlt'))
            simpa using ⟨⟨Nat.le_trans hy hxy, hl⟩, hy⟩

/-- What is kept under a key has the least rank there. -/
theorem rank_bestOf_le {rank : α → ℕ} (hlt : ∀ x y, rank x < rank y → better x y = true)
    (hle : ∀ x y, better x y = true → rank x ≤ rank y)
    (h : (bestOf key better l).get k = some y) {x : α} (hx : x ∈ l) (hk : key x = k) :
    rank y ≤ rank x := by
  rw [get_bestOf] at h
  exact (rank_foldl_prefer_le hlt hle h).1 x (by simpa using ⟨hx, hk⟩)

theorem mem_values_bestOf (h : y ∈ (bestOf key better l).values) :
    y ∈ l ∧ (bestOf key better l).get (key y) = some y := by
  obtain ⟨k, hk⟩ := mem_values_iff.1 h
  obtain ⟨hmem, hkey⟩ := mem_of_get_bestOf hk
  subst hkey
  exact ⟨hmem, hk⟩

/-- The entries of the map are its values under their keys. -/
theorem keys_bestOf (l : List α) :
    (bestOf key better l).values.map key = (bestOf key better l).keys := by
  unfold values keys
  rw [List.map_map]
  apply List.map_congr_left
  intro e he
  exact (mem_of_get_bestOf (mem_rows_iff.1 he)).2

/-- The kept elements have pairwise different keys. -/
theorem nodup_values_bestOf (l : List α) : ((bestOf key better l).values.map key).Nodup := by
  rw [keys_bestOf]
  exact nodup_keys _

/-- The elements of a list, each once, in the order in which they first occur. -/
def distinct (l : List κ) : List κ :=
  (bestOf id (fun _ _ => false) l).keys

theorem nodup_distinct (l : List κ) : (distinct l).Nodup :=
  nodup_keys _

theorem mem_distinct {l : List κ} {k : κ} : k ∈ distinct l ↔ k ∈ l := by
  unfold distinct
  rw [mem_keys_iff, ← isSome_get]
  constructor
  · intro h
    obtain ⟨x, hx⟩ := Option.isSome_iff_exists.1 h
    obtain ⟨hmem, hkey⟩ := mem_of_get_bestOf hx
    exact hkey ▸ hmem
  · intro h
    have hget : ∃ y, (bestOf id (fun _ _ => false) l).get (id k) = some y := get_bestOf_of_mem h
    exact Option.isSome_iff_exists.2 hget

end Best

/-- A list read into a map of lists: the values under their keys, in order. -/
def groupBy (key : α → κ) (value : α → ν) (l : List α) : Assoc κ (List ν) :=
  l.foldl (fun m x => m.set (key x) ((m.get (key x)).getD [] ++ [value x])) empty

theorem get_groupBy (key : α → κ) (value : α → ν) (l : List α) (k : κ) :
    ((groupBy key value l).get k).getD [] = (l.filter fun x => key x = k).map value := by
  have hfold : ∀ (l : List α) (m : Assoc κ (List ν)),
      ((l.foldl (fun m x => m.set (key x) ((m.get (key x)).getD [] ++ [value x])) m).get k).getD
          [] = (m.get k).getD [] ++ (l.filter fun x => key x = k).map value := by
    intro l
    induction l with
    | nil => intro m; simp
    | cons x l ih =>
        intro m
        rw [List.foldl_cons, ih, get_set]
        by_cases hk : key x = k
        · simp [hk]
        · simp [hk]
  simpa [groupBy] using hfold l empty

end Assoc

end Store

namespace Store

namespace Assoc

variable {κ α β : Type*} [DecidableEq κ] [LinearOrder β]

section Minimum

variable {key : α → κ} {better : α → α → Bool} {rank : α → β} {l : List α} {k : κ} {y : α}

theorem foldl_prefer_eq_argmin (hbetter : ∀ x y, better x y = decide (rank x < rank y))
    (l : List α) : l.foldl (prefer better) none = l.argmin rank := by
  have hstep : prefer better = List.argAux fun x y => rank x < rank y := by
    funext o x
    cases o with
    | none => rfl
    | some y => simp [prefer, List.argAux, hbetter]
  rw [hstep]
  rfl

theorem get_bestOf_eq_argmin (hbetter : ∀ x y, better x y = decide (rank x < rank y))
    (l : List α) (k : κ) :
    (bestOf key better l).get k = (l.filter fun x => key x = k).argmin rank := by
  rw [get_bestOf, foldl_prefer_eq_argmin hbetter]

theorem mem_values_bestOf_iff (hbetter : ∀ x y, better x y = decide (rank x < rank y)) :
    y ∈ (bestOf key better l).values ↔
      (l.filter fun x => key x = key y).argmin rank = some y := by
  rw [← get_bestOf_eq_argmin hbetter]
  constructor
  · intro h
    exact (mem_values_bestOf h).2
  · intro h
    exact mem_values_iff.2 ⟨key y, h⟩

/-- What is kept has the least rank among the elements with its key. -/
theorem rank_le_of_mem_values_bestOf (hbetter : ∀ x y, better x y = decide (rank x < rank y))
    (h : y ∈ (bestOf key better l).values) {x : α} (hx : x ∈ l) (hkey : key x = key y) :
    rank y ≤ rank x :=
  List.le_of_mem_argmin (List.mem_filter.2 ⟨hx, by simpa using hkey⟩)
    ((mem_values_bestOf_iff hbetter).1 h)

/-- The keys that are kept are those of the list. -/
theorem mem_map_key_values_bestOf : k ∈ (bestOf key better l).values.map key ↔ k ∈ l.map key := by
  constructor
  · intro h
    obtain ⟨y, hy, rfl⟩ := List.mem_map.1 h
    exact List.mem_map_of_mem (mem_values_bestOf hy).1
  · intro h
    obtain ⟨x, hx, rfl⟩ := List.mem_map.1 h
    obtain ⟨y, hy⟩ : ∃ y, (bestOf key better l).get (key x) = some y := get_bestOf_of_mem hx
    exact List.mem_map.2 ⟨y, mem_values_iff.2 ⟨key x, hy⟩, (mem_of_get_bestOf hy).2⟩

end Minimum

end Assoc

end Store
