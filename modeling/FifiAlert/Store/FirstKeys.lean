import Mathlib.Data.List.Pairwise

/-!
# The keys of a sorted list

`newKeys key seen l` lists the keys of `l` that are not among `seen`, each once, where it first
occurs. In a list that a relation sorts, the first element with a property is the best one with it.
So the keys come in the order of their best elements.
-/

namespace Store

variable {α κ : Type*}

/-- The element has the property, and comes before all others with it. -/
structure IsBest (r : α → α → Prop) (l : List α) (p : α → Prop) (x : α) : Prop where
  mem : x ∈ l
  holds : p x
  first : ∀ y ∈ l, p y → y = x ∨ r x y

theorem IsBest.congr {r : α → α → Prop} {l l' : List α} {p p' : α → Prop} {x : α}
    (hmem : ∀ y, y ∈ l ↔ y ∈ l') (hp : ∀ y, p y ↔ p' y) (h : IsBest r l p x) :
    IsBest r l' p' x where
  mem := (hmem x).1 h.mem
  holds := (hp x).1 h.holds
  first := fun y hy hpy => h.first y ((hmem y).2 hy) ((hp y).2 hpy)

theorem isBest_of_find? {r : α → α → Prop} {l : List α} (hl : l.Pairwise r) {p : α → Bool} {x : α}
    (h : l.find? p = some x) : IsBest r l (fun y => p y = true) x := by
  obtain ⟨hx, before, after, rfl, hbefore⟩ := List.find?_eq_some_iff_append.1 h
  refine ⟨by simp, hx, fun y hy hpy => ?_⟩
  rcases List.mem_append.1 hy with hy | hy
  · exact absurd hpy (by simpa using hbefore y hy)
  · rcases List.mem_cons.1 hy with rfl | hy
    · exact .inl rfl
    · exact .inr (List.rel_of_pairwise_cons (List.pairwise_append.1 hl).2.1 hy)

variable [DecidableEq κ] (key : α → κ)

/-- The keys that were not seen before, each where it first occurs. -/
def newKeys : List κ → List α → List κ
  | _, [] => []
  | seen, x :: xs =>
    if key x ∈ seen then newKeys seen xs else key x :: newKeys (key x :: seen) xs

variable {key}

theorem mem_newKeys {k : κ} {l : List α} :
    ∀ {seen : List κ}, k ∈ newKeys key seen l ↔ k ∉ seen ∧ ∃ x ∈ l, key x = k := by
  induction l with
  | nil => simp [newKeys]
  | cons x xs ih =>
      intro seen
      rw [newKeys]
      by_cases hseen : key x ∈ seen
      · rw [if_pos hseen, ih]
        refine and_congr_right fun hk => ?_
        have hne : key x ≠ k := fun h => hk (h ▸ hseen)
        simp [hne]
      · rw [if_neg hseen, List.mem_cons, ih]
        by_cases hk : k = key x
        · subst hk
          simp [hseen]
        · have hne : key x ≠ k := Ne.symm hk
          simp [hk, hne]

theorem nodup_newKeys {l : List α} : ∀ seen : List κ, (newKeys key seen l).Nodup := by
  induction l with
  | nil => exact fun _ => List.nodup_nil
  | cons x xs ih =>
      intro seen
      rw [newKeys]
      split
      · exact ih seen
      · exact List.nodup_cons.2 ⟨fun h => (mem_newKeys.1 h).1 (List.mem_cons_self ..), ih _⟩

/-- A search among the new keys is a search among the elements, when no seen key is wanted. -/
theorem find?_newKeys {p : κ → Bool} {l : List α} :
    ∀ {seen : List κ}, (∀ k ∈ seen, p k = false) →
      (newKeys key seen l).find? p = (l.find? fun x => p (key x)).map key := by
  induction l with
  | nil => intro seen _; rfl
  | cons x xs ih =>
      intro seen hseen
      rw [newKeys]
      by_cases hx : key x ∈ seen
      · rw [if_pos hx, ih hseen, List.find?_cons, hseen _ hx]
      · rw [if_neg hx, List.find?_cons, List.find?_cons]
        cases hp : p (key x) with
        | true => rfl
        | false => exact ih (List.forall_mem_cons.2 ⟨hp, hseen⟩)

/-- Of two new keys the earlier one occurs first in the list. -/
theorem pairwise_newKeys {r : α → α → Prop} {l : List α} (hl : l.Pairwise r) :
    ∀ seen : List κ, (newKeys key seen l).Pairwise fun k k' =>
      ∃ x x', l.find? (fun y => key y = k) = some x ∧ l.find? (fun y => key y = k') = some x' ∧
        r x x' := by
  induction l with
  | nil => exact fun _ => .nil
  | cons x xs ih =>
      have hfind : ∀ {k : κ}, k ≠ key x →
          (x :: xs).find? (fun y => key y = k) = xs.find? fun y => key y = k := by
        intro k hk
        rw [List.find?_cons, decide_eq_false (Ne.symm hk)]
      have hxs := List.pairwise_cons.1 hl
      have hrest : ∀ seen : List κ, (∀ k ∈ newKeys key seen xs, k ≠ key x) →
          (newKeys key seen xs).Pairwise fun k k' =>
            ∃ y y', (x :: xs).find? (fun z => key z = k) = some y ∧
              (x :: xs).find? (fun z => key z = k') = some y' ∧ r y y' := by
        intro seen hne
        refine (ih hxs.2 seen).imp_of_mem fun {k k'} hk hk' h => ?_
        rwa [hfind (hne k hk), hfind (hne k' hk')]
      intro seen
      rw [newKeys]
      split
      · rename_i hseen
        exact hrest seen fun k hk => fun h => (mem_newKeys.1 hk).1 (h ▸ hseen)
      · have hne : ∀ k ∈ newKeys key (key x :: seen) xs, k ≠ key x :=
          fun k hk h => (mem_newKeys.1 hk).1 (h ▸ List.mem_cons_self ..)
        refine List.pairwise_cons.2 ⟨fun k hk => ?_, hrest _ hne⟩
        obtain ⟨y, hy, hkey⟩ := (mem_newKeys.1 hk).2
        have hsome : (xs.find? fun z => key z = k).isSome = true :=
          List.find?_isSome.2 ⟨y, hy, by simpa using hkey⟩
        obtain ⟨x', hx'⟩ := Option.isSome_iff_exists.1 hsome
        refine ⟨x, x', by simp, by rwa [hfind (hne k hk)], ?_⟩
        exact hxs.1 x' (List.mem_of_find?_eq_some hx')

end Store
