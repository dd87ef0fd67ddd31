import Mathlib.Data.Option.Basic

/-!
# Foreign keys and cascading deletes

Rows have keys and cite the keys of others. A key that a row cannot do without takes the row with it
when it is deleted; a key that it can do without is taken out of the row. So what a delete takes is
the least set with the deleted row that is closed under the keys that rows cannot do without, and
after it every key that is cited is there.
-/

namespace Store

/-- How rows cite each other; `release` takes the keys that are gone out of a row. -/
structure ForeignKeys (ν κ : Type*) where
  key : ν → Option κ
  cascading : ν → List κ
  nullable : ν → List κ
  release : (κ → Bool) → ν → ν
  key_release : ∀ gone r, key (release gone r) = key r
  cascading_release : ∀ gone r, cascading (release gone r) = cascading r
  nullable_release : ∀ gone r, nullable (release gone r) = (nullable r).filter fun k => !gone k

namespace ForeignKeys

variable {ν κ : Type*} (F : ForeignKeys ν κ) {rows rows' : ν → Prop} {k₀ k : κ} {r : ν}

/-- Every key that is cited is there. -/
def Intact (rows : ν → Prop) : Prop :=
  ∀ r, rows r → ∀ k ∈ F.cascading r ++ F.nullable r, ∃ p, rows p ∧ F.key p = some k

/-- What the delete of the row with the key takes. -/
inductive Goes (rows : ν → Prop) (k₀ : κ) : ν → Prop where
  | root {r : ν} (hr : rows r) (hkey : F.key r = some k₀) : Goes rows k₀ r
  | child {r p : ν} {k : κ} (hr : rows r) (hcites : k ∈ F.cascading r) (hp : Goes rows k₀ p)
      (hkey : F.key p = some k) : Goes rows k₀ r

/-- The key of a row that goes. -/
def KeyGoes (rows : ν → Prop) (k₀ k : κ) : Prop :=
  ∃ p, F.Goes rows k₀ p ∧ F.key p = some k

/-- The rows after the delete of the row with the key. -/
structure Deletes (k₀ : κ) (gone : κ → Bool) (rows rows' : ν → Prop) : Prop where
  gone_iff : ∀ k, gone k = true ↔ F.KeyGoes rows k₀ k
  exact : ∀ r, rows' r ↔ ∃ r₀, rows r₀ ∧ ¬ F.Goes rows k₀ r₀ ∧ r = F.release gone r₀

variable {F}

theorem Goes.row (h : F.Goes rows k₀ r) : rows r := by
  cases h with
  | root hr _ => exact hr
  | child hr _ _ _ => exact hr

/-- A set with the row that is closed under citing holds what goes. -/
theorem Goes.of_closed {P : ν → Prop}
    (hroot : ∀ r, rows r → F.key r = some k₀ → P r)
    (hchild : ∀ r p k, rows r → k ∈ F.cascading r → rows p → P p → F.key p = some k → P r)
    (h : F.Goes rows k₀ r) : P r := by
  induction h with
  | root hr hkey => exact hroot _ hr hkey
  | child hr hcites hp hkey ih => exact hchild _ _ _ hr hcites hp.row ih hkey

section Deletes

variable {gone : κ → Bool}

/-- The key of the deleted row is gone for good, and so are those of the rows that went with it. -/
theorem Deletes.key_ne (h : F.Deletes k₀ gone rows rows')
    (hunique : ∀ p p' k, rows p → rows p' → F.key p = some k → F.key p' = some k → p = p')
    (hr : rows' r) (hkey : F.key r = some k) : gone k = false := by
  obtain ⟨r₀, hr₀, hstays, rfl⟩ := (h.exact r).1 hr
  refine Bool.eq_false_iff.2 fun hgone => hstays ?_
  obtain ⟨p, hp, hkey'⟩ := (h.gone_iff k).1 hgone
  rw [F.key_release] at hkey
  exact hunique r₀ p k hr₀ hp.row hkey hkey' ▸ hp

/-- A row that stays cites none of the keys that go. -/
theorem Deletes.not_cites (h : F.Deletes k₀ gone rows rows') (hr : rows' r)
    (hk : k ∈ F.cascading r ++ F.nullable r) : gone k = false := by
  obtain ⟨r₀, hr₀, hstays, rfl⟩ := (h.exact r).1 hr
  rw [F.cascading_release, F.nullable_release] at hk
  rcases List.mem_append.1 hk with hcites | hnull
  · refine Bool.eq_false_iff.2 fun hgone => hstays ?_
    obtain ⟨p, hp, hkey⟩ := (h.gone_iff k).1 hgone
    exact .child hr₀ hcites hp hkey
  · exact (Bool.not_eq_eq_eq_not.1 (List.mem_filter.1 hnull).2)

/-- A delete leaves no key cited that is not there. -/
theorem Deletes.intact (h : F.Deletes k₀ gone rows rows') (hintact : F.Intact rows) :
    F.Intact rows' := by
  intro r hr k hk
  have hstays := h.not_cites hr hk
  obtain ⟨r₀, hr₀, -, rfl⟩ := (h.exact r).1 hr
  have hk₀ : k ∈ F.cascading r₀ ++ F.nullable r₀ := by
    rw [F.cascading_release, F.nullable_release] at hk
    rcases List.mem_append.1 hk with hcites | hnull
    · exact List.mem_append_left _ hcites
    · exact List.mem_append_right _ (List.mem_filter.1 hnull).1
  obtain ⟨p, hp, hkey⟩ := hintact r₀ hr₀ k hk₀
  refine ⟨F.release gone p, (h.exact _).2 ⟨p, hp, fun hgoes => ?_, rfl⟩, ?_⟩
  · exact Bool.false_ne_true (hstays.symm.trans ((h.gone_iff k).2 ⟨p, hgoes, hkey⟩))
  · rw [F.key_release, hkey]

end Deletes

end ForeignKeys

end Store
