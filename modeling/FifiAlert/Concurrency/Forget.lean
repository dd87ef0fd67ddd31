import FifiAlert.Concurrency.Since

/-!
# Forgetting marks

The history of a run can be kept in more detail than a protocol needs. `Snapshot.forget` drops
what a coarser history does not have. A run with the finer history is a run with the coarser one
(`Reaches.forget`), and what a thread may rely on under the coarser protocol it may rely on under
every protocol that asks at least as much (`Lasting.forget`).
-/

namespace Concurrency

universe u

variable {ι σ ℓ ε μ μ' : Type*} {α : Type u} {coarse : μ' → Option μ} {S : Setting ι σ ℓ μ}
  {S' : Setting ι σ ℓ μ'}

/-- The snapshot with the coarser history. -/
def Snapshot.forget (coarse : μ' → Option μ) (s : Snapshot σ μ') : Snapshot σ μ where
  state := s.state
  marks := s.marks.filterMap coarse

/-- Nothing happens in `S'` that does not happen in `S`, and its history is the finer one. -/
structure Setting.Refines (coarse : μ' → Option μ) (S' : Setting ι σ ℓ μ')
    (S : Setting ι σ ℓ μ) : Prop where
  mark : ∀ i l w, (S'.mark i l w).bind coarse = S.mark i l w
  env : ∀ w w', S'.env w w' → S.env w w'
  mayFail : ∀ l, S'.mayFail l → S.mayFail l
  admits : ∀ i l s, S'.admits i l s → S.admits i l (s.forget coarse)

theorem Setting.Refines.after (h : S'.Refines coarse S) (s : Snapshot σ μ') (i : ι) (l : ℓ)
    (next : σ → σ) :
    (s.after S'.mark i l next).forget coarse = (s.forget coarse).after S.mark i l next := by
  unfold Snapshot.forget Snapshot.after
  rw [← h.mark, List.filterMap_append]
  cases S'.mark i l s.state with
  | none => rfl
  | some m => cases hm : coarse m <;> simp [hm]

section Run

variable [DecidableEq ι]

/-- The configuration with the coarser history. -/
def Config.forget (coarse : μ' → Option μ) (c : Config ι σ ℓ ε α μ') : Config ι σ ℓ ε α μ where
  toSnapshot := c.toSnapshot.forget coarse
  pool := c.pool

theorem Step.forget (h : S'.Refines coarse S) {c c' : Config ι σ ℓ ε α μ'} (hs : Step S' c c') :
    Step S (c.forget coarse) (c'.forget coarse) := by
  cases hs with
  | @call i l next rest fault hp hadm =>
      have hcall := Step.call (c := c.forget coarse) i hp (h.admits i l _ hadm)
      rw [show (c.forget coarse).toSnapshot = c.toSnapshot.forget coarse from rfl,
        ← h.after] at hcall
      exact hcall
  | fault i hp hfail => exact .fault i hp (h.mayFail _ hfail)
  | env he => exact .env (h.env _ _ he)

theorem Reaches.forget (h : S'.Refines coarse S) {c c' : Config ι σ ℓ ε α μ'}
    (hr : Reaches S' c c') : Reaches S (c.forget coarse) (c'.forget coarse) := by
  induction hr with
  | refl => exact .refl
  | tail _ hs ih => exact ih.tail (hs.forget h)

end Run

/-- What a thread may rely on under the coarser protocol. -/
theorem Protocol.Lasting.forget {P : Protocol S} {P' : Protocol S'} (h : S'.Refines coarse S)
    (heffect : P'.effect = P.effect) (hinv : ∀ s, P'.inv s → P.inv (s.forget coarse))
    (hpermits : ∀ i l s, P'.permits i l s → P.permits i l (s.forget coarse)) {i : ι}
    {asks : μ → Bool} {J : Snapshot σ μ → Prop} (hJ : P.Lasting i asks J) :
    P'.Lasting i (fun m => (coarse m).any asks) fun s => J (s.forget coarse) where
  call := by
    intro j l s hs hper hadm hask hJs
    rw [h.after, heffect]
    refine hJ.call j l _ (hinv s hs) (hpermits j l s hper) (h.admits j l s hadm) ?_ hJs
    intro m hm
    rw [← h.mark] at hm
    obtain ⟨m', hm', hcoarse⟩ := Option.bind_eq_some_iff.1 hm
    simpa [hcoarse] using hask m' hm'
  env := fun w w' m hs he => hJ.env w w' _ (hinv _ hs) (h.env w w' he)
  own := by
    intro j l w m hm hask
    rw [Option.any_eq_true] at hask
    obtain ⟨m', hcoarse, hask'⟩ := hask
    refine hJ.own j l w m' ?_ hask'
    rw [← h.mark, hm, Option.bind_some, hcoarse]

end Concurrency
