import FifiAlert.Concurrency.Interleaving

/-!
# Processes that do not tell states apart

An equivalence of states says what a process cannot see. A process is indifferent to it from a state
on when each of its calls answers alike in all states that look like the one it would find alone.
Then whatever the others do within the equivalence, in between its calls, does not show in its
answer: it is the answer of the run alone.
-/

namespace Concurrency

universe u

namespace Process

variable {σ ℓ ε : Type*} {α β : Type u} {R : σ → σ → Prop} {s s' : σ}

/-- From the state on, each call answers alike and goes on alike in states that look alike. -/
def Indifferent (R : σ → σ → Prop) : Process σ ℓ ε α → σ → Prop
  | ret _, _ => True
  | raise _, _ => True
  | call _ next rest _, s =>
      (∀ s', R s s' → rest s' = rest s ∧ R (next s) (next s')) ∧
        (rest s).Indifferent R (next s)

/-- Only the calls count, not what is made of the answer. -/
theorem Indifferent.map {p : Process σ ℓ ε α} (f : α → β) (hp : p.Indifferent R s) :
    (f <$> p).Indifferent R s := by
  induction p generalizing s with
  | ret a => trivial
  | raise e => trivial
  | call l next rest fault ihr ihf =>
      obtain ⟨hcall, hrest⟩ := hp
      refine ⟨fun s' hs => ?_, ihr s hrest⟩
      exact ⟨congrArg (f <$> ·) (hcall s' hs).1, (hcall s' hs).2⟩

/-- A read after which the process goes on alike in states that look alike. -/
theorem indifferent_query_bind {l : ℓ} {err : ε} {g : σ → α} {k : α → Process σ ℓ ε β}
    (hg : ∀ s', R s s' → k (g s') = k (g s)) (hk : (k (g s)).Indifferent R s) :
    (query l err g >>= k).Indifferent R s :=
  ⟨fun s' hs => ⟨hg s' hs, hs⟩, hk⟩

/-- To be indifferent is a matter of how the state looks. -/
theorem Indifferent.of_related (hR : Equivalence R) {p : Process σ ℓ ε α}
    (hp : p.Indifferent R s) (hs : R s s') : p.Indifferent R s' := by
  induction p generalizing s s' with
  | ret a => trivial
  | raise e => trivial
  | call l next rest fault ihr ihf =>
      obtain ⟨hcall, hrest⟩ := hp
      obtain ⟨heq, hnext⟩ := hcall s' hs
      refine ⟨fun s'' hs' => ?_, ?_⟩
      · obtain ⟨heq', hnext'⟩ := hcall s'' (hR.trans hs hs')
        exact ⟨heq'.trans heq.symm, hR.trans (hR.symm hnext) hnext'⟩
      · have hrest' : (rest s').Indifferent R (next s) := heq ▸ hrest
        exact ihr s' hrest' hnext

/-- Runs from states that look alike answer alike. -/
theorem Indifferent.run_eq {p : Process σ ℓ ε α} (hp : p.Indifferent R s) (hs : R s s') :
    (p.run s').1 = (p.run s).1 := by
  induction p generalizing s s' with
  | ret a => rfl
  | raise e => rfl
  | call l next rest fault ihr ihf =>
      obtain ⟨hcall, hrest⟩ := hp
      obtain ⟨heq, hnext⟩ := hcall s' hs
      rw [run_call, run_call, heq]
      exact ihr s hrest hnext

end Process

variable {ι σ ℓ ε μ : Type*} {α : Type u} [DecidableEq ι] {S : Setting ι σ ℓ μ}
  {R : σ → σ → Prop} {c c' : Config ι σ ℓ ε α μ} {i : ι}

/-- What an indifferent thread would answer if it ran alone from here on never changes, while the
others keep within the equivalence. -/
theorem Reaches.run_eq (hR : Equivalence R) {P : ι → ℓ → (σ → σ) → Prop} {T : ι → ε → Prop}
    (hp : (c.pool i).Indifferent R c.state)
    (hothers : ∀ j, j ≠ i → (c.pool j).Confined (P j) (T j))
    (hkeep : ∀ j l next w, j ≠ i → P j l next → S.admits j l w → R w.state (next w.state))
    (henv : ∀ s s', S.env s s' → R s s') (hfail : ∀ l, ¬ S.mayFail l) (h : Reaches S c c') :
    ((c'.pool i).run c'.state).1 = ((c.pool i).run c.state).1 := by
  let J : Config ι σ ℓ ε α μ → Prop := fun d => (d.pool i).Indifferent R d.state ∧
    (∀ j, j ≠ i → (d.pool j).Confined (P j) (T j)) ∧
      ((d.pool i).run d.state).1 = ((c.pool i).run c.state).1
  refine (h.invariant (P := J) ?_ ⟨hp, hothers, rfl⟩).2.2
  rintro d d' ⟨hi, hj, heq⟩ hs
  cases hs with
  | @call k l next rest fault hpool hadm =>
      by_cases hk : k = i
      · subst hk
        rw [hpool] at hi heq
        refine ⟨?_, fun j hne => ?_, ?_⟩
        · simpa using hi.2
        · simpa [hne] using hj j hne
        · simpa using heq
      · have hconf := hj k hk
        rw [hpool] at hconf
        have hsame := hkeep k l next d.toSnapshot hk hconf.1 hadm
        refine ⟨?_, fun j hne => ?_, ?_⟩
        · simpa [Ne.symm hk] using hi.of_related hR hsame
        · by_cases hjk : j = k
          · subst hjk
            simpa using hconf.2.1 d.state
          · simpa [hjk] using hj j hne
        · simpa [Ne.symm hk] using (hi.run_eq hsame).trans heq
  | fault k hpool hmay => exact absurd hmay (hfail _)
  | env he =>
      exact ⟨hi.of_related hR (henv _ _ he), hj, (hi.run_eq (henv _ _ he)).trans heq⟩

/-- The answer of an indifferent thread is that of its run alone. -/
theorem Reaches.answer_eq (hR : Equivalence R) {P : ι → ℓ → (σ → σ) → Prop} {T : ι → ε → Prop}
    (hp : (c.pool i).Indifferent R c.state)
    (hothers : ∀ j, j ≠ i → (c.pool j).Confined (P j) (T j))
    (hkeep : ∀ j l next w, j ≠ i → P j l next → S.admits j l w → R w.state (next w.state))
    (henv : ∀ s s', S.env s s' → R s s') (hfail : ∀ l, ¬ S.mayFail l) (h : Reaches S c c')
    {r : Except ε α} (hend : (c'.pool i).result? = some r) :
    ((c.pool i).run c.state).1 = r := by
  rw [← h.run_eq hR hp hothers hkeep henv hfail]
  cases hpool : c'.pool i with
  | ret a =>
      rw [hpool] at hend
      exact Option.some.inj hend
  | raise e =>
      rw [hpool] at hend
      exact Option.some.inj hend
  | call l next rest fault =>
      rw [hpool] at hend
      cases hend

end Concurrency
