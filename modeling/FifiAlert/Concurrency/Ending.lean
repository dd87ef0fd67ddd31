import FifiAlert.Concurrency.Interleaving
import Mathlib.Data.Fintype.EquivFin

/-!
# Runs to the end

A process makes finitely many calls. So when every call is admitted, a pool of finitely many
processes can be run until each of them has ended, and one that has ended stays as it is.

What the calls of a process add up to: `step` reads the calls of one process, one after the other; a
call that fails does not count. A process is tracked when what it has read at the end, with the way
in which the process ended, is as demanded, whatever the calls answered. It follows the process,
without its state.
-/

namespace Concurrency

variable {ι σ ℓ ε α μ : Type*} [DecidableEq ι] {S : Setting ι σ ℓ μ}

/-- Every process of the pool has returned or raised. -/
def Config.Ended (c : Config ι σ ℓ ε α μ) : Prop :=
  ∀ i, (c.pool i).result?.isSome = true

theorem Reaches.pool_of_ended {c c' : Config ι σ ℓ ε α μ} (h : Reaches S c c') {i : ι}
    (hi : (c.pool i).result?.isSome = true) : c'.pool i = c.pool i := by
  refine h.invariant (P := fun d => d.pool i = c.pool i) ?_ rfl
  intro d d' hd hs
  have hne : ∀ {j l next rest fault}, d.pool j = .call l next rest fault → i ≠ j := by
    rintro j l next rest fault hcall rfl
    rw [← hd, hcall] at hi
    cases hi
  cases hs with
  | call j hpool hadm => exact (Function.update_of_ne (hne hpool) _ _).trans hd
  | fault j hpool hfail => exact (Function.update_of_ne (hne hpool) _ _).trans hd
  | env henv => exact hd

/-- One process can be run to its end. -/
theorem Reaches.exists_ended_thread (hadm : ∀ i l w, S.admits i l w) {i : ι}
    {p : Process σ ℓ ε α} :
    ∀ {c : Config ι σ ℓ ε α μ}, c.pool i = p →
      ∃ c', Reaches S c c' ∧ (c'.pool i).result?.isSome = true := by
  induction p with
  | ret a => exact fun {c} hp => ⟨c, .refl, by rw [hp]; rfl⟩
  | raise e => exact fun {c} hp => ⟨c, .refl, by rw [hp]; rfl⟩
  | call l next rest fault ih _ =>
      intro c hp
      have hstep := Step.call (S := S) i hp (hadm i l _)
      obtain ⟨c', hreach, hended⟩ := ih c.state
        (c := { c.toSnapshot.after S.mark i l next with
          pool := Function.update c.pool i (rest c.state) }) (Function.update_self ..)
      exact ⟨c', .head hstep hreach, hended⟩

/-- All of them can. -/
theorem Reaches.exists_ended [Finite ι] (hadm : ∀ i l w, S.admits i l w)
    (c : Config ι σ ℓ ε α μ) : ∃ c', Reaches S c c' ∧ c'.Ended := by
  have hlist : ∀ (is : List ι) (c : Config ι σ ℓ ε α μ),
      ∃ c', Reaches S c c' ∧ ∀ i ∈ is, (c'.pool i).result?.isSome = true := by
    intro is
    induction is with
    | nil => exact fun c => ⟨c, .refl, by simp⟩
    | cons i is ih =>
        intro c
        obtain ⟨c₁, hc₁, hi⟩ := Reaches.exists_ended_thread hadm (c := c) (i := i) rfl
        obtain ⟨c₂, hc₂, his⟩ := ih c₁
        refine ⟨c₂, hc₁.trans hc₂, List.forall_mem_cons.2 ⟨?_, his⟩⟩
        rwa [hc₂.pool_of_ended hi]
  cases nonempty_fintype ι
  obtain ⟨c', hreach, hended⟩ := hlist Finset.univ.toList c
  exact ⟨c', hreach, fun i => hended i (by simp)⟩

end Concurrency

namespace Concurrency

universe u

variable {σ τ ℓ ℓ' ε φ : Type*} {α β : Type u} {step : φ → ℓ → φ} {fails : ℓ → Prop}

/-- From what has been read so far, the process ends as demanded. -/
def Process.Tracks (step : φ → ℓ → φ) (fails : ℓ → Prop) (Q : φ → Except ε α → Prop) :
    φ → Process σ ℓ ε α → Prop
  | x, .ret a => Q x (.ok a)
  | x, .raise e => Q x (.error e)
  | x, .call l _ rest fault =>
      (∀ s, (rest s).Tracks step fails Q (step x l)) ∧ (fails l → fault.Tracks step fails Q x)

namespace Process

section Rules

variable {Q : φ → Except ε β → Prop} {x : φ}

/-- When the rest is as demanded from wherever it starts, nothing is asked of the first part. -/
theorem tracks_bind (hk : ∀ a x, (k a : Process σ ℓ ε β).Tracks step fails Q x)
    (herr : ∀ x e, Q x (.error e)) (p : Process σ ℓ ε α) :
    (p >>= k).Tracks step fails Q x := by
  induction p generalizing x with
  | ret a => exact hk a x
  | raise e => exact herr x e
  | call l next rest fault ihr ihf => exact ⟨fun s => ihr s, fun _ => ihf⟩

theorem Tracks.map {Q' : φ → Except ε α → Prop} {p : Process σ ℓ ε α} {f : α → β}
    (hQ : ∀ x r, Q' x r → Q x (r.map f)) (hp : p.Tracks step fails Q' x) :
    (f <$> p).Tracks step fails Q x := by
  induction p generalizing x with
  | ret a => exact hQ x _ hp
  | raise e => exact hQ x _ hp
  | call l next rest fault ihr ihf =>
      exact ⟨fun s => ihr s (hp.1 s), fun hfail => ihf (hp.2 hfail)⟩

theorem Tracks.relabel {f : ℓ' → ℓ} {p : Process σ ℓ' ε β}
    (hp : p.Tracks (fun x l => step x (f l)) (fun l => fails (f l)) Q x) :
    (p.relabel f).Tracks step fails Q x := by
  induction p generalizing x with
  | ret a => exact hp
  | raise e => exact hp
  | call l next rest fault ihr ihf =>
      exact ⟨fun s => ihr s (hp.1 s), fun hfail => ihf (hp.2 hfail)⟩

theorem Tracks.extend {view : τ → σ} {lift : ℓ → (σ → σ) → τ → τ} {p : Process σ ℓ ε β}
    (hp : p.Tracks step fails Q x) : (p.extend view lift).Tracks step fails Q x := by
  induction p generalizing x with
  | ret a => exact hp
  | raise e => exact hp
  | call l next rest fault ihr ihf =>
      exact ⟨fun t => ihr (view t) (hp.1 (view t)), fun hfail => ihf (hp.2 hfail)⟩

end Rules

end Process

variable {ι μ : Type*} [DecidableEq ι] {S : Setting ι σ ℓ μ} {Q : φ → Except ε α → Prop}
  {K : φ → Snapshot σ μ → Prop} {i : ι} {c c' : Config ι σ ℓ ε α μ}

/-- What a thread has read of its own calls is a fact of every moment of a run, when its calls
establish it and nothing else disturbs it. -/
theorem Reaches.tracks {x : φ} (hown : ∀ x l s next, K x s → K (step x l) (s.after S.mark i l next))
    (hothers : ∀ x j l s next, j ≠ i → K x s → K x (s.after S.mark j l next))
    (henv : ∀ x s s' m, S.env s s' → K x ⟨s, m⟩ → K x ⟨s', m⟩)
    (hp : (c.pool i).Tracks step S.mayFail Q x) (hx : K x c.toSnapshot) (h : Reaches S c c') :
    ∃ x', (c'.pool i).Tracks step S.mayFail Q x' ∧ K x' c'.toSnapshot := by
  refine h.invariant (P := fun d => ∃ x', (d.pool i).Tracks step S.mayFail Q x' ∧
    K x' d.toSnapshot) ?_ ⟨x, hp, hx⟩
  rintro d d' ⟨x', htracks, hK⟩ hs
  cases hs with
  | @call j l next rest fault hpool hadm =>
      by_cases hji : j = i
      · subst hji
        rw [hpool] at htracks
        refine ⟨step x' l, ?_, hown x' l _ next hK⟩
        simpa using htracks.1 d.state
      · refine ⟨x', ?_, hothers x' j l _ next hji hK⟩
        simpa [Ne.symm hji] using htracks
  | @fault j l next rest fault hpool hfail =>
      by_cases hji : j = i
      · subst hji
        rw [hpool] at htracks
        refine ⟨x', ?_, hK⟩
        simpa using htracks.2 hfail
      · refine ⟨x', ?_, hK⟩
        simpa [Ne.symm hji] using htracks
  | env he => exact ⟨x', htracks, henv x' _ _ _ he hK⟩

end Concurrency
