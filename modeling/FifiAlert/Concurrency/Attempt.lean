import FifiAlert.Concurrency.Process
import Mathlib.Data.Nat.Notation
import Mathlib.Logic.Relation

/-!
# Attempts at a process

An attempt may stop anywhere: because a call failed, or because whoever runs the
process died. The calls made by then have taken effect. While an attempt is under
way the environment may change the state.
-/

namespace Concurrency.Process

universe u

variable {σ ℓ ε : Type*} {α β : Type u} {env : σ → σ → Prop}

/-- An attempt at the process, begun in the first state, has stopped and left the second. -/
inductive Attempted (env : σ → σ → Prop) : Process σ ℓ ε α → σ → σ → Prop where
  | stop (p : Process σ ℓ ε α) (s : σ) : Attempted env p s s
  | call {l : ℓ} {next : σ → σ} {rest : σ → Process σ ℓ ε α} {fault : Process σ ℓ ε α} {s s' : σ}
      (h : Attempted env (rest s) (next s) s') : Attempted env (.call l next rest fault) s s'
  | fault {l : ℓ} {next : σ → σ} {rest : σ → Process σ ℓ ε α} {fault : Process σ ℓ ε α} {s s' : σ}
      (h : Attempted env fault s s') : Attempted env (.call l next rest fault) s s'
  | env {p : Process σ ℓ ε α} {s s₁ s' : σ} (he : env s s₁) (h : Attempted env p s₁ s') :
      Attempted env p s s'

/-- An attempt at a process that makes no call leaves what the environment does. -/
theorem Attempted.of_ret {a : α} {s s' : σ}
    (h : Attempted env (ret a : Process σ ℓ ε α) s s') : Relation.ReflTransGen env s s' := by
  generalize hp : (ret a : Process σ ℓ ε α) = p at h
  induction h with
  | stop p s => exact .refl
  | call _ _ => cases hp
  | fault _ _ => cases hp
  | env he _ ih => exact .head he (ih hp)

theorem Attempted.of_raise {e : ε} {s s' : σ}
    (h : Attempted env (raise e : Process σ ℓ ε α) s s') : Relation.ReflTransGen env s s' := by
  generalize hp : (raise e : Process σ ℓ ε α) = p at h
  induction h with
  | stop p s => exact .refl
  | call _ _ => cases hp
  | fault _ _ => cases hp
  | env he _ ih => exact .head he (ih hp)

/-- An attempt stops before the first call, or makes it, or the call fails. -/
theorem Attempted.of_call {l : ℓ} {next : σ → σ} {rest : σ → Process σ ℓ ε α}
    {fault : Process σ ℓ ε α} {s s' : σ} (h : Attempted env (.call l next rest fault) s s') :
    ∃ s₀, Relation.ReflTransGen env s s₀ ∧
      (s' = s₀ ∨ Attempted env (rest s₀) (next s₀) s' ∨ Attempted env fault s₀ s') := by
  generalize hp : Process.call l next rest fault = p at h
  induction h with
  | stop p s => exact ⟨s, .refl, .inl rfl⟩
  | call h _ =>
      cases hp
      exact ⟨_, .refl, .inr (.inl h)⟩
  | fault h _ =>
      cases hp
      exact ⟨_, .refl, .inr (.inr h)⟩
  | env he _ ih =>
      obtain ⟨s₀, hs, hcases⟩ := ih hp
      exact ⟨s₀, .head he hs, hcases⟩

/-- An attempt stops before a call that answers, or goes on with the answer. -/
theorem Attempted.of_modify_bind {l : ℓ} {err : ε} {f : σ → σ} {g : σ → α}
    {k : α → Process σ ℓ ε β} {s s' : σ}
    (h : Attempted env (modify l err f g >>= k) s s') :
    ∃ s₀, Relation.ReflTransGen env s s₀ ∧ (s' = s₀ ∨ Attempted env (k (g s₀)) (f s₀) s') := by
  obtain ⟨s₀, hs, hstop | hcall | hfault⟩ := h.of_call
  · exact ⟨s₀, hs, .inl hstop⟩
  · exact ⟨s₀, hs, .inr hcall⟩
  · exact ⟨s', hs.trans hfault.of_raise, .inl rfl⟩

theorem Attempted.of_query_bind {l : ℓ} {err : ε} {g : σ → α}
    {k : α → Process σ ℓ ε β} {s s' : σ} (h : Attempted env (query l err g >>= k) s s') :
    ∃ s₀, Relation.ReflTransGen env s s₀ ∧ (s' = s₀ ∨ Attempted env (k (g s₀)) s₀ s') :=
  Attempted.of_modify_bind (f := id) h

/-- What every call and the environment keep, an attempt keeps, wherever it stops. -/
theorem Confined.attempted_kept {r : σ → σ → Prop} {R : ε → Prop} (hrefl : ∀ s, r s s)
    (htrans : ∀ s₁ s₂ s₃, r s₁ s₂ → r s₂ s₃ → r s₁ s₃) (henv : ∀ s s', env s s' → r s s')
    {p : Process σ ℓ ε α} (hp : p.Confined (fun _ f => ∀ s, r s (f s)) R) {s s' : σ}
    (h : Attempted env p s s') : r s s' := by
  induction h with
  | stop p s => exact hrefl s
  | call _ ih =>
      obtain ⟨hl, hrest, -⟩ := hp
      exact htrans _ _ _ (hl _) (ih (hrest _))
  | fault _ ih => exact ih hp.2.2
  | env he _ ih => exact htrans _ _ _ (henv _ _ he) (ih hp)

/-- The state after the first `n` calls, all of which succeed. -/
def stopAfter : ℕ → Process σ ℓ ε α → σ → σ
  | n + 1, .call _ next rest _, s => stopAfter n (rest s) (next s)
  | _, _, s => s

theorem attempted_stopAfter (n : ℕ) (p : Process σ ℓ ε α) (s : σ) :
    Attempted env p s (stopAfter n p s) := by
  induction n generalizing p s with
  | zero => exact .stop p s
  | succ n ih =>
      cases p with
      | ret a => exact .stop _ s
      | raise e => exact .stop _ s
      | call l next rest fault => exact .call (ih (rest s) (next s))

/-- A run in which some calls fail is an attempt. -/
theorem attempted_runWith (fails : ℓ → Bool) (p : Process σ ℓ ε α) (s : σ) :
    Attempted env p s (p.runWith fails s).2 := by
  induction p generalizing s with
  | ret a => exact .stop _ s
  | raise e => exact .stop _ s
  | call l next rest fault ihr ihf =>
      rw [runWith]
      split
      · exact .fault (ihf s)
      · exact .call (ihr s (next s))

end Concurrency.Process
