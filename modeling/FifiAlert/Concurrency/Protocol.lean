import FifiAlert.Concurrency.RelyGuarantee

/-!
# Protocols: what the calls of a service do, apart from its code

A `Protocol` gives the effect of every call on the shared state, says when a
thread is permitted to make it, and names an invariant that the permitted calls
keep. It is the abstract description of a service: it knows the calls but not
the code between them.

The rely of a thread is generated: the others may do any number of permitted
calls. So the rely-guarantee proof of a program comes down to showing that each
of its calls is permitted where it is made, and what is known there is stable
when every permitted call of another thread keeps it. The result is a
refinement: every run of the program is a run of the protocol (`refines`), and a
property of all runs of the protocol is proved by looking at one call at a time
(`Reachable.invariant`), without the code.
-/

namespace Concurrency

/-- The calls of a service: their effect, when they are permitted, and an
invariant they keep. -/
structure Protocol {ι σ ℓ μ : Type*} (S : Setting ι σ ℓ μ) where
  effect : ℓ → σ → σ
  permits : ι → ℓ → Snapshot σ μ → Prop
  inv : Snapshot σ μ → Prop
  inv_call : ∀ {i l w}, inv w → permits i l w → S.admits i l w →
    inv (w.after S.mark i l (effect l))
  inv_env : ∀ {s s' m}, S.env s s' → inv ⟨s, m⟩ → inv ⟨s', m⟩

namespace Protocol

section Steps

variable {ι σ ℓ μ : Type*} {S : Setting ι σ ℓ μ}

/-- Thread `i` makes a permitted call. -/
inductive CallStep (P : Protocol S) (i : ι) : Snapshot σ μ → Snapshot σ μ → Prop where
  | mk {w : Snapshot σ μ} (l : ℓ) (hinv : P.inv w) (hper : P.permits i l w)
      (hadm : S.admits i l w) : CallStep P i w (w.after S.mark i l (P.effect l))

/-- One step of the surroundings of thread `i`. -/
inductive Interference (P : Protocol S) (i : ι) : Snapshot σ μ → Snapshot σ μ → Prop where
  | call {w w' : Snapshot σ μ} (j : ι) (hne : j ≠ i) (h : P.CallStep j w w') :
      Interference P i w w'
  | env {s s' : σ} {m : List μ} (h : S.env s s') (hinv : P.inv ⟨s, m⟩) :
      Interference P i ⟨s, m⟩ ⟨s', m⟩

/-- One step of the protocol, by any thread or by the environment. -/
inductive ProtocolStep (P : Protocol S) : Snapshot σ μ → Snapshot σ μ → Prop where
  | call {w w' : Snapshot σ μ} (i : ι) (h : P.CallStep i w w') : ProtocolStep P w w'
  | env {s s' : σ} {m : List μ} (h : S.env s s') (hinv : P.inv ⟨s, m⟩) :
      ProtocolStep P ⟨s, m⟩ ⟨s', m⟩

/-- Runs of the protocol. -/
def Reachable (P : Protocol S) : Snapshot σ μ → Snapshot σ μ → Prop :=
  Relation.ReflTransGen P.ProtocolStep

/-- A property kept by every permitted call and by the environment holds after
every run of the protocol. -/
theorem Reachable.invariant {P : Protocol S} {J : Snapshot σ μ → Prop}
    {w w' : Snapshot σ μ} (h : P.Reachable w w') (hw : J w)
    (hcall : ∀ i l w, P.inv w → P.permits i l w → S.admits i l w → J w →
      J (w.after S.mark i l (P.effect l)))
    (henv : ∀ s s' m, P.inv ⟨s, m⟩ → S.env s s' → J ⟨s, m⟩ → J ⟨s', m⟩) : J w' := by
  induction h with
  | refl => exact hw
  | tail _ hs ih =>
      cases hs with
      | call i hc =>
          cases hc with
          | mk l hinv hper hadm => exact hcall i l _ hinv hper hadm ih
      | env he hinv => exact henv _ _ _ hinv he ih

/-- What thread `i` knows is stable when the permitted calls of the other
threads and the environment keep it. -/
theorem stable {P : Protocol S} {i : ι} {J : Snapshot σ μ → Prop}
    (hcall : ∀ j l w, j ≠ i → P.inv w → P.permits j l w → S.admits j l w → J w →
      J (w.after S.mark j l (P.effect l)))
    (henv : ∀ s s' m, P.inv ⟨s, m⟩ → S.env s s' → J ⟨s, m⟩ → J ⟨s', m⟩)
    {w w' : Snapshot σ μ} (h : Relation.ReflTransGen (P.Interference i) w w')
    (hw : J w) : J w' := by
  induction h with
  | refl => exact hw
  | tail _ hs ih =>
      cases hs with
      | call j hne hc =>
          cases hc with
          | mk l hinv hper hadm => exact hcall j l _ hne hinv hper hadm ih
      | env he hinv => exact henv _ _ _ hinv he ih

/-- The contract generated by a protocol. -/
def contract (P : Protocol S) : Contract S where
  inv := P.inv
  rely := fun i => Relation.ReflTransGen (P.Interference i)
  guar := fun i w w' => w = w' ∨ P.CallStep i w w'
  rely_refl := fun _ _ => .refl
  rely_trans := fun _ _ _ _ h₁ h₂ => h₁.trans h₂
  guar_refl := fun _ _ => .inl rfl
  guar_rely := by
    rintro i j w w' hij _ (rfl | h)
    · exact .refl
    · exact .single (.call i hij h)
  env_inv := P.inv_env
  env_rely := fun _ _ _ _ h hinv => .single (.env h hinv)

end Steps

section Safe

universe u

variable {ι σ ℓ ε μ : Type*} {α β : Type u} {S : Setting ι σ ℓ μ} {P : Protocol S}
  {i : ι}

/-- A call is safe when it is permitted wherever it may be made and the
continuation is safe. -/
theorem safe_call {Q : Except ε α → Snapshot σ μ → Prop} {l : ℓ}
    {next : σ → σ} {rest : σ → Process σ ℓ ε α} {fault : Process σ ℓ ε α}
    {w : Snapshot σ μ} (hnext : next = P.effect l)
    (h : ∀ w', Relation.ReflTransGen (P.Interference i) w w' → P.inv w' →
      (S.admits i l w' → P.permits i l w' ∧
        (P.inv (w'.after S.mark i l (P.effect l)) →
          Safe P.contract i Q (rest w'.state) (w'.after S.mark i l (P.effect l)))) ∧
      (S.mayFail l → Safe P.contract i Q fault w')) :
    Safe P.contract i Q (.call l next rest fault) w := by
  subst hnext
  intro w' hr hi
  obtain ⟨hcall, hfault⟩ := h w' hr hi
  refine ⟨fun hadm => ?_, hfault⟩
  obtain ⟨hper, hnext⟩ := hcall hadm
  have hinv' := P.inv_call hi hper hadm
  exact ⟨.inr (.mk l hi hper hadm), hinv', hnext hinv'⟩

variable {Q : Except ε β → Snapshot σ μ → Prop}

/-- The rule for a call that reads, in a setting where it cannot fail. -/
theorem safe_query_bind {l : ℓ} {err : ε} {g : σ → α} {k : α → Process σ ℓ ε β}
    {w : Snapshot σ μ} (hmark : ∀ s, S.mark i l s = none) (hfail : ¬ S.mayFail l)
    (h : ∀ w', Relation.ReflTransGen (P.Interference i) w w' → P.inv w' →
      Safe P.contract i Q (k (g w'.state)) w') :
    Safe P.contract i Q (Process.query l err g >>= k) w :=
  Safe.query_bind hmark (fun w' hr hi _ => h w' hr hi) (fun hf => (hfail hf).elim)

/-- The rule for a call that writes, in a setting where it cannot fail. -/
theorem safe_modify_bind {l : ℓ} {err : ε} {f : σ → σ} {g : σ → α}
    {k : α → Process σ ℓ ε β} {w : Snapshot σ μ} (hf : f = P.effect l)
    (hfail : ¬ S.mayFail l)
    (h : ∀ w', Relation.ReflTransGen (P.Interference i) w w' → P.inv w' →
      S.admits i l w' → P.permits i l w' ∧
        (P.inv (w'.after S.mark i l (P.effect l)) →
          Safe P.contract i Q (k (g w'.state)) (w'.after S.mark i l (P.effect l)))) :
    Safe P.contract i Q (Process.modify l err f g >>= k) w :=
  safe_call hf fun w' hr hi => ⟨h w' hr hi, fun hf => (hfail hf).elim⟩

/-- The rule for a call that may answer with an exception of its own. -/
theorem safe_atomic {Q : Except ε α → Snapshot σ μ → Prop} {l : ℓ} {err : ε}
    {f : σ → Except ε α × σ} {w : Snapshot σ μ}
    (hf : (fun s => (f s).2) = P.effect l) (hfail : ¬ S.mayFail l)
    (h : ∀ w', Relation.ReflTransGen (P.Interference i) w w' → P.inv w' →
      S.admits i l w' → P.permits i l w' ∧
        (P.inv (w'.after S.mark i l (P.effect l)) →
          ∀ w'', Relation.ReflTransGen (P.Interference i)
              (w'.after S.mark i l (P.effect l)) w'' → P.inv w'' →
            Q (f w'.state).1 w'')) :
    Safe P.contract i Q (Process.atomic l err f) w := by
  refine safe_call hf fun w' hr hi => ⟨fun hadm => ?_, fun hf => (hfail hf).elim⟩
  obtain ⟨hper, hQ⟩ := h w' hr hi hadm
  refine ⟨hper, fun hinv => ?_⟩
  cases hfs : (f w'.state).1 with
  | ok a => exact fun w'' hr' hi' => hfs ▸ hQ hinv w'' hr' hi'
  | error e => exact fun w'' hr' hi' => hfs ▸ hQ hinv w'' hr' hi'

/-- A process whose calls are permitted where `J` holds, and keep it, keeps what the
interference keeps. -/
theorem safe_of_guarded {p : Process σ ℓ ε α} {R : ε → Prop} {J : Snapshot σ μ → Prop}
    {w : Snapshot σ μ}
    (hp : p.Confined (fun l next => next = P.effect l ∧ ∀ w, P.inv w → S.admits i l w → J w →
      P.permits i l w ∧ J (w.after S.mark i l (P.effect l))) R)
    (hstable : ∀ w w', J w → Relation.ReflTransGen (P.Interference i) w w' → J w')
    (hw : J w) :
    Safe P.contract i (fun r w' => J w' ∧ ∀ e, r = .error e → R e) p w := by
  induction p generalizing w with
  | ret a => exact Safe.ret fun w' hr _ => ⟨hstable w w' hw hr, by simp⟩
  | raise e =>
      refine Safe.raise fun w' hr _ => ⟨hstable w w' hw hr, ?_⟩
      rintro e' ⟨⟩
      exact hp
  | call l next rest fault ihr ihf =>
      obtain ⟨⟨hnext, hkeep⟩, hrest, hfault⟩ := hp
      refine safe_call hnext fun w' hr hi => ⟨fun hadm => ?_, fun _ => ?_⟩
      · obtain ⟨hper, hJ⟩ := hkeep w' hi hadm (hstable w w' hw hr)
        exact ⟨hper, fun _ => ihr w'.state (hrest w'.state) hJ⟩
      · exact ihf hfault (hstable w w' hw hr)

/-- A process whose calls are permitted in every state keeps what its calls and
the interference keep. -/
theorem safe_of_confined {p : Process σ ℓ ε α} {R : ε → Prop} {J : Snapshot σ μ → Prop}
    {w : Snapshot σ μ}
    (hp : p.Confined (fun l next => next = P.effect l ∧ (∀ w, P.permits i l w) ∧
      ∀ w, J w → J (w.after S.mark i l (P.effect l))) R)
    (hstable : ∀ w w', J w → Relation.ReflTransGen (P.Interference i) w w' → J w')
    (hw : J w) :
    Safe P.contract i (fun r w' => J w' ∧ ∀ e, r = .error e → R e) p w := by
  refine safe_of_guarded (hp.mono ?_ fun _ => id) hstable hw
  rintro l next ⟨hnext, hper, hkeep⟩
  exact ⟨hnext, fun w _ _ hJ => ⟨hper w, hkeep w hJ⟩⟩

/-- A process whose calls are permitted in every state keeps what all permitted calls keep. -/
theorem safe_of_permitted {p : Process σ ℓ ε α} {R : ε → Prop} {J : Snapshot σ μ → Prop}
    {w : Snapshot σ μ}
    (hp : p.Confined (fun l next => next = P.effect l ∧ ∀ w, P.permits i l w) R)
    (hcall : ∀ j l w, P.inv w → P.permits j l w → S.admits j l w → J w →
      J (w.after S.mark j l (P.effect l)))
    (henv : ∀ s s' m, P.inv ⟨s, m⟩ → S.env s s' → J ⟨s, m⟩ → J ⟨s', m⟩) (hw : J w) :
    Safe P.contract i (fun r w' => J w' ∧ ∀ e, r = .error e → R e) p w := by
  refine safe_of_guarded (hp.mono ?_ fun _ => id)
    (fun w w' hw h => stable (fun j l w _ => hcall j l w) henv h hw) hw
  rintro l next ⟨hnext, hper⟩
  exact ⟨hnext, fun w hi hadm hJ => ⟨hper w, hcall i l w hi (hper w) hadm hJ⟩⟩

end Safe

section Refines

variable {ι σ ℓ ε α μ : Type*} [DecidableEq ι] {S : Setting ι σ ℓ μ} {P : Protocol S}
  {Q : ι → Except ε α → Snapshot σ μ → Prop}

/-- One step of a pool of safe threads is a step of the protocol, or a call that
failed. -/
theorem step_refines {c c' : Config ι σ ℓ ε α μ} (hc : Sound P.contract Q c) (h : Step S c c') :
    c'.toSnapshot = c.toSnapshot ∨ P.ProtocolStep c.toSnapshot c'.toSnapshot := by
  obtain ⟨hinv, hsafe⟩ := hc
  cases h with
  | call i hpool hadm =>
      have hi := hsafe i
      rw [hpool] at hi
      rcases ((hi c.toSnapshot .refl hinv).1 hadm).1 with heq | hstep
      · exact .inl heq.symm
      · exact .inr (.call i hstep)
  | fault i hpool hfail => exact .inl rfl
  | env henv => exact .inr (.env henv hinv)

/-- Refinement: when every thread is safe, each run of the pool is a run of the
protocol. -/
theorem refines {c c' : Config ι σ ℓ ε α μ} (hc : Sound P.contract Q c)
    (h : Reaches S c c') : P.Reachable c.toSnapshot c'.toSnapshot := by
  induction h with
  | refl => exact .refl
  | tail hreach hs ih =>
      rcases step_refines (hc.reaches hreach) hs with heq | hstep
      · exact heq ▸ ih
      · exact ih.tail hstep

end Refines

end Protocol

end Concurrency
