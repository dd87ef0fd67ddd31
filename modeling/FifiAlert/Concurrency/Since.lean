import FifiAlert.Concurrency.Protocol

/-!
# What is known since a call

A thread that has asked the shared state something knows it until a call of
another thread spoils the answer. `quietSince` reads from the marks whether
that has happened, and `KnownSince` is what the thread still knows: it survives
every call that is not an asking of its own, when the calls that do not spoil
the answer keep it.

A fact with this property is `Lasting`: no call takes it away but the named
askings of the thread itself. The rules at the end walk through a process with
such a fact in hand, for results about the calls and the values returned.

A mark stays in the history, so what a thread has seen of it lasts. So does what is
kept of one thing: it is still there, or a mark says which call took it away.
-/

namespace Concurrency

section Since

variable {ι σ ℓ μ : Type*}

/-- Has nothing `bad` happened since the last `ask`? The marks come newest first. -/
def quietSince (ask bad : μ → Bool) : List μ → Bool
  | [] => false
  | m :: marks => ask m || (!bad m && quietSince ask bad marks)

theorem quietSince_append {ask bad : μ → Bool} {new : Option μ} {marks : List μ}
    (hask : ∀ m, new = some m → ask m = false) :
    quietSince ask bad (new.toList ++ marks) = true ↔
      (∀ m, new = some m → bad m = false) ∧ quietSince ask bad marks = true := by
  cases new with
  | none => simp
  | some m => simp [quietSince, hask m rfl]

/-- When nothing `bad` happened at all, nothing did since the last `ask`. -/
theorem quietSince_of_never {ask bad : μ → Bool} {marks : List μ} {m : μ} (hm : m ∈ marks)
    (hask : ask m = true) (hgood : ∀ m' ∈ marks, bad m' = false) :
    quietSince ask bad marks = true := by
  induction marks with
  | nil => cases hm
  | cons m' marks ih =>
      rw [quietSince, hgood m' List.mem_cons_self]
      rcases List.mem_cons.1 hm with rfl | hm
      · simp [hask]
      · simp [ih hm fun m'' hm'' => hgood m'' (List.mem_cons_of_mem _ hm'')]

/-- A fact about the state that holds while nothing `bad` has happened since the
last `ask`. -/
def KnownSince (ask bad : μ → Bool) (K : σ → Prop) (s : Snapshot σ μ) : Prop :=
  quietSince ask bad s.marks = true → K s.state

variable {ask bad : μ → Bool} {K K' : σ → Prop} {s : Snapshot σ μ}

theorem KnownSince.of (h : K s.state) : KnownSince ask bad K s := fun _ => h

theorem KnownSince.mono (h : KnownSince ask bad K s) (hK : K s.state → K' s.state) :
    KnownSince ask bad K' s :=
  fun hquiet => hK (h hquiet)

theorem KnownSince.env {state' : σ} (h : KnownSince ask bad K s)
    (hK : K s.state → K state') : KnownSince ask bad K ⟨state', s.marks⟩ :=
  fun hquiet => hK (h hquiet)

/-- A call that asks nothing of the kind leaves what is known, when it keeps it or is `bad`. -/
theorem KnownSince.after {mark : ι → ℓ → σ → Option μ} {j : ι} {l : ℓ} {next : σ → σ}
    (h : KnownSince ask bad K s) (hask : ∀ m, mark j l s.state = some m → ask m = false)
    (hkeep : (∀ m, mark j l s.state = some m → bad m = false) → K s.state → K (next s.state)) :
    KnownSince ask bad K (s.after mark j l next) := by
  intro hquiet
  obtain ⟨hgood, hquiet⟩ := (quietSince_append hask).1 hquiet
  exact hkeep hgood (h hquiet)

/-- A call after which the fact is there, when it asks, and that otherwise keeps it or is `bad`. -/
theorem KnownSince.step {mark : ι → ℓ → σ → Option μ} {j : ι} {l : ℓ} {next : σ → σ}
    (h : KnownSince ask bad K s)
    (hask : ∀ m, mark j l s.state = some m → ask m = true → K (next s.state))
    (hkeep : (∀ m, mark j l s.state = some m → bad m = false) → K s.state → K (next s.state)) :
    KnownSince ask bad K (s.after mark j l next) := by
  by_cases hnew : ∃ m, mark j l s.state = some m ∧ ask m = true
  · obtain ⟨m, hm, ht⟩ := hnew
    exact .of (hask m hm ht)
  · exact h.after (fun m hm => Bool.eq_false_iff.2 fun ht => hnew ⟨m, hm, ht⟩) hkeep

end Since

/-- A condition on the value returned; an exception is held to nothing. -/
def OnReturn {ε α σ μ : Type*} (Q : α → Snapshot σ μ → Prop) :
    Except ε α → Snapshot σ μ → Prop
  | .ok a, s => Q a s
  | .error _, _ => True

namespace Protocol

universe u

variable {ι σ ℓ ε μ : Type*} {α β : Type u} {S : Setting ι σ ℓ μ} {P : Protocol S} {i : ι}

/-- What thread `i` may rely on until it asks again: every permitted call keeps it, apart from
the asking of its own that `asks` names. -/
structure Lasting (P : Protocol S) (i : ι) (asks : μ → Bool) (J : Snapshot σ μ → Prop) :
    Prop where
  call : ∀ j l s, P.inv s → P.permits j l s → S.admits j l s →
    (∀ m, S.mark j l s.state = some m → asks m = false) → J s →
      J (s.after S.mark j l (P.effect l))
  env : ∀ w w' m, P.inv ⟨w, m⟩ → S.env w w' → J ⟨w, m⟩ → J ⟨w', m⟩
  own : ∀ j l w m, S.mark j l w = some m → asks m = true → j = i

namespace Lasting

variable {asks asks' : μ → Bool} {J J' : Snapshot σ μ → Prop} {s s' : Snapshot σ μ}

theorem stable (hJ : P.Lasting i asks J) (hs : J s)
    (hr : Relation.ReflTransGen (P.Interference i) s s') : J s' := by
  refine Protocol.stable ?_ (fun w w' m hinv henv h => hJ.env w w' m hinv henv h) hr hs
  intro j l s₁ hne hinv hper hadm h₁
  refine hJ.call j l s₁ hinv hper hadm (fun m hm => ?_) h₁
  rw [Bool.eq_false_iff]
  exact fun ht => hne (hJ.own j l _ m hm ht)

theorem and (hJ : P.Lasting i asks J) (hJ' : P.Lasting i asks' J') :
    P.Lasting i (fun m => asks m || asks' m) fun s => J s ∧ J' s where
  call := by
    intro j l s hinv hper hadm hask h
    have hsplit : ∀ m, S.mark j l s.state = some m → asks m = false ∧ asks' m = false :=
      fun m hm => Bool.or_eq_false_iff.1 (hask m hm)
    exact ⟨hJ.call j l s hinv hper hadm (fun m hm => (hsplit m hm).1) h.1,
      hJ'.call j l s hinv hper hadm (fun m hm => (hsplit m hm).2) h.2⟩
  env := fun w w' m hinv henv h => ⟨hJ.env w w' m hinv henv h.1, hJ'.env w w' m hinv henv h.2⟩
  own := fun j l w m hm h => (Bool.or_eq_true_iff.1 h).elim (hJ.own j l w m hm) (hJ'.own j l w m hm)

/-- A fact that no call takes away, whatever is asked. -/
theorem of_kept
    (hcall : ∀ j l s, P.inv s → P.permits j l s → S.admits j l s → J s →
      J (s.after S.mark j l (P.effect l)))
    (henv : ∀ w w' m, P.inv ⟨w, m⟩ → S.env w w' → J ⟨w, m⟩ → J ⟨w', m⟩) :
    P.Lasting i (fun _ => false) J where
  call := fun j l s hinv hper hadm _ h => hcall j l s hinv hper hadm h
  env := henv
  own := nofun

theorem nothing : P.Lasting i (fun _ => false) fun _ => True :=
  of_kept (fun _ _ _ _ _ _ h => h) fun _ _ _ _ _ h => h

theorem imp {p : Prop} (hJ : P.Lasting i asks J) : P.Lasting i asks fun s => p → J s where
  call := fun j l s hinv hper hadm hask h hp => hJ.call j l s hinv hper hadm hask (h hp)
  env := fun w w' m hinv henv h hp => hJ.env w w' m hinv henv (h hp)
  own := hJ.own

/-- Facts for each value of a parameter that is not fixed yet. -/
theorem all {κ : Type*} [Nonempty κ] {K : κ → Snapshot σ μ → Prop}
    (hK : ∀ k, P.Lasting i asks (K k)) : P.Lasting i asks fun s => ∀ k, K k s where
  call := fun j l s hinv hper hadm hask h k => (hK k).call j l s hinv hper hadm hask (h k)
  env := fun w w' m hinv henv h k => (hK k).env w w' m hinv henv (h k)
  own := (hK (Classical.arbitrary κ)).own

/-- What is known since an asking of the thread lasts until it asks again. -/
theorem known {ask bad : μ → Bool} {K : σ → Prop}
    (hcall : ∀ j l s, P.inv s → P.permits j l s → S.admits j l s →
      (∀ m, S.mark j l s.state = some m → bad m = false) → K s.state → K (P.effect l s.state))
    (henv : ∀ w w' m, P.inv ⟨w, m⟩ → S.env w w' → K w → K w')
    (hown : ∀ j l w m, S.mark j l w = some m → ask m = true → j = i) :
    P.Lasting i ask (KnownSince ask bad K) where
  call := fun j l s hinv hper hadm hask h => h.after hask fun hgood hs =>
    hcall j l s hinv hper hadm hgood hs
  env := fun w w' m hinv henv' h => h.env (henv w w' m hinv henv')
  own := hown

/-- What is true of all marks of a thread, until it leaves one of which it is not. -/
theorem ownMarks [DecidableEq ι] {thread : μ → ι}
    (hthread : ∀ j l w m, S.mark j l w = some m → thread m = j) (A : μ → Bool) :
    P.Lasting i (fun m => decide (thread m = i) && !A m)
      fun s => ∀ m ∈ s.marks, thread m = i → A m = true where
  call := by
    intro j l s _ _ _ hask h m hm hi
    rcases Snapshot.mem_after.1 hm with hnew | hold
    · simpa [hi] using hask m hnew
    · exact h m hold hi
  env := fun _ _ _ _ _ h => h
  own := fun j l w m hm h => (hthread j l w m hm).symm.trans
    (of_decide_eq_true (Bool.and_eq_true_iff.1 h).1)

/-- What is true of the list of the thread's own marks, until it leaves one more. -/
theorem ownList [DecidableEq ι] {thread : μ → ι}
    (hthread : ∀ j l w m, S.mark j l w = some m → thread m = j) (A : List μ → Prop) :
    P.Lasting i (fun m => decide (thread m = i)) fun s => A (s.own thread i) where
  call := by
    intro j l s _ _ _ hask h
    by_cases hij : j = i
    · subst hij
      have hnone : S.mark j l s.state = none := by
        refine Option.eq_none_iff_forall_ne_some.2 fun m hm => ?_
        simpa [hthread j l _ m hm] using hask m hm
      rw [Snapshot.own_after_self hthread, hnone]
      exact h
    · rw [Snapshot.own_after_ne hthread hij]
      exact h
  env := fun _ _ _ _ _ h => h
  own := fun j l w m hm h => (hthread j l w m hm).symm.trans (of_decide_eq_true h)

/-- What a thread finds in its newest mark of a kind, until it leaves another one. -/
theorem findSome {β : Type*} {f : μ → Option β}
    (hown : ∀ j l w m, S.mark j l w = some m → (f m).isSome = true → j = i) (found : Option β) :
    P.Lasting i (fun m => (f m).isSome) fun s => s.marks.findSome? f = found where
  call := by
    intro j l s _ _ _ hask h
    change ((S.mark j l s.state).toList ++ s.marks).findSome? f = found
    cases hm : S.mark j l s.state with
    | none => exact h
    | some m =>
        have hf : f m = none := by simpa using hask m hm
        rw [Option.toList_some, List.singleton_append, List.findSome?_cons, hf]
        exact h
  env := fun _ _ _ _ _ h => h
  own := hown

end Lasting

section Outcomes

variable {asks : μ → Bool} {J : Snapshot σ μ → Prop} {s : Snapshot σ μ}
  {Q : Except ε β → Snapshot σ μ → Prop}

/-- A process that asks nothing of the kind keeps the fact. -/
theorem Lasting.guarded (hJ : P.Lasting i asks J) (hs : J s) {p : Process σ ℓ ε β}
    {R : ε → Prop}
    (hp : p.Confined (fun l next => next = P.effect l ∧ (∀ s, P.permits i l s) ∧
      ∀ w m, S.mark i l w = some m → asks m = false) R) :
    Safe P.contract i (fun r s' => J s' ∧ ∀ e, r = .error e → R e) p s := by
  refine safe_of_guarded (hp.mono ?_ fun _ h => h) (fun _ _ hw hr => hJ.stable hw hr) hs
  rintro l next ⟨hnext, hper, hquiet⟩
  exact ⟨hnext, fun s₁ hinv hadm h₁ =>
    ⟨hper s₁, hJ.call i l s₁ hinv (hper s₁) hadm (hquiet s₁.state) h₁⟩⟩

/-- The same, in the order of the code: the rest starts where the fact holds. -/
theorem Lasting.guarded_bind (hJ : P.Lasting i asks J) (hs : J s) {p : Process σ ℓ ε α}
    {k : α → Process σ ℓ ε β} {R : ε → Prop}
    (hp : p.Confined (fun l next => next = P.effect l ∧ (∀ s, P.permits i l s) ∧
      ∀ w m, S.mark i l w = some m → asks m = false) R)
    (h : ∀ a s₁, P.inv s₁ → J s₁ → Safe P.contract i Q (k a) s₁)
    (herr : ∀ e s₁, R e → P.inv s₁ → J s₁ → Q (.error e) s₁) :
    Safe P.contract i Q (p >>= k) s := by
  apply Safe.bind
  refine Safe.mono (hJ.guarded hs hp) ?_
  intro r s₁ hinv hr
  cases r with
  | ok a => exact h a s₁ hinv hr.1
  | error e => exact herr e s₁ (hr.2 e rfl) hinv hr.1

/-- A call that rewrites: the answer is taken where the fact still holds. -/
theorem Lasting.call_bind (hJ : P.Lasting i asks J) (hs : J s) {l : ℓ} {err : ε} {f : σ → σ}
    {g : σ → α} {k : α → Process σ ℓ ε β} (hf : f = P.effect l)
    (hper : ∀ s₁, P.inv s₁ → S.admits i l s₁ → J s₁ → P.permits i l s₁)
    (h : ∀ s₁, P.inv s₁ → J s₁ →
      Safe P.contract i Q (k (g s₁.state)) (s₁.after S.mark i l (P.effect l)))
    (herr : S.mayFail l → ∀ s₁, P.inv s₁ → J s₁ → Q (.error err) s₁) :
    Safe P.contract i Q (Process.modify l err f g >>= k) s := by
  refine safe_call hf fun s₁ hr hinv => ?_
  have hs₁ := hJ.stable hs hr
  refine ⟨fun hadm => ⟨hper s₁ hinv hadm hs₁, fun _ => h s₁ hinv hs₁⟩, fun hfail => ?_⟩
  exact Safe.raise fun s₂ hr₂ hinv₂ => herr hfail s₂ hinv₂ (hJ.stable hs₁ hr₂)

end Outcomes

section Rules

variable {asks : μ → Bool} {J : Snapshot σ μ → Prop} {s : Snapshot σ μ}
  {Q : β → Snapshot σ μ → Prop}

theorem safe_onReturn_raise {e : ε} : Safe P.contract i (OnReturn Q) (.raise e) s :=
  Safe.raise fun _ _ _ => trivial

theorem Lasting.ret (hJ : P.Lasting i asks J) (hs : J s) {b : β}
    (h : ∀ s', P.inv s' → J s' → Q b s') :
    Safe P.contract i (OnReturn Q) (.ret b : Process σ ℓ ε β) s :=
  Safe.ret fun s' hr hinv => h s' hinv (hJ.stable hs hr)

theorem safe_onReturn_bind {p : Process σ ℓ ε α} {k : α → Process σ ℓ ε β}
    {R : α → Snapshot σ μ → Prop} (hp : Safe P.contract i (OnReturn R) p s)
    (hk : ∀ a s', P.inv s' → R a s' → Safe P.contract i (OnReturn Q) (k a) s') :
    Safe P.contract i (OnReturn Q) (p >>= k) s := by
  apply Safe.bind
  refine Safe.mono hp ?_
  intro r s' hinv hr
  cases r with
  | ok a => exact hk a s' hinv hr
  | error e => exact True.intro

theorem safe_onReturn_map {p : Process σ ℓ ε α} {f : α → β} {R : α → Snapshot σ μ → Prop}
    (hp : Safe P.contract i (OnReturn R) p s) (h : ∀ a s', R a s' → Q (f a) s') :
    Safe P.contract i (OnReturn Q) (f <$> p) s := by
  refine Safe.map (Safe.mono hp fun r s' _ hr => ?_)
  cases r with
  | ok a => exact h a s' hr
  | error e => exact True.intro

/-- A `try` block whose handler is safe wherever it starts. -/
theorem safe_onReturn_tryCatch {p : Process σ ℓ ε β} {h : ε → Process σ ℓ ε β}
    (hp : Safe P.contract i (OnReturn Q) p s)
    (hcatch : ∀ e s', Safe P.contract i (OnReturn Q) (h e) s') :
    Safe P.contract i (OnReturn Q) (p.tryCatch h) s := by
  apply Safe.tryCatch
  refine Safe.mono hp ?_
  intro r s' _ hr
  cases r with
  | ok a => exact hr
  | error e => exact hcatch e s'

/-- A call that rewrites, when only the values returned matter. -/
theorem Lasting.modify_bind (hJ : P.Lasting i asks J) (hs : J s) {l : ℓ} {err : ε} {f : σ → σ}
    {g : σ → α} {k : α → Process σ ℓ ε β} (hf : f = P.effect l) (hper : ∀ s, P.permits i l s)
    (h : ∀ s₁, P.inv s₁ → J s₁ →
      Safe P.contract i (OnReturn Q) (k (g s₁.state)) (s₁.after S.mark i l (P.effect l))) :
    Safe P.contract i (OnReturn Q) (Process.modify l err f g >>= k) s :=
  hJ.call_bind hs hf (fun s₁ _ _ _ => hper s₁) h fun _ _ _ _ => True.intro

theorem Lasting.query_bind (hJ : P.Lasting i asks J) (hs : J s) {l : ℓ} {err : ε} {g : σ → α}
    {k : α → Process σ ℓ ε β} (hnext : id = P.effect l) (hper : ∀ s, P.permits i l s)
    (h : ∀ s₁, P.inv s₁ → J s₁ →
      Safe P.contract i (OnReturn Q) (k (g s₁.state)) (s₁.after S.mark i l (P.effect l))) :
    Safe P.contract i (OnReturn Q) (Process.query l err g >>= k) s :=
  hJ.modify_bind hs hnext hper h

/-- A process that asks nothing of the kind, when only the values returned matter. -/
theorem Lasting.quietly (hJ : P.Lasting i asks J) (hs : J s) {p : Process σ ℓ ε β}
    {R : ε → Prop}
    (hp : p.Confined (fun l next => next = P.effect l ∧ (∀ s, P.permits i l s) ∧
      ∀ w m, S.mark i l w = some m → asks m = false) R) :
    Safe P.contract i (OnReturn fun _ s' => J s') p s := by
  refine Safe.mono (hJ.guarded hs hp) ?_
  intro r s' _ hr
  cases r with
  | ok a => exact hr.1
  | error e => exact True.intro

/-- A call that may answer with an exception of its own, in a `try` block. -/
theorem Lasting.atomic_tryCatch (hJ : P.Lasting i asks J) (hs : J s) {l : ℓ} {err : ε}
    {f : σ → Except ε β × σ} {h : ε → Process σ ℓ ε β} (hf : (fun s => (f s).2) = P.effect l)
    (hper : ∀ s₁, P.inv s₁ → S.admits i l s₁ → J s₁ → P.permits i l s₁)
    (hcatch : ∀ e s₁, Safe P.contract i (OnReturn fun _ _ => True) (h e) s₁) :
    Safe P.contract i (OnReturn fun _ _ => True) ((Process.atomic l err f).tryCatch h) s := by
  apply Safe.tryCatch
  refine safe_call hf fun s₁ hr hinv => ⟨fun hadm => ⟨?_, fun _ => ?_⟩, fun _ => ?_⟩
  · exact hper s₁ hinv hadm (hJ.stable hs hr)
  · cases (f s₁.state).1 with
    | ok b => exact Safe.ret fun _ _ _ => True.intro
    | error e => exact Safe.raise fun s₂ _ _ => hcatch e s₂
  · exact Safe.raise fun s₂ _ _ => hcatch err s₂

/-- A call that takes nothing away: the rest starts where the fact still holds. -/
theorem Lasting.kept_bind (hJ : P.Lasting i (fun _ => false) J) (hs : J s) {l : ℓ} {err : ε}
    {f : σ → σ} {g : σ → α} {k : α → Process σ ℓ ε β} (hf : f = P.effect l)
    (hper : ∀ s, P.permits i l s)
    (h : ∀ s₁, P.inv s₁ → J s₁ → J (s₁.after S.mark i l (P.effect l)) →
      Safe P.contract i (OnReturn Q) (k (g s₁.state)) (s₁.after S.mark i l (P.effect l))) :
    Safe P.contract i (OnReturn Q) (Process.modify l err f g >>= k) s := by
  refine safe_call hf fun s₁ hr hinv => ⟨fun hadm => ⟨hper s₁, fun _ => ?_⟩,
    fun _ => safe_onReturn_raise⟩
  have hs₁ := hJ.stable hs hr
  exact h s₁ hinv hs₁ (hJ.call i l s₁ hinv (hper s₁) hadm (fun _ _ => rfl) hs₁)

/-- A call that may answer with an exception of its own: what is true where it answers, if it
lasts. -/
theorem Lasting.atomic (hJ : P.Lasting i asks J) (hs : J s) {l : ℓ} {err : ε}
    {f : σ → Except ε β × σ} (hf : (fun s => (f s).2) = P.effect l)
    (hper : ∀ s₁, P.inv s₁ → S.admits i l s₁ → J s₁ → P.permits i l s₁)
    (hQ : ∀ b, P.Lasting i (fun _ => false) (Q b))
    (h : ∀ b s₁, P.inv s₁ → J s₁ → (f s₁.state).1 = .ok b →
      Q b (s₁.after S.mark i l (P.effect l))) :
    Safe P.contract i (OnReturn Q) (Process.atomic l err f) s := by
  refine safe_call hf fun s₁ hr hinv => ⟨fun hadm => ?_, fun _ => safe_onReturn_raise⟩
  have hs₁ := hJ.stable hs hr
  refine ⟨hper s₁ hinv hadm hs₁, fun _ => ?_⟩
  cases hanswer : (f s₁.state).1 with
  | error e => exact safe_onReturn_raise
  | ok b => exact (hQ b).ret (h b s₁ hinv hs₁ hanswer) fun _ _ h => h

end Rules

end Protocol

end Concurrency

namespace Concurrency

section Accounted

variable {ι σ ℓ μ ρ : Type*}

/-- The thing is there, or a mark of the history says that it was taken. -/
def AccountedFor (there : σ → ρ → Prop) (took : μ → ρ → Prop) (r : ρ) (s : Snapshot σ μ) : Prop :=
  there s.state r ∨ ∃ m ∈ s.marks, took m r

variable {there : σ → ρ → Prop} {took : μ → ρ → Prop} {r : ρ} {s : Snapshot σ μ}

/-- A call that leaves the thing, or says that it took it. -/
theorem AccountedFor.after {mark : ι → ℓ → σ → Option μ} {j : ι} {l : ℓ} {next : σ → σ}
    (h : AccountedFor there took r s)
    (hcall : there s.state r → there (next s.state) r ∨ ∃ m, mark j l s.state = some m ∧ took m r) :
    AccountedFor there took r (s.after mark j l next) := by
  rcases h with hthere | ⟨m, hm, htook⟩
  · rcases hcall hthere with hstill | ⟨m, hm, htook⟩
    · exact .inl hstill
    · exact .inr ⟨m, Snapshot.mem_after.2 (.inl hm), htook⟩
  · exact .inr ⟨m, Snapshot.mem_after_of_mem hm, htook⟩

theorem AccountedFor.env {state' : σ} (h : AccountedFor there took r s)
    (henv : there s.state r → there state' r) :
    AccountedFor there took r (⟨state', s.marks⟩ : Snapshot σ μ) :=
  h.imp_left henv

end Accounted

namespace Protocol

variable {ι σ ℓ μ ρ : Type*} {S : Setting ι σ ℓ μ} {P : Protocol S} {i : ι}

theorem Lasting.marked (m : μ) : P.Lasting i (fun _ => false) fun s => m ∈ s.marks :=
  .of_kept (fun _ _ _ _ _ _ h => Snapshot.mem_after_of_mem h) fun _ _ _ _ _ h => h

/-- What no call takes away without a mark is accounted for at the end of a run. -/
theorem Reachable.accountedFor {there : σ → ρ → Prop} {took : μ → ρ → Prop} {r : ρ}
    (hcall : ∀ j l s, there s r →
      there (P.effect l s) r ∨ ∃ m, S.mark j l s = some m ∧ took m r)
    (henv : ∀ s s', S.env s s' → there s r → there s' r) {s s' : Snapshot σ μ}
    (h : P.Reachable s s') (hs : AccountedFor there took r s) : AccountedFor there took r s' :=
  h.invariant hs (fun j l s _ _ _ hs => hs.after (hcall j l s.state))
    fun w w' m _ henv' hs => AccountedFor.env (s := ⟨w, m⟩) hs (henv w w' henv')

end Protocol

end Concurrency
