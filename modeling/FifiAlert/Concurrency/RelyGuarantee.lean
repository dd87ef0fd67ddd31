import FifiAlert.Concurrency.Interleaving

/-!
# Rely-guarantee reasoning for processes

A `Contract` names what every thread may assume of the others (`rely`), what it
promises in return (`guar`), and an invariant of the snapshots. `Safe` is what
one thread has to show for its own code: from any snapshot that the others may
leave it in, each call keeps the invariant and the promise, and the result
satisfies the postcondition whatever the others do afterwards. `Safe` follows
the process, so it is proved call by call in the order of the code.

`Contract.sound` turns the proofs of the single threads into an invariant of
all interleavings. `Contract.always` reads the promises of the steps as a
relation between any two moments of a run.
-/

namespace Concurrency

/-- What the threads of a pool assume of and promise to each other. -/
structure Contract {ι σ ℓ μ : Type*} (S : Setting ι σ ℓ μ) where
  inv : Snapshot σ μ → Prop
  rely : ι → Snapshot σ μ → Snapshot σ μ → Prop
  guar : ι → Snapshot σ μ → Snapshot σ μ → Prop
  rely_refl : ∀ i w, rely i w w
  rely_trans : ∀ i {w₁ w₂ w₃}, rely i w₁ w₂ → rely i w₂ w₃ → rely i w₁ w₃
  guar_refl : ∀ i w, guar i w w
  guar_rely : ∀ {i j w w'}, i ≠ j → inv w → guar i w w' → rely j w w'
  env_inv : ∀ {s s' m}, S.env s s' → inv ⟨s, m⟩ → inv ⟨s', m⟩
  env_rely : ∀ i {s s' m}, S.env s s' → inv ⟨s, m⟩ → rely i ⟨s, m⟩ ⟨s', m⟩

section Safe

universe u

variable {ι σ ℓ ε μ : Type*} {α β : Type u} {S : Setting ι σ ℓ μ}

/-- The obligation of thread `i` for its remaining process, from the snapshot it
last saw: every call keeps the invariant and the guarantee, and every outcome
satisfies `Q`, under any interference the rely allows. -/
def Safe (C : Contract S) (i : ι) (Q : Except ε α → Snapshot σ μ → Prop) :
    Process σ ℓ ε α → Snapshot σ μ → Prop
  | .ret a, w => ∀ w', C.rely i w w' → C.inv w' → Q (.ok a) w'
  | .raise e, w => ∀ w', C.rely i w w' → C.inv w' → Q (.error e) w'
  | .call l next rest fault, w => ∀ w', C.rely i w w' → C.inv w' →
      (S.admits i l w' →
        C.guar i w' (w'.after S.mark i l next) ∧
        C.inv (w'.after S.mark i l next) ∧
        Safe C i Q (rest w'.state) (w'.after S.mark i l next)) ∧
      (S.mayFail l → Safe C i Q fault w')

variable {C : Contract S} {i : ι} {Q : Except ε α → Snapshot σ μ → Prop}

/-- Interference the rely allows does not hurt. -/
theorem Safe.stable {p : Process σ ℓ ε α} {w w' : Snapshot σ μ}
    (h : Safe C i Q p w) (hw : C.rely i w w') : Safe C i Q p w' := by
  cases p with
  | ret a => exact fun w'' hr hi => h w'' (C.rely_trans i hw hr) hi
  | raise e => exact fun w'' hr hi => h w'' (C.rely_trans i hw hr) hi
  | call l next rest fault =>
      exact fun w'' hr hi => h w'' (C.rely_trans i hw hr) hi

/-- To be safe it is enough to be safe after any interference. -/
theorem Safe.of_stable {p : Process σ ℓ ε α} {w : Snapshot σ μ}
    (h : ∀ w', C.rely i w w' → C.inv w' → Safe C i Q p w') : Safe C i Q p w := by
  cases p with
  | ret a => exact fun w' hr hi => h w' hr hi w' (C.rely_refl i w') hi
  | raise e => exact fun w' hr hi => h w' hr hi w' (C.rely_refl i w') hi
  | call l next rest fault =>
      exact fun w' hr hi => h w' hr hi w' (C.rely_refl i w') hi

/-- The postcondition may be weakened. -/
theorem Safe.mono {Q' : Except ε α → Snapshot σ μ → Prop}
    {p : Process σ ℓ ε α} {w : Snapshot σ μ} (h : Safe C i Q p w)
    (hQ : ∀ r w', C.inv w' → Q r w' → Q' r w') : Safe C i Q' p w := by
  induction p generalizing w with
  | ret a => exact fun w' hr hi => hQ _ _ hi (h w' hr hi)
  | raise e => exact fun w' hr hi => hQ _ _ hi (h w' hr hi)
  | call l next rest fault ihr ihf =>
      intro w' hr hi
      obtain ⟨hcall, hfault⟩ := h w' hr hi
      refine ⟨fun hadm => ?_, fun hf => ihf (hfault hf)⟩
      obtain ⟨hg, hi', hs⟩ := hcall hadm
      exact ⟨hg, hi', ihr w'.state hs⟩

/-- The rule of sequencing: the first part ends where the second is safe. -/
theorem Safe.bind {p : Process σ ℓ ε α} {k : α → Process σ ℓ ε β}
    {Q : Except ε β → Snapshot σ μ → Prop} {w : Snapshot σ μ}
    (h : Safe C i (fun r w' => match r with
      | .ok a => Safe C i Q (k a) w'
      | .error e => Q (.error e) w') p w) :
    Safe C i Q (p >>= k) w := by
  induction p generalizing w with
  | ret a => exact Safe.of_stable h
  | raise e => exact h
  | call l next rest fault ihr ihf =>
      intro w' hr hi
      obtain ⟨hcall, hfault⟩ := h w' hr hi
      refine ⟨fun hadm => ?_, fun hf => ihf (hfault hf)⟩
      obtain ⟨hg, hi', hs⟩ := hcall hadm
      exact ⟨hg, hi', ihr w'.state hs⟩

/-- Sequencing, where the first part is known to be safe and is written for calls of its own. -/
theorem Safe.relabel_bind {ℓ' : Type*} {f : ℓ' → ℓ} {p : Process σ ℓ' ε α}
    {k : α → Process σ ℓ' ε β} {R : Except ε α → Snapshot σ μ → Prop}
    {Q : Except ε β → Snapshot σ μ → Prop} {w : Snapshot σ μ} (hp : Safe C i R (p.relabel f) w)
    (herror : ∀ e w', C.inv w' → R (.error e) w' → Q (.error e) w')
    (hok : ∀ a w', C.inv w' → R (.ok a) w' → Safe C i Q ((k a).relabel f) w') :
    Safe C i Q ((p >>= k).relabel f) w := by
  rw [Process.relabel_bind]
  apply Safe.bind
  refine Safe.mono hp ?_
  intro r w' hi hr
  cases r with
  | ok a => exact hok a w' hi hr
  | error e => exact herror e w' hi hr

theorem Safe.map {p : Process σ ℓ ε α} {f : α → β} {Q : Except ε β → Snapshot σ μ → Prop}
    {w : Snapshot σ μ} (h : Safe C i (fun r => Q (r.map f)) p w) : Safe C i Q (f <$> p) w := by
  induction p generalizing w with
  | ret a => exact h
  | raise e => exact h
  | call l next rest fault ihr ihf =>
      intro w' hr hi
      obtain ⟨hcall, hfault⟩ := h w' hr hi
      refine ⟨fun hadm => ?_, fun hf => ihf (hfault hf)⟩
      obtain ⟨hg, hi', hs⟩ := hcall hadm
      exact ⟨hg, hi', ihr w'.state hs⟩

/-- The rule of `try`/`catch`: an exception ends where the handler is safe. -/
theorem Safe.tryCatch {p : Process σ ℓ ε α} {h : ε → Process σ ℓ ε α}
    {w : Snapshot σ μ}
    (hp : Safe C i (fun r w' => match r with
      | .ok a => Q (.ok a) w'
      | .error e => Safe C i Q (h e) w') p w) :
    Safe C i Q (p.tryCatch h) w := by
  induction p generalizing w with
  | ret a => exact hp
  | raise e => exact Safe.of_stable hp
  | call l next rest fault ihr ihf =>
      intro w' hr hi
      obtain ⟨hcall, hfault⟩ := hp w' hr hi
      refine ⟨fun hadm => ?_, fun hf => ihf (hfault hf)⟩
      obtain ⟨hg, hi', hs⟩ := hcall hadm
      exact ⟨hg, hi', ihr w'.state hs⟩

/-- A value is safe to return when the postcondition holds now and survives the
interference. -/
theorem Safe.ret {a : α} {w : Snapshot σ μ}
    (h : ∀ w', C.rely i w w' → C.inv w' → Q (.ok a) w') :
    Safe C i Q (.ret a) w := h

theorem Safe.raise {e : ε} {w : Snapshot σ μ}
    (h : ∀ w', C.rely i w w' → C.inv w' → Q (.error e) w') :
    Safe C i Q (.raise e) w := h

/-- An unmarked read changes nothing, so only the continuation is left. -/
theorem Safe.query_bind {l : ℓ} {err : ε} {g : σ → α} {k : α → Process σ ℓ ε β}
    {Q : Except ε β → Snapshot σ μ → Prop} {w : Snapshot σ μ}
    (hmark : ∀ s, S.mark i l s = none)
    (h : ∀ w', C.rely i w w' → C.inv w' → S.admits i l w' →
      Safe C i Q (k (g w'.state)) w')
    (hfault : S.mayFail l → Safe C i Q (.raise err) w) :
    Safe C i Q (Process.query l err g >>= k) w := by
  intro w' hr hi
  have hafter : w'.after S.mark i l id = w' := by
    ext <;> simp [Snapshot.after, hmark]
  refine ⟨fun hadm => ?_, fun hf => (hfault hf).stable hr⟩
  rw [hafter]
  exact ⟨C.guar_refl i w', hi, h w' hr hi hadm⟩

/-- A loop is safe when its body leads from each invariant snapshot to another
one. -/
theorem Safe.forEach {δ : Type*} {body : δ → Process σ ℓ ε Unit} {xs : List δ}
    {Q : Except ε Unit → Snapshot σ μ → Prop} {w : Snapshot σ μ}
    (J : Snapshot σ μ → Prop) (hJ : J w)
    (hstable : ∀ w w', J w → C.rely i w w' → C.inv w' → J w')
    (hbody : ∀ x ∈ xs, ∀ w, J w → Safe C i (fun r w' => match r with
      | .ok _ => J w'
      | .error e => Q (.error e) w') (body x) w)
    (hend : ∀ w', J w' → C.inv w' → Q (.ok ()) w') :
    Safe C i Q (Process.forEach xs body) w := by
  induction xs generalizing w with
  | nil => exact fun w' hr hi => hend w' (hstable w w' hJ hr hi) hi
  | cons x xs ih =>
      rw [Process.forEach_cons]
      apply Safe.bind
      refine Safe.mono (hbody x List.mem_cons_self w hJ) ?_
      intro r w' _ hr
      cases r with
      | ok a => exact ih hr fun y hy => hbody y (List.mem_cons_of_mem x hy)
      | error e => exact hr

end Safe

section Sound

variable {ι σ ℓ ε α μ : Type*} [DecidableEq ι] {S : Setting ι σ ℓ μ}

/-- The invariant holds and every thread is safe. -/
def Sound (C : Contract S) (Q : ι → Except ε α → Snapshot σ μ → Prop)
    (c : Config ι σ ℓ ε α μ) : Prop :=
  C.inv c.toSnapshot ∧ ∀ i, Safe C i (Q i) (c.pool i) c.toSnapshot

variable {C : Contract S} {Q : ι → Except ε α → Snapshot σ μ → Prop}

/-- One step keeps every thread safe. The thread that moved is safe by its own
proof, the others because its guarantee is within their rely. -/
theorem Sound.step {c c' : Config ι σ ℓ ε α μ} (hc : Sound C Q c)
    (h : Step S c c') : Sound C Q c' := by
  obtain ⟨hinv, hsafe⟩ := hc
  cases h with
  | call i hpool hadm =>
      have hi := hsafe i
      rw [hpool] at hi
      obtain ⟨hg, hinv', hnext⟩ :=
        (hi c.toSnapshot (C.rely_refl i _) hinv).1 hadm
      refine ⟨hinv', fun j => ?_⟩
      by_cases hij : j = i
      · subst hij
        simpa using hnext
      · simpa [hij] using (hsafe j).stable (C.guar_rely (Ne.symm hij) hinv hg)
  | fault i hpool hfail =>
      have hi := hsafe i
      rw [hpool] at hi
      refine ⟨hinv, fun j => ?_⟩
      by_cases hij : j = i
      · subst hij
        simpa using (hi c.toSnapshot (C.rely_refl j _) hinv).2 hfail
      · simpa [hij] using hsafe j
  | env henv =>
      exact ⟨C.env_inv henv hinv, fun j =>
        (hsafe j).stable (C.env_rely j henv hinv)⟩

/-- One thread may be held to another postcondition from here on. -/
theorem Sound.update {c : Config ι σ ℓ ε α μ} (hc : Sound C Q c) {i : ι}
    {R : Except ε α → Snapshot σ μ → Prop} (h : Safe C i R (c.pool i) c.toSnapshot) :
    Sound C (Function.update Q i R) c := by
  refine ⟨hc.1, fun j => ?_⟩
  by_cases hij : j = i
  · subst hij
    simpa using h
  · simpa [hij] using hc.2 j

/-- Soundness: what the threads prove one by one holds in every interleaving. -/
theorem Sound.reaches {c c' : Config ι σ ℓ ε α μ} (hc : Sound C Q c)
    (h : Reaches S c c') : Sound C Q c' :=
  h.invariant (fun _ _ hd hs => hd.step hs) hc

omit [DecidableEq ι] in
/-- The result of a finished thread satisfies its postcondition. -/
theorem Sound.result {c : Config ι σ ℓ ε α μ} (hc : Sound C Q c) {i : ι} {a : α}
    (h : c.pool i = .ret a) : Q i (.ok a) c.toSnapshot := by
  have hi := hc.2 i
  rw [h] at hi
  exact hi c.toSnapshot (C.rely_refl i _) hc.1

omit [DecidableEq ι] in
theorem Sound.exception {c : Config ι σ ℓ ε α μ} (hc : Sound C Q c) {i : ι}
    {e : ε} (h : c.pool i = .raise e) : Q i (.error e) c.toSnapshot := by
  have hi := hc.2 i
  rw [h] at hi
  exact hi c.toSnapshot (C.rely_refl i _) hc.1

/-- A preorder that contains every guarantee and every step of the environment
relates any two moments of a run. -/
theorem Sound.always {K : Snapshot σ μ → Snapshot σ μ → Prop}
    (hrefl : ∀ w, K w w) (htrans : ∀ w₁ w₂ w₃, K w₁ w₂ → K w₂ w₃ → K w₁ w₃)
    (hguar : ∀ i w w', C.inv w → C.guar i w w' → K w w')
    (henv : ∀ s s' m, C.inv ⟨s, m⟩ → S.env s s' → K ⟨s, m⟩ ⟨s', m⟩)
    {c c' : Config ι σ ℓ ε α μ} (hc : Sound C Q c) (h : Reaches S c c') :
    K c.toSnapshot c'.toSnapshot := by
  induction h with
  | refl => exact hrefl _
  | @tail d d' hcd hs ih =>
      refine htrans _ _ _ ih ?_
      obtain ⟨hinv, hsafe⟩ := hc.reaches hcd
      cases hs with
      | call i hpool hadm =>
          have hi := hsafe i
          rw [hpool] at hi
          exact hguar i _ _ hinv
            ((hi d.toSnapshot (C.rely_refl i _) hinv).1 hadm).1
      | fault i hpool hfail => exact hrefl _
      | env he => exact henv _ _ _ hinv he

end Sound

end Concurrency
