import Mathlib.Logic.Function.Basic

/-!
# Processes made of atomic calls

A `Process` is a program cut at the points where it touches the shared state.
Between two such points it only computes; at each of them it makes one atomic
call, and other processes may act before the call and after it. `run` reads a
process alone, with nobody else acting, and is the sequential meaning of the
same definition.

A call carries a label, so that a run can say which calls were made, and the
continuation for the case that the call itself fails. A failed call leaves the
shared state as it was.

A process that was written over one state acts on a larger one: it sees the part that it knows, and
`lift` says what its calls do to the whole.
-/

namespace Concurrency

universe u

/-- A process over shared states `σ`. It has returned a value, it has raised an
exception, or its next step is the atomic call labelled `l`: the call rewrites
the state by `next`, `rest` continues from the state the call found, and `fault`
continues when the call fails. -/
inductive Process (σ ℓ ε α : Type*) where
  | ret (a : α)
  | raise (e : ε)
  | call (l : ℓ) (next : σ → σ) (rest : σ → Process σ ℓ ε α)
      (fault : Process σ ℓ ε α)

namespace Process

variable {σ ℓ ε : Type*} {α β γ : Type u}

/-- Sequencing: an exception skips the continuation. -/
def bind : Process σ ℓ ε α → (α → Process σ ℓ ε β) → Process σ ℓ ε β
  | ret a, k => k a
  | raise e, _ => raise e
  | call l next rest fault, k =>
      call l next (fun s => (rest s).bind k) (fault.bind k)

/-- `try`/`catch`: the handler covers the exceptions raised by the process and
by failing calls. -/
def tryCatch : Process σ ℓ ε α → (ε → Process σ ℓ ε α) → Process σ ℓ ε α
  | ret a, _ => ret a
  | raise e, h => h e
  | call l next rest fault, h =>
      call l next (fun s => (rest s).tryCatch h) (fault.tryCatch h)

instance : Monad (Process σ ℓ ε) where
  pure := ret
  bind := bind

@[simp] theorem pure_eq (a : α) : (pure a : Process σ ℓ ε α) = ret a := rfl

@[simp] theorem ret_bind (a : α) (k : α → Process σ ℓ ε β) :
    ret a >>= k = k a := rfl

@[simp] theorem raise_bind (e : ε) (k : α → Process σ ℓ ε β) :
    raise e >>= k = raise e := rfl

@[simp] theorem call_bind (l : ℓ) (next : σ → σ)
    (rest : σ → Process σ ℓ ε α) (fault : Process σ ℓ ε α)
    (k : α → Process σ ℓ ε β) :
    call l next rest fault >>= k =
      call l next (fun s => rest s >>= k) (fault >>= k) := rfl

theorem bind_ret (p : Process σ ℓ ε α) : p >>= ret = p := by
  induction p with
  | ret a => rfl
  | raise e => rfl
  | call l next rest fault ihr ihf =>
      rw [call_bind, ihf]
      exact congrArg (call l next · fault) (funext ihr)

theorem bind_assoc (p : Process σ ℓ ε α) (k : α → Process σ ℓ ε β)
    (k' : β → Process σ ℓ ε γ) :
    p >>= k >>= k' = p >>= fun a => k a >>= k' := by
  induction p with
  | ret a => rfl
  | raise e => rfl
  | call l next rest fault ihr ihf =>
      simp only [call_bind, ihf]
      exact congrArg (call l next · _) (funext ihr)

instance : LawfulMonad (Process σ ℓ ε) :=
  LawfulMonad.mk' (Process σ ℓ ε) bind_ret (fun _ _ => rfl) bind_assoc

/-- One atomic call that computes `f`; `err` is what a failing call raises. -/
def atomic (l : ℓ) (err : ε) (f : σ → Except ε α × σ) : Process σ ℓ ε α :=
  call l (fun s => (f s).2)
    (fun s => match (f s).1 with
      | .ok a => ret a
      | .error e => raise e)
    (raise err)

/-- A call that only reads. -/
def query (l : ℓ) (err : ε) (g : σ → α) : Process σ ℓ ε α :=
  call l id (fun s => ret (g s)) (raise err)

/-- A call that rewrites the state and answers from the state it found. -/
def modify (l : ℓ) (err : ε) (f : σ → σ) (g : σ → α) : Process σ ℓ ε α :=
  call l f (fun s => ret (g s)) (raise err)

/-- A loop over a list, one body after the other. -/
def forEach {δ : Type*} (xs : List δ) (body : δ → Process σ ℓ ε Unit) :
    Process σ ℓ ε Unit :=
  match xs with
  | [] => ret ()
  | x :: xs => body x >>= fun _ => forEach xs body

@[simp] theorem forEach_nil {δ : Type*} (body : δ → Process σ ℓ ε Unit) :
    forEach [] body = ret () := rfl

theorem forEach_cons {δ : Type*} (x : δ) (xs : List δ)
    (body : δ → Process σ ℓ ε Unit) :
    forEach (x :: xs) body = body x >>= fun _ => forEach xs body := rfl

/-- How a process has ended, if it has. -/
def result? : Process σ ℓ ε α → Option (Except ε α)
  | ret a => some (.ok a)
  | raise e => some (.error e)
  | call _ _ _ _ => none

theorem eq_ret_of_result? {p : Process σ ℓ ε α} {a : α} (h : p.result? = some (.ok a)) :
    p = ret a := by
  cases p with
  | ret b => exact congrArg ret (Except.ok.inj (Option.some.inj h))
  | raise e => cases Option.some.inj h
  | call l next rest fault => cases h

theorem exists_ret_of_result? {p : Process σ ℓ ε α} (h : p.result?.any Except.isOk = true) :
    ∃ a, p = ret a := by
  cases p with
  | ret a => exact ⟨a, rfl⟩
  | raise e => cases h
  | call l next rest fault => cases h

/-- The sequential run: every call succeeds and nobody else acts. -/
def run : Process σ ℓ ε α → σ → Except ε α × σ
  | ret a, s => (.ok a, s)
  | raise e, s => (.error e, s)
  | call _ next rest _, s => (rest s).run (next s)

@[simp] theorem run_ret (a : α) (s : σ) :
    (ret a : Process σ ℓ ε α).run s = (.ok a, s) := rfl

@[simp] theorem run_raise (e : ε) (s : σ) :
    (raise e : Process σ ℓ ε α).run s = (.error e, s) := rfl

@[simp] theorem run_call (l : ℓ) (next : σ → σ) (rest : σ → Process σ ℓ ε α)
    (fault : Process σ ℓ ε α) (s : σ) :
    (call l next rest fault).run s = (rest s).run (next s) := rfl

/-- Running a sequence runs the continuation from where the first part stopped,
unless the first part raised. -/
theorem run_bind (p : Process σ ℓ ε α) (k : α → Process σ ℓ ε β) (s : σ) :
    (p >>= k).run s =
      match p.run s with
      | (.ok a, s') => (k a).run s'
      | (.error e, s') => (.error e, s') := by
  induction p generalizing s with
  | ret a => rfl
  | raise e => rfl
  | call l next rest fault ihr _ => exact ihr s (next s)

theorem run_bind_ok {p : Process σ ℓ ε α} {a : α} {s s' : σ}
    (h : p.run s = (.ok a, s')) (k : α → Process σ ℓ ε β) :
    (p >>= k).run s = (k a).run s' := by
  rw [run_bind, h]

theorem run_bind_error {p : Process σ ℓ ε α} {e : ε} {s s' : σ}
    (h : p.run s = (.error e, s')) (k : α → Process σ ℓ ε β) :
    (p >>= k).run s = (.error e, s') := by
  rw [run_bind, h]

theorem run_map (f : α → β) (p : Process σ ℓ ε α) (s : σ) :
    (f <$> p).run s =
      match p.run s with
      | (.ok a, s') => (.ok (f a), s')
      | (.error e, s') => (.error e, s') :=
  run_bind p (fun a => ret (f a)) s

theorem run_tryCatch (p : Process σ ℓ ε α) (h : ε → Process σ ℓ ε α) (s : σ) :
    (p.tryCatch h).run s =
      match p.run s with
      | (.ok a, s') => (.ok a, s')
      | (.error e, s') => (h e).run s' := by
  induction p generalizing s with
  | ret a => rfl
  | raise e => rfl
  | call l next rest fault ihr _ => exact ihr s (next s)

@[simp] theorem run_atomic (l : ℓ) (err : ε) (f : σ → Except ε α × σ) (s : σ) :
    (atomic l err f).run s = f s := by
  rcases h : f s with ⟨_ | a, s'⟩ <;> simp [atomic, h]

@[simp] theorem run_query (l : ℓ) (err : ε) (g : σ → α) (s : σ) :
    (query l err g).run s = (.ok (g s), s) := rfl

@[simp] theorem run_modify (l : ℓ) (err : ε) (f : σ → σ) (g : σ → α) (s : σ) :
    (modify l err f g).run s = (.ok (g s), f s) := rfl

@[simp] theorem run_query_bind (l : ℓ) (err : ε) (g : σ → α)
    (k : α → Process σ ℓ ε β) (s : σ) :
    (query l err g >>= k).run s = (k (g s)).run s := rfl

@[simp] theorem run_modify_bind (l : ℓ) (err : ε) (f : σ → σ) (g : σ → α)
    (k : α → Process σ ℓ ε β) (s : σ) :
    (modify l err f g >>= k).run s = (k (g s)).run (f s) := rfl

/-- A handler that throws every exception again changes nothing. -/
theorem tryCatch_raise (p : Process σ ℓ ε α) : p.tryCatch raise = p := by
  induction p with
  | ret a => rfl
  | raise e => rfl
  | call l next rest fault ihr ihf =>
      rw [tryCatch, ihf]
      exact congrArg (call l next · fault) (funext ihr)

/-- A sequence that ends well went through its first part. -/
theorem run_bind_eq_ok {p : Process σ ℓ ε α} {k : α → Process σ ℓ ε β} {s s' : σ} {b : β} :
    (p >>= k).run s = (.ok b, s') ↔
      ∃ a s₁, p.run s = (.ok a, s₁) ∧ (k a).run s₁ = (.ok b, s') := by
  rw [run_bind]
  rcases p.run s with ⟨_ | a, s₁⟩ <;> simp [and_assoc]

/-- The calls that the sequential run makes. -/
def trace : Process σ ℓ ε α → σ → List ℓ
  | ret _, _ => []
  | raise _, _ => []
  | call l next rest _, s => l :: (rest s).trace (next s)

theorem trace_query_bind (l : ℓ) (e : ε) (f : σ → α) (k : α → Process σ ℓ ε β) (s : σ) :
    (query l e f >>= k).trace s = l :: (k (f s)).trace s := rfl

/-- A sequence makes the calls of its parts. -/
theorem trace_bind_ok {p : Process σ ℓ ε α} {a : α} {s s' : σ} (h : p.run s = (.ok a, s'))
    (k : α → Process σ ℓ ε β) : (p >>= k).trace s = p.trace s ++ (k a).trace s' := by
  induction p generalizing s with
  | ret b =>
      cases h
      rfl
  | raise e => cases h
  | call l next rest fault ihr _ => exact congrArg (l :: ·) (ihr s h)

/-- The sequential run in which the calls that `fails` names fail. -/
def runWith (fails : ℓ → Bool) : Process σ ℓ ε α → σ → Except ε α × σ
  | ret a, s => (.ok a, s)
  | raise e, s => (.error e, s)
  | call l next rest fault, s =>
      if fails l then fault.runWith fails s else (rest s).runWith fails (next s)

section RunWith

variable (fails : ℓ → Bool)

@[simp] theorem runWith_ret (a : α) (s : σ) :
    (ret a : Process σ ℓ ε α).runWith fails s = (.ok a, s) := rfl

@[simp] theorem runWith_raise (e : ε) (s : σ) :
    (raise e : Process σ ℓ ε α).runWith fails s = (.error e, s) := rfl

theorem runWith_bind (p : Process σ ℓ ε α) (k : α → Process σ ℓ ε β) (s : σ) :
    (p >>= k).runWith fails s =
      match p.runWith fails s with
      | (.ok a, s') => (k a).runWith fails s'
      | (.error e, s') => (.error e, s') := by
  induction p generalizing s with
  | ret a => rfl
  | raise e => rfl
  | call l next rest fault ihr ihf =>
      rw [call_bind, runWith, runWith]
      split
      · exact ihf s
      · exact ihr s (next s)

/-- What a renamed result comes from. -/
theorem runWith_map (f : α → β) (p : Process σ ℓ ε α) (s : σ) :
    ((f <$> p).runWith fails s).1 = (p.runWith fails s).1.map f := by
  change ((p >>= fun a => ret (f a)).runWith fails s).1 = _
  rw [runWith_bind]
  rcases p.runWith fails s with ⟨_ | a, s'⟩ <;> rfl

theorem runWith_bind_eq_ok {p : Process σ ℓ ε α} {k : α → Process σ ℓ ε β} {s s' : σ}
    {b : β} :
    (p >>= k).runWith fails s = (.ok b, s') ↔
      ∃ a s₁, p.runWith fails s = (.ok a, s₁) ∧ (k a).runWith fails s₁ = (.ok b, s') := by
  rw [runWith_bind]
  rcases p.runWith fails s with ⟨_ | a, s₁⟩ <;> simp [and_assoc]

theorem runWith_tryCatch (p : Process σ ℓ ε α) (h : ε → Process σ ℓ ε α) (s : σ) :
    (p.tryCatch h).runWith fails s =
      match p.runWith fails s with
      | (.ok a, s') => (.ok a, s')
      | (.error e, s') => (h e).runWith fails s' := by
  induction p generalizing s with
  | ret a => rfl
  | raise e => rfl
  | call l next rest fault ihr ihf =>
      rw [tryCatch, runWith, runWith]
      split
      · exact ihf s
      · exact ihr s (next s)

/-- With a handler that always raises, a `try` block ends well only by itself. -/
theorem runWith_tryCatch_eq_ok {p : Process σ ℓ ε α} {h : ε → Process σ ℓ ε α}
    (hraise : ∀ e s, ∃ e' s', (h e).runWith fails s = (.error e', s')) {s s' : σ} {a : α} :
    (p.tryCatch h).runWith fails s = (.ok a, s') ↔ p.runWith fails s = (.ok a, s') := by
  rw [runWith_tryCatch]
  rcases p.runWith fails s with ⟨e | b, s₁⟩
  · obtain ⟨e', s₂, hrun⟩ := hraise e s₁
    simp [hrun]
  · rfl

/-- A `try` block whose failure is passed over. -/
theorem runWith_tryCatch_ret (p : Process σ ℓ ε Unit) (s : σ) :
    (p.tryCatch fun _ => ret ()).runWith fails s = (.ok (), (p.runWith fails s).2) := by
  rw [runWith_tryCatch]
  rcases p.runWith fails s with ⟨_ | _, s'⟩ <;> rfl

@[simp] theorem runWith_query (l : ℓ) (err : ε) (g : σ → α) (s : σ) :
    (query l err g).runWith fails s =
      if fails l then (.error err, s) else (.ok (g s), s) := rfl

@[simp] theorem runWith_modify (l : ℓ) (err : ε) (f : σ → σ) (g : σ → α) (s : σ) :
    (modify l err f g).runWith fails s =
      if fails l then (.error err, s) else (.ok (g s), f s) := rfl

@[simp] theorem runWith_atomic (l : ℓ) (err : ε) (f : σ → Except ε α × σ) (s : σ) :
    (atomic l err f).runWith fails s = if fails l then (.error err, s) else f s := by
  rcases h : f s with ⟨_ | a, s'⟩ <;> simp [atomic, runWith, h]

/-- A run in which no call fails. -/
theorem runWith_false (p : Process σ ℓ ε α) (s : σ) :
    p.runWith (fun _ => false) s = p.run s := by
  induction p generalizing s with
  | ret a => rfl
  | raise e => rfl
  | call l next rest fault ihr _ => exact ihr s (next s)

end RunWith

/-- The same process with its calls under other labels. -/
def relabel {ℓ' : Type*} (f : ℓ → ℓ') : Process σ ℓ ε α → Process σ ℓ' ε α
  | ret a => ret a
  | raise e => raise e
  | call l next rest fault =>
      call (f l) next (fun s => (rest s).relabel f) (fault.relabel f)

section Relabel

variable {ℓ' : Type*} (f : ℓ → ℓ')

@[simp] theorem relabel_ret (a : α) :
    (ret a : Process σ ℓ ε α).relabel f = ret a := rfl

@[simp] theorem relabel_raise (e : ε) :
    (raise e : Process σ ℓ ε α).relabel f = raise e := rfl

@[simp] theorem relabel_call (l : ℓ) (next : σ → σ) (rest : σ → Process σ ℓ ε α)
    (fault : Process σ ℓ ε α) :
    (call l next rest fault).relabel f =
      call (f l) next (fun s => (rest s).relabel f) (fault.relabel f) := rfl

@[simp] theorem relabel_query (l : ℓ) (err : ε) (g : σ → α) :
    (query l err g).relabel f = query (f l) err g := rfl

@[simp] theorem relabel_modify (l : ℓ) (err : ε) (next : σ → σ) (g : σ → α) :
    (modify l err next g).relabel f = modify (f l) err next g := rfl

@[simp] theorem relabel_atomic (l : ℓ) (err : ε) (g : σ → Except ε α × σ) :
    (atomic l err g).relabel f = atomic (f l) err g := by
  have hrest : (fun s => ((match (g s).1 with
      | .ok a => ret a
      | .error e => raise e : Process σ ℓ ε α)).relabel f) =
        fun s => match (g s).1 with
          | .ok a => ret a
          | .error e => raise e := by
    funext s
    cases (g s).1 <;> rfl
  exact congrArg (call (f l) _ · _) hrest

@[simp] theorem relabel_bind (p : Process σ ℓ ε α) (k : α → Process σ ℓ ε β) :
    (p >>= k).relabel f = p.relabel f >>= fun a => (k a).relabel f := by
  induction p with
  | ret a => rfl
  | raise e => rfl
  | call l next rest fault ihr ihf =>
      rw [call_bind, relabel_call, ihf]
      exact congrArg (call (f l) next · _) (funext ihr)

theorem relabel_map (g : α → β) (p : Process σ ℓ ε α) :
    (g <$> p).relabel f = g <$> p.relabel f :=
  relabel_bind f p _

@[simp] theorem relabel_tryCatch (p : Process σ ℓ ε α) (h : ε → Process σ ℓ ε α) :
    (p.tryCatch h).relabel f = (p.relabel f).tryCatch fun e => (h e).relabel f := by
  induction p with
  | ret a => rfl
  | raise e => rfl
  | call l next rest fault ihr ihf =>
      rw [tryCatch, relabel_call, ihf]
      exact congrArg (call (f l) next · _) (funext ihr)

@[simp] theorem run_relabel (p : Process σ ℓ ε α) (s : σ) :
    (p.relabel f).run s = p.run s := by
  induction p generalizing s with
  | ret a => rfl
  | raise e => rfl
  | call l next rest fault ihr _ => exact ihr s (next s)

theorem runWith_relabel (fails : ℓ' → Bool) (p : Process σ ℓ ε α) (s : σ) :
    (p.relabel f).runWith fails s = p.runWith (fun l => fails (f l)) s := by
  induction p generalizing s with
  | ret a => rfl
  | raise e => rfl
  | call l next rest fault ihr ihf =>
      rw [relabel_call, runWith, runWith]
      split
      · exact ihf s
      · exact ihr s (next s)

end Relabel

/-- Every call of the process satisfies `P`, in whatever states it is run and
whichever calls fail, and every exception it lets out satisfies `R`. -/
def Confined (P : ℓ → (σ → σ) → Prop) (R : ε → Prop) : Process σ ℓ ε α → Prop
  | ret _ => True
  | raise e => R e
  | call l next rest fault =>
      P l next ∧ (∀ s, (rest s).Confined P R) ∧ fault.Confined P R

section Confined

variable {P : ℓ → (σ → σ) → Prop} {R T : ε → Prop}

@[simp] theorem confined_ret (a : α) : (ret a : Process σ ℓ ε α).Confined P R := trivial

@[simp] theorem confined_raise (e : ε) :
    (raise e : Process σ ℓ ε α).Confined P R ↔ R e := Iff.rfl

theorem Confined.mono {P' : ℓ → (σ → σ) → Prop} {p : Process σ ℓ ε α}
    (hp : p.Confined P R) (hP : ∀ l f, P l f → P' l f) (hR : ∀ e, R e → T e) :
    p.Confined P' T := by
  induction p with
  | ret a => trivial
  | raise e => exact hR e hp
  | call l next rest fault ihr ihf =>
      obtain ⟨hl, hrest, hfault⟩ := hp
      exact ⟨hP l next hl, fun s => ihr s (hrest s), ihf hfault⟩

theorem Confined.bind {p : Process σ ℓ ε α} {k : α → Process σ ℓ ε β}
    (hp : p.Confined P R) (hk : ∀ a, (k a).Confined P R) : (p >>= k).Confined P R := by
  induction p with
  | ret a => exact hk a
  | raise e => exact hp
  | call l next rest fault ihr ihf =>
      obtain ⟨hl, hrest, hfault⟩ := hp
      exact ⟨hl, fun s => ihr s (hrest s), ihf hfault⟩

theorem Confined.map {p : Process σ ℓ ε α} (f : α → β) (hp : p.Confined P R) :
    (f <$> p).Confined P R :=
  hp.bind fun _ => trivial

/-- The exceptions of a `try` block count only for its handler. -/
theorem Confined.tryCatch {p : Process σ ℓ ε α} {h : ε → Process σ ℓ ε α}
    (hp : p.Confined P T) (hh : ∀ e, T e → (h e).Confined P R) :
    (p.tryCatch h).Confined P R := by
  induction p with
  | ret a => trivial
  | raise e => exact hh e hp
  | call l next rest fault ihr ihf =>
      obtain ⟨hl, hrest, hfault⟩ := hp
      exact ⟨hl, fun s => ihr s (hrest s), ihf hfault⟩

theorem confined_query {l : ℓ} {err : ε} {g : σ → α} (hl : P l id) (herr : R err) :
    (query l err g).Confined P R :=
  ⟨hl, fun _ => trivial, herr⟩

/-- What follows a read is confined for each answer that it can have. -/
theorem confined_query_bind {l : ℓ} {err : ε} {g : σ → α} {k : α → Process σ ℓ ε β} (hl : P l id)
    (herr : R err) (hk : ∀ s, (k (g s)).Confined P R) : (query l err g >>= k).Confined P R :=
  ⟨hl, hk, herr⟩

theorem confined_modify {l : ℓ} {err : ε} {f : σ → σ} {g : σ → α} (hl : P l f)
    (herr : R err) : (modify l err f g).Confined P R :=
  ⟨hl, fun _ => trivial, herr⟩

theorem confined_atomic {l : ℓ} {err : ε} {f : σ → Except ε α × σ}
    (hl : P l fun s => (f s).2) (hf : ∀ s e, (f s).1 = .error e → R e) (herr : R err) :
    (atomic l err f).Confined P R := by
  refine ⟨hl, fun s => ?_, herr⟩
  cases h : (f s).1 with
  | ok a => simp [h]
  | error e => simpa [h] using hf s e h

theorem Confined.forEach {δ : Type*} {body : δ → Process σ ℓ ε Unit} {xs : List δ}
    (hbody : ∀ x ∈ xs, (body x).Confined P R) :
    (Process.forEach xs body).Confined P R := by
  induction xs with
  | nil => trivial
  | cons x xs ih =>
      exact (hbody x List.mem_cons_self).bind fun _ =>
        ih fun y hy => hbody y (List.mem_cons_of_mem x hy)

/-- A process under other labels makes the same calls. -/
theorem Confined.relabel {ℓ' : Type*} {f : ℓ → ℓ'} {P : ℓ' → (σ → σ) → Prop}
    {p : Process σ ℓ ε α} (hp : p.Confined (fun l => P (f l)) R) :
    (p.relabel f).Confined P R := by
  induction p with
  | ret a => trivial
  | raise e => exact hp
  | call l next rest fault ihr ihf =>
      obtain ⟨hl, hrest, hfault⟩ := hp
      exact ⟨hl, fun s => ihr s (hrest s), ihf hfault⟩

/-- What every call keeps, a run keeps, whichever calls fail in it. -/
theorem Confined.runWith_kept {r : σ → σ → Prop} (hrefl : ∀ s, r s s)
    (htrans : ∀ s₁ s₂ s₃, r s₁ s₂ → r s₂ s₃ → r s₁ s₃) {p : Process σ ℓ ε α}
    (hp : p.Confined (fun _ f => ∀ s, r s (f s)) R) (fails : ℓ → Bool) (s : σ) :
    r s (p.runWith fails s).2 := by
  induction p generalizing s with
  | ret a => exact hrefl s
  | raise e => exact hrefl s
  | call l next rest fault ihr ihf =>
      obtain ⟨hl, hrest, hfault⟩ := hp
      rw [runWith]
      split
      · exact ihf hfault s
      · exact htrans _ _ _ (hl s) (ihr s (hrest s) (next s))

end Confined

end Process

end Concurrency

namespace Concurrency

namespace Process

universe u

variable {σ τ ℓ ε : Type*} {α β : Type u} {view : τ → σ} {lift : ℓ → (σ → σ) → τ → τ}

/-- The process over the larger state. -/
def extend (view : τ → σ) (lift : ℓ → (σ → σ) → τ → τ) : Process σ ℓ ε α → Process τ ℓ ε α
  | ret a => ret a
  | raise e => raise e
  | call l next rest fault =>
      call l (lift l next) (fun t => (rest (view t)).extend view lift) (fault.extend view lift)

@[simp] theorem extend_ret (a : α) :
    (ret a : Process σ ℓ ε α).extend view lift = ret a := rfl

@[simp] theorem extend_bind (p : Process σ ℓ ε α) (k : α → Process σ ℓ ε β) :
    (p >>= k).extend view lift = p.extend view lift >>= fun a => (k a).extend view lift := by
  induction p with
  | ret a => rfl
  | raise e => rfl
  | call l next rest fault ihr ihf =>
      rw [call_bind, extend, ihf]
      exact congrArg (call l (lift l next) · _) (funext fun t => ihr (view t))

@[simp] theorem extend_tryCatch (p : Process σ ℓ ε α) (h : ε → Process σ ℓ ε α) :
    (p.tryCatch h).extend view lift =
      (p.extend view lift).tryCatch fun e => (h e).extend view lift := by
  induction p with
  | ret a => rfl
  | raise e => rfl
  | call l next rest fault ihr ihf =>
      rw [tryCatch, extend, ihf]
      exact congrArg (call l (lift l next) · _) (funext fun t => ihr (view t))

@[simp] theorem extend_modify (l : ℓ) (err : ε) (next : σ → σ) (g : σ → α) :
    (modify l err next g).extend view lift =
      modify l err (lift l next) fun t => g (view t) := rfl

@[simp] theorem extend_query (l : ℓ) (err : ε) (g : σ → α) :
    (query l err g).extend view lift = modify l err (lift l id) fun t => g (view t) := rfl

/-- The calls are those of the process, lifted. -/
theorem Confined.extend {P : ℓ → (σ → σ) → Prop} {P' : ℓ → (τ → τ) → Prop} {R : ε → Prop}
    {p : Process σ ℓ ε α} (hp : p.Confined P R) (hP : ∀ l next, P l next → P' l (lift l next)) :
    (p.extend view lift).Confined P' R := by
  induction p with
  | ret a => trivial
  | raise e => exact hp
  | call l next rest fault ihr ihf =>
      obtain ⟨hl, hrest, hfault⟩ := hp
      exact ⟨hP l next hl, fun t => ihr (view t) (hrest (view t)), ihf hfault⟩

end Process

end Concurrency
