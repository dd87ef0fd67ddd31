import FifiAlert.Concurrency.Process
import Mathlib.Algebra.GroupWithZero.Nat
import Mathlib.Logic.Relation

/-!
# Interleavings of a pool of processes

A `Config` is the shared state, a pool of processes indexed by an arbitrary
type, and the marks of the notable calls made so far. `Step` lets one process
of the pool make its next call, or the environment change the state. Since the
pool is arbitrary, so is the number of processes, and since the index of the
next step is free, every interleaving is a run.

The marks are a history variable: no process reads them. They say what a run
did, for statements such as "at most one process made this call".
-/

namespace Concurrency

/-- A pool of two threads can be numbered from zero. -/
instance neZeroTwo : NeZero 2 := Nat.instNeZeroSucc

instance neZeroThree : NeZero 3 := Nat.instNeZeroSucc

/-- What holds of the mark of a call that leaves none. -/
theorem forall_of_unmarked {μ : Type*} {mark : Option μ} {P : μ → Prop} (h : mark = none) :
    ∀ m, mark = some m → P m := by
  rintro m rfl
  cases h

/-- The shared state together with the marks of the notable calls made so far,
newest first. -/
@[ext] structure Snapshot (σ μ : Type*) where
  state : σ
  marks : List μ

/-- What surrounds the pool: which calls leave a mark, how the environment may
change the state, which calls may fail, and which calls are admitted in the
runs under consideration. -/
structure Setting (ι σ ℓ μ : Type*) where
  mark : ι → ℓ → σ → Option μ
  env : σ → σ → Prop
  mayFail : ℓ → Prop
  admits : ι → ℓ → Snapshot σ μ → Prop

/-- The snapshot after thread `i` has made the call `l` that rewrites the state
by `next`. -/
def Snapshot.after {ι σ ℓ μ : Type*} (w : Snapshot σ μ)
    (mark : ι → ℓ → σ → Option μ) (i : ι) (l : ℓ) (next : σ → σ) :
    Snapshot σ μ where
  state := next w.state
  marks := (mark i l w.state).toList ++ w.marks

@[simp] theorem Snapshot.state_after {ι σ ℓ μ : Type*} (w : Snapshot σ μ)
    (mark : ι → ℓ → σ → Option μ) (i : ι) (l : ℓ) (next : σ → σ) :
    (w.after mark i l next).state = next w.state := rfl

theorem Snapshot.mem_after {ι σ ℓ μ : Type*} {w : Snapshot σ μ}
    {mark : ι → ℓ → σ → Option μ} {i : ι} {l : ℓ} {next : σ → σ} {m : μ} :
    m ∈ (w.after mark i l next).marks ↔ mark i l w.state = some m ∨ m ∈ w.marks := by
  cases h : mark i l w.state with
  | none => simp [Snapshot.after, h]
  | some m' => simp [Snapshot.after, h, eq_comm]

theorem Snapshot.mem_after_of_mem {ι σ ℓ μ : Type*} {w : Snapshot σ μ}
    {mark : ι → ℓ → σ → Option μ} {i : ι} {l : ℓ} {next : σ → σ} {m : μ}
    (h : m ∈ w.marks) : m ∈ (w.after mark i l next).marks :=
  Snapshot.mem_after.2 (.inr h)

section Own

variable {ι σ ℓ μ : Type*} [DecidableEq ι] {thread : μ → ι}
  {mark : ι → ℓ → σ → Option μ} {w : Snapshot σ μ}

/-- The marks left by thread `i`. -/
def Snapshot.own (w : Snapshot σ μ) (thread : μ → ι) (i : ι) : List μ :=
  w.marks.filter fun m => thread m = i

theorem Snapshot.mem_own {i : ι} {m : μ} :
    m ∈ w.own thread i ↔ m ∈ w.marks ∧ thread m = i := by
  simp [Snapshot.own]

/-- A call adds its mark to the marks of its own thread. -/
theorem Snapshot.own_after_self (hthread : ∀ i l s m, mark i l s = some m → thread m = i)
    (i : ι) (l : ℓ) (next : σ → σ) :
    (w.after mark i l next).own thread i =
      (mark i l w.state).toList ++ w.own thread i := by
  cases h : mark i l w.state with
  | none => simp [own, after, h]
  | some m => simp [own, after, h, hthread i l _ m h]

/-- A call leaves the marks of the other threads alone. -/
theorem Snapshot.own_after_ne (hthread : ∀ i l s m, mark i l s = some m → thread m = i)
    {i j : ι} (hij : j ≠ i) (l : ℓ) (next : σ → σ) :
    (w.after mark j l next).own thread i = w.own thread i := by
  cases h : mark j l w.state with
  | none => simp [own, after, h]
  | some m => simp [own, after, h, hthread j l _ m h, hij]

/-- Two kinds of marks that every thread leaves equally often are equally many. -/
theorem countP_eq_of_own {p q : μ → Bool} {marks : List μ}
    (h : ∀ i, (marks.filter fun m => thread m = i).countP p =
      (marks.filter fun m => thread m = i).countP q) : marks.countP p = marks.countP q := by
  induction hn : marks.length using Nat.strongRecOn generalizing marks with
  | ind n ih =>
      cases marks with
      | nil => rfl
      | cons m rest =>
          let others := (m :: rest).filter fun m' => !decide (thread m' = thread m)
          have hshort : others.length < n := by
            have hle : others.length ≤ rest.length := by
              simpa [others] using
                List.length_filter_le (fun m' => !decide (thread m' = thread m)) rest
            rw [← hn, List.length_cons]
            exact Nat.lt_succ_of_le hle
          have hothers : others.countP p = others.countP q := by
            refine ih others.length hshort (fun i => ?_) rfl
            by_cases hi : i = thread m
            · subst hi
              have hnone : (others.filter fun m' => thread m' = thread m) = [] := by
                rw [List.filter_eq_nil_iff]
                intro m' hm'
                simpa using (List.mem_filter.1 hm').2
              rw [hnone, List.countP_nil, List.countP_nil]
            · have hsame : (others.filter fun m' => thread m' = i) =
                  (m :: rest).filter fun m' => thread m' = i := by
                rw [List.filter_filter]
                refine List.filter_congr fun m' _ => ?_
                by_cases hm' : thread m' = i <;> simp [hm', hi]
              rw [hsame]
              exact h i
          rw [List.countP_eq_countP_filter_add _ _ (fun m' => decide (thread m' = thread m)),
            List.countP_eq_countP_filter_add _ q (fun m' => decide (thread m' = thread m)), h]
          exact congrArg _ hothers

end Own

/-- A snapshot and the pool of processes still to be run. -/
structure Config (ι σ ℓ ε α μ : Type*) extends Snapshot σ μ where
  pool : ι → Process σ ℓ ε α

/-- The configuration in which no process has moved yet. -/
def Config.init {ι σ ℓ ε α μ : Type*} (s : σ) (pool : ι → Process σ ℓ ε α) :
    Config ι σ ℓ ε α μ where
  state := s
  marks := []
  pool := pool

section Step

variable {ι σ ℓ ε α μ : Type*} [DecidableEq ι]

/-- One step of the pool or of its environment. -/
inductive Step (S : Setting ι σ ℓ μ) :
    Config ι σ ℓ ε α μ → Config ι σ ℓ ε α μ → Prop where
  | call {c : Config ι σ ℓ ε α μ} (i : ι) {l : ℓ} {next : σ → σ}
      {rest : σ → Process σ ℓ ε α} {fault : Process σ ℓ ε α}
      (hpool : c.pool i = .call l next rest fault)
      (hadm : S.admits i l c.toSnapshot) :
      Step S c
        { c.toSnapshot.after S.mark i l next with
          pool := Function.update c.pool i (rest c.state) }
  | fault {c : Config ι σ ℓ ε α μ} (i : ι) {l : ℓ} {next : σ → σ}
      {rest : σ → Process σ ℓ ε α} {fault : Process σ ℓ ε α}
      (hpool : c.pool i = .call l next rest fault) (hfail : S.mayFail l) :
      Step S c { c with pool := Function.update c.pool i fault }
  | env {c : Config ι σ ℓ ε α μ} {s : σ} (henv : S.env c.state s) :
      Step S c { c with state := s }

/-- Runs: any number of steps, in any order. -/
def Reaches (S : Setting ι σ ℓ μ) :
    Config ι σ ℓ ε α μ → Config ι σ ℓ ε α μ → Prop :=
  Relation.ReflTransGen (Step S)

/-- A property kept by every step holds at the end of a run. -/
theorem Reaches.invariant {S : Setting ι σ ℓ μ}
    {P : Config ι σ ℓ ε α μ → Prop} {c c' : Config ι σ ℓ ε α μ}
    (hstep : ∀ d d', P d → Step S d d' → P d') (h : Reaches S c c') (hc : P c) :
    P c' := by
  induction h with
  | refl => exact hc
  | tail _ hs ih => exact hstep _ _ ih hs

/-- A pool of confined processes stays one. -/
theorem Reaches.pool_confined {S : Setting ι σ ℓ μ} {P : ι → ℓ → (σ → σ) → Prop}
    {R : ι → ε → Prop} {c c' : Config ι σ ℓ ε α μ} (hpool : ∀ i, (c.pool i).Confined (P i) (R i))
    (h : Reaches S c c') : ∀ i, (c'.pool i).Confined (P i) (R i) := by
  refine h.invariant (P := fun d => ∀ i, (d.pool i).Confined (P i) (R i)) ?_ hpool
  intro d d' hconf hs
  cases hs with
  | @call i l next rest fault hp hadm =>
      have hi := hconf i
      rw [hp] at hi
      exact (Function.forall_update_iff d.pool fun j p => p.Confined (P j) (R j)).2
        ⟨hi.2.1 d.state, fun j _ => hconf j⟩
  | @fault i l next rest fault hp hfail =>
      have hi := hconf i
      rw [hp] at hi
      exact (Function.forall_update_iff d.pool fun j p => p.Confined (P j) (R j)).2
        ⟨hi.2.2, fun j _ => hconf j⟩
  | env he => exact hconf

/-- What every admitted call of a pool of confined processes keeps, and its environment keeps, a
run keeps; `K` is known of the moments of the run already. -/
theorem Reaches.confined_along {S : Setting ι σ ℓ μ} {P : ι → ℓ → (σ → σ) → Prop}
    {R : ι → ε → Prop} {J K : Snapshot σ μ → Prop} {c c' : Config ι σ ℓ ε α μ}
    (hK : ∀ d : Config ι σ ℓ ε α μ, Reaches S c d → K d.toSnapshot)
    (hcall : ∀ i l next w, P i l next → S.admits i l w → K w → J w → J (w.after S.mark i l next))
    (henv : ∀ s s' m, S.env s s' → K ⟨s, m⟩ → J ⟨s, m⟩ → J ⟨s', m⟩)
    (hpool : ∀ i, (c.pool i).Confined (P i) (R i)) (h : Reaches S c c') (hc : J c.toSnapshot) :
    J c'.toSnapshot := by
  induction h with
  | refl => exact hc
  | @tail d d' hd hs ih =>
      cases hs with
      | @call i l next rest fault hp hadm =>
          have hi := Reaches.pool_confined hpool hd i
          rw [hp] at hi
          exact hcall i l next d.toSnapshot hi.1 hadm (hK d hd) ih
      | fault i hp hfail => exact ih
      | env he => exact henv _ _ _ he (hK d hd) ih

/-- The same when nothing is known beforehand. -/
theorem Reaches.confined {S : Setting ι σ ℓ μ} {P : ι → ℓ → (σ → σ) → Prop} {R : ι → ε → Prop}
    {J : Snapshot σ μ → Prop} {c c' : Config ι σ ℓ ε α μ}
    (hcall : ∀ i l next w, P i l next → S.admits i l w → J w → J (w.after S.mark i l next))
    (henv : ∀ s s' m, S.env s s' → J ⟨s, m⟩ → J ⟨s', m⟩)
    (hpool : ∀ i, (c.pool i).Confined (P i) (R i)) (h : Reaches S c c') (hc : J c.toSnapshot) :
    J c'.toSnapshot :=
  Reaches.confined_along (K := fun _ => True) (fun _ _ => trivial)
    (fun i l next w hl hadm _ => hcall i l next w hl hadm) (fun s s' m he _ => henv s s' m he)
    hpool h hc

/-- A run adds its marks in front. -/
theorem Reaches.marks_suffix {S : Setting ι σ ℓ μ} {c c' : Config ι σ ℓ ε α μ}
    (h : Reaches S c c') : c.marks <:+ c'.marks := by
  refine h.invariant (P := fun d => c.marks <:+ d.marks) ?_ (List.suffix_refl _)
  intro d d' hd hs
  cases hs with
  | call i hpool hadm => exact hd.trans (List.suffix_append _ _)
  | fault i hpool hfail => exact hd
  | env henv => exact hd

/-- Let thread `i` make its next call, if it has one. -/
def Config.move (mark : ι → ℓ → σ → Option μ) (c : Config ι σ ℓ ε α μ) (i : ι) :
    Config ι σ ℓ ε α μ :=
  match c.pool i with
  | .call l next rest _ =>
      { c.toSnapshot.after mark i l next with
        pool := Function.update c.pool i (rest c.state) }
  | _ => c

/-- Let the next call of thread `i` fail, if it has one. -/
def Config.drop (c : Config ι σ ℓ ε α μ) (i : ι) : Config ι σ ℓ ε α μ :=
  match c.pool i with
  | .call _ _ _ fault => { c with pool := Function.update c.pool i fault }
  | _ => c

/-- Run a schedule: the threads named in the list make their next calls in this
order. -/
def Config.schedule (mark : ι → ℓ → σ → Option μ)
    (c : Config ι σ ℓ ε α μ) (is : List ι) : Config ι σ ℓ ε α μ :=
  is.foldl (Config.move mark) c

theorem Reaches.move {S : Setting ι σ ℓ μ} {c : Config ι σ ℓ ε α μ} {i : ι}
    (hadm : ∀ l, S.admits i l c.toSnapshot) : Reaches S c (c.move S.mark i) := by
  unfold Config.move
  split
  next l next rest fault h =>
      exact .single (.call i h (hadm l))
  next => exact .refl

theorem Reaches.drop {S : Setting ι σ ℓ μ} {c : Config ι σ ℓ ε α μ} {i : ι}
    (hfail : ∀ l, S.mayFail l) : Reaches S c (c.drop i) := by
  unfold Config.drop
  split
  next l next rest fault h =>
      exact .single (.fault i h (hfail l))
  next => exact .refl

/-- A schedule is a run, when every call is admitted. -/
theorem Reaches.schedule {S : Setting ι σ ℓ μ} (hadm : ∀ i l w, S.admits i l w)
    (is : List ι) (c : Config ι σ ℓ ε α μ) :
    Reaches S c (c.schedule S.mark is) := by
  induction is generalizing c with
  | nil => exact .refl
  | cons i is ih => exact (Reaches.move fun l => hadm i l _).trans (ih (c.move S.mark i))

/-- Does every call of the schedule pass the test `ok`? -/
def Config.scheduleOk (mark : ι → ℓ → σ → Option μ) (ok : ι → ℓ → Snapshot σ μ → Bool) :
    Config ι σ ℓ ε α μ → List ι → Bool
  | _, [] => true
  | c, i :: is =>
      (match c.pool i with
        | .call l _ _ _ => ok i l c.toSnapshot
        | _ => true) && (c.move mark i).scheduleOk mark ok is

/-- A schedule whose calls are admitted one by one is a run. -/
theorem Reaches.scheduleOk {S : Setting ι σ ℓ μ} (ok : ι → ℓ → Snapshot σ μ → Bool)
    (hok : ∀ i l w, ok i l w = true → S.admits i l w) {is : List ι}
    {c : Config ι σ ℓ ε α μ} (h : c.scheduleOk S.mark ok is = true) :
    Reaches S c (c.schedule S.mark is) := by
  induction is generalizing c with
  | nil => exact .refl
  | cons i is ih =>
      rw [Config.scheduleOk, Bool.and_eq_true] at h
      obtain ⟨hi, his⟩ := h
      refine Relation.ReflTransGen.trans ?_ (ih his)
      unfold Config.move
      split
      next l next rest fault hp =>
          rw [hp] at hi
          exact .single (.call i hp (hok i l _ hi))
      next => exact .refl

end Step

end Concurrency
