import FifiAlert.Concurrency.Since

/-!
# A cache that is read through

Readers take what the cache holds; when it holds nothing they fetch the value from its source and
store it. Writers change the source and drop what is cached. What the cache holds was right when it
was fetched. It is wrong only while a writer has not dropped it yet, or because a reader that had
fetched it before a write stored it after the drop of that write.
-/

namespace Concurrency

/-- A thread has fetched the value from its source, it has stored it in the cache, it has dropped
what is cached, or it has changed the source. -/
inductive CacheMark (ι ν : Type*) where
  | fetched (thread : ι) (value : ν)
  | stored (thread : ι) (value : ν)
  | dropped (thread : ι)
  | wrote (thread : ι)
  deriving DecidableEq

section Marks

variable {ι ν : Type*}

namespace CacheMark

def isWrote : CacheMark ι ν → Bool
  | wrote _ => true
  | _ => false

def isDropped : CacheMark ι ν → Bool
  | dropped _ => true
  | _ => false

theorem exists_of_isWrote {m : CacheMark ι ν} (h : m.isWrote = true) : ∃ j, m = wrote j := by
  cases m with
  | wrote j => exact ⟨j, rfl⟩
  | _ => cases h

end CacheMark

/-- The value is right, unless the source has been written since. -/
def RightSince (right : ν → Prop) (v : ν) (since : List (CacheMark ι ν)) : Prop :=
  (∀ m ∈ since, m.isWrote = false) → right v

/-- The thread has fetched the value. -/
def Fetched (right : ν → Prop) (i : ι) (v : ν) (marks : List (CacheMark ι ν)) : Prop :=
  ∃ since before, marks = since ++ .fetched i v :: before ∧ RightSince right v since

/-- The value was cached in the beginning, or a thread has fetched it. -/
def Known (start : Option ν) (v : ν) (marks : List (CacheMark ι ν)) : Prop :=
  start = some v ∨ ∃ j, .fetched j v ∈ marks

/-- How the value came into the cache, which held `start` in the beginning. -/
inductive Explained (start : Option ν) (right : ν → Prop) (v : ν)
    (marks : List (CacheMark ι ν)) : Prop where
  | start (hstart : start = some v) (hkept : ∀ m ∈ marks, m.isDropped = false)
      (hright : RightSince right v marks)
  | stored (i : ι) (after between before : List (CacheMark ι ν))
      (history : marks = after ++ .stored i v :: (between ++ .fetched i v :: before))
      (hkept : ∀ m ∈ after, m.isDropped = false) (hright : RightSince right v (after ++ between))

/-- Why the cache holds a value that is not right. -/
inductive StaleBecause (v : ν) (marks : List (CacheMark ι ν)) : Prop where
  /-- A thread has written and not dropped it yet. -/
  | pending (j : ι) (after before : List (CacheMark ι ν))
      (history : marks = after ++ .wrote j :: before) (hdrop : .dropped j ∉ after)
  /-- A thread fetched it, another one wrote and dropped, and then the first one stored it. -/
  | overtaken (i j : ι)
      (history : [.stored i v, .dropped j, .wrote j, .fetched i v].Sublist marks)

/-- A thread that has written has dropped what is cached since. -/
def DroppedAfter (j : ι) (marks : List (CacheMark ι ν)) : Prop :=
  ∀ after before, marks = after ++ .wrote j :: before → .dropped j ∈ after

variable {start : Option ν} {right right' : ν → Prop} {v : ν} {i : ι}
  {since marks : List (CacheMark ι ν)} {new : Option (CacheMark ι ν)}

theorem RightSince.append (h : RightSince right v since) (new : Option (CacheMark ι ν))
    (hnew : (∀ m, new = some m → m.isWrote = false) → right v → right' v) :
    RightSince right' v (new.toList ++ since) := by
  intro hquiet
  refine hnew (fun m hm => hquiet m ?_) (h fun m hm => hquiet m (List.mem_append_right _ hm))
  exact List.mem_append_left _ (Option.mem_toList.2 hm)

theorem Fetched.append (h : Fetched right i v marks) (new : Option (CacheMark ι ν))
    (hnew : (∀ m, new = some m → m.isWrote = false) → right v → right' v) :
    Fetched right' i v (new.toList ++ marks) := by
  obtain ⟨since, before, rfl, hright⟩ := h
  exact ⟨new.toList ++ since, before, (List.append_assoc ..).symm, hright.append new hnew⟩

theorem Explained.append (h : Explained start right v marks) (new : Option (CacheMark ι ν))
    (hkept : ∀ m, new = some m → m.isDropped = false)
    (hnew : (∀ m, new = some m → m.isWrote = false) → right v → right' v) :
    Explained start right' v (new.toList ++ marks) := by
  have hkept' : ∀ l : List (CacheMark ι ν), (∀ m ∈ l, m.isDropped = false) →
      ∀ m ∈ new.toList ++ l, m.isDropped = false := by
    intro l hl m hm
    exact (List.mem_append.1 hm).elim (fun hm => hkept m (Option.mem_toList.1 hm)) (hl m)
  cases h with
  | start hstart hold hright => exact .start hstart (hkept' _ hold) (hright.append new hnew)
  | stored i after between before history hold hright =>
      subst history
      refine .stored i (new.toList ++ after) between before (List.append_assoc ..).symm
        (hkept' _ hold) ?_
      rw [List.append_assoc]
      exact hright.append new hnew

/-- A value that was fetched may be stored. -/
theorem Fetched.stored (h : Fetched right i v marks) :
    Explained start right v (.stored i v :: marks) := by
  obtain ⟨since, before, rfl, hright⟩ := h
  exact .stored i [] since before rfl nofun hright

/-- A value that is not right came to be so by a write that its cache has not heard of. -/
theorem Explained.stale (h : Explained start right v marks) (hstale : ¬ right v) :
    StaleBecause v marks := by
  have hwrote : ∀ since : List (CacheMark ι ν), RightSince right v since →
      ∃ j, .wrote j ∈ since := by
    intro since hright
    by_contra hnone
    refine hstale (hright fun m hm => Bool.eq_false_iff.2 fun hw => hnone ?_)
    obtain ⟨j, rfl⟩ := CacheMark.exists_of_isWrote hw
    exact ⟨j, hm⟩
  have hpending : ∀ {newer older : List (CacheMark ι ν)} {j : ι}, .wrote j ∈ newer →
      (∀ m ∈ newer, m.isDropped = false) → marks = newer ++ older → StaleBecause v marks := by
    intro newer older j hm hkept history
    obtain ⟨after, before, rfl⟩ := List.append_of_mem hm
    refine .pending j after (before ++ older) (by simp [history]) fun hdrop => ?_
    cases hkept _ (List.mem_append_left _ hdrop)
  cases h with
  | start _ hkept hright =>
      obtain ⟨j, hm⟩ := hwrote _ hright
      exact hpending hm hkept (List.append_nil _).symm
  | stored i after between before history hkept hright =>
      obtain ⟨j, hm⟩ := hwrote _ hright
      rcases List.mem_append.1 hm with hafter | hbetween
      · exact hpending hafter hkept history
      · obtain ⟨newer, older, rfl⟩ := List.append_of_mem hbetween
        by_cases hdrop : .dropped j ∈ newer
        · refine .overtaken i j ?_
          subst history
          have hfetched : [CacheMark.fetched i v].Sublist (older ++ .fetched i v :: before) :=
            List.singleton_sublist.2 (by simp)
          have hdropped : [CacheMark.dropped j].Sublist newer := List.singleton_sublist.2 hdrop
          have hlater := (hdropped.append (hfetched.cons_cons (.wrote j))).cons_cons (.stored i v)
          refine (List.Sublist.trans ?_ (List.sublist_append_right after _))
          simpa using hlater
        · refine .pending j (after ++ .stored i v :: newer) (older ++ .fetched i v :: before)
            (by simp [history]) fun hmem => ?_
          rcases List.mem_append.1 hmem with hmem | hmem
          · cases hkept _ hmem
          · exact hdrop ((List.mem_cons.1 hmem).resolve_left (by simp))

theorem Explained.known (h : Explained start right v marks) : Known start v marks := by
  cases h with
  | start hstart _ _ => exact .inl hstart
  | stored i after between before history _ _ => exact .inr ⟨i, by simp [history]⟩

/-- A value that was fetched is known. -/
theorem Fetched.known (h : Fetched right i v marks) : Known start v marks := by
  obtain ⟨since, before, rfl, -⟩ := h
  exact .inr ⟨i, List.mem_append_right _ List.mem_cons_self⟩

/-- Where all writers have dropped what was cached, only a reader can have brought it back. -/
theorem StaleBecause.overtaken_of (h : StaleBecause v marks)
    (hdropped : ∀ j, DroppedAfter j marks) :
    ∃ i j, [.stored i v, .dropped j, .wrote j, .fetched i v].Sublist marks := by
  cases h with
  | pending j after before history hdrop => exact absurd (hdropped j after before history) hdrop
  | overtaken i j history => exact ⟨i, j, history⟩

/-- A thread that drops what is cached has dropped it after its writes. -/
theorem droppedAfter_dropped (j : ι) : DroppedAfter j (.dropped j :: marks) := by
  intro after before history
  cases after with
  | nil => cases history
  | cons m after =>
      obtain ⟨rfl, -⟩ := List.cons.inj history
      exact List.mem_cons_self

/-- A thread that has not written owes no drop. -/
theorem droppedAfter_of_not_mem {j : ι} (h : .wrote j ∉ marks) : DroppedAfter j marks :=
  fun after before history => absurd (by simp [history]) h

theorem DroppedAfter.append {j : ι} (h : DroppedAfter j marks)
    (hnew : ∀ m, new = some m → m ≠ .wrote j) : DroppedAfter j (new.toList ++ marks) := by
  cases new with
  | none => exact h
  | some m =>
      intro after before history
      cases after with
      | nil => exact absurd (List.cons.inj history).1 (hnew m rfl)
      | cons m' after =>
          exact List.mem_cons_of_mem _ (h after before (List.cons.inj history).2)

end Marks

section Protocol

variable {ι σ ℓ ν : Type*}

/-- The calls around a cache: what each of them does to it and to the source. -/
structure ReadsThrough (S : Setting ι σ ℓ (CacheMark ι ν)) (effect : ℓ → σ → σ)
    (cached : σ → Option ν) (right : σ → ν → Prop) : Prop where
  thread : ∀ i l s m, S.mark i l s = some m → ∀ j, m = .wrote j ∨ m = .dropped j → i = j
  source : ∀ i l s, (∀ m, S.mark i l s = some m → m.isWrote = false) → ∀ v, right s v →
    right (effect l s) v
  cache : ∀ i l s v, cached (effect l s) = some v →
    (cached s = some v ∧ ∀ m, S.mark i l s = some m → m.isDropped = false) ∨
      S.mark i l s = some (.stored i v)
  env_source : ∀ s s', S.env s s' → ∀ v, right s v → right s' v
  env_cache : ∀ s s' v, S.env s s' → cached s' = some v → cached s = some v

variable {S : Setting ι σ ℓ (CacheMark ι ν)} {effect : ℓ → σ → σ} {cached : σ → Option ν}
  {right : σ → ν → Prop}

/-- What is cached is explained. -/
def CacheExplained (start : Option ν) (cached : σ → Option ν) (right : σ → ν → Prop)
    (s : Snapshot σ (CacheMark ι ν)) : Prop :=
  ∀ v, cached s.state = some v → Explained start (right s.state) v s.marks

/-- The protocol: only what was fetched is stored. -/
def ReadsThrough.protocol (h : ReadsThrough S effect cached right) (start : Option ν) :
    Protocol S where
  effect := effect
  permits := fun i l s => ∀ v, S.mark i l s.state = some (.stored i v) →
    Fetched (right s.state) i v s.marks
  inv := CacheExplained start cached right
  inv_call := by
    intro i l s hinv hper _ v hv
    rcases h.cache i l s.state v hv with ⟨hold, hkept⟩ | hstored
    · exact (hinv v hold).append _ hkept fun hquiet => h.source i l s.state hquiet v
    · change Explained start _ v ((S.mark i l s.state).toList ++ s.marks)
      rw [hstored]
      refine Fetched.stored ?_
      refine (hper v hstored).append none fun _ => h.source i l s.state ?_ v
      rw [hstored]
      rintro _ ⟨⟩
      rfl
  inv_env := fun henv hinv v hv =>
    (hinv v (h.env_cache _ _ v henv hv)).append none nofun fun _ =>
      h.env_source _ _ henv v

section Threads

variable {h : ReadsThrough S effect cached right} {start : Option ν} {i : ι} {v : ν}

/-- Only a store asks for leave. -/
theorem permits_of_not_stored {l : ℓ} {s : Snapshot σ (CacheMark ι ν)}
    (hmark : ∀ v, S.mark i l s.state ≠ some (.stored i v)) : (h.protocol start).permits i l s :=
  fun v hstored => absurd hstored (hmark v)

theorem lasting_fetched : (h.protocol start).Lasting i (fun _ => false)
    fun s => Fetched (right s.state) i v s.marks :=
  .of_kept (fun j l s _ _ _ hs => hs.append _ fun hquiet => h.source j l s.state hquiet v)
    fun _ _ _ _ henv hs => hs.append none fun _ => h.env_source _ _ henv v

theorem lasting_known : (h.protocol start).Lasting i (fun _ => false)
    fun s => Known start v s.marks :=
  .of_kept (fun _ _ _ _ _ _ hs => hs.imp_right fun ⟨j, hj⟩ => ⟨j, Snapshot.mem_after_of_mem hj⟩)
    fun _ _ _ _ _ hs => hs

/-- The others do not write in the thread's name. -/
theorem DroppedAfter.after {j : ι} {l : ℓ} {next : σ → σ} {s : Snapshot σ (CacheMark ι ν)}
    (h : ReadsThrough S effect cached right) (hs : DroppedAfter i s.marks) (hne : j ≠ i) :
    DroppedAfter i (s.after S.mark j l next).marks :=
  hs.append fun m hm hwrote => hne (h.thread j l _ m hm i (.inl hwrote))

end Threads

end Protocol

end Concurrency
