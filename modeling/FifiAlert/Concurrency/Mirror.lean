import FifiAlert.Concurrency.Since

/-!
# A value and its copy

A thread writes the value under a key, and a second statement writes the copy of it. Between the
two the copy is behind, and the statements of other threads may come in. The marks tell which
value was written last under a key and whether its thread has written the copy. When each copy
that is written is the one that is wanted, and no value is written back that is not, the copies are
right wherever all threads have come to their second statement.
-/

namespace Concurrency

/-- A thread has read a row, it has written a value (or none), or it has written the copy. -/
inductive MirrorMark (ι κ ν ρ : Type*) where
  | read (thread : ι) (row : ρ)
  | wrote (thread : ι) (key : κ) (value : Option ν)
  | copied (thread : ι) (key : κ) (value : Option ν)
  deriving DecidableEq

section Marks

variable {ι κ ν ρ : Type*}

namespace MirrorMark

def thread : MirrorMark ι κ ν ρ → ι
  | read i _ => i
  | wrote i _ _ => i
  | copied i _ _ => i

def isRead : MirrorMark ι κ ν ρ → Bool
  | read _ _ => true
  | _ => false

def isWrote : MirrorMark ι κ ν ρ → Bool
  | wrote _ _ _ => true
  | _ => false

end MirrorMark

/-- The row that a thread has read. -/
def MirrorMark.seenBy [DecidableEq ι] (i : ι) : MirrorMark ι κ ν ρ → Option ρ
  | read j row => if j = i then some row else none
  | _ => none

/-- The row that a thread has read last. -/
def lastSeen [DecidableEq ι] (i : ι) (marks : List (MirrorMark ι κ ν ρ)) : Option ρ :=
  marks.findSome? (MirrorMark.seenBy i)

/-- The thread that has written last under a key, with the value. -/
def lastWrite [DecidableEq κ] (k : κ) : List (MirrorMark ι κ ν ρ) → Option (ι × Option ν)
  | [] => none
  | .wrote i k' v :: marks => if k' = k then some (i, v) else lastWrite k marks
  | _ :: marks => lastWrite k marks

/-- The thread has written a copy. -/
def Copied (i : ι) (marks : List (MirrorMark ι κ ν ρ)) : Prop :=
  ∃ k v, .copied i k v ∈ marks

/-- A thread that has written a value has written a copy. -/
def Paid (i : ι) (marks : List (MirrorMark ι κ ν ρ)) : Prop :=
  ∀ k v, .wrote i k (some v) ∈ marks → Copied i marks

variable [DecidableEq κ]

/-- The last value under a key is not waiting for its copy. -/
def Settled (k : κ) (marks : List (MirrorMark ι κ ν ρ)) : Prop :=
  ∀ i v, lastWrite k marks = some (i, some v) → Copied i marks

instance [DecidableEq ι] (i : ι) (marks : List (MirrorMark ι κ ν ρ)) : Decidable (Copied i marks) :=
  decidable_of_iff (∃ m ∈ marks, m.thread = i ∧ m.isRead = false ∧ m.isWrote = false) <| by
    constructor
    · rintro ⟨_ | _ | ⟨j, k, v⟩, hm, rfl, hread, hwrote⟩
      · cases hread
      · cases hwrote
      · exact ⟨k, v, hm⟩
    · rintro ⟨k, v, hm⟩
      exact ⟨_, hm, rfl, rfl, rfl⟩

instance [DecidableEq ι] (k : κ) (marks : List (MirrorMark ι κ ν ρ)) :
    Decidable (Settled k marks) :=
  decidable_of_iff (∀ last ∈ lastWrite k marks, last.2.isSome = true → Copied last.1 marks) <| by
    constructor
    · exact fun h i v hlast => h (i, some v) hlast rfl
    · rintro h ⟨i, _ | v⟩ hlast hsome
      · cases hsome
      · exact h i v hlast

/-- The value written last, or the one at the start. -/
def wanted (start : κ → Option ν) (k : κ) (marks : List (MirrorMark ι κ ν ρ)) : Option ν :=
  ((lastWrite k marks).map Prod.snd).getD (start k)

/-- The values are those that are wanted, and so are the copies of values that are settled. -/
structure Mirrored (start value : κ → Option ν) (copy : κ → Option (Option ν))
    (marks : List (MirrorMark ι κ ν ρ)) : Prop where
  value : ∀ k v, value k = some v → wanted start k marks = some v
  copy : ∀ k c v, copy k = some c → Settled k marks → wanted start k marks = some v → c = some v

end Marks

section Rules

variable {ι κ ν ρ : Type*} [DecidableEq κ] {start value value' : κ → Option ν}
  {copy copy' : κ → Option (Option ν)} {marks : List (MirrorMark ι κ ν ρ)} {i : ι} {k : κ}

theorem mem_of_lastWrite {v : Option ν} (h : lastWrite k marks = some (i, v)) :
    .wrote i k v ∈ marks := by
  induction marks with
  | nil => cases h
  | cons m marks ih =>
      cases m with
      | read j row | copied j k' u => exact List.mem_cons_of_mem _ (ih h)
      | wrote j k' u =>
          rw [lastWrite] at h
          split at h
          next hk =>
            cases hk
            cases h
            exact List.mem_cons_self
          next => exact List.mem_cons_of_mem _ (ih h)

omit [DecidableEq κ] in
theorem Copied.cons {m : MirrorMark ι κ ν ρ} (h : Copied i marks) : Copied i (m :: marks) :=
  let ⟨k, v, hm⟩ := h
  ⟨k, v, List.mem_cons_of_mem m hm⟩

/-- Where all threads have come to their second statement, every key is settled. -/
theorem settled_of_paid (h : ∀ i, Paid i marks) : Settled k marks :=
  fun i v hlast => h i k v (mem_of_lastWrite hlast)

theorem Mirrored.nil (hvalue : ∀ k v, value k = some v → start k = some v)
    (hcopy : ∀ k c v, copy k = some c → start k = some v → c = some v) :
    Mirrored start value copy ([] : List (MirrorMark ι κ ν ρ)) :=
  ⟨hvalue, fun k c v h _ => hcopy k c v h⟩

/-- Where a key is settled, the copy is that of the value. -/
theorem Mirrored.eq_of_settled (h : Mirrored start value copy marks) (hk : Settled k marks)
    {v : ν} {c : Option ν} (hv : value k = some v) (hc : copy k = some c) : c = some v :=
  h.copy k c v hc hk (h.value k v hv)

/-- A value may be written back that is the one that is wanted. -/
theorem Mirrored.rewrite (h : Mirrored start value copy marks)
    (hvalue : ∀ k v, value' k = some v → value k = some v ∨ wanted start k marks = some v)
    (hcopy : ∀ k c, copy' k = some c → copy k = some c) : Mirrored start value' copy' marks where
  value := fun k v hv => (hvalue k v hv).elim (h.value k v) fun h' => h'
  copy := fun k c v hc => h.copy k c v (hcopy k c hc)

theorem Mirrored.read (h : Mirrored start value copy marks) (i : ι) (row : ρ) :
    Mirrored start value copy (.read i row :: marks) where
  value := h.value
  copy := fun k' c v hc hset => h.copy k' c v hc fun j u hlast =>
    let ⟨k'', w, hm⟩ := hset j u hlast
    ⟨k'', w, (List.mem_cons.1 hm).resolve_left (by simp)⟩

/-- A thread that has not come to its second statement writes a value. -/
theorem Mirrored.wrote (h : Mirrored start value copy marks) {v : Option ν}
    (hi : ¬ Copied i marks)
    (hvalue : ∀ k' u, value' k' = some u →
      (k' = k ∧ v = some u) ∨ (k' ≠ k ∧ value k' = some u))
    (hcopy : ∀ k' c, copy' k' = some c → k' = k ∨ copy k' = some c) :
    Mirrored start value' copy' (.wrote i k v :: marks) where
  value := by
    intro k' u hu
    rcases hvalue k' u hu with ⟨rfl, rfl⟩ | ⟨hne, hu⟩
    · simp [wanted, lastWrite]
    · simpa [wanted, lastWrite, hne.symm] using h.value k' u hu
  copy := by
    intro k' c u hc hset hu
    have hold : ∀ j, Copied j (.wrote i k v :: marks) → Copied j marks := by
      rintro j ⟨k'', w, hm⟩
      exact ⟨k'', w, (List.mem_cons.1 hm).resolve_left (by simp)⟩
    by_cases hk : k' = k
    · subst hk
      obtain rfl : v = some u := by simpa [wanted, lastWrite] using hu
      exact absurd (hold i (hset i u (if_pos rfl))) hi
    · have hset' : Settled k' marks := by
        intro j u hlast
        exact hold j (hset j u (by rwa [lastWrite, if_neg (Ne.symm hk)]))
      have hu' : wanted start k' marks = some u := by
        simpa [wanted, lastWrite, Ne.symm hk] using hu
      exact h.copy k' c u ((hcopy k' c hc).resolve_left hk) hset' hu'

/-- It writes the copy, unless a later value has its copy already. -/
theorem Mirrored.copied (h : Mirrored start value copy marks) {v : Option ν}
    (hown : ∀ k' u, lastWrite k' marks = some (i, u) → k' = k ∧ u = v)
    (hlast : Settled k marks → ∀ u, wanted start k marks = some u → v = some u)
    (hcopy : ∀ k' c, copy' k' = some c →
      (k' = k ∧ c = v) ∨ (k' ≠ k ∧ copy k' = some c)) :
    Mirrored start value copy' (.copied i k v :: marks) where
  value := h.value
  copy := by
    intro k' c u hc hset hu
    have hold : ∀ j, Copied j (.copied i k v :: marks) → j = i ∨ Copied j marks := by
      rintro j ⟨k'', w, hm⟩
      rcases List.mem_cons.1 hm with heq | hm
      · cases heq
        exact .inl rfl
      · exact .inr ⟨k'', w, hm⟩
    change wanted start k' marks = some u at hu
    rcases hcopy k' c hc with ⟨rfl, rfl⟩ | ⟨hne, hc⟩
    · by_cases hset' : Settled k' marks
      · exact hlast hset' u hu
      · simp only [Settled, not_forall] at hset'
        obtain ⟨j, u', hj, hnot⟩ := hset'
        obtain rfl : j = i := (hold j (hset j u' hj)).resolve_right hnot
        obtain ⟨-, rfl⟩ := hown k' _ hj
        simpa [wanted, hj] using hu
    · refine h.copy k' c u hc (fun j u' hj => ?_) hu
      rcases hold j (hset j u' hj) with rfl | hcopied
      · exact absurd (hown k' _ hj).1 hne
      · exact hcopied

end Rules

section Lasting

variable {ι σ ℓ κ ν ρ : Type*} [DecidableEq ι] {S : Setting ι σ ℓ (MirrorMark ι κ ν ρ)}
  {P : Protocol S} {i : ι}

/-- A thread that owes no copy owes none until it writes. -/
theorem lasting_paid (hthread : ∀ j l w m, S.mark j l w = some m → m.thread = j) :
    P.Lasting i (fun m => decide (m.thread = i) && m.isWrote) fun s => Paid i s.marks where
  call := by
    intro j l s _ _ _ hask h k v hm
    rcases Snapshot.mem_after.1 hm with hnew | hold
    · have hfalse := hask _ hnew
      simp [MirrorMark.thread, MirrorMark.isWrote] at hfalse
    · obtain ⟨k', v', hcopied⟩ := h k v hold
      exact ⟨k', v', Snapshot.mem_after_of_mem hcopied⟩
  env := fun _ _ _ _ _ h => h
  own := fun j l w m hm h => (hthread j l w m hm).symm.trans
    (of_decide_eq_true (Bool.and_eq_true_iff.1 h).1)

theorem lastSeen_read (row : ρ) (marks : List (MirrorMark ι κ ν ρ)) :
    lastSeen i (.read i row :: marks) = some row := by
  simp [lastSeen, MirrorMark.seenBy]

/-- What a thread has read last, until it reads again. -/
theorem lasting_lastSeen (hthread : ∀ j l w m, S.mark j l w = some m → m.thread = j)
    (seen : Option ρ) :
    P.Lasting i (fun m => (m.seenBy i).isSome) fun s => lastSeen i s.marks = seen := by
  refine .findSome (fun j l w m hm hsome => ?_) seen
  cases m with
  | read j' row =>
      obtain ⟨u, hu⟩ := Option.isSome_iff_exists.1 hsome
      rw [MirrorMark.seenBy] at hu
      split at hu
      next heq => exact (hthread j l w _ hm).symm.trans heq
      next => cases hu
  | wrote j' k v | copied j' k v => cases hsome

end Lasting

end Concurrency
