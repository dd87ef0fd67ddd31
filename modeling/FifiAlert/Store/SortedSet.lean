import Mathlib.Data.List.Nodup
import Mathlib.Data.List.Sort

/-!
# Sorted sets with a time to live

A sorted set holds members with their scores, every member once, in the order of the scores
and then of the members. A key holds a sorted set and possibly a time from which on the key
counts as gone. Every command looks at the key through `live`, so a set that has run out is
empty for it, and a set that becomes empty has no time to live.
-/

namespace Store

structure SortedSet (α β : Type*) where
  entries : List (α × β)
  nodup : (entries.map Prod.snd).Nodup

namespace SortedSet

variable {α β : Type*}

def empty : SortedSet α β := ⟨[], List.nodup_nil⟩

instance : Inhabited (SortedSet α β) := ⟨empty⟩

/-- The members, in the order of their scores. -/
def members (s : SortedSet α β) : List β := s.entries.map Prod.snd

variable [LinearOrder α] [LinearOrder β]

/-- The order of the entries. -/
def Precedes (e e' : α × β) : Prop := e.1 < e'.1 ∨ (e.1 = e'.1 ∧ e.2 ≤ e'.2)

instance : DecidableRel (Precedes : α × β → α × β → Prop) :=
  fun e e' => inferInstanceAs (Decidable (e.1 < e'.1 ∨ (e.1 = e'.1 ∧ e.2 ≤ e'.2)))

/-- `ZADD`: a member that is there gets the new score. -/
def add (s : SortedSet α β) (score : α) (member : β) : SortedSet α β where
  entries := (s.entries.filter fun e => e.2 ≠ member).orderedInsert Precedes (score, member)
  nodup := by
    have hperm := (List.perm_orderedInsert Precedes (score, member)
      (s.entries.filter fun e => e.2 ≠ member)).map Prod.snd
    rw [hperm.nodup_iff, List.map_cons, List.nodup_cons]
    constructor
    · intro hmem
      obtain ⟨e, he, heq⟩ := List.mem_map.1 hmem
      exact of_decide_eq_true (List.mem_filter.1 he).2 heq
    · exact s.nodup.sublist (List.filter_sublist.map Prod.snd)

/-- `ZREMRANGEBYSCORE` from the lowest score to `max`. -/
def removeUpTo (s : SortedSet α β) (max : α) : SortedSet α β where
  entries := s.entries.filter fun e => max < e.1
  nodup := s.nodup.sublist (List.filter_sublist.map Prod.snd)

theorem mem_add {s : SortedSet α β} {score : α} {member : β} {e : α × β} :
    e ∈ (s.add score member).entries ↔ e = (score, member) ∨ (e ∈ s.entries ∧ e.2 ≠ member) := by
  rw [add, List.mem_orderedInsert, List.mem_filter, decide_eq_true_eq]

omit [LinearOrder β] in
theorem mem_removeUpTo {s : SortedSet α β} {max : α} {e : α × β} :
    e ∈ (s.removeUpTo max).entries ↔ e ∈ s.entries ∧ max < e.1 := by
  rw [removeUpTo, List.mem_filter, decide_eq_true_eq]

end SortedSet

/-- A key with a sorted set and the time from which on it counts as gone. -/
structure Expiring (τ α β : Type*) where
  set : SortedSet α β := .empty
  expiresAt : Option τ := none

namespace Expiring

variable {τ α β : Type*} [LinearOrder τ]

instance : Inhabited (Expiring τ α β) := ⟨{}⟩

def hasRunOut (k : Expiring τ α β) (now : τ) : Bool := k.expiresAt.any (· ≤ now)

/-- The key as a command finds it. -/
def live (k : Expiring τ α β) (now : τ) : Expiring τ α β := if k.hasRunOut now then {} else k

/-- `EXPIRE`; a key that is not there stays away. -/
def expire (k : Expiring τ α β) (now at' : τ) : Expiring τ α β :=
  let k := k.live now
  if k.set.entries.isEmpty then k else { k with expiresAt := some at' }

variable [LinearOrder α] [LinearOrder β]

def add (k : Expiring τ α β) (now : τ) (score : α) (member : β) : Expiring τ α β :=
  let k := k.live now
  { k with set := k.set.add score member }

def removeUpTo (k : Expiring τ α β) (now : τ) (max : α) : Expiring τ α β :=
  let k := k.live now
  let set := k.set.removeUpTo max
  if set.entries.isEmpty then {} else { k with set }

omit [LinearOrder α] [LinearOrder β]

theorem live_of_not_hasRunOut {k : Expiring τ α β} {now : τ} (h : k.hasRunOut now = false) :
    k.live now = k := if_neg (by simp [h])

end Expiring

end Store
