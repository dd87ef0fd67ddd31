import FifiAlert.Alert.AlertProtocol
import FifiAlert.Concurrency.Since

/-!
# The count of the renewals

A renewal reads the count of the alert and later writes the count it read plus one. The
history says who read an alert and who renewed it. A renewal stands alone when nobody else
renewed the alert between its read and its write, and the count in the row is the number of
the renewals exactly when each of them stood alone: otherwise it has fallen behind.
-/

namespace FifiAlert

open Concurrency Store AlertCall

/-- The count of an alert. An alert that is not there has not been renewed. -/
def World.renewalCount (w : World) (id : ℕ) : ℕ :=
  ((w.alerts.find? id).map Alert.renewal_count).getD 0

theorem World.renewalCount_of_find? {w : World} {id : ℕ} {row : Alert}
    (h : w.alerts.find? id = some row) : w.renewalCount id = row.renewal_count := by
  rw [renewalCount, h, Option.map_some, Option.getD_some]

/-- The alert and the count that a call writes, when it writes one. -/
def AlertCall.renews : AlertCall → Option (ℕ × ℕ)
  | alertUpdate id data => data.renewal_count.map fun n => (id, n)
  | _ => none

/-- The notable calls: a thread read an alert, and it renewed one. -/
inductive RenewMark (ι : Type*) where
  | read (thread : ι) (id : ℕ)
  | renewed (thread : ι) (id : ℕ)
  deriving DecidableEq

abbrev RenewSnapshot (ι : Type*) := Snapshot World (RenewMark ι)

def renewMark {ι : Type*} (i : ι) (l : AlertCall) (w : World) : Option (RenewMark ι) :=
  match l with
  | alertFindUnique id => some (.read i id)
  | l => (l.renews.filter fun r => (w.alerts.find? r.1).isSome).map fun r => .renewed i r.1

namespace RenewMark

variable {ι : Type*}

def thread : RenewMark ι → ι
  | read i _ => i
  | renewed i _ => i

/-- The thread that renewed this alert. -/
def renewer (id : ℕ) : RenewMark ι → Option ι
  | renewed i id' => if id' = id then some i else none
  | read _ _ => none

def isRenewal (id : ℕ) : RenewMark ι → Bool
  | renewed _ id' => id' = id
  | read _ _ => false

def isRead [DecidableEq ι] (i : ι) (id : ℕ) : RenewMark ι → Bool
  | read j id' => j = i && id' = id
  | renewed _ _ => false

def isRenewalBy [DecidableEq ι] (i : ι) (id : ℕ) : RenewMark ι → Bool
  | renewed j id' => j = i && id' = id
  | read _ _ => false

theorem thread_of_isRead [DecidableEq ι] {i : ι} {id : ℕ} {m : RenewMark ι}
    (h : isRead i id m = true) : m.thread = i := by
  cases m with
  | read j id' => exact of_decide_eq_true (Bool.and_eq_true_iff.1 h).1
  | renewed j id' => cases h

theorem thread_of_isRenewalBy [DecidableEq ι] {i : ι} {id : ℕ} {m : RenewMark ι}
    (h : isRenewalBy i id m = true) : m.thread = i := by
  cases m with
  | read j id' => cases h
  | renewed j id' => exact of_decide_eq_true (Bool.and_eq_true_iff.1 h).1

end RenewMark

theorem thread_renewMark {ι : Type*} {i : ι} {l : AlertCall} {w : World} {m : RenewMark ι}
    (h : renewMark i l w = some m) : m.thread = i := by
  cases l with
  | alertFindUnique id =>
      cases h
      rfl
  | alertUpdate id data =>
      obtain ⟨r, -, rfl⟩ := Option.map_eq_some_iff.1 h
      rfl
  | _ => cases h

/-- The threads that renewed an alert, the last one first. -/
def renewedBy {ι : Type*} (id : ℕ) (marks : List (RenewMark ι)) : List ι :=
  marks.filterMap (RenewMark.renewer id)

/-- Every renewal of the alert stood alone: nobody renewed it since the thread read it. The
marks come newest first. -/
def EachAlone {ι : Type*} [DecidableEq ι] (id : ℕ) : List (RenewMark ι) → Prop
  | [] => True
  | .read _ _ :: marks => EachAlone id marks
  | .renewed i id' :: marks => (id' = id →
      quietSince (RenewMark.isRead i id) (RenewMark.isRenewal id) marks = true) ∧
      EachAlone id marks

instance decidableEachAlone {ι : Type*} [DecidableEq ι] (id : ℕ) :
    (marks : List (RenewMark ι)) → Decidable (EachAlone id marks)
  | [] => inferInstanceAs (Decidable True)
  | .read _ _ :: marks => decidableEachAlone id marks
  | .renewed _ _ :: marks => @instDecidableAnd _ _ inferInstance (decidableEachAlone id marks)

section Marks

variable {ι : Type*} {i : ι} {id id' : ℕ} {new : Option (RenewMark ι)}
  {marks : List (RenewMark ι)}

/-- No renewal. -/
def IsSilent (new : Option (RenewMark ι)) : Prop :=
  ∀ m, new = some m → ∃ i id, m = .read i id

theorem renewedBy_silent (h : IsSilent new) :
    renewedBy id (new.toList ++ marks) = renewedBy id marks := by
  cases new with
  | none => rfl
  | some m =>
      obtain ⟨j, id', rfl⟩ := h m rfl
      rfl

theorem renewedBy_renewed :
    renewedBy id (.renewed i id' :: marks) =
      if id' = id then i :: renewedBy id marks else renewedBy id marks := by
  by_cases h : id' = id <;> simp [renewedBy, RenewMark.renewer, h]

variable [DecidableEq ι]

theorem eachAlone_silent (h : IsSilent new) :
    EachAlone id (new.toList ++ marks) ↔ EachAlone id marks := by
  cases new with
  | none => exact Iff.rfl
  | some m =>
      obtain ⟨j, id', rfl⟩ := h m rfl
      exact Iff.rfl

theorem eachAlone_renewed :
    EachAlone id (.renewed i id' :: marks) ↔ (id' = id →
      quietSince (RenewMark.isRead i id) (RenewMark.isRenewal id) marks = true) ∧
      EachAlone id marks := Iff.rfl

end Marks

/-- What a call does to the count of an alert. -/
theorem renewalCount_effect (l : AlertCall) (w : World) (id : ℕ) :
    (l.effect w).renewalCount id =
      ((w.alerts.find? id).map fun row => (l.onRow w.now row).renewal_count).getD 0 := by
  rw [World.renewalCount, find?_effect, Option.map_map]
  rfl

theorem renewalCount_kept {l : AlertCall} {w : World}
    (h : ∀ row : Alert, (l.onRow w.now row).renewal_count = row.renewal_count) (id : ℕ) :
    (l.effect w).renewalCount id = w.renewalCount id := by
  rw [renewalCount_effect]
  simp only [h]
  rfl

theorem renewalCount_alertUpdate {w : World} {id n : ℕ} {data : AlertData}
    (hdata : data.renewal_count = some n) (id' : ℕ) :
    ((alertUpdate id data).effect w).renewalCount id' =
      if id = id' ∧ (w.alerts.find? id).isSome then n else w.renewalCount id' := by
  rw [renewalCount_effect]
  by_cases hid : id = id'
  · subst hid
    cases hrow : w.alerts.find? id with
    | none => simp [World.renewalCount, hrow]
    | some row => simp [onRow, Table.key_of_find? hrow, AlertData.apply, hdata]
  · rw [if_neg fun h => hid h.1]
    cases hrow : w.alerts.find? id' with
    | none => simp [World.renewalCount, hrow]
    | some row =>
        have hne : row.id ≠ id := fun he => hid (he.symm.trans (Table.key_of_find? hrow))
        simp [onRow, hne, World.renewalCount, hrow]

/-- A call renews an alert, or it leaves the counts as they are. -/
theorem renew_cases {ι : Type*} (i : ι) (l : AlertCall) (s : RenewSnapshot ι) :
    (∃ id n, l.renews = some (id, n) ∧ renewMark i l s.state = some (.renewed i id) ∧
      (s.after renewMark i l l.effect).marks = .renewed i id :: s.marks ∧
      ∀ id', (l.effect s.state).renewalCount id' =
        if id = id' then n else s.state.renewalCount id') ∨
    (IsSilent (renewMark i l s.state) ∧
      ∀ id', (l.effect s.state).renewalCount id' = s.state.renewalCount id') := by
  cases l with
  | alertUpdate id data =>
      cases hdata : data.renewal_count with
      | none =>
          refine .inr ⟨?_, renewalCount_kept fun row => ?_⟩
          · simp [IsSilent, renewMark, renews, hdata]
          · dsimp only [onRow]
            split
            · simp [AlertData.apply, hdata]
            · rfl
      | some n =>
          cases hrow : s.state.alerts.find? id with
          | none =>
              refine .inr ⟨?_, fun id' => ?_⟩
              · simp [IsSilent, renewMark, renews, hdata, hrow]
              · rw [renewalCount_alertUpdate hdata, hrow]
                exact if_neg (by simp)
          | some row =>
              have hmark : renewMark i (alertUpdate id data) s.state = some (.renewed i id) := by
                simp [renewMark, renews, hdata, hrow]
              refine .inl ⟨id, n, ?_, hmark, ?_, fun id' => ?_⟩
              · simp [renews, hdata]
              · exact congrArg (fun m : Option (RenewMark ι) => m.toList ++ s.marks) hmark
              · rw [renewalCount_alertUpdate hdata, hrow]
                simp
  | alertFindUnique id =>
      refine .inr ⟨fun m hm => ⟨i, id, ?_⟩, renewalCount_kept fun _ => rfl⟩
      exact (Option.some.inj hm).symm
  | alertAppendPhotos id photoUrls =>
      refine .inr ⟨forall_of_unmarked rfl, renewalCount_kept fun row => ?_⟩
      dsimp only [onRow]
      split <;> rfl
  | alertExpire =>
      refine .inr ⟨forall_of_unmarked rfl, renewalCount_kept fun row => ?_⟩
      dsimp only [onRow]
      split <;> rfl
  | alertResolveMany ids date notes =>
      refine .inr ⟨forall_of_unmarked rfl, renewalCount_kept fun row => ?_⟩
      dsimp only [onRow]
      split <;> rfl
  | _ => exact .inr ⟨forall_of_unmarked rfl, renewalCount_kept fun _ => rfl⟩

end FifiAlert
