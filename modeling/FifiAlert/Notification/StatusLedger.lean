import FifiAlert.Concurrency.Since
import FifiAlert.Notification.Receipts

/-!
# What is written to the row of a push

The history of one notification: which opening read it, and which status was written over which,
with the time of opening that was found and written. A write moves the status forward, or it
comes after an event that precludes it. An opening keeps the first time of opening, or another
opening got in between its read and its write.
-/

namespace FifiAlert

open Concurrency Store ReceiptCall

/-- The place in the life of a notification. -/
def NotificationStatus.rank : NotificationStatus → ℕ
  | QUEUED | EXCLUDED => 0
  | FAILED => 1
  | SENT => 2
  | DELIVERED => 3
  | OPENED => 4

/-- Once the first has been recorded, the second comes too late: no attempt has failed after one
was sent, no attempt has an outcome after a receipt or an opening, and a receipt comes before an
opening. -/
def NotificationStatus.precludes : (earlier later : NotificationStatus) → Bool
  | SENT, FAILED | DELIVERED, FAILED | OPENED, FAILED => true
  | DELIVERED, SENT | OPENED, SENT => true
  | OPENED, DELIVERED => true
  | _, _ => false

/-- A status that is written by an attempt, a receipt or an opening. -/
def NotificationStatus.IsOutcome (s : NotificationStatus) : Prop := s ≠ .QUEUED ∧ s ≠ .EXCLUDED

theorem precludes_iff {earlier later : NotificationStatus} (h : later.IsOutcome) :
    earlier.precludes later = false ↔ earlier.rank ≤ later.rank := by
  obtain ⟨hqueued, hexcluded⟩ := h
  cases later with
  | QUEUED => exact absurd rfl hqueued
  | EXCLUDED => exact absurd rfl hexcluded
  | _ => cases earlier <;> decide

/-- The notable calls: an opening read the row, a status was written over the old one, and so
was a time of opening. -/
inductive ReceiptMark (ι : Type*) where
  | read (thread : ι)
  | wrote (thread : ι) (old new : NotificationStatus)
  | opened (thread : ι) (old : NotificationStatus) (oldTime : Option Time) (time : Time)
  deriving DecidableEq

abbrev ReceiptSnapshot (ι : Type*) := Snapshot World (ReceiptMark ι)

/-- The marks of the calls on one notification. -/
def receiptMark {ι : Type*} (id : ℕ) (i : ι) (l : ReceiptCall) (w : World) :
    Option (ReceiptMark ι) :=
  match l with
  | notificationFindFirst id' _ => if id' = id then some (.read i) else none
  | notification (.notificationUpdate id' data) =>
    if id' = id then (w.notifications.find? id).map fun n => .wrote i n.status data.status
    else none
  | notificationDeliver id' _ =>
    if id' = id then (w.notifications.find? id).map fun n => .wrote i n.status .DELIVERED
    else none
  | notificationOpen id' opened_at _ =>
    if id' = id then
      (w.notifications.find? id).map fun n => .opened i n.status n.opened_at opened_at
    else none
  | _ => none

namespace ReceiptMark

variable {ι : Type*}

def thread : ReceiptMark ι → ι
  | read i => i
  | wrote i _ _ => i
  | opened i _ _ _ => i

/-- The status before and after a write. -/
def move : ReceiptMark ι → Option (NotificationStatus × NotificationStatus)
  | read _ => none
  | wrote _ old new => some (old, new)
  | opened _ old _ _ => some (old, .OPENED)

def isRead [DecidableEq ι] (i : ι) : ReceiptMark ι → Bool
  | read j => j = i
  | _ => false

/-- A time of opening other than this one was written. -/
def opensOtherwise (t : Time) : ReceiptMark ι → Bool
  | opened _ _ _ t' => t' ≠ t
  | _ => false

theorem thread_of_isRead [DecidableEq ι] {i : ι} {m : ReceiptMark ι} (h : isRead i m = true) :
    m.thread = i := by
  cases m with
  | read j => exact of_decide_eq_true h
  | wrote _ _ _ => cases h
  | opened _ _ _ _ => cases h

end ReceiptMark

theorem thread_receiptMark {ι : Type*} {id : ℕ} {i : ι} {l : ReceiptCall} {w : World}
    {m : ReceiptMark ι} (h : receiptMark id i l w = some m) : m.thread = i := by
  unfold receiptMark at h
  split at h
  · split at h
    · cases h
      rfl
    · cases h
  · split at h
    · obtain ⟨n, -, rfl⟩ := Option.map_eq_some_iff.1 h
      rfl
    · cases h
  · split at h
    · obtain ⟨n, -, rfl⟩ := Option.map_eq_some_iff.1 h
      rfl
    · cases h
  · split at h
    · obtain ⟨n, -, rfl⟩ := Option.map_eq_some_iff.1 h
      rfl
    · cases h
  · cases h

/-- No write of the history moved the status backwards. -/
def StatusForward {ι : Type*} (marks : List (ReceiptMark ι)) : Prop :=
  ∀ m ∈ marks, ∀ move, m.move = some move → move.1.rank ≤ move.2.rank

/-- No write of the history changed a time of opening that was set. -/
def OpeningKept {ι : Type*} (marks : List (ReceiptMark ι)) : Prop :=
  ∀ i old oldTime time, ReceiptMark.opened i old oldTime time ∈ marks →
    oldTime = none ∨ oldTime = some time

/-- The statuses recorded so far, the last one first, and before them the first status. -/
def recorded {ι : Type*} (first : NotificationStatus) :
    List (ReceiptMark ι) → List NotificationStatus
  | [] => [first]
  | m :: marks => (m.move.map Prod.snd).toList ++ recorded first marks

/-- Everything was recorded in time: no write came after an event that precludes it. -/
def InOrder {ι : Type*} (first : NotificationStatus) : List (ReceiptMark ι) → Prop
  | [] => True
  | m :: marks => (∀ move, m.move = some move → ∀ earlier ∈ recorded first marks,
      earlier.precludes move.2 = false) ∧ InOrder first marks

/-- Every opening came first, or found the first: since it read the row, no other time of
opening was written. -/
def EachFirst {ι : Type*} [DecidableEq ι] : List (ReceiptMark ι) → Prop
  | [] => True
  | .opened i _ _ time :: marks =>
    quietSince (ReceiptMark.isRead i) (ReceiptMark.opensOtherwise time) marks = true ∧
      EachFirst marks
  | _ :: marks => EachFirst marks

instance decidableInOrder {ι : Type*} (first : NotificationStatus) :
    (marks : List (ReceiptMark ι)) → Decidable (InOrder first marks)
  | [] => inferInstanceAs (Decidable True)
  | m :: marks =>
    @instDecidableAnd _ _ (inferInstanceAs (Decidable (∀ move ∈ m.move,
      ∀ earlier ∈ recorded first marks, earlier.precludes move.2 = false)))
      (decidableInOrder first marks)

instance decidableEachFirst {ι : Type*} [DecidableEq ι] :
    (marks : List (ReceiptMark ι)) → Decidable (EachFirst marks)
  | [] => inferInstanceAs (Decidable True)
  | .read _ :: marks => decidableEachFirst marks
  | .wrote _ _ _ :: marks => decidableEachFirst marks
  | .opened _ _ _ _ :: marks => @instDecidableAnd _ _ inferInstance (decidableEachFirst marks)

/-- How the notification stands: its status, and when it was opened. -/
def World.standing (w : World) (id : ℕ) : Option (NotificationStatus × Option Time) :=
  (w.notifications.find? id).map fun n => (n.status, n.opened_at)

section Calls

variable {ι : Type*} {id : ℕ} {w : World} {status : NotificationStatus} {t : Option Time}

theorem standing_updateMany (id' : ℕ) (f : Notification → Notification)
    (hf : ∀ n, (f n).id = n.id) (notification : Notification)
    (h : w.notifications.find? id = some notification) :
    ({ w with notifications := w.notifications.updateMany (fun n => n.id = id') f hf }).standing
      id = if id' = id then some ((f notification).status, (f notification).opened_at)
        else w.standing id := by
  unfold World.standing
  dsimp only
  rw [Serial.toTable_updateMany, Table.find?_updateMany_ite]
  by_cases heq : id' = id
  · rw [if_pos heq.symm, if_pos heq, h]
    rfl
  · rw [if_neg (Ne.symm heq), if_neg heq]

theorem standing_createNotification (data : NotificationData)
    (h : w.standing id = some (status, t)) :
    (w.createNotification data).standing id = some (status, t) := by
  obtain ⟨n, hn, hstanding⟩ := Option.map_eq_some_iff.1 h
  have hlt := Serial.lt_next_of_find? hn
  unfold World.createNotification World.standing
  dsimp only
  rw [Serial.find?_create, if_neg (Nat.ne_of_lt hlt), hn]
  exact congrArg some hstanding

/-- The calls of the push job write outcomes only. -/
def ReceiptCall.RecordsOutcomes (l : ReceiptCall) : Prop :=
  ∀ id data, l = notification (.notificationUpdate id data) → data.status.IsOutcome

/-- A call that updates the row with an id leaves its mark and its effect on this notification if
that is the row, and leaves it as it stands otherwise. -/
theorem receipt_cases_row (i : ι) {l : ReceiptCall} {id' : ℕ} {mark : ReceiptMark ι}
    {new : NotificationStatus × Option Time} (h : w.standing id = some (status, t))
    (hmark : receiptMark id i l w = if id' = id then some mark else none)
    (heffect : (l.effect w).standing id = if id' = id then some new else w.standing id) :
    (id' = id ∧ receiptMark id i l w = some mark ∧ (l.effect w).standing id = some new) ∨
    ((∀ m, receiptMark id i l w = some m → m = .read i) ∧
      (l.effect w).standing id = some (status, t)) := by
  by_cases hid : id' = id
  · rw [if_pos hid] at hmark heffect
    exact .inl ⟨hid, hmark, heffect⟩
  · rw [if_neg hid] at hmark heffect
    exact .inr ⟨forall_of_unmarked hmark, heffect.trans h⟩

/-- A call writes an outcome over the status, or opens the notification, or leaves it as it
stands. -/
theorem receipt_cases (i : ι) {l : ReceiptCall} (hl : l.RecordsOutcomes)
    (h : w.standing id = some (status, t)) :
    (∃ new, new.IsOutcome ∧ receiptMark id i l w = some (.wrote i status new) ∧
      (l.effect w).standing id = some (new, t)) ∨
    (∃ time «meta», l = notificationOpen id time «meta» ∧
      receiptMark id i l w = some (.opened i status t time) ∧
      (l.effect w).standing id = some (.OPENED, some time)) ∨
    ((∀ m, receiptMark id i l w = some m → m = .read i) ∧
      (l.effect w).standing id = some (status, t)) := by
  obtain ⟨n, hn, hstanding⟩ := Option.map_eq_some_iff.1 h
  cases hstanding
  cases l with
  | notificationFindFirst id' userId =>
      refine .inr (.inr ⟨fun m hm => ?_, h⟩)
      simp only [receiptMark] at hm
      split at hm
      · exact (Option.some.inj hm).symm
      · cases hm
  | notificationDeliver id' date =>
      have heffect := standing_updateMany id' (fun n => n.deliver date) (fun _ => rfl) n hn
      have hmark : receiptMark id i (notificationDeliver id' date) w =
          if id' = id then some (.wrote i n.status .DELIVERED) else none := by
        simp only [receiptMark, hn, Option.map_some]
      rcases receipt_cases_row i h hmark heffect with ⟨-, hmark, hstanding⟩ | hkept
      · exact .inl ⟨.DELIVERED, ⟨by decide, by decide⟩, hmark, hstanding⟩
      · exact .inr (.inr hkept)
  | notificationOpen id' date «meta» =>
      have heffect := standing_updateMany id' (fun n => n.open date «meta») (fun _ => rfl) n hn
      have hmark : receiptMark id i (notificationOpen id' date «meta») w =
          if id' = id then some (.opened i n.status n.opened_at date) else none := by
        simp only [receiptMark, hn, Option.map_some]
      rcases receipt_cases_row i h hmark heffect with ⟨rfl, hmark, hstanding⟩ | hkept
      · exact .inr (.inl ⟨date, «meta», rfl, hmark, hstanding⟩)
      · exact .inr (.inr hkept)
  | notification l =>
      cases l with
      | notificationUpdate id' data =>
          have heffect := standing_updateMany id' (fun n => n.update data) (fun _ => rfl) n hn
          have hmark : receiptMark id i (notification (.notificationUpdate id' data)) w =
              if id' = id then some (.wrote i n.status data.status) else none := by
            simp only [receiptMark, hn, Option.map_some]
          rcases receipt_cases_row i h hmark heffect with ⟨-, hmark, hstanding⟩ | hkept
          · exact .inl ⟨data.status, hl id' data rfl, hmark, hstanding⟩
          · exact .inr (.inr hkept)
      | notificationCreate data =>
          refine .inr (.inr ⟨forall_of_unmarked rfl, ?_⟩)
          simp only [effect, NotificationCall.effect]
          split
          · exact standing_createNotification data h
          · exact h
      | sendNotification push =>
          refine .inr (.inr ⟨forall_of_unmarked rfl, ?_⟩)
          simp only [effect, NotificationCall.effect, World.sendPush]
          split <;> exact h
      | _ => exact .inr (.inr ⟨forall_of_unmarked rfl, h⟩)

end Calls

end FifiAlert
