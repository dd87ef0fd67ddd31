import FifiAlert.Concurrency.Since
import FifiAlert.Notification.PushQueue

/-!
# What becomes of an accepted push

The history of the workers of the queue: which pushes they handed to a provider, and how their
rows were updated afterwards. A worker is done with its row once it has recorded an accepted push
(`WorkerKept`), so nothing follows an accepted push but its record (`SentOnce`) exactly when the
record follows at once (`RecordedAtOnce`).
-/

namespace FifiAlert

open Concurrency Store NotificationCall NotificationQueueProcessor

/-- The notable calls of the worker at a place: it handed the push of a row to a provider, which
accepted it or not, it recorded that the push of a row was sent, and it recorded that it failed. -/
inductive AttemptMark where
  | handed (place id : ℕ) (accepted : Bool)
  | recorded (place id : ℕ)
  | failed (place id : ℕ)
  deriving DecidableEq

namespace AttemptMark

def place : AttemptMark → ℕ
  | handed place _ _ => place
  | recorded place _ => place
  | failed place _ => place

def isAccepted : AttemptMark → Bool
  | handed _ _ accepted => accepted
  | _ => false

def isRecorded : AttemptMark → Bool
  | recorded _ _ => true
  | _ => false

/-- A row that is updated leaves a mark, if it is there. -/
def ofUpdate (place id : ℕ) (data : NotificationUpdate) (w : World) : Option AttemptMark :=
  if (w.notifications.find? id).isSome then
    match data.status with
    | .SENT => some (recorded place id)
    | .FAILED => some (failed place id)
    | _ => none
  else none

def of (place : ℕ) : QueueCall → World → Option AttemptMark
  | .call (.sendNotification push), w =>
      some (handed place push.notificationId (w.pushReply push).success)
  | .call (.notificationUpdate id data), w => ofUpdate place id data w
  | _, _ => none

theorem of_update (place id : ℕ) (data : NotificationUpdate) (w : World) :
    of place (.call (.notificationUpdate id data)) w = ofUpdate place id data w := rfl

theorem place_of (place : ℕ) (l : QueueCall) (w : World) (m : AttemptMark)
    (h : of place l w = some m) : m.place = place := by
  cases l with
  | call l =>
      cases l with
      | sendNotification push =>
          cases h
          rfl
      | notificationUpdate id data =>
          rw [of_update, ofUpdate] at h
          split at h
          · split at h <;> cases h <;> rfl
          · cases h
      | _ => cases h
  | _ => cases h

end AttemptMark

/-- The calls that hand over no push and do not record one. -/
def NotificationCall.isIdle : NotificationCall → Prop
  | sendNotification _ => False
  | notificationUpdate _ data => data.status ≠ .SENT
  | _ => True

/-- An idle call says at most that a push failed. -/
theorem AttemptMark.of_isIdle {place : ℕ} {l : NotificationCall} (hl : l.isIdle) {w : World}
    {m : AttemptMark} (h : AttemptMark.of place (.call l) w = some m) :
    ∃ id, m = .failed place id := by
  cases l with
  | sendNotification push => exact hl.elim
  | notificationUpdate id data =>
      rw [AttemptMark.of_update, AttemptMark.ofUpdate] at h
      split at h
      · split at h
        · rename_i hsent
          exact absurd hsent hl
        · exact ⟨id, (Option.some.inj h).symm⟩
        · cases h
      · cases h
  | _ => cases h

/-- Nothing follows an accepted push but its record. The list is newest first. -/
def SentOnce (own : List AttemptMark) : Prop :=
  own.Pairwise fun later earlier => earlier.isAccepted = true → later.isRecorded = true

/-- What follows an accepted push directly is its record. -/
def RecordedAtOnce (own : List AttemptMark) : Prop :=
  own.IsChain fun later earlier => earlier.isAccepted = true → later.isRecorded = true

/-- The worker has recorded no push, and has handed over none that was accepted if these are
always recorded. -/
structure Idle (sure : Prop) (own : List AttemptMark) : Prop where
  unrecorded : ∀ m ∈ own, m.isRecorded = false
  unsent : sure → ∀ m ∈ own, m.isAccepted = false

/-- Only the last thing that the worker has done can be the record of a push. -/
structure WorkerKept (sure : Prop) (own : List AttemptMark) : Prop where
  last : ∀ m ∈ own.tail, m.isRecorded = false
  once : sure → SentOnce own

theorem RecordedAtOnce.sentOnce {own : List AttemptMark}
    (hlast : ∀ m ∈ own.tail, m.isRecorded = false)
    (h : RecordedAtOnce own) : SentOnce own := by
  induction own with
  | nil => exact .nil
  | cons m own ih =>
      cases own with
      | nil => exact List.pairwise_singleton _ _
      | cons m' own =>
          have hchain := List.isChain_cons_cons.1 h
          have hrest : SentOnce (m' :: own) :=
            ih (fun x hx => hlast x (List.mem_cons_of_mem _ hx)) hchain.2
          refine List.pairwise_cons.2 ⟨fun e he haccepted => ?_, hrest⟩
          rcases List.mem_cons.1 he with rfl | he
          · exact hchain.1 haccepted
          · have hrecorded := (List.pairwise_cons.1 hrest).1 e he haccepted
            cases (hlast m' List.mem_cons_self).symm.trans hrecorded

/-- For a worker that is done with its row once it has recorded a push. -/
theorem WorkerKept.sentOnce_iff {sure : Prop} {own : List AttemptMark} (h : WorkerKept sure own) :
    SentOnce own ↔ RecordedAtOnce own :=
  ⟨List.Pairwise.isChain, fun hchain => hchain.sentOnce h.last⟩

/-- A worker that has recorded nothing does something more. -/
theorem WorkerKept.cons {sure : Prop} {own : List AttemptMark} {m : AttemptMark}
    (h : WorkerKept sure own)
    (hopen : ∀ m' ∈ own, m'.isRecorded = false)
    (hnext : sure → m.isRecorded = true ∨ ∀ m' ∈ own, m'.isAccepted = false) :
    WorkerKept sure (m :: own) := by
  refine ⟨hopen, fun hsure => List.pairwise_cons.2 ⟨fun m' hm' haccepted => ?_, h.once hsure⟩⟩
  refine (hnext hsure).resolve_right fun hnone => ?_
  cases (hnone m' hm').symm.trans haccepted

theorem Idle.nil {sure : Prop} : Idle sure [] := ⟨nofun, nofun⟩

theorem Idle.cons {sure : Prop} {own : List AttemptMark} {m : AttemptMark} (h : Idle sure own)
    (hm : m.isRecorded = false) (hm' : sure → m.isAccepted = false) : Idle sure (m :: own) :=
  ⟨List.forall_mem_cons.2 ⟨hm, h.unrecorded⟩,
    fun hsure => List.forall_mem_cons.2 ⟨hm' hsure, h.unsent hsure⟩⟩

section Protocol

abbrev AttemptSnapshot := Snapshot World AttemptMark

/-- The clock and the write that records an accepted push. -/
def QueueCall.records : QueueCall → Bool
  | .call (.location .dateNow) => true
  | .call (.notificationUpdate _ data) => data.status = .SENT
  | _ => false

/-- The surroundings of the workers: anything may happen. Any call may fail, unless it is `sure`
that accepted pushes are recorded. -/
def attemptSetting (sure : Prop) : Setting ℕ World QueueCall AttemptMark where
  mark := AttemptMark.of
  env := fun _ _ => True
  mayFail := fun l => sure → l.records = false
  admits := fun _ l s => sure → match l with
    | .call (.notificationUpdate id data) =>
        data.status = .SENT → (s.state.notifications.find? id).isSome = true
    | _ => True

/-- A worker does something notable only while it has recorded no push. -/
def MayAttempt (sure : Prop) (place : ℕ) (l : QueueCall) (s : AttemptSnapshot) : Prop :=
  ∀ m, AttemptMark.of place l s.state = some m →
    (∀ m' ∈ s.own AttemptMark.place place, m'.isRecorded = false) ∧
      (sure → m.isRecorded = true ∨ ∀ m' ∈ s.own AttemptMark.place place, m'.isAccepted = false)

variable {sure : Prop}

theorem kept_call {place : ℕ} {l : QueueCall} {s : AttemptSnapshot} {next : World → World}
    (h : ∀ place, WorkerKept sure (s.own AttemptMark.place place))
    (hmay : MayAttempt sure place l s) (place' : ℕ) :
    WorkerKept sure ((s.after AttemptMark.of place l next).own AttemptMark.place place') := by
  by_cases hplace : place = place'
  · subst hplace
    rw [Snapshot.own_after_self AttemptMark.place_of]
    cases hm : AttemptMark.of place l s.state with
    | none => exact h place
    | some m => exact (h place).cons (hmay m hm).1 (hmay m hm).2
  · rw [Snapshot.own_after_ne AttemptMark.place_of hplace]
    exact h place'

/-- The protocol of the workers. -/
def attemptProtocol (sure : Prop) : Protocol (attemptSetting sure) where
  effect := QueueCall.effect
  permits := MayAttempt sure
  inv := fun s => ∀ place, WorkerKept sure (s.own AttemptMark.place place)
  inv_call := fun hinv hmay _ => kept_call hinv hmay
  inv_env := fun _ hinv => hinv

end Protocol

end FifiAlert
