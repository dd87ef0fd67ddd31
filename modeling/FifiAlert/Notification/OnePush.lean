import FifiAlert.Notification.PushFanOut
import FifiAlert.Notification.PushJobs

/-!
# One push for a device

A wave asks whether its user was reached and creates the row of a push in two steps, and
a failed row does not count while its job is still to be repeated. Where the jobs of all
earlier push rows of the device are finished when the wave asks, no other row is created
until it creates its own, and accepted pushes are answered and recorded, no device is
pushed to twice for an alert.
-/

namespace FifiAlert

open Concurrency Store NotificationCall NotificationQueueProcessor

/-- Before the first wave of the alert: there are no rows of it, the device was not pushed to
for it, and every push job in the queue has a row id of its own that was drawn. -/
structure Untold (w : World) (alertId deviceId : ℕ) : Prop where
  rows : ∀ n ∈ w.notifications.rows, n.alert_id ≠ alertId
  pushes : ∀ push ∈ w.pushes, push.isMissingPet alertId deviceId = false
  drawn : ∀ i id, w.pushJobAt i id → id < w.notifications.next
  place : ∀ i j id, w.pushJobAt i id → w.pushJobAt j id → i = j

theorem Untold.ledger {w : World} {alertId deviceId : ℕ} (h : Untold w alertId deviceId) :
    PushLedger alertId deviceId ⟨w, []⟩ where
  drawn := nofun
  creator := nofun
  kind := by
    intro i id n hc
    cases hc
  place := h.place
  queued := by
    intro i id hi
    refine ⟨h.drawn i id hi, .inr ?_⟩
    rintro ⟨n, hn, halert, -⟩
    exact h.rows n (Table.mem_of_find? hn) halert
  accepted := nofun
  settled := nofun
  earlier := nofun
  counted := by
    rw [List.countP_nil, List.countP_eq_zero]
    intro push hpush
    rw [h.pushes push hpush]
    exact Bool.false_ne_true
  once := Nat.zero_le _

/-- In every run of the workers of the queue in which the jobs of all push rows that there are
when a wave creates one for the same device were finished when it asked, the answers to accepted
pushes come back, and these pushes are recorded, a provider accepts at most one push of the missing
pet for an alert and a device. -/
theorem onePush_of_settled (E : NotificationEnv) (P : PushEnv) (retries : ℕ → ℕ)
    (alertId deviceId : ℕ) (w : World) (hw : Untold w alertId deviceId)
    {c : Config ℕ World QueueCall AppError Unit QueueMark}
    (h : Reaches settledSetting (Config.init w fun place => worker E P (retries place) place) c) :
    c.state.pushes.countP (fun push => push.isMissingPet alertId deviceId) ≤ 1 := by
  have hsound : Sound (pushProtocol alertId deviceId).contract (fun _ _ _ => True)
      (Config.init w fun place => worker E P (retries place) place) :=
    ⟨hw.ledger, fun place => safe_worker E P (retries place) place nofun nofun⟩
  have hledger : PushLedger alertId deviceId c.toSnapshot := (hsound.reaches h).1
  exact Nat.le_trans (Nat.le_of_eq hledger.counted) hledger.once

/-- Push services that take every token as a subscription. -/
def openPush : PushEnv where
  isInitialized := fun _ => true
  JSON_parse := fun _ => some (.obj [("endpoint", .str "push"),
    ("keys", .obj [("p256dh", .str "key"), ("auth", .str "secret")])])
  message := fun _ => "failed"

/-- The first wave of alert 7, and a second job for it that a sighting has queued. -/
def sightedWorld : World :=
  { zoneWorld with jobs := [.sendAlertNotifications 7 none 0, .sendAlertNotifications 7 none 0] }

def sightedPool (place : ℕ) : Process World QueueCall AppError Unit :=
  worker flatEnv openPush 3 place

theorem untold_sightedWorld : Untold sightedWorld 7 20 where
  rows := by decide +kernel
  pushes := nofun
  drawn := by
    intro i id hi
    have hmem := List.mem_of_getElem? hi
    simp [sightedWorld] at hmem
  place := by
    intro i j id hi
    have hmem := List.mem_of_getElem? hi
    simp [sightedWorld] at hmem

/-- A worker starts when its job is there. -/
def startsInTime (_ : ℕ) (l : QueueCall) (s : QueueSnapshot) : Bool :=
  match l with
  | .take place => place < s.state.jobs.length
  | _ => true

theorem admits_of_startsInTime (i : ℕ) (l : QueueCall) (s : QueueSnapshot)
    (h : startsInTime i l s = true) : queueSetting.admits i l s := by
  cases l with
  | take place =>
      have hlt : place < s.state.jobs.length := of_decide_eq_true h
      exact hlt
  | finish => trivial
  | call l => trivial

def QueueMark.isCreated : QueueMark → Bool
  | created _ _ => true
  | _ => false

/-- A push row is created while no other was, and a push is answered. -/
def createsFirst (i : ℕ) (l : QueueCall) (s : QueueSnapshot) : Bool :=
  match l with
  | .call (.notificationCreate data) =>
      !(data.toRow 0 0).isPush || !(s.marks.any QueueMark.isCreated)
  | .call (.sendNotification push) => (s.state.pushReply push).success
  | _ => startsInTime i l s

theorem admits_of_createsFirst (i : ℕ) (l : QueueCall) (s : QueueSnapshot)
    (h : createsFirst i l s = true) : settledSetting.admits i l s := by
  cases l with
  | take place => exact ⟨admits_of_startsInTime i (.take place) s h, trivial⟩
  | finish => exact ⟨trivial, trivial⟩
  | call l =>
      cases l with
      | notificationCreate data =>
          refine ⟨trivial, fun hpush _ place id hmem => ?_⟩
          have h : (!(data.toRow 0 0).isPush || !(s.marks.any QueueMark.isCreated)) = true := h
          rw [hpush, Bool.not_true, Bool.false_or, Bool.not_eq_true', List.any_eq_false] at h
          exact absurd rfl (h _ hmem)
      | sendNotification push => exact ⟨trivial, fun _ => h⟩
      | _ => exact ⟨trivial, trivial⟩

/-- One job creates the row before the other begins: it is pushed once. -/
theorem onePush_of_settled_seven :
    ((Config.init sightedWorld sightedPool).schedule queueMark
      (List.replicate 17 0 ++ List.replicate 17 1 ++ List.replicate 5 2)).state.pushes.countP
        (fun push => push.isMissingPet 7 20) ≤ 1 := by
  have hok : (Config.init sightedWorld sightedPool).scheduleOk settledSetting.mark createsFirst
      (List.replicate 17 0 ++ List.replicate 17 1 ++ List.replicate 5 2) = true := by
    decide +kernel
  exact onePush_of_settled flatEnv openPush (fun _ => 3) 7 20 sightedWorld untold_sightedWorld
    (Reaches.scheduleOk createsFirst admits_of_createsFirst hok)

/-- Both jobs ask whether user 2 was reached before either creates a row, and both rows are
pushed. -/
def doubledSchedule : List ℕ :=
  List.replicate 15 0 ++ List.replicate 15 1 ++ [0, 0, 1, 1, 2, 2, 2, 3, 3, 3]

/-- The provider accepts two pushes of alert 7 for device 20. -/
theorem onePush_doubled :
    Untold sightedWorld 7 20 ∧
      ∃ c : Config ℕ World QueueCall AppError Unit QueueMark,
        Reaches queueSetting (Config.init sightedWorld fun place => worker flatEnv openPush 3 place)
          c ∧
        c.state.pushes.countP (fun push => push.isMissingPet 7 20) = 2 := by
  have hok : (Config.init sightedWorld sightedPool).scheduleOk queueSetting.mark startsInTime
      doubledSchedule = true := by decide +kernel
  refine ⟨untold_sightedWorld, _, Reaches.scheduleOk startsInTime admits_of_startsInTime hok, ?_⟩
  decide +kernel

end FifiAlert
