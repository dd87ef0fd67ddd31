import FifiAlert.Concurrency.Interleaving
import FifiAlert.Notification.QueueWorker
import FifiAlert.Notification.WaveOutcome

/-!
# Workers on the notification queue

Every job of the queue has a worker, which takes it, tries it and finishes it. The marks
tell which workers asked whether a user was reached, which push rows were created by whom,
which pushes a provider accepted, and which workers are done.
-/

namespace FifiAlert

open Concurrency Store Js NotificationCall NotificationQueueProcessor

/-- The calls of a worker: it takes the job at its place, and in the end it finishes. -/
inductive QueueCall where
  | take (place : ℕ)
  | call (l : NotificationCall)
  | finish

namespace QueueCall

def effect : QueueCall → World → World
  | call l => l.effect
  | _ => id

end QueueCall

/-- The worker of the job at a place of the queue. A job whose last attempt threw is finished
as well. -/
def worker (E : NotificationEnv) (P : PushEnv) (retries place : ℕ) :
    Process World QueueCall AppError Unit := do
  let found ← Process.query (.take place) (.error "") fun w => w.jobs[place]?
  match found with
  | none => return ()
  | some job => do
    ((withRetries retries (process E P job)).tryCatch fun _ => .ret ()).relabel .call
    Process.query .finish (.error "") fun _ => ()

/-- The push of a missing pet to a device: it names the alert, and no success story. -/
def Push.isMissingPet (push : Push) (alertId deviceId : ℕ) : Bool :=
  push.deviceId = deviceId && push.payload.data.lookup "alertId" = some (toString alertId) &&
    (push.payload.data.lookup "type").isNone

/-- What the workers did: the worker at a place asked whether a user was reached, created a
push row, a provider accepted its push, it finished its job. -/
inductive QueueMark where
  | asked (place : ℕ)
  | created (place id : ℕ)
  | accepted (place : ℕ) (push : Push)
  | finished (place : ℕ)
  deriving DecidableEq

def queueMark (place : ℕ) : QueueCall → World → Option QueueMark
  | .call (.notificationFindMany _ _), _ => some (.asked place)
  | .call (.notificationCreate data), w =>
      if w.takesNotification data && (data.toRow 0 0).isPush then
        some (.created place w.notifications.next)
      else none
  | .call (.sendNotification push), w =>
      if w.pushTaken push then some (.accepted place push) else none
  | .finish, _ => some (.finished place)
  | _, _ => none

abbrev QueueSnapshot := Snapshot World QueueMark

/-- The job of the row at this place of the queue. -/
def World.pushJobAt (w : World) (place id : ℕ) : Prop :=
  w.jobs[place]? = some (.sendPushNotification id)

/-- The row is one of the alert and the device, and not of its success story. -/
def World.hasPushRow (w : World) (alertId deviceId id : ℕ) : Prop :=
  ∃ n, w.notifications.find? id = some n ∧ n.alert_id = alertId ∧ n.device_id = deviceId ∧
    n.isStory = false

def World.notFailed (w : World) (id : ℕ) : Prop :=
  ∀ n, w.notifications.find? id = some n → n.status ≠ .FAILED

def World.deviceOwner (w : World) (deviceId : ℕ) : Option ℕ :=
  (w.devices.find? deviceId).map Device.user_id

/-- The rows stay, with their alert, their device and their kind, and the devices stay with
their owners. -/
structure RowsStay (w w' : World) : Prop where
  next : w.notifications.next ≤ w'.notifications.next
  row : ∀ id n, w.notifications.find? id = some n → ∃ n', w'.notifications.find? id = some n' ∧
    n'.alert_id = n.alert_id ∧ n'.device_id = n.device_id ∧ n'.isStory = n.isStory ∧
      n'.isPush = n.isPush
  old : ∀ id < w.notifications.next, w.notifications.find? id = none →
    w'.notifications.find? id = none
  owner : ∀ d u, w.deviceOwner d = some u → w'.deviceOwner d = some u

/-- What the other services may do: add rows, record receipts, add jobs of waves and of
stories. They mark no row as failed, and take no device away. -/
structure QueueKept (w w' : World) : Prop where
  rows : RowsStay w w'
  failed : ∀ id < w.notifications.next, w.notFailed id → w'.notFailed id
  jobs : ∃ added, w'.jobs = w.jobs ++ added ∧ ∀ id, Job.sendPushNotification id ∉ added
  pushes : w'.pushes = w.pushes

/-- The runs of the queue: a worker starts when its job is there, and any call may fail. -/
def queueSetting : Setting ℕ World QueueCall QueueMark where
  mark := queueMark
  env := QueueKept
  mayFail := fun _ => True
  admits := fun _ l s => match l with
    | .take place => place < s.state.jobs.length
    | _ => True

/-- The marks that were there when the worker at the place last asked whether a user was
reached. -/
def whenAsked (place : ℕ) : List QueueMark → List QueueMark
  | [] => []
  | m :: marks => if m = .asked place then marks else whenAsked place marks

/-- When the worker asked whether the user was reached, the job of every push row that waves
ever created for the alert and the device was finished. -/
def EarlierFinished (place : ℕ) (data : NotificationData) (s : QueueSnapshot) : Prop :=
  (data.toRow 0 0).isPush = true → (data.toRow 0 0).isStory = false →
    ∀ i id, .created i id ∈ s.marks → s.state.hasPushRow data.alert_id data.device_id id →
      ∃ k, s.state.pushJobAt k id ∧ .finished k ∈ whenAsked place s.marks

/-- The clock, the write that records an accepted push, and the steps of the queue itself. -/
def QueueCall.succeeds : QueueCall → Bool
  | .call (.location .dateNow) => true
  | .call (.notificationUpdate _ data) => data.status = .SENT
  | .call _ => false
  | _ => true

/-- The runs in which no push row for the device has a job to be done while a wave goes from its
question to its own push row, the answer to an accepted push comes back, and accepted pushes are
recorded. -/
def settledSetting : Setting ℕ World QueueCall QueueMark where
  mark := queueMark
  env := QueueKept
  mayFail := fun l => l.succeeds = false
  admits := fun i l s => queueSetting.admits i l s ∧ match l with
    | .call (.notificationCreate data) => EarlierFinished i data s
    | .call (.sendNotification push) =>
        s.state.pushTaken push = true → (s.state.pushReply push).success = true
    | _ => True

theorem find?_of_view {w : World} {id : ℕ} {view : NotificationView}
    (h : w.viewNotification id = some view) :
    w.notifications.find? id = some view.notification ∧
      view.device.id = view.notification.device_id := by
  unfold World.viewNotification at h
  simp only [Option.bind_eq_bind, Option.bind_eq_some_iff, Option.pure_def,
    Option.some.injEq] at h
  obtain ⟨notification, hrow, alert, -, device, hdevice, rfl⟩ := h
  exact ⟨hrow, Table.key_of_find? hdevice⟩

/-- A push for a missing pet was made from a row of the alert and the device. -/
theorem hasPushRow_of_isMissingPet {w : World} {id alertId deviceId : ℕ} {view : NotificationView}
    (hview : w.viewNotification id = some view) {platform : DevicePlatform} {token : String}
    (h : Push.isMissingPet ⟨id, view.device.id, platform, token, buildPushPayload view⟩ alertId
      deviceId = true) :
    w.hasPushRow alertId deviceId id := by
  obtain ⟨hrow, hid⟩ := find?_of_view hview
  unfold Push.isMissingPet buildPushPayload at h
  simp only [Bool.and_eq_true, decide_eq_true_eq] at h
  obtain ⟨⟨hdevice, halert⟩, htype⟩ := h
  cases hstory : view.notification.isStory with
  | true =>
      rw [hstory] at htype
      cases htype
  | false =>
      rw [hstory] at halert
      have hstr : toString view.notification.alert_id = toString alertId := Option.some.inj halert
      exact ⟨view.notification, hrow, str_toString_inj.1 (congrArg Ident.str hstr),
        hid.symm.trans hdevice, hstory⟩

end FifiAlert
