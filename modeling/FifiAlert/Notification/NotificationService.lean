import FifiAlert.Audit.AuditLogService
import FifiAlert.Location.LocationService

/-!
# The notification services

The statements of `NotificationQueueProcessor`, `NotificationService` and
`AlertEmailService`, as labels with their arguments, and what each of them does to
the shared state. A notification row needs its alert and its device.

`NotificationService` queues one job for each escalation wave of an alert and
records why a device was left out; `AlertEmailService` is the second channel of
the first wave.
-/

namespace FifiAlert

open Concurrency Store

/-- The `data` of a `notification.create`. -/
structure NotificationData where
  alert_id : ℕ
  device_id : ℕ
  confidence : NotificationConfidence
  match_reason : String
  distance_km : Option ℚ := none
  status : NotificationStatus := .QUEUED
  sent_at : Option Time := none
  failed_at : Option Time := none
  failure_reason : Option String := none
  excluded : Bool := false
  exclusion_reason : Option String := none
  «meta» : Option Js.Json := none

/-- The row that is created at a time under an id. -/
def NotificationData.toRow (data : NotificationData) (now : Time) (id : ℕ) : Notification where
  id := id
  alert_id := data.alert_id
  device_id := data.device_id
  confidence := data.confidence
  match_reason := data.match_reason
  distance_km := data.distance_km
  status := data.status
  queued_at := now
  sent_at := data.sent_at
  failed_at := data.failed_at
  failure_reason := data.failure_reason
  excluded := data.excluded
  exclusion_reason := data.exclusion_reason
  «meta» := data.«meta»

theorem NotificationData.toRow_id (data : NotificationData) (now : Time) (id : ℕ) :
    (data.toRow now id).id = id := rfl

/-- The `data` of a `notification.update`; what is left out stays. -/
structure NotificationUpdate where
  status : NotificationStatus
  sent_at : Option Time := none
  failed_at : Option Time := none
  failure_reason : Option String := none
  push_message_id : Option String := none

def Notification.update (n : Notification) (data : NotificationUpdate) : Notification :=
  { n with
    status := data.status
    sent_at := data.sent_at <|> n.sent_at
    failed_at := data.failed_at <|> n.failed_at
    failure_reason := data.failure_reason <|> n.failure_reason
    push_message_id := data.push_message_id <|> n.push_message_id }

inductive NotificationCall where
  | location (l : LocationCall)
  | deviceFindReachable (userIds : List ℕ)
  | deviceFindMany (userIds : List ℕ)
  | deviceClearToken (id : ℕ) (date : Time)
  | notificationCreate (data : NotificationData)
  | notificationFindUnique (id : ℕ)
  | notificationFindMany (alertId userId : ℕ)
  | notificationFindDelivered (alertId : ℕ)
  | notificationCount (userId : ℕ) (since : Time)
  | notificationUpdate (id : ℕ) (data : NotificationUpdate)
  | alertFindStory (id : ℕ)
  | alertClaimStory (id : ℕ) (date : Time)
  | sightingFindMany (alertId : ℕ)
  | userFindUnique (id : ℕ)
  | queueAdd (job : Job)
  | sendHtml (email : Email)
  | sendNotification (push : Push)
  | emit (name : String) (payload : AuditEventPayload)

instance : LocationCalls NotificationCall :=
  ⟨.location .dateNow, fun id => .location (.alertFindUnique id), fun s => .location (.queryRaw s)⟩

/-- The rows that a new notification refers to are there. -/
def World.takesNotification (w : World) (data : NotificationData) : Bool :=
  (w.alerts.find? data.alert_id).isSome && (w.devices.find? data.device_id).isSome

def World.createNotification (w : World) (data : NotificationData) : World :=
  { w with notifications := w.notifications.create (data.toRow w.now) (data.toRow_id w.now) }

def World.updateNotification (w : World) (id : ℕ) (data : NotificationUpdate) : World :=
  { w with notifications := w.notifications.updateMany (fun n => n.id = id) fun n => n.update data }

/-- The token of a device is no longer good. -/
def Device.clearToken (device : Device) (date : Time) : Device :=
  { device with push_token := none, push_token_updated_at := some date }

/-- The first to set `success_story_sent_at` has the success story to tell. -/
def Alert.unclaimed (alert : Alert) (id : ℕ) : Bool :=
  alert.id = id && alert.success_story_sent_at.isNone

/-- A push service takes the push or not, whatever becomes of its answer. -/
def World.sendPush (w : World) (push : Push) : World :=
  if w.pushTaken push then { w with pushes := w.pushes ++ [push] } else w

namespace NotificationCall

/-- What a call does to the shared state. -/
def effect : NotificationCall → World → World
  | notificationCreate data, w => if w.takesNotification data then w.createNotification data else w
  | notificationUpdate id data, w => w.updateNotification id data
  | deviceClearToken id date, w =>
      { w with devices := w.devices.updateMany (fun d => d.id = id) fun d => d.clearToken date }
  | alertClaimStory id date, w =>
      { w with
        alerts := w.alerts.updateMany (fun a => a.unclaimed id) fun a =>
          { a with success_story_sent_at := some date } }
  | queueAdd job, w => { w with jobs := w.jobs ++ [job] }
  | sendHtml email, w => { w with emails := w.emails ++ [email] }
  | sendNotification push, w => w.sendPush push
  | _, w => w

end NotificationCall

abbrev NotificationProcess := Process World NotificationCall AppError

/-- A call that reads the shared state. -/
def NotificationCall.read {α : Type} (l : NotificationCall) (g : World → α) :
    NotificationProcess α :=
  Process.query l (.prisma .other) g

/-- A call that writes. -/
def NotificationCall.write (l : NotificationCall) : NotificationProcess Unit :=
  Process.modify l (.prisma .other) l.effect fun _ => ()

/-- A call that writes to a row, and fails when the row is missing. -/
def NotificationCall.writeIf (l : NotificationCall) (p : World → Bool) : NotificationProcess Unit :=
  Process.atomic l (.prisma .other) fun w =>
    (if p w then .ok () else .error (.prisma .P2025), l.effect w)

/-- `notification.create`, which answers with the new id. -/
def NotificationCall.create (data : NotificationData) : NotificationProcess ℕ :=
  Process.atomic (.notificationCreate data) (.prisma .other) fun w =>
    (if w.takesNotification data then .ok w.notifications.next else .error (.prisma .other),
      (notificationCreate data).effect w)

end FifiAlert

namespace FifiAlert

open Concurrency Store Js NotificationCall

/-- An escalation wave and how long its job waits, in milliseconds. -/
structure EscalationWave where
  wave : NotificationConfidence
  delayMs : ℕ
  deriving DecidableEq

def ESCALATION_WAVES : List EscalationWave :=
  [⟨.HIGH, 0⟩, ⟨.MEDIUM, 15 * 60 * 1000⟩, ⟨.LOW, 60 * 60 * 1000⟩]

def QUIET_HOURS_START : ℕ := 22
def QUIET_HOURS_END : ℕ := 7

def DAILY_CAP_BY_CONFIDENCE : NotificationConfidence → ℕ
  | .HIGH => 10
  | .MEDIUM => 5
  | .LOW => 2

inductive ExclusionReason where
  | PUSH_TOKEN_MISSING
  | QUIET_HOURS
  | DAILY_CAP
  | ALREADY_NOTIFIED
  deriving DecidableEq

def ExclusionReason.text : ExclusionReason → String
  | PUSH_TOKEN_MISSING => "PUSH_TOKEN_MISSING"
  | QUIET_HOURS => "QUIET_HOURS"
  | DAILY_CAP => "DAILY_CAP"
  | ALREADY_NOTIFIED => "ALREADY_NOTIFIED"

def LocationSource.text : LocationSource → String
  | GPS => "GPS"
  | IP => "IP"
  | POSTAL_CODE => "POSTAL_CODE"
  | MANUAL => "MANUAL"

/-- `parseInt` of an id in a `where` or `data` clause, which refuses `NaN`. -/
def numericId (id : Ident) : NotificationProcess ℕ :=
  match id.parseInt with
  | none => .raise (.prisma .other)
  | some n => .ret n

namespace NotificationService

def queueAlertNotifications (alertId : ℕ) : NotificationProcess Unit :=
  Process.forEach ESCALATION_WAVES fun wave =>
    write (.queueAdd (.sendAlertNotifications alertId (some wave.wave) wave.delayMs))

/-- One job for an alert: the queue knows the job by the alert. -/
def queueSuccessStoryNotifications (alertId : ℕ) : NotificationProcess Unit :=
  write (.queueAdd (.sendSuccessStory alertId))

/-- The row that says why a device was left out. -/
def exclusionData (alertId deviceId : ℕ) (reason : ExclusionReason) : NotificationData where
  alert_id := alertId
  device_id := deviceId
  confidence := .LOW
  match_reason := "MANUAL"
  excluded := true
  exclusion_reason := some reason.text

def trackExclusion (alertId deviceId : ℕ) (reason : ExclusionReason) : NotificationProcess Unit :=
  (fun _ => ()) <$> create (exclusionData alertId deviceId reason)

end NotificationService

/-- `settings.notifications?.email !== false`. -/
def User.wantsEmail (user : User) : Bool :=
  match (user.settings.bind fun s => s.get? "notifications").bind fun n => n.get? "email" with
  | some (.bool false) => false
  | _ => true

/-- The user takes alert emails: verified, and not turned off. -/
def World.optedIn (w : World) (userId : ℕ) : Bool :=
  (w.users.find? userId).any fun user => user.emailVerified && user.wantsEmail

/-- The verified address of a user, if there is one. -/
def World.verifiedEmail (w : World) (userId : ℕ) : Option String :=
  ((w.users.find? userId).filter fun user => user.email ≠ "" && user.emailVerified).map User.email

namespace AlertEmailService

def isOptedIn (userId : ℕ) : NotificationProcess Bool :=
  read (.userFindUnique userId) fun w => w.optedIn userId

/-- Says whether the provider took the email. -/
def sendAlertEmail (userId alertId : ℕ) : NotificationProcess Bool := do
  let email ← read (.userFindUnique userId) fun w => w.verifiedEmail userId
  match email with
  | none => return false
  | some email =>
    ((fun _ => true) <$> write (.sendHtml ⟨"newAlert", email, alertId⟩)).tryCatch fun _ =>
      .ret false

/-- The thank-you email to a helper. -/
def sendPetIsHomeEmail (userId alertId : ℕ) : NotificationProcess Bool := do
  let email ← read (.userFindUnique userId) fun w => w.verifiedEmail userId
  match email with
  | none => return false
  | some email =>
    ((fun _ => true) <$> write (.sendHtml ⟨"petIsHome", email, alertId⟩)).tryCatch fun _ =>
      .ret false

end AlertEmailService

end FifiAlert
