import FifiAlert.Notification.NotificationQueueProcessor
import FifiAlert.Notification.PushNotification

/-!
# The success story job

`NotificationQueueProcessor.processSuccessStory` tells everybody who helped with an
alert that the pet is home. The first run to claim the alert sends the story: a push to
every reachable device of every helper, and one email to each helper.
-/

namespace FifiAlert

open Concurrency Store Js NotificationCall

/-- What the job selects of an alert. -/
structure AlertStory where
  creator_id : ℕ
  success_story_sent_at : Option Time
  reunionSnapshot : Option ReunionSnapshot

def World.findAlertStory (w : World) (id : ℕ) : Option AlertStory :=
  (w.alerts.find? id).map fun alert =>
    { creator_id := alert.creator_id
      success_story_sent_at := alert.success_story_sent_at
      reunionSnapshot := w.reunionSnapshots.rows.find? fun s => s.alertId = id }

/-- The alert was delivered to the device of the row, by push or by email. -/
def Notification.isDelivered (n : Notification) (alertId : ℕ) : Bool :=
  n.alert_id = alertId && !n.excluded &&
    [NotificationStatus.SENT, .DELIVERED, .OPENED].contains n.status

/-- The owners of the devices that the alert was delivered to. -/
def World.deliveredTo (w : World) (alertId : ℕ) : List ℕ :=
  (w.notifications.findMany fun n => n.isDelivered alertId).filterMap w.ownerOf

def World.sightingReporters (w : World) (alertId : ℕ) : List ℕ :=
  (w.sightings.findMany fun s => s.alert_id = alertId).map Sighting.reporter_id

/-- `device.findMany`, in the order of the ids. -/
def World.devicesOf (w : World) (userIds : List ℕ) : List Device :=
  (w.devices.findMany fun d => userIds.contains d.user_id).mergeSort fun d d' => d.id ≤ d'.id

namespace NotificationQueueProcessor

/-- The set of everybody who helped, without the creator. -/
def recipientIds (creatorId : ℕ) (notified reporters : List ℕ) : List ℕ :=
  (Assoc.distinct (notified ++ reporters)).filter fun userId => userId ≠ creatorId

/-- How many rows the claim changes. -/
def claimStory (alertId : ℕ) : NotificationProcess ℕ := do
  let now ← LocationService.dateNow
  Process.modify (.alertClaimStory alertId now) (.prisma .other)
    (effect (.alertClaimStory alertId now)) fun w => w.alerts.count fun a => a.unclaimed alertId

/-- The row of a success-story push. -/
def storyData (alertId deviceId : ℕ) : NotificationData where
  alert_id := alertId
  device_id := deviceId
  confidence := .HIGH
  match_reason := SUCCESS_STORY_MATCH_REASON
  status := .QUEUED
  «meta» := some (.obj [("kind", .str SUCCESS_STORY_META_KIND)])

def queueStory (alertId : ℕ) (device : Device) : NotificationProcess Unit := do
  let id ← create (storyData alertId device.id)
  write (.queueAdd (.sendPushNotification id))

/-- A device of each user, the one with the smallest id. -/
def anyDeviceByUser (devices : List Device) : Assoc ℕ Device :=
  Assoc.bestOf (fun d => d.user_id) (fun _ _ => false) devices

/-- The row of a success-story email. -/
def storyEmailData (alertId deviceId : ℕ) (sent : Bool) (now : Time) : NotificationData where
  alert_id := alertId
  device_id := deviceId
  confidence := .HIGH
  match_reason := SUCCESS_STORY_MATCH_REASON
  status := if sent then .SENT else .FAILED
  sent_at := if sent then some now else none
  failed_at := if sent then none else some now
  failure_reason := if sent then none else some "EMAIL_NOT_SENT"
  «meta» := some (.obj [("channel", .str "EMAIL"), ("kind", .str SUCCESS_STORY_META_KIND)])

/-- A failure is logged only. A helper without a device has no row. -/
def recordStoryEmail (alertId : ℕ) (device? : Option Device) (sent : Bool) :
    NotificationProcess Unit :=
  match device? with
  | none => .ret ()
  | some device =>
    Process.tryCatch (do
      let now ← LocationService.dateNow
      (fun _ => ()) <$> create (storyEmailData alertId device.id sent now)) fun _ => .ret ()

def emailHelper (alertId : ℕ) (devices : Assoc ℕ Device) (userId : ℕ) :
    NotificationProcess Unit := do
  let optedIn ← AlertEmailService.isOptedIn userId
  if optedIn then do
    let sent ← AlertEmailService.sendPetIsHomeEmail userId alertId
    recordStoryEmail alertId (devices.get userId) sent
  else return ()

/-- The fan-out to the helpers. -/
def tellHelpers (alertId : ℕ) (recipientIds : List ℕ) : NotificationProcess Unit := do
  let devices ← read (.deviceFindReachable recipientIds) fun w => reachableDevices w recipientIds
  Process.forEach devices (queueStory alertId)
  let owned ← read (.deviceFindMany recipientIds) fun w => w.devicesOf recipientIds
  Process.forEach recipientIds (emailHelper alertId (anyDeviceByUser owned))

/-- What the run that has claimed the story does. -/
def tellStory (alertId creatorId : ℕ) : NotificationProcess Unit := do
  let notified ← read (.notificationFindDelivered alertId) fun w => w.deliveredTo alertId
  let reporters ← read (.sightingFindMany alertId) fun w => w.sightingReporters alertId
  let recipients := recipientIds creatorId notified reporters
  if recipients.isEmpty then return ()
  else tellHelpers alertId recipients

def processSuccessStory (alertId : ℕ) : NotificationProcess Unit := do
  let found ← read (.alertFindStory alertId) fun w => w.findAlertStory alertId
  match found with
  | none => return ()
  | some alert =>
    if alert.reunionSnapshot.isNone then return ()
    else if alert.success_story_sent_at.isSome then return ()
    else do
      let claimed ← claimStory alertId
      if claimed = 0 then return ()
      else tellStory alertId alert.creator_id

end NotificationQueueProcessor

end FifiAlert
