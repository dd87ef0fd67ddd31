import FifiAlert.Js.Text
import FifiAlert.Notification.NotificationService

/-!
# Push notifications

`NotificationService.buildTitle` and `buildBody`, and the payload that
`NotificationQueueProcessor` builds for a notification. A row whose `meta` names the
success story gets another payload than the rows of a missing pet.

`NotificationQueueProcessor.processPushNotification` hands one notification to the
push service of the device's platform and writes down how that went.
-/

namespace FifiAlert

open Store Js

/-- `notification.match_reason` used for success-story pushes. -/
def SUCCESS_STORY_MATCH_REASON : String := "SUCCESS_STORY"

/-- `notification.meta.kind` that switches the push job onto the "pet is home" payload. -/
def SUCCESS_STORY_META_KIND : String := "alert_resolved"

def NotificationConfidence.text : NotificationConfidence → String
  | HIGH => "HIGH"
  | MEDIUM => "MEDIUM"
  | LOW => "LOW"

def PetSpecies.text : PetSpecies → String
  | DOG => "DOG"
  | CAT => "CAT"
  | BIRD => "BIRD"
  | RABBIT => "RABBIT"
  | OTHER => "OTHER"

/-- The row is one of a success story. -/
def Notification.isStory (n : Notification) : Bool :=
  match n.«meta».bind fun m => m.get? "kind" with
  | some (.str kind) => kind = SUCCESS_STORY_META_KIND
  | _ => false

/-- `Math.round`. -/
def round (q : ℚ) : ℤ :=
  (q + 1 / 2).floor

namespace NotificationService

def getSpeciesIcon : PetSpecies → String
  | .DOG => "🐕"
  | .CAT => "🐈"
  | .BIRD => "🐦"
  | .RABBIT => "🐰"
  | .OTHER => "🐾"

def formatDistance (distanceKm : ℚ) : String :=
  if distanceKm < 1 / 10 then "very close to you"
  else if distanceKm < 1 then toString (round (distanceKm * 1000)) ++ "m from you"
  else if distanceKm < 10 then toFixed 1 distanceKm ++ "km from you"
  else toString (round distanceKm) ++ "km from you"

/-- A distance of zero counts as unknown. -/
def buildTitle (confidence : NotificationConfidence) (petSpecies : PetSpecies) (petName : String)
    (distanceKm : Option ℚ) : String :=
  let distance := ((distanceKm.filter fun q => q ≠ 0).map formatDistance).getD "in your area"
  match confidence with
  | .HIGH =>
    getSpeciesIcon petSpecies ++ " Missing " ++ petSpecies.text ++ ": " ++ petName ++
      " — Last seen " ++ distance
  | .MEDIUM => "Missing " ++ petSpecies.text ++ " nearby: " ++ petName ++ " — Keep an eye out"
  | .LOW => "Missing pet alert in your area"

/-- Cut to the limits of the platforms. -/
def buildBody (petDescription : String) (locationAddress : Option String) : String :=
  let body := petDescription ++
    ((truthy locationAddress).map fun address => " Last seen near " ++ address ++ ".").getD ""
  if 170 < utf16Length body.toList then String.ofList (utf16Take 167 body.toList) ++ "..." else body

end NotificationService

/-- A notification with what its push tells: the alert, its pet's tag, the success story
and the device. -/
structure NotificationView where
  notification : Notification
  alert : Alert
  tagId : Option String
  snapshot : Option ReunionSnapshot
  device : Device

/-- `notification.findUnique` with the alert and the device. -/
def World.viewNotification (w : World) (id : ℕ) : Option NotificationView := do
  let notification ← w.notifications.find? id
  let alert ← w.alerts.find? notification.alert_id
  let device ← w.devices.find? notification.device_id
  let pet := alert.pet_id.bind w.pets.find?
  let snapshot := w.reunionSnapshots.rows.find? fun s => s.alertId = alert.id
  return { notification, alert, tagId := pet.map Pet.tagId, snapshot, device }

namespace NotificationQueueProcessor

/-- "{Pet} is home!", with the link to the reunion page of the pet's tag. -/
def storyPayload (view : NotificationView) : PushPayload :=
  let petName := (view.snapshot.map ReunionSnapshot.petName).getD view.alert.pet_name
  let message := (view.snapshot.bind ReunionSnapshot.thankYouMessage).map fun s => trim s.toList
  { title := petName ++ " is home!"
    body := match message.filter fun cs => cs ≠ [] with
      | some cs => String.ofList (utf16Take 120 cs)
      | none => petName ++ " has been found safe. Thank you for keeping an eye out."
    imageUrl := view.snapshot.bind ReunionSnapshot.petPhotoUrl
    data := [("type", SUCCESS_STORY_META_KIND), ("alertId", toString view.notification.alert_id),
        ("notificationId", toString view.notification.id)] ++
      match truthy view.tagId with
      | some tagId =>
        [("tagId", tagId),
          ("url", "/thank-you/" ++ String.ofList (encodeURIComponent tagId.toList))]
      | none => [] }

def alertPayload (view : NotificationView) : PushPayload where
  title := NotificationService.buildTitle view.notification.confidence view.alert.pet_species
    view.alert.pet_name view.notification.distance_km
  body := NotificationService.buildBody view.alert.pet_description view.alert.location_address
  imageUrl := truthy view.alert.pet_photos.head?
  data := [("alertId", toString view.notification.alert_id),
    ("notificationId", toString view.notification.id),
    ("confidence", view.notification.confidence.text)]

def buildPushPayload (view : NotificationView) : PushPayload :=
  if view.notification.isStory then storyPayload view else alertPayload view

end NotificationQueueProcessor

end FifiAlert

namespace FifiAlert

open Concurrency Store Js NotificationCall

/-- How the push services are set up, and the texts of errors from outside. -/
structure PushEnv where
  isInitialized : DevicePlatform → Bool
  JSON_parse : String → Option Json
  message : PrismaError → String

def DevicePlatform.notInitialized : DevicePlatform → String
  | IOS => "APNS_NOT_INITIALIZED"
  | ANDROID => "FCM_NOT_INITIALIZED"
  | WEB => "WEB_PUSH_NOT_INITIALIZED"

def DevicePlatform.text : DevicePlatform → String
  | IOS => "IOS"
  | ANDROID => "ANDROID"
  | WEB => "WEB"

/-- Push errors that a retry can never fix. -/
def TERMINAL_PUSH_ERRORS : List String :=
  ["FCM_NOT_INITIALIZED", "APNS_NOT_INITIALIZED", "WEB_PUSH_NOT_INITIALIZED"]

/-- The stored token is a subscription with an endpoint and both keys. -/
def parseSubscription (P : PushEnv) (token : String) : Bool :=
  match P.JSON_parse token with
  | none => false
  | some parsed =>
    let keys := parsed.get? "keys"
    (parsed.get? "endpoint").any Json.isTruthy &&
      (keys.bind fun k => k.get? "p256dh").any Json.isTruthy &&
      (keys.bind fun k => k.get? "auth").any Json.isTruthy

/-- `error.message || 'UNKNOWN_ERROR'`. -/
def PushEnv.failureReason (P : PushEnv) : AppError → String
  | .prisma code => orDefault (some (P.message code)) "UNKNOWN_ERROR"
  | e => orDefault (some e.message) "UNKNOWN_ERROR"

/-- `sendNotification` of the service of the push's platform, which throws nothing. -/
def sendNotification (P : PushEnv) (push : Push) : NotificationProcess SendResult :=
  if !P.isInitialized push.platform then
    return { success := false, error := some push.platform.notInitialized }
  else if push.platform = .WEB && !parseSubscription P push.token then
    return { success := false, error := some "MALFORMED_SUBSCRIPTION", invalidToken := true }
  else
    (Process.modify (.sendNotification push) (.error "") (effect (.sendNotification push))
      fun w => w.pushReply push).tryCatch fun e =>
        .ret { success := false, error := some (P.failureReason e) }

namespace NotificationQueueProcessor

def updateNotification (id : ℕ) (data : NotificationUpdate) : NotificationProcess Unit :=
  writeIf (.notificationUpdate id data) fun w => (w.notifications.find? id).isSome

/-- The notification has failed for a reason. -/
def markFailed (id : ℕ) (reason : String) : NotificationProcess Unit := do
  let now ← LocationService.dateNow
  updateNotification id
    { status := .FAILED, failed_at := some now, failure_reason := some reason }

def markSent (id : ℕ) (messageId : Option String) : NotificationProcess Unit := do
  let now ← LocationService.dateNow
  updateNotification id { status := .SENT, sent_at := some now, push_message_id := messageId }

/-- A failure is logged only. -/
def clearToken (deviceId : ℕ) : NotificationProcess Unit :=
  Process.tryCatch (do
    let now ← LocationService.dateNow
    writeIf (.deviceClearToken deviceId now) fun w => (w.devices.find? deviceId).isSome)
    fun _ => .ret ()

/-- `AUDIT_EVENT_NAMES.NOTIFICATION`. -/
def NOTIFICATION_SENT : String := "audit.notification.sent"

def NOTIFICATION_FAILED : String := "audit.notification.failed"

/-- The audit event of a push that the provider took. -/
def sentAudit (id : ℕ) (view : NotificationView) : AuditEventPayload where
  eventType := .SEND
  entityType := some .NOTIFICATION
  entityId := some id
  action := "notification_sent"
  description := some ("Sent push notification to device " ++
    toString view.notification.device_id ++ " for alert " ++ toString view.notification.alert_id)
  metadata := .obj
    [("alertId", .num view.notification.alert_id), ("deviceId", .num view.notification.device_id),
      ("platform", .str view.device.platform.text),
      ("confidence", .str view.notification.confidence.text),
      ("matchReason", .str view.notification.match_reason),
      ("distanceKm", (view.notification.distance_km.map Value.num).getD .null)]
  success := some true

/-- The audit event of a push that it did not take. -/
def failedAudit (id : ℕ) (view : NotificationView) (result : SendResult) : AuditEventPayload where
  eventType := .FAILURE
  entityType := some .NOTIFICATION
  entityId := some id
  action := "notification_failed"
  description := some ("Failed to send push notification to device " ++
    toString view.notification.device_id ++ " for alert " ++ toString view.notification.alert_id)
  errorMessage := some (orDefault result.error "UNKNOWN_ERROR")
  metadata := .obj
    [("alertId", .num view.notification.alert_id), ("deviceId", .num view.notification.device_id),
      ("platform", .str view.device.platform.text), ("invalidToken", .bool result.invalidToken)]
  success := some false

/-- The listeners are called; what they throw is dropped. -/
def emitAudit (name : String) (payload : AuditEventPayload) : NotificationProcess Unit :=
  (write (.emit name payload)).tryCatch fun _ => .ret ()

/-- A dead token or a missing set-up is not worth a retry. -/
def isTerminal (result : SendResult) : Bool :=
  result.invalidToken || TERMINAL_PUSH_ERRORS.contains (result.error.getD "")

def handleSendResult (id : ℕ) (view : NotificationView) (result : SendResult) :
    NotificationProcess Unit :=
  if result.success then do
    markSent id result.messageId
    emitAudit NOTIFICATION_SENT (sentAudit id view)
  else do
    markFailed id (orDefault result.error "UNKNOWN_ERROR")
    (if result.invalidToken then clearToken view.device.id else .ret ())
    emitAudit NOTIFICATION_FAILED (failedAudit id view result)
    if isTerminal result then return ()
    else .raise (.error ("Failed to send push notification: " ++ result.error.getD "undefined"))

/-- The body of the `try` block. -/
def deliver (P : PushEnv) (id : ℕ) : NotificationProcess Unit := do
  let found ← read (.notificationFindUnique id) fun w => w.viewNotification id
  match found with
  | none => return ()
  | some view =>
    match truthy view.device.push_token with
    | none => markFailed id "PUSH_TOKEN_MISSING"
    | some token => do
      let result ← sendNotification P
        { notificationId := id, deviceId := view.device.id, platform := view.device.platform, token,
          payload := buildPushPayload view }
      handleSendResult id view result

def processPushNotification (P : PushEnv) (notificationId : ℕ) : NotificationProcess Unit :=
  (deliver P notificationId).tryCatch fun e => do
    markFailed notificationId (P.failureReason e)
    .raise e

end NotificationQueueProcessor

end FifiAlert
