import FifiAlert.Notification.NotificationService

/-!
# The wave job

`NotificationQueueProcessor.processAlertNotifications` runs one escalation wave of
an alert: it takes the matches of the wave's tier, pushes to every reachable device
of the matched users, and in the first wave sends each of them an email as well.
-/

namespace FifiAlert

open Concurrency Store Js NotificationCall

/-- The location service, and the hour of the day where the server is. -/
structure NotificationEnv where
  location : LocationEnv
  getHours : Time → ℕ

inductive NotificationChannel where
  | PUSH
  | EMAIL
  deriving DecidableEq

/-- The channel that a row's `meta` names. -/
def Notification.channel (n : Notification) : NotificationChannel :=
  match n.«meta».bind fun m => m.get? "channel" with
  | some (.str "EMAIL") => .EMAIL
  | _ => .PUSH

/-- The owner of the device of a row. -/
def World.ownerOf (w : World) (n : Notification) : Option ℕ :=
  (w.devices.find? n.device_id).map Device.user_id

namespace NotificationQueueProcessor

def isQuietHours (hour : ℕ) : Bool :=
  QUIET_HOURS_START ≤ hour || hour < QUIET_HOURS_END

/-- Was the user reached on the channel for the alert? Failed rows and exclusions
do not count. -/
def beenNotified (w : World) (alertId userId : ℕ) (channel : NotificationChannel) : Bool :=
  w.notifications.rows.any fun n =>
    n.alert_id = alertId && !n.excluded && n.status ≠ .FAILED &&
      w.ownerOf n = some userId && n.channel = channel

def MS_PER_DAY : ℤ := 24 * 60 * 60 * 1000

/-- Did the user get as many notifications since then as the tier allows? -/
def overDailyCap (w : World) (userId : ℕ) (since : Time) (wave : NotificationConfidence) : Bool :=
  DAILY_CAP_BY_CONFIDENCE wave ≤ w.notifications.count fun n =>
    !n.excluded && since ≤ n.queued_at && w.ownerOf n = some userId

def hasBeenNotified (alertId : ℕ) (userId : Ident) (channel : NotificationChannel) :
    NotificationProcess Bool := do
  let user ← numericId userId
  read (.notificationFindMany alertId user) fun w => beenNotified w alertId user channel

def isOverDailyCap (userId : Ident) (wave : NotificationConfidence) :
    NotificationProcess Bool := do
  let now ← LocationService.dateNow
  let user ← numericId userId
  read (.notificationCount user (now - MS_PER_DAY)) fun w =>
    overDailyCap w user (now - MS_PER_DAY) wave

/-- The matches of the wave, without those under the id of the creator. -/
def deviceMatches (wave : NotificationConfidence) (creatorId : ℕ) (allMatches : List DeviceMatch) :
    List DeviceMatch :=
  allMatches.filter fun m => m.confidence = wave && m.userId ≠ .str (toString creatorId)

/-- One match for each user id, the first one. -/
def userMatches (ms : List DeviceMatch) : Assoc Ident DeviceMatch :=
  Assoc.bestOf (fun m => m.userId) (fun _ _ => false) ms

/-- The ids of the matched users, as numbers. -/
def userIdsOf (entries : List (Ident × DeviceMatch)) : List ℕ :=
  entries.filterMap fun e => e.1.parseInt

def isReachable (device : Device) : Bool :=
  device.push_token.isSome && device.push_enabled

def reachableDevices (w : World) (userIds : List ℕ) : List Device :=
  w.devices.findMany fun d => userIds.contains d.user_id && isReachable d

def findReachableDevices (userIds : List ℕ) : NotificationProcess (List Device) :=
  if userIds.isEmpty then return []
  else read (.deviceFindReachable userIds) fun w => reachableDevices w userIds

def devicesByUser (devices : List Device) : Assoc Ident (List ℕ) :=
  Assoc.groupBy (fun d => .str (toString d.user_id)) (fun d => d.id) devices

/-- Matched devices without a token get nothing themselves. -/
def recordTokenless (alertId : ℕ) (m : DeviceMatch) : NotificationProcess Unit :=
  if (truthy m.pushToken).isNone then do
    let deviceId ← numericId m.deviceId
    NotificationService.trackExclusion alertId deviceId .PUSH_TOKEN_MISSING
  else return ()

/-- A matched user without a reachable device: their token has push turned off. -/
def recordUnreachable (alertId : ℕ) (m : DeviceMatch) : NotificationProcess Unit :=
  if (truthy m.pushToken).isSome then do
    let deviceId ← numericId m.deviceId
    NotificationService.trackExclusion alertId deviceId .PUSH_TOKEN_MISSING
  else return ()

def excludeAll (alertId : ℕ) (targets : List ℕ) (reason : ExclusionReason) :
    NotificationProcess Unit :=
  Process.forEach targets fun deviceId =>
    NotificationService.trackExclusion alertId deviceId reason

/-- The row of a push. -/
def pushData (alertId : ℕ) (m : DeviceMatch) (deviceId : ℕ) : NotificationData where
  alert_id := alertId
  device_id := deviceId
  confidence := m.confidence
  match_reason := m.matchReason.text
  distance_km := some m.distanceKm
  status := .QUEUED

def queuePush (alertId : ℕ) (m : DeviceMatch) (deviceId : ℕ) : NotificationProcess Unit := do
  let id ← create (pushData alertId m deviceId)
  write (.queueAdd (.sendPushNotification id))

/-- Push to every reachable device of a user, unless something speaks against it. -/
def pushTargets (alertId : ℕ) (wave : NotificationConfidence) (inQuietHours : Bool)
    (targets : List ℕ) (userId : Ident) (m : DeviceMatch) : NotificationProcess Unit :=
  if inQuietHours && wave ≠ .HIGH then excludeAll alertId targets .QUIET_HOURS
  else do
    let notified ← hasBeenNotified alertId userId .PUSH
    if notified then excludeAll alertId targets .ALREADY_NOTIFIED
    else do
      let capped ← isOverDailyCap userId wave
      if capped then excludeAll alertId targets .DAILY_CAP
      else Process.forEach targets (queuePush alertId m)

def pushUser (alertId : ℕ) (wave : NotificationConfidence) (inQuietHours : Bool)
    (devices : Assoc Ident (List ℕ)) (entry : Ident × DeviceMatch) : NotificationProcess Unit :=
  let targets := (devices.get entry.1).getD []
  if targets.isEmpty then recordUnreachable alertId entry.2
  else pushTargets alertId wave inQuietHours targets entry.1 entry.2

/-- Nothing is attempted for a user who takes no emails. A failure is logged only. -/
def sendFallbackEmail (alertId : ℕ) (m : DeviceMatch) : NotificationProcess (Option Bool) :=
  match m.userId.parseInt with
  | none => .ret none
  | some userId =>
    (do
      let optedIn ← AlertEmailService.isOptedIn userId
      if optedIn then some <$> AlertEmailService.sendAlertEmail userId alertId
      else return none).tryCatch fun _ => .ret (some false)

/-- The row of an email. -/
def emailData (alertId : ℕ) (m : DeviceMatch) (deviceId : ℕ) (sent : Bool) (now : Time) :
    NotificationData where
  alert_id := alertId
  device_id := deviceId
  confidence := m.confidence
  match_reason := m.matchReason.text
  distance_km := some m.distanceKm
  status := if sent then .SENT else .FAILED
  sent_at := if sent then some now else none
  failed_at := if sent then none else some now
  failure_reason := if sent then none else some "EMAIL_FALLBACK_NOT_SENT"
  «meta» := some (.obj [("channel", .str "EMAIL")])

def recordEmailNotification (alertId : ℕ) (m : DeviceMatch) (sent : Bool) :
    NotificationProcess Unit :=
  Process.tryCatch (do
    let now ← LocationService.dateNow
    let deviceId ← numericId m.deviceId
    (fun _ => ()) <$> create (emailData alertId m deviceId sent now)) fun _ => .ret ()

def emailUser (alertId : ℕ) (entry : Ident × DeviceMatch) : NotificationProcess Unit := do
  let notified ← hasBeenNotified alertId entry.1 .EMAIL
  if notified then return ()
  else do
    let sent ← sendFallbackEmail alertId entry.2
    match sent with
    | none => return ()
    | some sent => recordEmailNotification alertId entry.2 sent

/-- What a wave does with its matches. -/
def notifyMatches (E : NotificationEnv) (alertId : ℕ) (wave : NotificationConfidence)
    (ms : List DeviceMatch) : NotificationProcess Unit := do
  let entries := (userMatches ms).rows
  let now ← LocationService.dateNow
  let inQuietHours := isQuietHours (E.getHours now)
  let devices ← findReachableDevices (userIdsOf entries)
  Process.forEach ms (recordTokenless alertId)
  Process.forEach entries (pushUser alertId wave inQuietHours (devicesByUser devices))
  if wave = .HIGH then Process.forEach entries (emailUser alertId)
  else return ()

/-- A job without a wave counts as the first wave. -/
def processAlertNotifications (E : NotificationEnv) (alertId : ℕ)
    (wave? : Option NotificationConfidence) : NotificationProcess Unit := do
  let alert ← read (.location (.alertFindUnique alertId)) fun w => w.alerts.find? alertId
  match alert with
  | none => return ()
  | some alert =>
    if alert.status ≠ .ACTIVE then return ()
    else do
      let wave := wave?.getD .HIGH
      let allMatches ← LocationService.findDevicesForAlert E.location alertId
      notifyMatches E alertId wave (deviceMatches wave alert.creator_id allMatches)

end NotificationQueueProcessor

end FifiAlert
