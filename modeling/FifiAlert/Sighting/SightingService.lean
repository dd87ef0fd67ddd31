import FifiAlert.Alert.AlertService
import FifiAlert.Notification.NotificationService
import FifiAlert.Notification.PushNotification

/-!
# Reporting a sighting

`SightingService.create`: the row of the sighting, the notifications of the creator of the alert
on each of their devices, and the email to them. What goes wrong with the notifications or the
email does not fail the report.
-/

namespace FifiAlert

open Concurrency Store Js

structure SightingLocationDto where
  latitude : ℚ
  longitude : ℚ
  address : String

structure CreateSightingDto where
  alert_id : ℕ
  location : SightingLocationDto
  photo : Option String := none
  notes : Option String := none
  confidence : NotificationConfidence
  sighting_time : String
  direction : Option String := none

structure SightingResponseDto where
  id : ℕ
  alert_id : ℕ
  reported_by : ℕ
  latitude : ℚ
  longitude : ℚ
  address : Option String
  photo : Option String
  photos : List String
  notes : Option String
  confidence : Option String
  sighting_time : Time
  direction : Option String
  dismissed : Bool
  dismissed_at : Option Time
  dismissed_reason : Option String
  created_at : Time
  updated_at : Time

/-- `new Date` of a string; none is an invalid date. -/
structure SightingEnv where
  newDate : String → Option Time

/-- The calls of the sighting service. -/
inductive SightingCall where
  | notification (l : NotificationCall)
  | deviceFindTokens (userId : ℕ)
  | sightingInsert (dto : CreateSightingDto) (reporterId : ℕ) (sighting_time : Time)
  | sightingFindUnique (id : ℕ)

abbrev SightingProcess := Process World SightingCall AppError

/-- The row of a sighting that is reported at a time. -/
def CreateSightingDto.toRow (dto : CreateSightingDto) (reporterId : ℕ) (sighting_time now : Time)
    (id : ℕ) : Sighting where
  id := id
  alert_id := dto.alert_id
  reporter_id := reporterId
  sighting_lat := dto.location.latitude
  sighting_lon := dto.location.longitude
  location_point := ⟨dto.location.longitude, dto.location.latitude⟩
  location_address := some dto.location.address
  photo_url := truthy dto.photo
  photos := (truthy dto.photo).toList
  notes := truthy dto.notes
  confidence := some dto.confidence.text
  sighting_time := sighting_time
  direction := truthy dto.direction
  dismissed := false
  created_at := now
  updated_at := now

/-- A sighting refers to its alert and to its reporter. -/
def World.takesSighting (w : World) (alertId reporterId : ℕ) : Bool :=
  (w.alerts.find? alertId).isSome && (w.users.find? reporterId).isSome

def World.insertSighting (w : World) (dto : CreateSightingDto) (reporterId : ℕ)
    (sighting_time : Time) : World :=
  { w with
    sightings := w.sightings.insertNew (dto.toRow reporterId sighting_time w.now w.nextSighting)
    nextSighting := w.nextSighting + 1 }

/-- What a call does to the shared state. -/
def SightingCall.effect : SightingCall → World → World
  | notification l, w => l.effect w
  | sightingInsert dto reporterId sighting_time, w =>
    if w.takesSighting dto.alert_id reporterId then w.insertSighting dto reporterId sighting_time
    else w
  | _, w => w

namespace SightingService

def mapToResponseDto (sighting : Sighting) : SightingResponseDto where
  id := sighting.id
  alert_id := sighting.alert_id
  reported_by := sighting.reporter_id
  latitude := sighting.sighting_lat
  longitude := sighting.sighting_lon
  address := sighting.location_address
  photo := sighting.photo_url <|> sighting.photos.head?
  photos := sighting.photos
  notes := sighting.notes
  confidence := sighting.confidence
  sighting_time := sighting.sighting_time
  direction := sighting.direction
  dismissed := sighting.dismissed
  dismissed_at := sighting.dismissed_at
  dismissed_reason := sighting.dismissed_reason
  created_at := sighting.created_at
  updated_at := sighting.updated_at

/-- The insertion, which answers with the new id. -/
def insertSighting (S : SightingEnv) (dto : CreateSightingDto) (reporterId : ℕ) :
    SightingProcess ℕ :=
  match S.newDate dto.sighting_time with
  | none => .raise (.prisma .other)
  | some sighting_time =>
    Process.atomic (.sightingInsert dto reporterId sighting_time) (.prisma .other) fun w =>
      (if w.takesSighting dto.alert_id reporterId then .ok w.nextSighting
        else .error (.prisma .other),
        (SightingCall.sightingInsert dto reporterId sighting_time).effect w)

/-- The row that tells the creator of the alert on one of their devices. -/
def sightingData (alertId : ℕ) (dto : CreateSightingDto) (deviceId : ℕ) : NotificationData where
  alert_id := alertId
  device_id := deviceId
  confidence := dto.confidence
  match_reason := "Sighting reported at " ++
    (if dto.location.address = "" then "unknown location" else dto.location.address)
  distance_km := some 0
  status := .QUEUED

/-- The notification on one device. What fails is logged only. -/
def notifyDevice (alertId : ℕ) (dto : CreateSightingDto) (device : Device) :
    SightingProcess Unit :=
  Process.tryCatch (do
    let _ ← (NotificationCall.create (sightingData alertId dto device.id)).relabel .notification
    (NotificationService.queueAlertNotifications alertId).relabel .notification) fun _ => .ret ()

/-- The devices of a user that hold a token. -/
def tokenDevices (w : World) (userId : ℕ) : List Device :=
  w.devices.findMany fun device => device.user_id = userId && device.push_token.isSome

def notifyCreatorOfSighting (creatorId alertId : ℕ) (dto : CreateSightingDto) :
    SightingProcess Unit := do
  let devices ← Process.query (.deviceFindTokens creatorId) (.prisma .other) fun w =>
    tokenDevices w creatorId
  Process.forEach devices (notifyDevice alertId dto)

def sendSightingReportedEmail (alertCreatorId alertId : ℕ) : SightingProcess Unit := do
  let user ← (NotificationCall.read (.userFindUnique alertCreatorId) fun w =>
    w.users.find? alertCreatorId).relabel .notification
  let alert ← (NotificationCall.read (.location (.alertFindUnique alertId)) fun w =>
    w.alerts.find? alertId).relabel .notification
  match user, alert with
  | none, _ => .raise (.error "USER_NOT_FOUND")
  | some _, none => .raise (.error "ALERT_NOT_FOUND")
  | some user, some _ =>
    ((NotificationCall.write (.sendHtml ⟨"sightingReported", user.email, alertId⟩)).relabel
      SightingCall.notification).tryCatch fun _ =>
        .raise (.error "FAILED_TO_SEND_SIGHTING_REPORTED_EMAIL")

/-- What follows the insertion: the creator of the alert is told, and the row is the answer. -/
def afterInsert (creatorId : ℕ) (dto : CreateSightingDto) (sightingId : ℕ) :
    SightingProcess SightingResponseDto := do
  (notifyCreatorOfSighting creatorId dto.alert_id dto).tryCatch fun _ => .ret ()
  let sighting ← Process.query (.sightingFindUnique sightingId) (.prisma .other) fun w =>
    w.sightings.find? sightingId
  match sighting with
  | none =>
    .raise (.notFound ("Sighting with ID " ++ toString sightingId ++ " not found after creation"))
  | some sighting => do
    (sendSightingReportedEmail creatorId dto.alert_id).tryCatch fun _ => .ret ()
    return mapToResponseDto sighting

def create (S : SightingEnv) (dto : CreateSightingDto) (reporterId : ℕ) :
    SightingProcess SightingResponseDto := do
  let alert ← (NotificationCall.read (.location (.alertFindUnique dto.alert_id)) fun w =>
    w.alerts.find? dto.alert_id).relabel .notification
  match alert with
  | none => .raise (.notFound ("Alert with ID " ++ toString dto.alert_id ++ " not found"))
  | some alert =>
    if alert.status ≠ .ACTIVE then
      .raise (.badRequest ["Cannot report sighting for " ++
        AlertService.AlertStatus.lowerText alert.status ++ " alert"])
    else do
      let sightingId ← insertSighting S dto reporterId
      afterInsert alert.creator_id dto sightingId

end SightingService

end FifiAlert
