import FifiAlert.Alert.AlertCalls

/-!
# The alert service

What the creator of an alert can do with it, and the hourly expiry. Each
operation reads the alert, checks the owner and the state, writes, and then
tells the others: status events, the reunion snapshot, the queue, an email. Audit
events are left out.
-/

namespace FifiAlert

open Concurrency Store AlertCall

inductive AlertOutcome where
  | FOUND_SAFE
  | FOUND_INJURED
  | FOUND_DECEASED
  | RETURNED_HOME
  | FALSE_ALARM
  | OTHER
  deriving DecidableEq

namespace AlertOutcome

def text : AlertOutcome → String
  | FOUND_SAFE => "FOUND_SAFE"
  | FOUND_INJURED => "FOUND_INJURED"
  | FOUND_DECEASED => "FOUND_DECEASED"
  | RETURNED_HOME => "RETURNED_HOME"
  | FALSE_ALARM => "FALSE_ALARM"
  | OTHER => "OTHER"

/-- `isFoundOutcome`: membership in `FOUND_OUTCOMES`. -/
def isFound : AlertOutcome → Bool
  | FOUND_SAFE => true
  | FOUND_INJURED => true
  | RETURNED_HOME => true
  | _ => false

end AlertOutcome

/-- `undefined` is `none`; a column that may be null takes `some none`. -/
structure UpdateAlertDto where
  petDescription : Option String := none
  petPhotos : Option (List String) := none
  contactPhone : Option (Option String) := none
  contactEmail : Option (Option String) := none
  notes : Option (Option String) := none

structure ResolveAlertDto where
  outcome : AlertOutcome
  notes : Option String := none
  shareSuccessStory : Bool := false
  thankYouMessage : Option String := none

structure CancelAlertDto where
  reason : Option String := none

/-- The response for an alert. `pet` is what the email templates read; no
response has it. -/
structure AlertResponseDto where
  id : ℕ
  creatorId : Option ℕ
  petId : Option ℕ
  tagId : Option String
  petName : String
  petSpecies : PetSpecies
  petBreed : Option String
  petDescription : String
  petColor : Option String
  petAgeYears : Option ℕ
  petPhotos : List String
  lastSeenLat : ℚ
  lastSeenLon : ℚ
  locationAddress : Option String
  alertRadiusKm : ℚ
  status : AlertStatus
  timeLastSeen : Time
  createdAt : Time
  updatedAt : Time
  expiresAt : Time
  resolvedAt : Option Time
  cancelledAt : Option Time
  renewalCount : ℕ
  contactPhone : Option String
  contactEmail : Option String
  isPhonePublic : Bool
  affectedPostalCodes : Option (List String)
  notes : Option String
  rewardOffered : Bool
  rewardAmount : Option ℚ
  sightingCount : Option ℕ
  distanceKm : Option ℚ := none
  pet : Option String := none
  deriving DecidableEq

/-- A row of `alert.findUnique` with the pet and the sightings it includes. -/
structure AlertRow where
  alert : Alert
  pet : Option Pet
  sightings : List Sighting

/-- The environment variable for the lifetime of a reunion snapshot. -/
structure AlertEnv where
  REUNION_TTL_DAYS : Option String := none

def DEFAULT_REUNION_TTL_DAYS : ℤ := 30

def getReunionTtlDays (E : AlertEnv) : ℤ :=
  match E.REUNION_TTL_DAYS.bind Js.parseInt with
  | some parsed => if parsed > 0 then parsed else DEFAULT_REUNION_TTL_DAYS
  | none => DEFAULT_REUNION_TTL_DAYS

def MS_PER_DAY : ℤ := 24 * 60 * 60 * 1000

/-- `Math.round(value * 1000) / 1000`. -/
def roundCoordinate (value : ℚ) : ℚ :=
  ((value * 1000 + 1 / 2).floor : ℚ) / 1000

/-- `alert.findUnique` with `ALERT_DETAIL_INCLUDE`. -/
def World.findAlert (w : World) (id : ℕ) : Option AlertRow :=
  (w.alerts.find? id).map fun alert =>
    { alert
      pet := alert.pet_id.bind w.pets.find?
      sightings := w.sightings.findMany fun s => s.alert_id = id && !s.dismissed }

namespace AlertService

def mapRawToResponseDto (alert : Alert) (tagId : Option String) (distance_km : Option ℚ := none) :
    AlertResponseDto where
  id := alert.id
  creatorId := some alert.creator_id
  petId := alert.pet_id
  tagId := tagId
  petName := alert.pet_name
  petSpecies := alert.pet_species
  petBreed := alert.pet_breed
  petDescription := alert.pet_description
  petColor := alert.pet_color
  petAgeYears := alert.pet_age_years
  petPhotos := alert.pet_photos
  lastSeenLat := alert.last_seen_lat
  lastSeenLon := alert.last_seen_lon
  locationAddress := alert.location_address
  alertRadiusKm := alert.alert_radius_km
  status := alert.status
  timeLastSeen := alert.time_last_seen
  createdAt := alert.created_at
  updatedAt := alert.updated_at
  expiresAt := alert.expires_at
  resolvedAt := alert.resolved_at
  cancelledAt := alert.cancelled_at
  renewalCount := alert.renewal_count
  contactPhone := if alert.is_phone_public then alert.contact_phone else none
  contactEmail := none
  isPhonePublic := alert.is_phone_public
  affectedPostalCodes := some alert.affected_postal_codes
  notes := alert.notes
  rewardOffered := alert.reward_offered
  rewardAmount := alert.reward_amount
  sightingCount := none
  distanceKm := distance_km.filter fun d => d ≠ 0

def mapToResponseDto (row : AlertRow) (requesterId : Option ℕ) : AlertResponseDto :=
  let isCreator := requesterId = some row.alert.creator_id
  { mapRawToResponseDto row.alert (row.pet.map Pet.tagId) with
    contactPhone :=
      if isCreator ∨ row.alert.is_phone_public then row.alert.contact_phone else none
    contactEmail := if isCreator then row.alert.contact_email else none
    sightingCount := some row.sightings.length }

def applyViewerRedaction (dto : AlertResponseDto) (requesterId : Option ℕ) :
    AlertResponseDto :=
  match requesterId with
  | some _ => dto
  | none =>
    { dto with
      creatorId := none
      contactEmail := none
      notes := none
      affectedPostalCodes := none
      lastSeenLat := roundCoordinate dto.lastSeenLat
      lastSeenLon := roundCoordinate dto.lastSeenLon }

def findById (alertId : ℕ) (requesterId : Option ℕ) :
    AlertProcess (Option AlertResponseDto) := do
  let row ← read (.alertFindUnique alertId) fun w => w.findAlert alertId
  return row.map fun row => applyViewerRedaction (mapToResponseDto row requesterId) requesterId

/-- `alert.update`: the row has to exist. -/
def updateAlert (alertId : ℕ) (data : AlertData) : AlertProcess Unit :=
  writeIf (.alertUpdate alertId data) .P2025 fun w => (w.alerts.find? alertId).isSome

/-- The check that every operation of the creator starts with. -/
def findOwned (alertId userId : ℕ) (action : String) : AlertProcess AlertRow := do
  let row ← read (.alertFindUnique alertId) fun w => w.findAlert alertId
  match row with
  | none => .raise (.notFound ("Alert with ID " ++ toString alertId ++ " not found"))
  | some row =>
    if row.alert.creator_id ≠ userId then
      .raise (.forbidden ("You do not have permission to " ++ action ++ " this alert"))
    else return row

/-- The columns that `update` writes, from the row it read. -/
def updateData (alert : Alert) (dto : UpdateAlertDto) (now : Time) : AlertData where
  updated_at := some now
  pet_description := dto.petDescription
  pet_photos := match dto.petPhotos with
    | some photos => if photos.isEmpty then none else some (alert.pet_photos ++ photos)
    | none => none
  contact_phone := dto.contactPhone
  contact_email := dto.contactEmail
  notes := dto.notes

def update (alertId userId : ℕ) (dto : UpdateAlertDto) :
    AlertProcess (Option AlertResponseDto) := do
  let row ← findOwned alertId userId "update"
  let now ← read .dateNow World.now
  updateAlert alertId (updateData row.alert dto now)
  findById alertId (some userId)

/-- `ReunionSnapshotService.countNeighboursNotified`. -/
def countNeighboursNotified (alertId : ℕ) (w : World) : ℕ :=
  ((w.notifications.findMany fun n => n.alert_id = alertId && !n.excluded &&
    (n.status = .SENT || n.status = .DELIVERED || n.status = .OPENED)).filterMap fun n =>
      (w.devices.find? n.device_id).map Device.user_id).dedup.length

/-- `ReunionSnapshotService.upsertForResolvedAlert`. -/
def upsertForResolvedAlert (E : AlertEnv) (alertId : ℕ) (pet : Pet)
    (thankYouMessage : Option String) (resolvedAt : Time) : AlertProcess Unit := do
  let neighboursNotified ← read (.notificationFindDelivered alertId)
    (countNeighboursNotified alertId)
  let sightingsReported ← read (.sightingCount alertId) fun w =>
    w.sightings.count fun s => s.alert_id = alertId
  let snapshot : ReunionSnapshot :=
    { tagId := pet.tagId, alertId, petName := pet.name
      petPhotoUrl := pet.primaryPhoto <|> pet.photos.head?
      thankYouMessage, resolvedAt
      neighboursNotified := some neighboursNotified
      sightingsReported
      expiresAt := resolvedAt + getReunionTtlDays E * MS_PER_DAY }
  write (.snapshotDeleteMany pet.tagId alertId) fun _ => ()
  writeIf (.snapshotCreate snapshot) .P2002 fun w =>
    (w.reunionSnapshots.find? pet.tagId).isNone &&
      !w.reunionSnapshots.rows.any fun s => s.alertId = alertId

/-- `sendAlertResolvedEmail`. The template data read the name of `alert.pet`,
and an exception there counts as a failure to send. -/
def sendAlertResolvedEmail (alert : AlertResponseDto) : AlertProcess Unit := do
  let user ← read (.userFindUnique (alert.creatorId.getD 0)) fun w =>
    alert.creatorId.bind w.users.find?
  match user with
  | none => .raise (.error "USER_NOT_FOUND")
  | some user =>
    match alert.pet with
    | none => .raise (.error "FAILED_TO_SEND_ALERT_RESOLVED_EMAIL")
    | some _ =>
      (write (.sendHtml ⟨"alertResolved", user.email, alert.id⟩) fun _ => ()).tryCatch fun _ =>
        .raise (.error "FAILED_TO_SEND_ALERT_RESOLVED_EMAIL")

/-- The public snapshot of a found outcome, written for a tagged pet; says
whether it was written. A failure is logged only. -/
def freezeSnapshot (E : AlertEnv) (row : AlertRow) (dto : ResolveAlertDto)
    (resolvedAt : Time) : AlertProcess Bool :=
  match row.pet with
  | some pet =>
    if dto.outcome.isFound && pet.tagId ≠ "" then
      ((fun _ => true) <$>
        upsertForResolvedAlert E row.alert.id pet dto.thankYouMessage resolvedAt).tryCatch
          fun _ => .ret false
    else .ret false
  | none => .ret false

/-- What `resolve` does after its update. Nothing here makes it fail but the
final read. -/
def afterResolve (E : AlertEnv) (row : AlertRow) (userId : ℕ) (dto : ResolveAlertDto)
    (resolvedAt : Time) (resolutionNotes : String) :
    AlertProcess (Option AlertResponseDto) := do
  let alertId := row.alert.id
  let snapshotWritten ← freezeSnapshot E row dto resolvedAt
  let occurredAt ← read .dateNow World.now
  write (.publish
    { alertId, petId := row.alert.pet_id, creatorId := row.alert.creator_id
      previousStatus := some row.alert.status, newStatus := .RESOLVED
      changedBy := some userId, source := .user, occurredAt
      outcome := some dto.outcome.text, notes := some resolutionNotes
      shareSuccessStory := some dto.shareSuccessStory }) fun _ => ()
  if dto.shareSuccessStory && snapshotWritten then
    (write (.queueAdd (.sendSuccessStory alertId)) fun _ => ()).tryCatch fun _ => .ret ()
  let resolvedAlert ← findById alertId (some userId)
  match resolvedAlert with
  | some alert => (sendAlertResolvedEmail alert).tryCatch fun _ => .ret ()
  | none => pure ()
  return resolvedAlert

def resolve (E : AlertEnv) (alertId userId : ℕ) (dto : ResolveAlertDto) :
    AlertProcess (Option AlertResponseDto) := do
  let row ← findOwned alertId userId "resolve"
  if row.alert.status = .RESOLVED then
    .raise (.unprocessableEntity "Alert is already resolved")
  else
    let resolvedAt ← read .dateNow World.now
    let resolutionNotes :=
      Js.orDefault dto.notes ("Pet found! Outcome: " ++ dto.outcome.text)
    updateAlert alertId
      { status := some .RESOLVED, resolved_at := some resolvedAt
        notes := some (some resolutionNotes) }
    afterResolve E row userId dto resolvedAt resolutionNotes

/-- `cancel` clears the missing flag of the pet when no other alert of it is
live; a failure here is logged only. -/
def clearMissingFlag (petId : ℕ) : AlertProcess Unit := do
  let otherActive ← read (.alertCountActive petId) fun w =>
    w.alerts.count fun a => a.pet_id = some petId && a.isActive
  if otherActive = 0 then
    writeIf (.petUpdate petId false) .P2025 fun w => (w.pets.find? petId).isSome
  else return ()

def AlertStatus.lowerText : AlertStatus → String
  | .DRAFT => "draft"
  | .ACTIVE => "active"
  | .RESOLVED => "resolved"
  | .EXPIRED => "expired"
  | .CANCELLED => "cancelled"

def cancel (alertId userId : ℕ) (dto : CancelAlertDto) :
    AlertProcess (Option AlertResponseDto) := do
  let row ← findOwned alertId userId "cancel"
  if row.alert.status ≠ .DRAFT ∧ row.alert.status ≠ .ACTIVE then
    .raise (.unprocessableEntity
      ("Cannot cancel a " ++ AlertStatus.lowerText row.alert.status ++ " alert"))
  else
    let cancelledAt ← read .dateNow World.now
    updateAlert alertId
      { status := some .CANCELLED, cancelled_at := some cancelledAt
        notes := dto.reason.map some }
    write (.publish
      { alertId, petId := row.alert.pet_id, creatorId := row.alert.creator_id
        previousStatus := some row.alert.status, newStatus := .CANCELLED
        changedBy := some userId, source := .user, occurredAt := cancelledAt
        reason := dto.reason }) fun _ => ()
    match row.alert.pet_id with
    | some petId =>
      if petId = 0 then pure () else (clearMissingFlag petId).tryCatch fun _ => .ret ()
    | none => pure ()
    findById alertId (some userId)

def renew (alertId userId : ℕ) : AlertProcess (Option AlertResponseDto) := do
  let row ← findOwned alertId userId "renew"
  if row.alert.status = .CANCELLED then
    .raise (.unprocessableEntity "Cannot renew a cancelled alert")
  else if row.alert.renewal_count ≥ 3 then
    .raise (.unprocessableEntity "Maximum renewal limit (3) reached")
  else
    let now ← read .dateNow World.now
    let updatedAt ← read .dateNow World.now
    updateAlert alertId
      { expires_at := some (now + 7 * MS_PER_DAY)
        renewal_count := some (row.alert.renewal_count + 1), updated_at := some updatedAt }
    findById alertId (some userId)

/-- `addPhotos`: the alert has to exist. -/
def addPhotos (alertId userId : ℕ) (photoUrls : List String) : AlertProcess Unit := do
  let alert ← findById alertId (some userId)
  match alert with
  | none => .raise (.notFound ("Alert with ID " ++ toString alertId ++ " not found"))
  | some _ =>
    let _ ← read (.alertFindUnique alertId) fun w => w.findAlert alertId
    write (.alertAppendPhotos alertId photoUrls) fun _ => ()

/-- The event for one row that the expiry closed. -/
def expiredEvent (occurredAt : Time) (alert : Alert) : AlertStatusChangedEvent where
  alertId := alert.id
  petId := alert.pet_id
  creatorId := alert.creator_id
  previousStatus := some .ACTIVE
  newStatus := .EXPIRED
  changedBy := none
  source := .system_expiry
  occurredAt := occurredAt

/-- `checkExpired`, the hourly cron. -/
def checkExpired : AlertProcess Unit :=
  Process.tryCatch
    (do
      let expired ← write .alertExpire fun w => w.alerts.findMany (Alert.isOverdue w.now)
      if expired.isEmpty then return ()
      else
        let occurredAt ← read .dateNow World.now
        Process.forEach expired fun alert =>
          write (.publish (expiredEvent occurredAt alert)) fun _ => ())
    fun _ => .ret ()

end AlertService

namespace AlertController

/-- `uploadPhotos`, the handler of `POST /alerts/:id/photos`. -/
def uploadPhotos (U : UploadEnv) (id userId : ℕ) (files : List UploadedFile) :
    AlertProcess (List String) := do
  let photoUrls ← UploadService.uploadImages U files "alerts"
    UploadService.DEFAULT_MAX_FILES_PER_UPLOAD
  AlertService.addPhotos id userId photoUrls
  return photoUrls

end AlertController

namespace PetService

/-- `findOne` with the id of the caller. -/
def findOne (id userId : ℕ) : AlertProcess Pet := do
  let pet ← read (.petFindUnique id) fun w => w.pets.find? id
  match pet with
  | none => .raise (.notFound ("Pet with ID " ++ toString id ++ " not found"))
  | some pet =>
    if pet.userId ≠ userId then
      .raise (.forbidden "You do not have permission to access this pet")
    else return pet

def markAsMissing (id userId : ℕ) : AlertProcess Pet := do
  let pet ← findOne id userId
  if pet.isMissing then
    .raise (.unprocessableEntity "Pet is already marked as missing")
  else
    writeIf (.petUpdate id true) .P2025 fun w => (w.pets.find? id).isSome
    return { pet with isMissing := true }

/-- The notes of an alert that was resolved because its pet was found. -/
def AUTO_RESOLVED_NOTES : String :=
  "Pet found! Alert auto-resolved when pet was marked as found."

/-- `markAsFound` resolves the live alerts of the pet; a failure there is logged
only. -/
def resolveActiveAlerts (id userId : ℕ) : AlertProcess Unit := do
  let activeAlerts ← read (.alertFindActive id) fun w =>
    w.alerts.findMany fun a => a.pet_id = some id && a.isActive
  if activeAlerts.isEmpty then return ()
  else
    let now ← read .dateNow World.now
    write (.alertResolveMany (activeAlerts.map Alert.id) now AUTO_RESOLVED_NOTES) fun _ => ()
    Process.forEach activeAlerts fun alert =>
      write (.publish
        { alertId := alert.id, petId := some id, creatorId := alert.creator_id
          previousStatus := some alert.status, newStatus := .RESOLVED
          changedBy := some userId, source := .pet_found, occurredAt := now }) fun _ => ()

def markAsFound (id userId : ℕ) : AlertProcess Pet := do
  let pet ← findOne id userId
  if !pet.isMissing then
    .raise (.unprocessableEntity "Pet is not marked as missing")
  else
    writeIf (.petUpdate id false) .P2025 fun w => (w.pets.find? id).isSome
    (resolveActiveAlerts id userId).tryCatch fun _ => .ret ()
    return { pet with isMissing := false }

end PetService

/-- What a user can ask of an alert, with the arguments of the request. -/
inductive AlertOp where
  | update (dto : UpdateAlertDto)
  | resolve (dto : ResolveAlertDto)
  | cancel (dto : CancelAlertDto)
  | renew
  | uploadPhotos (files : List UploadedFile)

/-- The operation that serves the request of the user on the alert. -/
def AlertOp.process (E : AlertEnv) (U : UploadEnv) (alertId userId : ℕ) :
    AlertOp → AlertProcess Unit
  | update dto => (fun _ => ()) <$> AlertService.update alertId userId dto
  | resolve dto => (fun _ => ()) <$> AlertService.resolve E alertId userId dto
  | cancel dto => (fun _ => ()) <$> AlertService.cancel alertId userId dto
  | renew => (fun _ => ()) <$> AlertService.renew alertId userId
  | uploadPhotos files => (fun _ => ()) <$> AlertController.uploadPhotos U alertId userId files

/-- What changes alerts: a user's request, the hourly expiry, a pet that is
found. -/
inductive AlertRequest where
  | onAlert (alertId userId : ℕ) (op : AlertOp)
  | checkExpired
  | markAsFound (petId userId : ℕ)

def AlertRequest.process (E : AlertEnv) (U : UploadEnv) : AlertRequest → AlertProcess Unit
  | onAlert alertId userId op => op.process E U alertId userId
  | checkExpired => AlertService.checkExpired
  | markAsFound petId userId => (fun _ => ()) <$> PetService.markAsFound petId userId

end FifiAlert
