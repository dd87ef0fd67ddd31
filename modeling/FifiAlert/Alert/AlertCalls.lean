import FifiAlert.Upload.UploadService

/-!
# The calls of the alert and pet services

The statements of `AlertService`, `ReunionSnapshotService` and of the part of
`PetService` that touches alerts, as labels with their arguments, and what each
of them does to the shared state.
-/

namespace FifiAlert

open Concurrency Store

/-- The `data` of an `alert.update`: the columns it names, with their values. -/
structure AlertData where
  pet_description : Option String := none
  pet_photos : Option (List String) := none
  contact_phone : Option (Option String) := none
  contact_email : Option (Option String) := none
  notes : Option (Option String) := none
  status : Option AlertStatus := none
  resolved_at : Option Time := none
  cancelled_at : Option Time := none
  expires_at : Option Time := none
  renewal_count : Option ℕ := none
  updated_at : Option Time := none
  deriving DecidableEq

/-- Write the named columns; `updated_at` follows the clock unless it is named. -/
def AlertData.apply (data : AlertData) (now : Time) (alert : Alert) : Alert :=
  { alert with
    pet_description := data.pet_description.getD alert.pet_description
    pet_photos := data.pet_photos.getD alert.pet_photos
    contact_phone := data.contact_phone.getD alert.contact_phone
    contact_email := data.contact_email.getD alert.contact_email
    notes := data.notes.getD alert.notes
    status := data.status.getD alert.status
    resolved_at := data.resolved_at <|> alert.resolved_at
    cancelled_at := data.cancelled_at <|> alert.cancelled_at
    expires_at := data.expires_at.getD alert.expires_at
    renewal_count := data.renewal_count.getD alert.renewal_count
    updated_at := data.updated_at.getD now }

theorem AlertData.apply_id (data : AlertData) (now : Time) (alert : Alert) :
    (data.apply now alert).id = alert.id := rfl

/-- The value of an enumeration that a parameter is the label of. -/
def PetSpecies.ofLabel : Js.Json → Option PetSpecies
  | .str "DOG" => some .DOG
  | .str "CAT" => some .CAT
  | .str "BIRD" => some .BIRD
  | .str "RABBIT" => some .RABBIT
  | .str "OTHER" => some .OTHER
  | _ => none

def AlertStatus.ofLabel : Js.Json → Option AlertStatus
  | .str "DRAFT" => some .DRAFT
  | .str "ACTIVE" => some .ACTIVE
  | .str "RESOLVED" => some .RESOLVED
  | .str "EXPIRED" => some .EXPIRED
  | .str "CANCELLED" => some .CANCELLED
  | _ => none

/-- What a parameter is read as, if it is given. -/
def bindParam {α : Type} (read : Js.Json → Option α) : Option Js.Json → Option (Option α)
  | none => some none
  | some x => (read x).map some

/-- The query of an alert search, as the parser of query strings leaves it. -/
structure ListAlertsQueryDto where
  lat : Option Js.Json := none
  lon : Option Js.Json := none
  radiusKm : Option Js.Json := none
  species : Option Js.Json := none
  status : Option Js.Json := none
  postalCode : Option Js.Json := none
  limit : Option Js.Json := none
  offset : Option Js.Json := none

inductive AlertCall where
  | dateNow
  | alertFindUnique (id : ℕ)
  | alertUpdate (id : ℕ) (data : AlertData)
  | alertAppendPhotos (id : ℕ) (photoUrls : List String)
  | alertExpire
  | alertFindActive (petId : ℕ)
  | alertResolveMany (ids : List ℕ) (date : Time) (notes : String)
  | alertCountActive (petId : ℕ)
  | petFindUnique (id : ℕ)
  | petUpdate (id : ℕ) (isMissing : Bool)
  | notificationFindDelivered (alertId : ℕ)
  | sightingCount (alertId : ℕ)
  | snapshotDeleteMany (tagId : String) (alertId : ℕ)
  | snapshotCreate (snapshot : ReunionSnapshot)
  | queueAdd (job : Job)
  | publish (event : AlertStatusChangedEvent)
  | userFindUnique (id : ℕ)
  | sendHtml (email : Email)
  | randomUUID
  | cdnUpload (folder publicId : String) (outcome : UploadOutcome)
  | alertFindFirst (tagId : String)
  | alertQueryRaw (query : ListAlertsQueryDto)

instance : UploadCalls AlertCall := ⟨.dateNow, .randomUUID, .cdnUpload⟩

namespace Alert

def isActive (alert : Alert) : Bool := alert.status = .ACTIVE

/-- The `where` clause of the expiry cron. -/
def isOverdue (now : Time) (alert : Alert) : Bool :=
  alert.expires_at < now && alert.isActive

end Alert

namespace AlertCall

/-- A job with an id of its own is added once. -/
def addJob (job : Job) (jobs : List Job) : List Job :=
  match job with
  | .sendSuccessStory _ => if jobs.contains job then jobs else jobs ++ [job]
  | _ => jobs ++ [job]

/-- What a call does to the alerts. -/
def onAlerts (now : Time) : AlertCall → Alerts → Alerts
  | alertUpdate id data, t =>
      t.updateMany (fun a => a.id = id) (data.apply now) (data.apply_id now)
  | alertAppendPhotos id photoUrls, t =>
      t.updateMany (fun a => a.id = id) fun a =>
        { a with pet_photos := a.pet_photos ++ photoUrls, updated_at := now }
  | alertExpire, t =>
      t.updateMany (Alert.isOverdue now) fun a => { a with status := .EXPIRED, updated_at := now }
  | alertResolveMany ids date notes, t =>
      t.updateMany (fun a => ids.contains a.id && a.isActive) fun a =>
        { a with
          status := .RESOLVED, resolved_at := some date, notes := some notes,
          updated_at := now }
  | _, t => t

/-- What a call does to the shared state. -/
def effect : AlertCall → World → World
  | petUpdate id isMissing, w =>
      { w with pets := w.pets.updateMany (fun p => p.id = id) fun p => { p with isMissing } }
  | snapshotDeleteMany tagId alertId, w =>
      { w with
        reunionSnapshots := w.reunionSnapshots.deleteMany fun s =>
          s.tagId = tagId || s.alertId = alertId }
  | snapshotCreate snapshot, w =>
      if w.reunionSnapshots.rows.any fun s => s.alertId = snapshot.alertId then w
      else { w with reunionSnapshots := w.reunionSnapshots.insertNew snapshot }
  | queueAdd job, w => { w with jobs := addJob job w.jobs }
  | publish event, w => { w with statusEvents := w.statusEvents ++ [event] }
  | sendHtml email, w => { w with emails := w.emails ++ [email] }
  | randomUUID, w => { w with nextUUID := w.nextUUID + 1 }
  | cdnUpload _ _ outcome, w => CloudinaryService.store outcome w
  | l, w => { w with alerts := onAlerts w.now l w.alerts }

end AlertCall

abbrev AlertProcess := Process World AlertCall AppError

/-- A call that reads the shared state. -/
def AlertCall.read {α : Type} (l : AlertCall) (g : World → α) : AlertProcess α :=
  Process.query l (.prisma .other) g

/-- A call that writes and answers from the state it found. -/
def AlertCall.write {α : Type} (l : AlertCall) (g : World → α) : AlertProcess α :=
  Process.modify l (.prisma .other) l.effect g

/-- A call that writes when a condition on the state holds, and fails otherwise. -/
def AlertCall.writeIf (l : AlertCall) (code : PrismaError) (p : World → Bool) :
    AlertProcess Unit :=
  Process.atomic l (.prisma .other) fun w =>
    (if p w then .ok () else .error (.prisma code), l.effect w)

end FifiAlert
