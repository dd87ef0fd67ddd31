import FifiAlert.Sighting.SightingService

/-!
# The photos of a sighting

The reporter of a sighting may add photos for a while. `authorizePhotoUpload` counts the photos
before the files go to the CDN, and `appendPhotos` writes the list that it reads afterwards, with
the new photos behind.
-/

namespace FifiAlert

open Concurrency Store

/-- The environment variables for the photos of a sighting. -/
structure SightingPhotoEnv where
  MAX_SIGHTING_PHOTOS : Option String := none
  SIGHTING_PHOTO_UPLOAD_WINDOW_HOURS : Option String := none

def DEFAULT_MAX_SIGHTING_PHOTOS : ℕ := 3

def DEFAULT_SIGHTING_PHOTO_UPLOAD_WINDOW_HOURS : ℚ := 24

def getMaxSightingPhotos (E : SightingPhotoEnv) : ℕ :=
  match E.MAX_SIGHTING_PHOTOS.bind Js.parseInt with
  | some parsed => if parsed > 0 then parsed.toNat else DEFAULT_MAX_SIGHTING_PHOTOS
  | none => DEFAULT_MAX_SIGHTING_PHOTOS

theorem getMaxSightingPhotos_pos (E : SightingPhotoEnv) : 0 < getMaxSightingPhotos E := by
  unfold getMaxSightingPhotos
  split
  next parsed _ =>
    split
    next h => exact Int.pos_iff_toNat_pos.1 h
    next => exact Nat.succ_pos 2
  next => exact Nat.succ_pos 2

def getSightingPhotoUploadWindowHours (E : SightingPhotoEnv) : ℚ :=
  match E.SIGHTING_PHOTO_UPLOAD_WINDOW_HOURS.bind Js.parseFloat with
  | some parsed => if parsed > 0 then parsed else DEFAULT_SIGHTING_PHOTO_UPLOAD_WINDOW_HOURS
  | none => DEFAULT_SIGHTING_PHOTO_UPLOAD_WINDOW_HOURS

/-- The calls of a photo upload. The two reads of the sighting select different columns. -/
inductive SightingPhotoCall where
  | sightingFindUpload (id : ℕ)
  | dateNow
  | randomUUID
  | cdnUpload (folder publicId : String) (outcome : UploadOutcome)
  | sightingFindPhotos (id : ℕ)
  | sightingUpdate (id : ℕ) (photos : List String) (photo_url : Option String)

instance : UploadCalls SightingPhotoCall := ⟨.dateNow, .randomUUID, .cdnUpload⟩

abbrev SightingPhotoProcess := Process World SightingPhotoCall AppError

/-- What a call does to the sightings. -/
def SightingPhotoCall.onSightings (now : Time) : SightingPhotoCall → Sightings → Sightings
  | sightingUpdate id photos photo_url, t =>
      t.updateMany (fun s => s.id = id) fun s => { s with photos, photo_url, updated_at := now }
  | _, t => t

/-- What a call does to the shared state. -/
def SightingPhotoCall.effect : SightingPhotoCall → World → World
  | randomUUID, w => { w with nextUUID := w.nextUUID + 1 }
  | cdnUpload _ _ outcome, w => CloudinaryService.store outcome w
  | l, w => { w with sightings := onSightings w.now l w.sightings }

/-- `sighting.findUnique` with the status of the alert. -/
structure SightingForUpload where
  reporter_id : ℕ
  created_at : Time
  photos : List String
  alertStatus : Option AlertStatus

def World.findSightingForUpload (w : World) (id : ℕ) : Option SightingForUpload :=
  (w.sightings.find? id).map fun s =>
    { reporter_id := s.reporter_id, created_at := s.created_at, photos := s.photos
      alertStatus := (w.alerts.find? s.alert_id).map Alert.status }

namespace SightingService

/-- Is the upload window still open? -/
def inUploadWindow (E : SightingPhotoEnv) (created_at now : Time) : Bool :=
  ((now : ℤ) : ℚ) ≤ ((created_at : ℤ) : ℚ) +
    getSightingPhotoUploadWindowHours E * 60 * 60 * 1000

def authorizePhotoUpload (E : SightingPhotoEnv) (sightingId requesterId incomingCount : ℕ) :
    SightingPhotoProcess Unit := do
  let sighting ← Process.query (.sightingFindUpload sightingId) (.prisma .other) fun w =>
    w.findSightingForUpload sightingId
  match sighting with
  | none => .raise (.notFound ("Sighting with ID " ++ toString sightingId ++ " not found"))
  | some sighting =>
    if sighting.reporter_id ≠ requesterId then
      .raise (.forbidden "Only the reporter of a sighting can add photos to it")
    else if sighting.alertStatus ≠ some .ACTIVE then
      .raise (.forbidden "Photos can only be added while the alert is active")
    else do
      let now ← Process.query .dateNow (.prisma .other) World.now
      if !inUploadWindow E sighting.created_at now then
        .raise (.forbidden ("Photos can only be added within " ++
          Js.decimal (getSightingPhotoUploadWindowHours E) ++ " hours of reporting the sighting"))
      else if incomingCount < 1 then
        .raise (.badRequest ["At least one photo file is required"])
      else if sighting.photos.length + incomingCount > getMaxSightingPhotos E then
        .raise (.badRequest ["A sighting can have at most " ++ toString (getMaxSightingPhotos E) ++
          " photos; " ++ toString (getMaxSightingPhotos E - sighting.photos.length) ++
          " more can be added"])
      else return ()

/-- `sighting.update`: the row has to exist. -/
def appendPhotos (sightingId : ℕ) (photoUrls : List String) :
    SightingPhotoProcess (List String) := do
  let previous ← Process.query (.sightingFindPhotos sightingId) (.prisma .other) fun w =>
    (w.sightings.find? sightingId).map Sighting.photos
  match previous with
  | none => .raise (.notFound ("Sighting with ID " ++ toString sightingId ++ " not found"))
  | some previous => do
    let photos := previous ++ photoUrls
    let update := SightingPhotoCall.sightingUpdate sightingId photos photos.head?
    Process.atomic update (.prisma .other) fun w =>
      (if (w.sightings.find? sightingId).isSome then .ok () else .error (.prisma .P2025),
        update.effect w)
    return photos

end SightingService

namespace SightingController

def sightingPhotoUploadOptions : CloudinaryUploadOptions where
  webOptimise := true
  randomPublicId := true

/-- The folder of the photos of a sighting. -/
def photoFolder (id : ℕ) : String := "sightings/" ++ toString id

def uploadPhotos (E : SightingPhotoEnv) (U : UploadEnv) (id userId : ℕ)
    (files : List UploadedFile) : SightingPhotoProcess (List String) := do
  SightingService.authorizePhotoUpload E id userId files.length
  let photoUrls ← UploadService.uploadImages U files (photoFolder id) (getMaxSightingPhotos E)
    sightingPhotoUploadOptions
  let _ ← SightingService.appendPhotos id photoUrls
  return photoUrls

/-- The route for a single photo. -/
def uploadPhoto (E : SightingPhotoEnv) (U : UploadEnv) (id userId : ℕ)
    (file : Option UploadedFile) : SightingPhotoProcess String := do
  match file with
  | none => .raise (.badRequest ["At least one photo file is required"])
  | some file => do
    SightingService.authorizePhotoUpload E id userId 1
    let photoUrl ← UploadService.uploadImage U file (photoFolder id) sightingPhotoUploadOptions
    let _ ← SightingService.appendPhotos id [photoUrl]
    return photoUrl

end SightingController

end FifiAlert
