import FifiAlert.Alert.AlertService
import FifiAlert.Alert.RateLimitService
import FifiAlert.Js.ColumnInput
import FifiAlert.Notification.NotificationService

/-!
# Creating an alert

`AlertService.create`: the limits, the pet, which is marked as missing, the row, and then the
others are told. The body is any JSON object, since nothing validates it. Once the row is there
nothing makes the request fail but the final read. Audit events are left out.
-/

namespace FifiAlert

open Concurrency Store Js

/-- The body of a request, with what it holds under each name. Nothing validates it. -/
structure CreateAlertDto where
  petId : Option Json := none
  pet : Option Json := none
  location : Option Json := none
  contact : Option Json := none
  reward : Option Json := none
  notes : Option Json := none

/-- `new Date` of what the body holds, where none is an invalid date; what the database reads
a parameter of the insertion as, by the type of its column, where none is refused; and the
environment of the rate limiter. -/
structure AlertCreationEnv where
  newDate : Option Json → Option Time
  text : Json → Option String
  textArray : Json → Option (List String)
  integer : Json → Option ℕ
  double : Json → Option ℚ
  boolean : Json → Option Bool
  decimal : Json → Option ℚ
  rateLimit : RateLimitEnv := {}

/-- The properties of a value, of which `name` is read first: `undefined` and `null` have
none. -/
def properties (x : Option Json) (name : String) : Except AppError (String → Option Json) :=
  match x with
  | none => .error (.error ("Cannot read properties of undefined (reading '" ++ name ++ "')"))
  | some .null => .error (.error ("Cannot read properties of null (reading '" ++ name ++ "')"))
  | some v => .ok v.get?

/-- The id of the pet; what is falsy counts as none. -/
def CreateAlertDto.ofPet (dto : CreateAlertDto) : Option ℕ :=
  ((dto.petId.filter Json.isTruthy).bind Json.int32?).bind Int.toNat?

/-- The parameters of the insertion, by their columns. -/
structure AlertInsert where
  userId : ℕ
  petId : Option ℕ
  petName : String
  species : PetSpecies
  breed : Option String
  description : String
  color : Option String
  ageYears : Option ℕ
  photos : List String
  lat : ℚ
  lon : ℚ
  address : Option String
  radiusKm : ℚ
  timeLastSeen : Time
  expiresAt : Time
  phone : Option String
  email : Option String
  isPhonePublic : Bool
  offered : Bool
  amount : Option ℚ
  notes : Option String

/-- A `DECIMAL(10, 2)` column, for an amount that is not negative. -/
def roundCents (amount : ℚ) : ℚ := ((amount * 100 + 1 / 2).floor : ℚ) / 100

/-- The row that is inserted at a time under an id. -/
def AlertInsert.toRow (data : AlertInsert) (now : Time) (id : ℕ) : Alert where
  id := id
  creator_id := data.userId
  pet_id := data.petId
  pet_name := data.petName
  pet_species := data.species
  pet_breed := data.breed
  pet_description := data.description
  pet_color := data.color
  pet_age_years := data.ageYears
  pet_photos := data.photos
  last_seen_lat := data.lat
  last_seen_lon := data.lon
  location_point := ⟨data.lon, data.lat⟩
  location_address := data.address
  alert_radius_km := data.radiusKm
  status := .ACTIVE
  time_last_seen := data.timeLastSeen
  created_at := now
  updated_at := now
  expires_at := data.expiresAt
  contact_phone := data.phone
  contact_email := data.email
  is_phone_public := data.isPhonePublic
  reward_offered := data.offered
  reward_amount := data.amount.map roundCents
  notes := data.notes

/-- An alert refers to its creator and to its pet. -/
def World.takesAlert (w : World) (data : AlertInsert) : Bool :=
  (w.users.find? data.userId).isSome && data.petId.all fun id => (w.pets.find? id).isSome

def World.insertAlert (w : World) (data : AlertInsert) : World :=
  { w with
    alerts := w.alerts.insertNew (data.toRow w.now w.nextAlert)
    nextAlert := w.nextAlert + 1 }

/-- The calls of the creation. -/
inductive CreationCall where
  | alert (l : AlertCall)
  | rateLimit (l : RateLimitCall)
  | notification (l : NotificationCall)
  | alertInsert (data : AlertInsert)

/-- What a call does to the shared state. -/
def CreationCall.effect : CreationCall → World → World
  | alert l, w => l.effect w
  | rateLimit l, w => l.effect w
  | notification l, w => l.effect w
  | alertInsert data, w => if w.takesAlert data then w.insertAlert data else w

abbrev CreationProcess := Process World CreationCall AppError

namespace AlertService

/-- The pet of the request has to belong to the user, and it is marked as missing. -/
def flagPet (userId : ℕ) (dto : CreateAlertDto) : AlertProcess Unit :=
  match dto.petId.filter Json.isTruthy with
  | none => return ()
  | some petId =>
    match petId.int32? with
    | none => .raise (.prisma .other)
    | some petId => do
      let pet ← AlertCall.read (.petFindUnique petId.toNat) fun w =>
        petId.toNat?.bind w.pets.find?
      match pet with
      | none => .raise (.notFound ("Pet with ID " ++ toString petId ++ " not found"))
      | some pet =>
        if pet.userId ≠ userId then
          .raise (.forbidden "You do not have permission to create alerts for this pet")
        else if !pet.isMissing then
          AlertCall.writeIf (.petUpdate pet.id true) .P2025 fun w => (w.pets.find? pet.id).isSome
        else return ()

/-- A parameter for a column that is not nullable. -/
def required {α : Type} (read : Json → Option α) (x : Option Json) : Option α :=
  x.bind read

/-- A parameter for a column, `x || null`. -/
def orNull {α : Type} (read : Json → Option α) (x : Option Json) : Option (Option α) :=
  bindParam read (x.filter Json.isTruthy)

/-- The parameters as the database reads them, if it refuses none. -/
def readParameters (E : AlertCreationEnv) (userId : ℕ) (dto : CreateAlertDto) (expiresAt : Time)
    (pet location contact : String → Option Json) : Option AlertInsert := do
  let reward := fun name => dto.reward.bind fun v => v.get? name
  let timeLastSeen ← E.newDate (location "lastSeenTime")
  let petName ← required E.text (pet "name")
  let species ← required PetSpecies.ofLabel (pet "species")
  let breed ← orNull E.text (pet "breed")
  let description ← required E.text (pet "description")
  let color ← orNull E.text (pet "color")
  let ageYears ← orNull E.integer (pet "ageYears")
  let photos ← E.textArray (((pet "photos").filter Json.isTruthy).getD (.arr []))
  let lat ← required E.double (location "lat")
  let lon ← required E.double (location "lon")
  let address ← orNull E.text (location "address")
  let radiusKm ← required E.double (location "radiusKm")
  let phone ← orNull E.text (contact "phone")
  let email ← orNull E.text (contact "email")
  let isPhonePublic ← required E.boolean (contact "isPhonePublic")
  let offered ← E.boolean (((reward "offered").filter Json.isTruthy).getD (.bool false))
  let amount ← orNull E.decimal (reward "amount")
  let notes ← orNull E.text dto.notes
  return { userId, petId := dto.ofPet, petName, species, breed, description, color, ageYears, photos
           lat, lon, address, radiusKm, timeLastSeen, expiresAt, phone, email, isPhonePublic
           offered, amount, notes }

/-- The parameters of the insertion. The body has to hold a location, a pet and a contact, or
reading their properties throws. -/
def insertData (E : AlertCreationEnv) (userId : ℕ) (dto : CreateAlertDto) (expiresAt : Time) :
    Except AppError AlertInsert := do
  let location ← properties dto.location "lastSeenTime"
  let pet ← properties dto.pet "name"
  let contact ← properties dto.contact "phone"
  match readParameters E userId dto expiresAt pet location contact with
  | none => .error (.prisma .other)
  | some data => .ok data

/-- The insertion, which answers with the new id. -/
def insertAlert (E : AlertCreationEnv) (userId : ℕ) (dto : CreateAlertDto) (expiresAt : Time) :
    CreationProcess ℕ :=
  match insertData E userId dto expiresAt with
  | .error e => .raise e
  | .ok data =>
    Process.atomic (.alertInsert data) (.prisma .other) fun w =>
      (if w.takesAlert data then .ok w.nextAlert else .error (.prisma .other),
        (CreationCall.alertInsert data).effect w)

/-- The log line of a creation reads the name of the pet. -/
def logPet (dto : CreateAlertDto) : CreationProcess Unit :=
  match properties dto.pet "name" with
  | .error e => .raise e
  | .ok _ => return ()

/-- `sendAlertCreatedEmail`. The template data read `alert.pet`, and an exception there counts as
a failure to send. -/
def sendAlertCreatedEmail (alert : AlertResponseDto) : AlertProcess Unit := do
  let user ← AlertCall.read (.userFindUnique (alert.creatorId.getD 0)) fun w =>
    alert.creatorId.bind w.users.find?
  match user with
  | none => .raise (.error "USER_NOT_FOUND")
  | some user =>
    match alert.pet with
    | none => .raise (.error "FAILED_TO_SEND_ALERT_CREATED_EMAIL")
    | some _ =>
      (AlertCall.write (.sendHtml ⟨"alertCreated", user.email, alert.id⟩) fun _ => ()).tryCatch
        fun _ => .raise (.error "FAILED_TO_SEND_ALERT_CREATED_EMAIL")

/-- The event of a new alert. A failure to publish it is logged only. -/
def publishActivated (userId : ℕ) (dto : CreateAlertDto) (alertId : ℕ) : AlertProcess Unit := do
  let occurredAt ← AlertCall.read .dateNow World.now
  (AlertCall.write (.publish
    { alertId, petId := (dto.petId.bind Json.int32?).bind Int.toNat?, creatorId := userId,
      previousStatus := none
      newStatus := .ACTIVE, changedBy := some userId, source := .user, occurredAt })
    fun _ => ()).tryCatch fun _ => .ret ()

/-- What follows the insertion. -/
def afterCreate (userId : ℕ) (dto : CreateAlertDto) (alertId : ℕ) :
    CreationProcess (Option AlertResponseDto) := do
  (publishActivated userId dto alertId).relabel .alert
  ((NotificationService.queueAlertNotifications alertId).relabel
    CreationCall.notification).tryCatch fun _ => .ret ()
  let createdAlert ← (findById alertId (some userId)).relabel .alert
  match createdAlert with
  | some alert =>
    ((sendAlertCreatedEmail alert).relabel CreationCall.alert).tryCatch fun _ => .ret ()
  | none => pure ()
  return createdAlert

def create (E : AlertCreationEnv) (userId : ℕ) (dto : CreateAlertDto) :
    CreationProcess (Option AlertResponseDto) := do
  logPet dto
  (RateLimitService.checkAlertCreationLimit (RateLimitService.limits E.rateLimit) userId).relabel
    .rateLimit
  (flagPet userId dto).relabel .alert
  let now ← (AlertCall.read .dateNow World.now).relabel .alert
  let alertId ← insertAlert E userId dto (now + 7 * MS_PER_DAY)
  afterCreate userId dto alertId

end AlertService

/-- Every date is read as the first one, and values are read by their kinds. -/
def plainCreation : AlertCreationEnv where
  newDate := fun _ => some 0
  text := fun x => match x with
    | .str s => some s
    | _ => none
  textArray := fun x => match x with
    | .arr [] => some []
    | _ => none
  integer := fun x => x.int32?.bind Int.toNat?
  double := fun x => match x with
    | .num q => some q
    | _ => none
  boolean := fun x => match x with
    | .bool b => some b
    | _ => none
  decimal := fun x => match x with
    | .num q => some q
    | _ => none

/-- A request for an alert for the pet with id `1`. -/
def alertForPet : CreateAlertDto where
  petId := some (.num 1)
  pet := some (.obj [("name", .str "Rex"), ("species", .str "DOG"), ("description", .str "Brown")])
  location := some (.obj [("lat", .num 48), ("lon", .num 16),
    ("lastSeenTime", .str "2025-01-01T00:00:00Z"), ("radiusKm", .num 5)])
  contact := some (.obj [("isPhonePublic", .bool false)])

/-- A user and a pet. -/
def ownerWorld : World where
  users := Table.empty.insertNew { id := 1, email := "ann@example.com" }
  pets := Table.empty.insertNew { id := 1, userId := 1, name := "Rex" }

end FifiAlert
