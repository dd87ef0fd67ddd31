import FifiAlert.Concurrency.Process
import FifiAlert.Errors
import FifiAlert.Js.ColumnInput
import FifiAlert.World
import Mathlib.Order.Basic

/-!
# Alert zones

`AlertZoneService` keeps the alert zones of a user: at most ten, each with a radius between two
bounds. The point of a zone is set together with its coordinates by a raw statement, which writes
all columns; an update without a coordinate names its columns only. The body of a request is any
JSON object, since nothing validates it.
-/

namespace FifiAlert

open Concurrency Store Js

/-- What the database reads a parameter of a raw statement as, by the type of its column: `none`
when it refuses it. -/
structure AlertZoneEnv where
  text : Json → Option String
  integer : Json → Option ℤ
  double : Json → Option ℚ
  boolean : Json → Option Bool

/-- An integer that is stored lies between the same integers as the number that was given. -/
def AlertZoneEnv.RoundsBetween (E : AlertZoneEnv) : Prop :=
  ∀ r n, E.integer (.num r) = some n → ∀ a b : ℤ, (a : ℚ) ≤ r → r ≤ b → a ≤ n ∧ n ≤ b

abbrev CreateAlertZoneDto := List (String × Json)

abbrev UpdateAlertZoneDto := List (String × Json)

structure AlertZoneResponseDto where
  id : ℕ
  name : String
  latitude : ℚ
  longitude : ℚ
  radius_meters : ℤ
  radius_km : ℚ
  is_active : Bool
  priority : ℤ
  created_at : Time
  updated_at : Time
  deriving DecidableEq

/-- The columns that an update names, with what becomes of them; the point and its coordinates are
set together. -/
structure AlertZoneData where
  name : Option String := none
  point : Option Point := none
  radius_meters : Option IntChange := none
  priority : Option IntChange := none
  is_active : Option Bool := none

def AlertZoneData.apply (data : AlertZoneData) (now : Time) (zone : AlertZone) :
    Option AlertZone := do
  let radius_meters ← changed data.radius_meters zone.radius_meters
  let priority ← changed data.priority zone.priority
  return { zone with
    name := data.name.getD zone.name
    lat := (data.point.map Point.lat).getD zone.lat
    lon := (data.point.map Point.lon).getD zone.lon
    location_point := data.point.getD zone.location_point
    radius_meters
    priority
    is_active := data.is_active.getD zone.is_active
    updated_at := now }

theorem AlertZoneData.apply_eq_some {data : AlertZoneData} {now : Time} {before after : AlertZone} :
    data.apply now before = some after ↔
      ∃ radius_meters priority,
        changed data.radius_meters before.radius_meters = some radius_meters ∧
        changed data.priority before.priority = some priority ∧
        after = { before with
          name := data.name.getD before.name
          lat := (data.point.map Point.lat).getD before.lat
          lon := (data.point.map Point.lon).getD before.lon
          location_point := data.point.getD before.location_point
          radius_meters
          priority
          is_active := data.is_active.getD before.is_active
          updated_at := now } := by
  simp only [apply, bind, Option.bind_eq_some_iff, pure, Option.some.injEq]
  constructor
  · rintro ⟨radius_meters, hradius, priority, hpriority, rfl⟩
    exact ⟨radius_meters, priority, hradius, hpriority, rfl⟩
  · rintro ⟨radius_meters, priority, hradius, hpriority, rfl⟩
    exact ⟨radius_meters, hradius, priority, hpriority, rfl⟩

/-- The row after the statement, which the database may have refused. -/
def AlertZoneData.rewrite (data : AlertZoneData) (now : Time) (zone : AlertZone) : AlertZone :=
  (data.apply now zone).getD zone

theorem AlertZoneData.rewrite_id (data : AlertZoneData) (now : Time) (zone : AlertZone) :
    (data.rewrite now zone).id = zone.id := by
  unfold rewrite
  cases h : data.apply now zone with
  | none => rfl
  | some after =>
      obtain ⟨radius_meters, priority, -, -, rfl⟩ := apply_eq_some.1 h
      rfl

/-- The calls of the service. `zoneFindExisting` and `zoneFindUnique` are one query of the client,
before a change and in `findOne`. -/
inductive ZoneCall where
  | userFindUnique (userId : ℕ)
  | zoneCount (userId : ℕ)
  | zoneInsert (zone : AlertZone)
  | zoneFindExisting (zoneId : ℕ)
  | zoneFindUnique (zoneId : ℕ)
  | zoneSelect (zoneId : ℕ)
  | zoneMove (zoneId : ℕ) (data : AlertZoneData)
  | zoneUpdate (zoneId : ℕ) (data : AlertZoneData)
  | zoneDelete (zoneId : ℕ)
  | cacheDel

/-- How many zones a user has. -/
def World.zoneCount (w : World) (userId : ℕ) : ℕ :=
  w.alertZones.count fun zone => zone.user_id = userId

/-- What a call does to the zones. -/
def ZoneCall.onZones (w : World) : ZoneCall → AlertZones
  | zoneInsert zone =>
      if (w.users.find? zone.user_id).isSome then
        w.alertZones.insertNew
          { zone with id := w.nextAlertZone, created_at := w.now, updated_at := w.now }
      else w.alertZones
  | zoneMove zoneId data | zoneUpdate zoneId data =>
      w.alertZones.updateMany (fun zone => zone.id = zoneId) (data.rewrite w.now)
        (data.rewrite_id w.now)
  | zoneDelete zoneId => w.alertZones.deleteMany fun zone => zone.id = zoneId
  | _ => w.alertZones

/-- What a call does to the shared state. -/
def ZoneCall.effect : ZoneCall → World → World
  | zoneInsert zone, w =>
      { w with alertZones := onZones w (zoneInsert zone), nextAlertZone := w.nextAlertZone + 1 }
  | l, w => { w with alertZones := onZones w l }

abbrev ZoneProcess := Process World ZoneCall AppError

/-- A call that reads the shared state. -/
def ZoneCall.read {α : Type} (l : ZoneCall) (g : World → α) : ZoneProcess α :=
  Process.query l (.prisma .other) g

namespace AlertZoneService

def MAX_ZONES_PER_USER : ℕ := 10

def MIN_RADIUS_METERS : ℤ := 50

def MAX_RADIUS_METERS : ℤ := 5000

def notFound (zoneId : ℕ) : AppError :=
  .notFound ("Alert zone with ID " ++ toString zoneId ++ " not found")

/-- `verb` is what the caller does to the zone. -/
def notOwner (verb : String) : AppError :=
  .forbidden ("You do not have permission to " ++ verb ++ " this alert zone")

def radiusError : AppError :=
  .badRequest ["Radius must be between " ++ toString MIN_RADIUS_METERS ++ " and " ++
    toString MAX_RADIUS_METERS ++ " meters"]

/-- The check of a radius, which lets through what compares with no number. -/
def radiusIsValid (radius_meters : Option Json) : Bool :=
  !(Json.isBelow MIN_RADIUS_METERS radius_meters || Json.isAbove MAX_RADIUS_METERS radius_meters)

/-- Whole metres have three decimals as kilometres. -/
def mapToResponseDto (zone : AlertZone) : AlertZoneResponseDto where
  id := zone.id
  name := zone.name
  latitude := zone.location_point.lat
  longitude := zone.location_point.lon
  radius_meters := zone.radius_meters
  radius_km := zone.radius_meters / 1000
  is_active := zone.is_active
  priority := zone.priority
  created_at := zone.created_at
  updated_at := zone.updated_at

def findOne (zoneId userId : ℕ) : ZoneProcess AlertZoneResponseDto := do
  let zone ← ZoneCall.read (.zoneFindUnique zoneId) fun w => w.alertZones.find? zoneId
  match zone with
  | none => .raise (notFound zoneId)
  | some zone =>
    if zone.user_id ≠ userId then .raise (notOwner "access")
    else do
      let zoneWithCoords ← ZoneCall.read (.zoneSelect zoneId) fun w => w.alertZones.find? zoneId
      match zoneWithCoords with
      | none => .raise (notFound zoneId)
      | some zone => return mapToResponseDto zone

/-- `invalidateCache`, which never throws. -/
def invalidateCache : ZoneProcess Unit :=
  (Process.modify .cacheDel (.error "cache") id fun _ => () : ZoneProcess Unit).tryCatch
    fun _ => return ()

/-- A statement that was given a value its column does not take. -/
def valueError : AppError := .prisma .other

/-- `x ?? y` takes neither `null` nor `undefined`. -/
def nonNull : Option Json → Option Json
  | some .null => none
  | x => x

/-- The row that the raw insertion is given, if the database refuses no parameter; it gives the row
an id and its times. -/
def newZone (E : AlertZoneEnv) (dto : CreateAlertZoneDto) (userId : ℕ) : Option AlertZone := do
  let name ← (nonNull (dto.lookup "name")).bind E.text
  let lat ← (nonNull (dto.lookup "latitude")).bind E.double
  let lon ← (nonNull (dto.lookup "longitude")).bind E.double
  let radius_meters ← (nonNull (dto.lookup "radius_meters")).bind E.integer
  let priority ← (nonNull (dto.lookup "priority")).elim (some 1) E.integer
  let is_active ← (nonNull (dto.lookup "is_active")).elim (some true) E.boolean
  return { id := 0, user_id := userId, name, lat, lon, location_point := ⟨lon, lat⟩
           radius_meters, priority, is_active }

/-- The raw insertion, which answers with the new id. -/
def insertZone (zone : AlertZone) : ZoneProcess ℕ :=
  Process.atomic (.zoneInsert zone) (.prisma .other) fun w =>
    (if (w.users.find? zone.user_id).isSome then .ok w.nextAlertZone else .error valueError,
      (ZoneCall.zoneInsert zone).effect w)

def create (E : AlertZoneEnv) (dto : CreateAlertZoneDto) (userId : ℕ) :
    ZoneProcess AlertZoneResponseDto := do
  let user ← ZoneCall.read (.userFindUnique userId) fun w => w.users.find? userId
  if user.isNone then .raise (.notFound ("User with ID " ++ toString userId ++ " not found"))
  else do
    let existingZonesCount ← ZoneCall.read (.zoneCount userId) fun w => w.zoneCount userId
    if MAX_ZONES_PER_USER ≤ existingZonesCount then
      .raise (.badRequest
        ["Maximum limit of " ++ toString MAX_ZONES_PER_USER ++ " alert zones reached"])
    else if !radiusIsValid (dto.lookup "radius_meters") then .raise radiusError
    else
      match newZone E dto userId with
      | none => .raise valueError
      | some zone => do
        let zoneId ← insertZone zone
        let zone ← findOne zoneId userId
        invalidateCache
        return zone

/-- The zone of a user, before it is changed. -/
def findExisting (zoneId userId : ℕ) (verb : String) : ZoneProcess AlertZone := do
  let existingZone ← ZoneCall.read (.zoneFindExisting zoneId) fun w => w.alertZones.find? zoneId
  match existingZone with
  | none => .raise (notFound zoneId)
  | some existingZone =>
    if existingZone.user_id ≠ userId then .raise (notOwner verb) else return existingZone

/-- The columns of the raw update, which writes all of them: what the request gives, or what was
read. -/
def moveData (E : AlertZoneEnv) (existingZone : AlertZone) (oldZone : AlertZoneResponseDto)
    (dto : UpdateAlertZoneDto) : Option AlertZoneData := do
  let lat ← (nonNull (dto.lookup "latitude")).elim (some oldZone.latitude) E.double
  let lon ← (nonNull (dto.lookup "longitude")).elim (some oldZone.longitude) E.double
  let name ← (nonNull (dto.lookup "name")).elim (some existingZone.name) E.text
  let radius_meters ←
    (nonNull (dto.lookup "radius_meters")).elim (some existingZone.radius_meters) E.integer
  let priority ← (nonNull (dto.lookup "priority")).elim (some existingZone.priority) E.integer
  let is_active ← (nonNull (dto.lookup "is_active")).elim (some existingZone.is_active) E.boolean
  return { name, point := some ⟨lon, lat⟩, radius_meters := some (.set radius_meters)
           priority := some (.set priority), is_active }

/-- The columns of an update without a coordinate, if the database client takes all values. -/
def updateData (dto : UpdateAlertZoneDto) : Option AlertZoneData := do
  let name ← column (fun v => (newValue Json.string? v).bind (varchar 50)) dto "name"
  let radius_meters ← column (intChange Json.int32?) dto "radius_meters"
  let priority ← column (intChange Json.int32?) dto "priority"
  let is_active ← column (newValue Json.bool?) dto "is_active"
  return { name, radius_meters, priority, is_active }

def locationChanged (dto : UpdateAlertZoneDto) : Bool :=
  (dto.lookup "latitude").isSome || (dto.lookup "longitude").isSome

/-- How the update of one row by the client ends. -/
def updateResult (w : World) (zoneId : ℕ) (data : AlertZoneData) : Except AppError Unit :=
  match w.alertZones.find? zoneId with
  | none => .error (.prisma .P2025)
  | some zone => if (data.apply w.now zone).isSome then .ok () else .error valueError

/-- The statement of an update. -/
def writeZone (E : AlertZoneEnv) (zoneId : ℕ) (existingZone : AlertZone)
    (oldZone : AlertZoneResponseDto) (dto : UpdateAlertZoneDto) : ZoneProcess Unit :=
  if locationChanged dto then
    match moveData E existingZone oldZone dto with
    | none => .raise valueError
    | some data =>
      Process.modify (.zoneMove zoneId data) (.prisma .other)
        (ZoneCall.zoneMove zoneId data).effect fun _ => ()
  else
    match updateData dto with
    | none => .raise valueError
    | some data =>
      Process.atomic (.zoneUpdate zoneId data) (.prisma .other) fun w =>
        (updateResult w zoneId data, (ZoneCall.zoneUpdate zoneId data).effect w)

def update (E : AlertZoneEnv) (zoneId : ℕ) (dto : UpdateAlertZoneDto) (userId : ℕ) :
    ZoneProcess AlertZoneResponseDto := do
  let existingZone ← findExisting zoneId userId "update"
  if (dto.lookup "radius_meters").isSome && !radiusIsValid (dto.lookup "radius_meters") then
    .raise radiusError
  else do
    let oldZone ← findOne zoneId userId
    writeZone E zoneId existingZone oldZone dto
    let updatedZone ← findOne zoneId userId
    invalidateCache
    return updatedZone

def delete (zoneId userId : ℕ) : ZoneProcess Unit := do
  let _ ← findExisting zoneId userId "delete"
  let _ ← findOne zoneId userId
  Process.atomic (.zoneDelete zoneId) (.prisma .other) fun w =>
    (if (w.alertZones.find? zoneId).isSome then .ok () else .error (.prisma .P2025),
      (ZoneCall.zoneDelete zoneId).effect w)
  invalidateCache

end AlertZoneService

end FifiAlert
