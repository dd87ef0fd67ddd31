import FifiAlert.Concurrency.Process
import FifiAlert.Errors
import FifiAlert.Js.Ident
import FifiAlert.Store.Assoc
import FifiAlert.Store.RowOrder
import FifiAlert.World

/-!
# Finding the devices for an alert

`LocationService`: six queries find devices near an alert, each with a confidence
and a priority of its own, and `deduplicateMatches` keeps one match for each
device and then one for each user. Five of the queries hand on the ids as the
driver returns them, the alert zones turn them into strings first.
-/

namespace FifiAlert

open Concurrency Store Js

/-- The geography functions of the database, in meters; the order of its rows, and
how the driver hands over integer columns. -/
structure LocationEnv where
  ST_Distance : Point → Point → ℚ
  ST_DWithin : Point → Point → ℚ → Bool
  rowOrder : RowOrder
  integers : IntegerColumns

structure DeviceMatch where
  deviceId : Ident
  userId : Ident
  pushToken : Option String
  confidence : NotificationConfidence
  matchReason : LocationSource
  distanceKm : ℚ
  matchedVia : String
  deriving DecidableEq, Inhabited

/-- A match of one strategy; a lower priority goes first. -/
structure MatchResult extends DeviceMatch where
  priority : ℕ
  deriving DecidableEq, Inhabited

inductive LocationStrategy where
  | savedZone
  | alertZone
  | freshGps
  | staleGps
  | postalCode
  | ipGeo
  deriving DecidableEq, Inhabited

/-- The atomic calls of the location service, among the calls of its caller. -/
class LocationCalls (ℓ : Type) where
  dateNow : ℓ
  alertFindUnique : ℕ → ℓ
  queryRaw : LocationStrategy → ℓ

/-- The calls of the location service on its own. -/
inductive LocationCall where
  | dateNow
  | alertFindUnique (id : ℕ)
  | queryRaw (strategy : LocationStrategy)

instance : LocationCalls LocationCall := ⟨.dateNow, .alertFindUnique, .queryRaw⟩

/-- A row of a raw query, with the columns that some query selects. -/
structure RawRow where
  device_id : Ident
  user_id : Ident
  push_token : Option String
  zone_name : String := ""
  distance_km : ℚ := 0
  gps_age_hours : ℚ := 0
  postal_codes : List String := []
  deriving Inhabited

namespace LocationService

def FRESH_GPS_HOURS : ℤ := 2
def STALE_GPS_HOURS : ℤ := 24
def STALE_GPS_EXPANSION_KM : ℚ := 5
def IP_GEO_EXPANSION_KM : ℚ := 15

def MS_PER_HOUR : ℤ := 60 * 60 * 1000

section Queries

variable (E : LocationEnv)

def rawRow (device : Device) : RawRow where
  device_id := E.integers.read device.id
  user_id := E.integers.read device.user_id
  push_token := device.push_token

/-- `ST_Distance(…) / 1000`. -/
def distanceKm (a b : Point) : ℚ :=
  E.ST_Distance a b / 1000

/-- `ORDER BY priority DESC, distance_km ASC`. -/
def byPriorityThenDistance {α : Type} (priority : α → ℤ) (distance : α → ℚ) (a b : α) : Bool :=
  priority b < priority a || (priority a = priority b && distance a ≤ distance b)

/-- `ORDER BY distance_km ASC`. -/
def byDistance (a b : RawRow) : Bool :=
  a.distance_km ≤ b.distance_km

def savedZoneInRange (center : Point) (alertRadiusKm : ℚ) (zone : SavedZone) : Bool :=
  zone.is_active && E.ST_DWithin zone.location_point center
    ((zone.radius_km + alertRadiusKm) * 1000)

def savedZoneRows (center : Point) (alertRadiusKm : ℚ) (w : World) : List RawRow :=
  let joined := w.savedZones.rows.filterMap fun zone =>
    (w.devices.find? zone.device_id).map fun device => (zone, device)
  let found := joined.filter fun row => savedZoneInRange E center alertRadiusKm row.1
  (E.rowOrder.sort
      (byPriorityThenDistance (fun row => row.1.priority)
        fun row => distanceKm E row.1.location_point center) found).map fun row =>
    { rawRow E row.2 with
      zone_name := row.1.name, distance_km := distanceKm E row.1.location_point center }

def alertZoneInRange (center : Point) (alertRadiusKm : ℚ) (zone : AlertZone) : Bool :=
  zone.is_active &&
    E.ST_DWithin zone.location_point center (zone.radius_meters + alertRadiusKm * 1000)

def alertZoneRows (center : Point) (alertRadiusKm : ℚ) (w : World) : List RawRow :=
  let joined := w.alertZones.rows.flatMap fun zone =>
    match w.users.find? zone.user_id with
    | none => []
    | some user =>
      if user.banned then []
      else (w.devices.findMany fun d => d.user_id = user.id).map fun device => (zone, device)
  let found := joined.filter fun row => alertZoneInRange E center alertRadiusKm row.1
  (E.rowOrder.sort
      (byPriorityThenDistance (fun row => row.1.priority)
        fun row => distanceKm E row.1.location_point center) found).map fun row =>
    { rawRow E row.2 with
      zone_name := row.1.name, distance_km := distanceKm E row.1.location_point center }

/-- A device with a token whose fix was taken at a time that satisfies `p`, within
the radius. -/
def gpsInRange (center : Point) (radiusKm : ℚ) (p : Time → Bool) (device : Device) : Bool :=
  device.push_token.isSome && device.gps_updated_at.any p &&
    device.gps_point.any fun point => E.ST_DWithin point center (radiusKm * 1000)

/-- The GPS queries differ in the radius and in the age of the fix. -/
def gpsRows (center : Point) (radiusKm : ℚ) (p : Time → Bool) (w : World) : List RawRow :=
  E.rowOrder.sort byDistance
    ((w.devices.findMany (gpsInRange E center radiusKm p)).map fun device =>
      { rawRow E device with
        distance_km := distanceKm E (device.gps_point.getD default) center
        gps_age_hours := (w.now - device.gps_updated_at.getD 0 : ℚ) / 1000 / 3600 })

/-- `postal_codes && affected`. -/
def postalCodesOverlap (affectedPostalCodes : List String) (device : Device) : Bool :=
  device.push_token.isSome && device.postal_codes.any affectedPostalCodes.contains

def postalCodeRows (affectedPostalCodes : List String) (w : World) : List RawRow :=
  E.rowOrder.unordered
    ((w.devices.findMany (postalCodesOverlap affectedPostalCodes)).map fun device =>
      { rawRow E device with postal_codes := device.postal_codes })

def ipInRange (center : Point) (radiusKm : ℚ) (device : Device) : Bool :=
  device.push_token.isSome &&
    device.ip_point.any fun point => E.ST_DWithin point center (radiusKm * 1000)

def ipGeoRows (center : Point) (radiusKm : ℚ) (w : World) : List RawRow :=
  E.rowOrder.sort byDistance ((w.devices.findMany (ipInRange E center radiusKm)).map fun device =>
    { rawRow E device with
      distance_km := distanceKm E (device.ip_point.getD default) center })

end Queries

def isFresh (now t : Time) : Bool :=
  now - FRESH_GPS_HOURS * MS_PER_HOUR ≤ t

def isStale (now t : Time) : Bool :=
  t < now - FRESH_GPS_HOURS * MS_PER_HOUR && now - STALE_GPS_HOURS * MS_PER_HOUR ≤ t

def savedZoneMatch (row : RawRow) : MatchResult where
  deviceId := row.device_id
  userId := row.user_id
  pushToken := row.push_token
  confidence := .HIGH
  matchReason := .MANUAL
  distanceKm := row.distance_km
  matchedVia := "Saved zone: " ++ row.zone_name
  priority := 1

/-- The ids become strings here. -/
def alertZoneMatch (row : RawRow) : MatchResult where
  deviceId := .str (numberText row.device_id.Number)
  userId := .str (numberText row.user_id.Number)
  pushToken := row.push_token
  confidence := .HIGH
  matchReason := .MANUAL
  distanceKm := row.distance_km
  matchedVia := "Alert zone: " ++ row.zone_name
  priority := 1

def freshGpsMatch (row : RawRow) : MatchResult where
  deviceId := row.device_id
  userId := row.user_id
  pushToken := row.push_token
  confidence := .HIGH
  matchReason := .GPS
  distanceKm := row.distance_km
  matchedVia := "Fresh GPS (" ++ toFixed 1 row.gps_age_hours ++ "h old)"
  priority := 2

def staleGpsMatch (row : RawRow) : MatchResult where
  deviceId := row.device_id
  userId := row.user_id
  pushToken := row.push_token
  confidence := .MEDIUM
  matchReason := .GPS
  distanceKm := row.distance_km
  matchedVia := "Stale GPS (" ++ toFixed 1 row.gps_age_hours ++ "h old)"
  priority := 3

/-- The exact distance is not known. -/
def postalCodeMatch (affectedPostalCodes : List String) (row : RawRow) : MatchResult where
  deviceId := row.device_id
  userId := row.user_id
  pushToken := row.push_token
  confidence := .MEDIUM
  matchReason := .POSTAL_CODE
  distanceKm := 999
  matchedVia := "Postal code: " ++
    ", ".intercalate (row.postal_codes.filter affectedPostalCodes.contains)
  priority := 4

def ipGeoMatch (row : RawRow) : MatchResult where
  deviceId := row.device_id
  userId := row.user_id
  pushToken := row.push_token
  confidence := .LOW
  matchReason := .IP
  distanceKm := row.distance_km
  matchedVia := "IP geolocation"
  priority := 5

/-- A device keeps the match with the lowest priority, the first one on a tie. -/
def betterForDevice (m existing : MatchResult) : Bool :=
  m.priority < existing.priority

/-- On a tie a user keeps the device that can be reached, then the closer one. -/
def betterForUser (m existing : MatchResult) : Bool :=
  m.priority < existing.priority ||
    (m.priority = existing.priority &&
      if (truthy existing.pushToken).isNone && (truthy m.pushToken).isSome then true
      else (truthy existing.pushToken).isSome = (truthy m.pushToken).isSome &&
        m.distanceKm < existing.distanceKm)

/-- One match for each device, then one for each user. -/
def bestMatches (ms : List MatchResult) : List MatchResult :=
  let deviceMap := Assoc.bestOf (fun m => m.deviceId) betterForDevice ms
  let userMap := Assoc.bestOf (fun m => m.userId) betterForUser deviceMap.values
  userMap.values

def deduplicateMatches (ms : List MatchResult) : List DeviceMatch :=
  (bestMatches ms).map MatchResult.toDeviceMatch

section Strategies

variable {ℓ : Type} [LocationCalls ℓ] (E : LocationEnv)

def queryRaw (strategy : LocationStrategy) (rows : World → List RawRow) :
    Process World ℓ AppError (List RawRow) :=
  Process.query (LocationCalls.queryRaw strategy) (.prisma .other) rows

def dateNow : Process World ℓ AppError Time :=
  Process.query LocationCalls.dateNow (.error "") World.now

def findSavedZoneMatches (center : Point) (alertRadiusKm : ℚ) :
    Process World ℓ AppError (List MatchResult) := do
  let rows ← queryRaw .savedZone (savedZoneRows E center alertRadiusKm)
  return rows.map savedZoneMatch

/-- The rows are ordered, so the first one of a device wins. -/
def findAlertZoneMatches (center : Point) (alertRadiusKm : ℚ) :
    Process World ℓ AppError (List MatchResult) := do
  let rows ← queryRaw .alertZone (alertZoneRows E center alertRadiusKm)
  let byDevice := Assoc.bestOf (fun row => row.device_id.Number) (fun _ _ => false) rows
  return byDevice.values.map alertZoneMatch

def findFreshGpsMatches (center : Point) (radiusKm : ℚ) :
    Process World ℓ AppError (List MatchResult) := do
  let now ← dateNow
  let rows ← queryRaw .freshGps (gpsRows E center radiusKm (isFresh now))
  return rows.map freshGpsMatch

def findStaleGpsMatches (center : Point) (baseRadiusKm : ℚ) :
    Process World ℓ AppError (List MatchResult) := do
  let now ← dateNow
  let rows ← queryRaw .staleGps
    (gpsRows E center (baseRadiusKm + STALE_GPS_EXPANSION_KM) (isStale now))
  return rows.map staleGpsMatch

def findPostalCodeMatches (affectedPostalCodes : List String) :
    Process World ℓ AppError (List MatchResult) :=
  if affectedPostalCodes.isEmpty then return []
  else do
    let rows ← queryRaw .postalCode (postalCodeRows E affectedPostalCodes)
    return rows.map (postalCodeMatch affectedPostalCodes)

def findIpGeoMatches (center : Point) (baseRadiusKm : ℚ) :
    Process World ℓ AppError (List MatchResult) := do
  let rows ← queryRaw .ipGeo (ipGeoRows E center (baseRadiusKm + IP_GEO_EXPANSION_KM))
  return rows.map ipGeoMatch

/-- `ST_MakePoint(lon, lat)` of the place where the pet was last seen. -/
def center (alert : Alert) : Point :=
  ⟨alert.last_seen_lon, alert.last_seen_lat⟩

/-- `alert.last_seen_lat && alert.last_seen_lon`: zero counts as missing. -/
def hasCoordinates (alert : Alert) : Bool :=
  alert.last_seen_lat ≠ 0 && alert.last_seen_lon ≠ 0

/-- The matches of all strategies, one strategy after the other. -/
def collectMatches (alert : Alert) : Process World ℓ AppError (List MatchResult) := do
  let savedZoneMatches ← findSavedZoneMatches E (center alert) alert.alert_radius_km
  let alertZoneMatches ← findAlertZoneMatches E (center alert) alert.alert_radius_km
  let freshGpsMatches ← findFreshGpsMatches E (center alert) alert.alert_radius_km
  let staleGpsMatches ← findStaleGpsMatches E (center alert) alert.alert_radius_km
  let postalCodeMatches ← findPostalCodeMatches E alert.affected_postal_codes
  let ipGeoMatches ← findIpGeoMatches E (center alert) alert.alert_radius_km
  return savedZoneMatches ++ alertZoneMatches ++ freshGpsMatches ++ staleGpsMatches ++
    postalCodeMatches ++ ipGeoMatches

def findDevicesForAlert (alertId : ℕ) : Process World ℓ AppError (List DeviceMatch) := do
  let alert ← Process.query (LocationCalls.alertFindUnique alertId) (.prisma .other)
    fun w => w.alerts.find? alertId
  match alert with
  | none => return []
  | some alert =>
    if alert.status ≠ .ACTIVE then return []
    else if !hasCoordinates alert then return []
    else do
      let allMatches ← collectMatches E alert
      return deduplicateMatches allMatches

end Strategies

end LocationService

end FifiAlert
