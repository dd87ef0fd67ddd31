import FifiAlert.Notification.PushNotification

/-!
# Devices

`DeviceService` registers the devices of a user and keeps their push token and their location. An
update writes back what it read for the columns that it is not given. The geometry of the GPS
position is set by a statement of its own.
-/

namespace FifiAlert

open Concurrency Store Js

/-- A fix; nothing checks that it comes with both coordinates. -/
structure GpsLocationDto where
  latitude : Option ℚ := none
  longitude : Option ℚ := none
  accuracy : Option ℚ := none

/-- `ST_MakePoint` of the coordinates, which is `NULL` when one of them is missing. -/
def GpsLocationDto.point (gps : GpsLocationDto) : Option Point :=
  gps.latitude.bind fun lat => gps.longitude.map fun lon => ⟨lon, lat⟩

structure DeviceLocationDto where
  gps : Option GpsLocationDto := none
  ipAddress : Option String := none
  postalCodes : Option (List String) := none

structure RegisterDeviceDto where
  device_uuid : String
  platform : DevicePlatform
  os_version : String
  app_version : String
  push_token : Option String := none
  location : Option DeviceLocationDto := none

structure UpdateLocationDto where
  gps : Option GpsLocationDto := none
  postal_codes : Option (List String) := none

inductive GpsFreshness where
  | fresh
  | stale
  | old
  | none
  deriving DecidableEq

/-- `primarySource` is none where the code names a source that the enumeration lacks. -/
structure LocationStatusDto where
  hasGps : Bool
  gpsAgeHours : Option ℚ
  gpsFreshness : GpsFreshness
  hasIpLocation : Bool
  postalCodeCount : ℕ
  savedZoneCount : ℕ
  primarySource : Option LocationSource
  deriving DecidableEq

structure DeviceResponseDto where
  id : ℕ
  user_id : ℕ
  device_uuid : String
  platform : DevicePlatform
  os_version : Option String
  app_version : Option String
  gps_latitude : Option ℚ
  gps_longitude : Option ℚ
  gps_accuracy : Option ℚ
  gps_updated_at : Option Time
  ip_address : Option String
  ip_latitude : Option ℚ
  ip_longitude : Option ℚ
  postal_codes : List String
  push_token : Option String
  push_token_updated_at : Option Time
  last_app_open : Option Time
  location_status : LocationStatusDto
  created_at : Time
  updated_at : Time
  deriving DecidableEq

/-- The `data` of a `device.update`: the columns it names, with their values. -/
structure DeviceData where
  platform : Option DevicePlatform := none
  os_version : Option String := none
  app_version : Option String := none
  push_token : Option (Option String) := none
  push_token_updated_at : Option (Option Time) := none
  last_app_open : Option Time := none
  gps_lat : Option (Option ℚ) := none
  gps_lon : Option (Option ℚ) := none
  gps_accuracy_meters : Option (Option ℚ) := none
  gps_updated_at : Option (Option Time) := none
  ip_address : Option (Option String) := none
  postal_codes : Option (List String) := none

/-- Write the named columns. -/
def DeviceData.apply (data : DeviceData) (now : Time) (device : Device) : Device :=
  { device with
    platform := data.platform.getD device.platform
    os_version := data.os_version <|> device.os_version
    app_version := data.app_version <|> device.app_version
    push_token := data.push_token.getD device.push_token
    push_token_updated_at := data.push_token_updated_at.getD device.push_token_updated_at
    last_app_open := data.last_app_open <|> device.last_app_open
    gps_lat := data.gps_lat.getD device.gps_lat
    gps_lon := data.gps_lon.getD device.gps_lon
    gps_accuracy_meters := data.gps_accuracy_meters.getD device.gps_accuracy_meters
    gps_updated_at := data.gps_updated_at.getD device.gps_updated_at
    ip_address := data.ip_address.getD device.ip_address
    postal_codes := data.postal_codes.getD device.postal_codes
    updated_at := now }

theorem DeviceData.apply_id (data : DeviceData) (now : Time) (device : Device) :
    (data.apply now device).id = device.id := rfl

/-- The calls of the device service, and those of the processor that clears a dead token. -/
inductive DeviceCall where
  | notification (l : NotificationCall)
  | dateNow
  | deviceFindByUuid (device_uuid : String) (userId : ℕ)
  | deviceFindOwned (id userId : ℕ)
  | deviceUpdate (id : ℕ) (data : DeviceData)
  | deviceSetGpsPoint (id : ℕ) (point : Option Point)
  | deviceCreate (device : Device)
  | deviceFindUnique (id : ℕ)

/-- No other device holds the token. -/
def World.tokenIsFree (w : World) (id : Option ℕ) (token : Option String) : Bool :=
  token.all fun token => !w.devices.rows.any fun d => some d.id ≠ id && d.push_token = some token

/-- An update needs its row, and a token that no other device holds. -/
def World.checkDeviceUpdate (w : World) (id : ℕ) (data : DeviceData) : Except AppError Unit :=
  if (w.devices.find? id).isNone then .error (.prisma .P2025)
  else if !w.tokenIsFree (some id) (data.push_token.getD none) then .error (.prisma .P2002)
  else .ok ()

/-- A new device needs a uuid and a token of its own, and its user. -/
def World.checkDeviceCreate (w : World) (device : Device) : Except AppError Unit :=
  if w.devices.rows.any fun d => d.device_uuid = device.device_uuid then .error (.prisma .P2002)
  else if !w.tokenIsFree none device.push_token then .error (.prisma .P2002)
  else if (w.users.find? device.user_id).isNone then .error (.prisma .other)
  else .ok ()

/-- `device.findFirst` for a uuid and a user. -/
def World.registeredDevice (w : World) (device_uuid : String) (userId : ℕ) : Option Device :=
  w.devices.rows.find? fun d => d.device_uuid = device_uuid && d.user_id = userId

/-- `device.findFirst` for an id and a user. -/
def World.ownedDevice (w : World) (id userId : ℕ) : Option Device :=
  (w.devices.find? id).filter fun d => d.user_id = userId

/-- What a call does to the devices. -/
def DeviceCall.onDevices (w : World) : DeviceCall → Devices
  | deviceUpdate id data =>
      if (w.checkDeviceUpdate id data).isOk then
        w.devices.updateMany (fun d => d.id = id) (data.apply w.now) (data.apply_id w.now)
      else w.devices
  | deviceSetGpsPoint id point =>
      w.devices.updateMany (fun d => d.id = id) fun d => { d with gps_point := point }
  | deviceCreate device =>
      if (w.checkDeviceCreate device).isOk then
        w.devices.insertNew
          { device with id := w.nextDevice, created_at := w.now, updated_at := w.now }
      else w.devices
  | _ => w.devices

/-- What a call does to the shared state. -/
def DeviceCall.effect : DeviceCall → World → World
  | notification l, w => l.effect w
  | deviceCreate device, w =>
      { w with devices := onDevices w (deviceCreate device), nextDevice := w.nextDevice + 1 }
  | l, w => { w with devices := onDevices w l }

abbrev DeviceProcess := Process World DeviceCall AppError

/-- A call that reads the shared state. -/
def DeviceCall.read {α : Type} (l : DeviceCall) (g : World → α) : DeviceProcess α :=
  Process.query l (.prisma .other) g

namespace DeviceService

def dateNow : DeviceProcess Time :=
  DeviceCall.read .dateNow World.now

/-- `getLocationStatus`, at a time. -/
def locationStatusAt (device : Device) (savedZoneCount : ℕ) (now : Time) : LocationStatusDto :=
  let hasGps := device.gps_lat.isSome && device.gps_lon.isSome
  let hasIpLocation := device.ip_lat.isSome && device.ip_lon.isSome
  let gpsAgeHours := if hasGps then device.gps_updated_at.map fun gps_updated_at =>
    ((now - gps_updated_at : ℤ) : ℚ) / (1000 * 60 * 60) else none
  let gpsFreshness := match gpsAgeHours with
    | none => GpsFreshness.none
    | some age => if age < 2 then .fresh else if age < 24 then .stale else .old
  { hasGps, gpsAgeHours, gpsFreshness, hasIpLocation
    postalCodeCount := device.postal_codes.length
    savedZoneCount
    primarySource :=
      if hasGps && gpsFreshness = .fresh then some .GPS
      else if 0 < device.postal_codes.length then some .POSTAL_CODE
      else if hasIpLocation then none
      else if hasGps then some .GPS
      else none }

def mapToResponseDto (device : Device) (savedZoneCount : ℕ) : DeviceProcess DeviceResponseDto := do
  let now ← dateNow
  return {
    id := device.id
    user_id := device.user_id
    device_uuid := device.device_uuid
    platform := device.platform
    os_version := device.os_version
    app_version := device.app_version
    gps_latitude := device.gps_lat
    gps_longitude := device.gps_lon
    gps_accuracy := device.gps_accuracy_meters
    gps_updated_at := device.gps_updated_at
    ip_address := device.ip_address
    ip_latitude := device.ip_lat
    ip_longitude := device.ip_lon
    postal_codes := device.postal_codes
    push_token := device.push_token
    push_token_updated_at := device.push_token_updated_at
    last_app_open := device.last_app_open
    location_status := locationStatusAt device savedZoneCount now
    created_at := device.created_at
    updated_at := device.updated_at }

/-- `device.findUnique` with the saved zones, and the response for the row. -/
def respond (deviceId : ℕ) : DeviceProcess DeviceResponseDto := do
  let found ← DeviceCall.read (.deviceFindUnique deviceId) fun w =>
    (w.devices.find? deviceId).map fun device =>
      (device, w.savedZones.count fun zone => zone.device_id = deviceId)
  match found with
  | none => .raise (.error "Cannot read properties of null (reading 'saved_zones')")
  | some (device, savedZoneCount) => mapToResponseDto device savedZoneCount

/-- `device.update`. -/
def updateDevice (id : ℕ) (data : DeviceData) : DeviceProcess Unit :=
  Process.atomic (.deviceUpdate id data) (.prisma .other) fun w =>
    (w.checkDeviceUpdate id data, (DeviceCall.deviceUpdate id data).effect w)

/-- The statement that sets the geometry of a GPS position. -/
def setGpsPoint (id : ℕ) (gps : Option GpsLocationDto) : DeviceProcess Unit :=
  match gps with
  | none => .ret ()
  | some gps =>
    let update := DeviceCall.deviceSetGpsPoint id gps.point
    Process.modify update (.prisma .other) update.effect fun _ => ()

/-- The GPS columns that `register` and `updateLocation` write, from the row they read. -/
def gpsData (existing : Device) (gps : Option GpsLocationDto) (now : Time) : DeviceData where
  gps_lat := some (gps.bind GpsLocationDto.latitude <|> existing.gps_lat)
  gps_lon := some (gps.bind GpsLocationDto.longitude <|> existing.gps_lon)
  gps_accuracy_meters := some (gps.bind GpsLocationDto.accuracy <|> existing.gps_accuracy_meters)
  gps_updated_at := some (if gps.isSome then some now else existing.gps_updated_at)

def registerData (existing : Device) (dto : RegisterDeviceDto) (now : Time) : DeviceData :=
  { gpsData existing (dto.location.bind DeviceLocationDto.gps) now with
    platform := some dto.platform
    os_version := some dto.os_version
    app_version := some dto.app_version
    push_token := some (truthy dto.push_token <|> existing.push_token)
    push_token_updated_at := some (if (truthy dto.push_token).isSome then some now
      else existing.push_token_updated_at)
    last_app_open := some now
    ip_address := some (dto.location.bind DeviceLocationDto.ipAddress <|> existing.ip_address)
    postal_codes := some ((dto.location.bind DeviceLocationDto.postalCodes).getD
      existing.postal_codes) }

/-- The row that `register` creates; the database gives it an id. -/
def newDevice (dto : RegisterDeviceDto) (userId : ℕ) (now : Time) : Device where
  id := 0
  user_id := userId
  device_uuid := dto.device_uuid
  platform := dto.platform
  os_version := some dto.os_version
  app_version := some dto.app_version
  push_token := truthy dto.push_token
  push_token_updated_at := (truthy dto.push_token).map fun _ => now
  gps_lat := (dto.location.bind DeviceLocationDto.gps).bind GpsLocationDto.latitude
  gps_lon := (dto.location.bind DeviceLocationDto.gps).bind GpsLocationDto.longitude
  gps_accuracy_meters := (dto.location.bind DeviceLocationDto.gps).bind GpsLocationDto.accuracy
  gps_updated_at := (dto.location.bind DeviceLocationDto.gps).map fun _ => now
  ip_address := truthy (dto.location.bind DeviceLocationDto.ipAddress)
  postal_codes := (dto.location.bind DeviceLocationDto.postalCodes).getD []
  last_app_open := some now

/-- `device.create`, which answers with the new id. -/
def createDevice (device : Device) : DeviceProcess ℕ :=
  Process.atomic (.deviceCreate device) (.prisma .other) fun w =>
    ((w.checkDeviceCreate device).map fun _ => w.nextDevice,
      (DeviceCall.deviceCreate device).effect w)

/-- The device of a registration: the one of the user with this uuid, or a new one. -/
def upsertDevice (dto : RegisterDeviceDto) (userId : ℕ) (now : Time) (existing : Option Device) :
    DeviceProcess ℕ :=
  match existing with
  | some existing => do
    updateDevice existing.id (registerData existing dto now)
    setGpsPoint existing.id (dto.location.bind DeviceLocationDto.gps)
    return existing.id
  | none => do
    let deviceId ← createDevice (newDevice dto userId now)
    setGpsPoint deviceId (dto.location.bind DeviceLocationDto.gps)
    return deviceId

def register (dto : RegisterDeviceDto) (userId : ℕ) : DeviceProcess DeviceResponseDto := do
  let now ← dateNow
  let existing ← DeviceCall.read (.deviceFindByUuid dto.device_uuid userId) fun w =>
    w.registeredDevice dto.device_uuid userId
  let deviceId ← upsertDevice dto userId now existing
  respond deviceId

/-- The device of a user, for the operations on one device. -/
def findOwned (deviceId userId : ℕ) : DeviceProcess Device := do
  let device ← DeviceCall.read (.deviceFindOwned deviceId userId) fun w =>
    w.ownedDevice deviceId userId
  match device with
  | none => .raise (.notFound
      ("Device with ID " ++ toString deviceId ++ " not found or does not belong to user"))
  | some device => return device

def locationData (device : Device) (dto : UpdateLocationDto) (now : Time) : DeviceData :=
  { gpsData device dto.gps now with
    postal_codes := some (dto.postal_codes.getD device.postal_codes) }

def updateLocation (deviceId : ℕ) (dto : UpdateLocationDto) (userId : ℕ) :
    DeviceProcess DeviceResponseDto := do
  let device ← findOwned deviceId userId
  let now ← dateNow
  updateDevice deviceId (locationData device dto now)
  setGpsPoint deviceId dto.gps
  respond deviceId

def updatePushToken (deviceId : ℕ) (pushToken : String) (userId : ℕ) :
    DeviceProcess DeviceResponseDto := do
  let _ ← findOwned deviceId userId
  let now ← dateNow
  let data : DeviceData :=
    { push_token := some (some pushToken), push_token_updated_at := some (some now) }
  let updated ← Process.atomic (.deviceUpdate deviceId data) (.prisma .other) fun w =>
    let w' := (DeviceCall.deviceUpdate deviceId data).effect w
    ((w.checkDeviceUpdate deviceId data).map fun _ => (w'.devices.find? deviceId).map fun device =>
      (device, w'.savedZones.count fun zone => zone.device_id = deviceId), w')
  match updated with
  | none => .raise (.prisma .P2025)
  | some (device, savedZoneCount) => mapToResponseDto device savedZoneCount

end DeviceService

end FifiAlert
