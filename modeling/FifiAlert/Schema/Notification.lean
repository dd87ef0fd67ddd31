import FifiAlert.Schema.Alert
import FifiAlert.Store.Table

/-!
# Devices, zones and notifications

Where the users are, and what they were told. A notification row belongs to an
alert and a device; a row that records an email says so in its `meta`, and a row
that records why a device was left out is marked `excluded`.
-/

namespace FifiAlert

open Store

inductive NotificationConfidence where
  | HIGH
  | MEDIUM
  | LOW
  deriving DecidableEq, Inhabited

inductive NotificationStatus where
  | QUEUED
  | SENT
  | DELIVERED
  | OPENED
  | FAILED
  | EXCLUDED
  deriving DecidableEq, Inhabited

inductive LocationSource where
  | GPS
  | IP
  | POSTAL_CODE
  | MANUAL
  deriving DecidableEq, Inhabited

inductive DevicePlatform where
  | IOS
  | ANDROID
  | WEB
  deriving DecidableEq, Inhabited

structure Device where
  id : ℕ
  user_id : ℕ
  device_uuid : String := ""
  platform : DevicePlatform := .WEB
  os_version : Option String := none
  app_version : Option String := none
  push_token : Option String := none
  push_token_updated_at : Option Time := none
  push_enabled : Bool := true
  gps_lat : Option ℚ := none
  gps_lon : Option ℚ := none
  gps_point : Option Point := none
  gps_accuracy_meters : Option ℚ := none
  gps_updated_at : Option Time := none
  ip_address : Option String := none
  ip_lat : Option ℚ := none
  ip_lon : Option ℚ := none
  ip_point : Option Point := none
  postal_codes : List String := []
  last_app_open : Option Time := none
  created_at : Time := 0
  updated_at : Time := 0
  deriving DecidableEq, Inhabited

structure SavedZone where
  id : ℕ
  device_id : ℕ
  name : String := ""
  location_point : Point
  radius_km : ℚ := 5
  is_active : Bool := true
  priority : ℤ := 0
  deriving DecidableEq, Inhabited

structure AlertZone where
  id : ℕ
  user_id : ℕ
  name : String := ""
  lat : ℚ := 0
  lon : ℚ := 0
  location_point : Point
  radius_meters : ℤ
  is_active : Bool := true
  priority : ℤ := 0
  created_at : Time := 0
  updated_at : Time := 0
  deriving DecidableEq, Inhabited

structure Notification where
  id : ℕ
  alert_id : ℕ
  device_id : ℕ
  confidence : NotificationConfidence
  match_reason : String
  distance_km : Option ℚ := none
  status : NotificationStatus := .QUEUED
  queued_at : Time := 0
  sent_at : Option Time := none
  delivered_at : Option Time := none
  opened_at : Option Time := none
  failed_at : Option Time := none
  failure_reason : Option String := none
  excluded : Bool := false
  exclusion_reason : Option String := none
  push_message_id : Option String := none
  «meta» : Option Js.Json := none
  deriving Inhabited

abbrev Devices := Table Device Device.id
abbrev SavedZones := Table SavedZone SavedZone.id
abbrev AlertZones := Table AlertZone AlertZone.id
abbrev Notifications := Serial Notification Notification.id

/-- A job added to the notification queue; a wave job may be delayed. -/
inductive Job where
  | sendAlertNotifications (alertId : ℕ) (wave : Option NotificationConfidence) (delay : ℕ)
  | sendPushNotification (notificationId : ℕ)
  | sendSuccessStory (alertId : ℕ)
  deriving DecidableEq

/-- What the user sees of a push, and the data that goes with it. -/
structure PushPayload where
  title : String
  body : String
  imageUrl : Option String := none
  data : List (String × String) := []
  deriving DecidableEq

/-- A push handed to the provider of a platform, for the notification it delivers. -/
structure Push where
  notificationId : ℕ
  deviceId : ℕ
  platform : DevicePlatform
  token : String
  payload : PushPayload
  deriving DecidableEq

/-- What a push service answers. -/
structure SendResult where
  success : Bool
  messageId : Option String := none
  error : Option String := none
  invalidToken : Bool := false
  deriving DecidableEq

/-- An email handed to the provider: the template, the address, the alert or
other record it is about. -/
structure Email where
  template : String
  recipient : String
  subjectId : ℕ
  deriving DecidableEq

end FifiAlert
