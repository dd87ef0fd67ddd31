import FifiAlert.Js.Value
import FifiAlert.Schema.Auth

/-!
# The audit log

A row for each event that a service reported. Three of its columns hold values of any shape.
-/

namespace FifiAlert

open Store

inductive AuditEventType where
  | CREATE
  | UPDATE
  | DELETE
  | LOGIN
  | LOGOUT
  | ACCESS
  | EXPORT
  | IMPORT
  | APPROVAL
  | REJECTION
  | SEND
  | RECEIVE
  | ACTIVATION
  | DEACTIVATION
  | ROTATION
  | REVOCATION
  | RESET
  | FAILURE
  | SUCCESS
  | SYSTEM
  deriving DecidableEq, Inhabited

inductive AuditEntityType where
  | USER
  | ALERT
  | SIGHTING
  | DEVICE
  | SAVED_ZONE
  | ALERT_ZONE
  | NOTIFICATION
  | SESSION
  | ROLE
  | GATE
  | EMAIL
  | LOCATION
  | SYSTEM
  deriving DecidableEq, Inhabited

inductive ActorType where
  | user
  | system
  | api_key
  | cron
  | webhook
  deriving DecidableEq, Inhabited

structure AuditLog where
  id : ℕ
  eventType : AuditEventType
  action : String
  entityType : Option AuditEntityType := none
  entityId : Option ℕ := none
  description : Option String := none
  userId : Option ℕ := none
  actorId : Option String := none
  actorType : Option ActorType := none
  oldValues : Js.Value := .undefined
  newValues : Js.Value := .undefined
  ipAddress : Option String := none
  userAgent : Option String := none
  sessionId : Option String := none
  requestId : Option String := none
  success : Bool := true
  errorMessage : Option String := none
  errorStack : Option String := none
  metadata : Js.Value := .undefined
  timestamp : Time := 0
  createdAt : Time := 0
  deriving Inhabited

abbrev AuditLogs := Table AuditLog AuditLog.id

end FifiAlert
