import FifiAlert.Concurrency.Process
import FifiAlert.Errors
import FifiAlert.Js.Text
import FifiAlert.World

/-!
# The audit log service

The listener of the audit events. It redacts what an event says of values, writes one row, and
never throws: what the database refuses is logged, redacted too.
-/

namespace FifiAlert

open Concurrency Store

/-- `IAuditEventPayload`. The three values can be of any shape. -/
structure AuditEventPayload where
  eventType : AuditEventType
  action : String
  entityType : Option AuditEntityType := none
  entityId : Option ℕ := none
  description : Option String := none
  userId : Option ℕ := none
  actorId : Option String := none
  actorType : Option ActorType := none
  oldValues : Js.Value := .undefined
  newValues : Js.Value := .undefined
  ipAddress : Option String := none
  userAgent : Option String := none
  sessionId : Option String := none
  requestId : Option String := none
  success : Option Bool := none
  errorMessage : Option String := none
  errorStack : Option String := none
  metadata : Js.Value := .undefined
  timestamp : Option Time := none

/-- The `data` of `auditLog.create`: the row without its id. -/
abbrev AuditLogData := ℕ → AuditLog

inductive AuditCall where
  | dateNow
  | auditLogCreate (data : AuditLogData)
  | loggerError (payload : AuditEventPayload)

/-- The row refers to a user that exists, if it names one, and its texts fit their columns. -/
def World.takesAuditLog (w : World) (data : AuditLogData) : Bool :=
  let row := data w.nextAuditLog
  (row.userId.all fun id => (w.users.find? id).isSome) &&
    (row.actorId.all fun s => s.length ≤ 100) && (row.sessionId.all fun s => s.length ≤ 255) &&
    row.requestId.all fun s => s.length ≤ 64

/-- What a call does to the shared state. -/
def AuditCall.effect : AuditCall → World → World
  | auditLogCreate data, w =>
      if w.takesAuditLog data then
        { w with
          auditLogs := w.auditLogs.insertNew (data w.nextAuditLog)
          nextAuditLog := w.nextAuditLog + 1 }
      else w
  | _, w => w

abbrev AuditProcess := Process World AuditCall AppError

namespace AuditLogService

def SENSITIVE_FIELDS : List String :=
  ["password", "passwordHash", "secret", "token", "accessToken", "refreshToken", "apiKey",
    "privateKey", "apiSecret", "fcmToken", "pushToken", "push_token", "idToken", "password_hash",
    "access_token", "refresh_token", "api_key", "private_key", "api_secret", "fcm_token"]

/-- The check of a key: its lower case has the lower case of a sensitive field in it. -/
def isSensitive (key : String) : Bool :=
  SENSITIVE_FIELDS.any fun field =>
    Js.includes (Js.toLowerCase key.toList) (Js.toLowerCase field.toList)

/-- `removeSensitiveFields`. -/
def removeSensitiveFields (v : Js.Value) : Js.Value :=
  Js.Value.redact isSensitive (.str "[REDACTED]") v

/-- `v ? this.removeSensitiveFields(v) : undefined`. -/
def sanitizeValues (v : Js.Value) : Js.Value :=
  if v.isTruthy then removeSensitiveFields v else .undefined

/-- The characters that `.` does not match in a regular expression. -/
def isLineTerminator (c : Char) : Bool :=
  c = '\n' || c = '\r' || c.toNat = 0x2028 || c.toNat = 0x2029

/-- What follows the first `dir` of the line. -/
def afterDir (dir : List Char) : List Char → Option (List Char)
  | [] => none
  | c :: cs =>
    if dir.isPrefixOf (c :: cs) then some ((c :: cs).drop dir.length)
    else if isLineTerminator c then none
    else afterDir dir cs

/-- What follows a match of `at\s+.*?` and the directory at the start of the text. -/
def afterPath (dir : List Char) : List Char → Option (List Char)
  | 'a' :: 't' :: c :: cs =>
    if Js.isWhiteSpace c then afterDir dir (cs.dropWhile Js.isWhiteSpace) else none
  | _ => none

/-- `line.replace(/at\s+.*?dir/g, 'at src/')`, with the characters of a match still to be
skipped. -/
def replacePaths (dir : List Char) : ℕ → List Char → List Char
  | _, [] => []
  | skip + 1, _ :: cs => replacePaths dir skip cs
  | 0, c :: cs =>
    match afterPath dir (c :: cs) with
    | some rest => "at src/".toList ++ replacePaths dir (cs.length - rest.length) cs
    | none => c :: replacePaths dir 0 cs

def sanitizeLine (line : List Char) : List Char :=
  Js.replaceChar '\\' "/"
    (replacePaths "/src/".toList 0 (replacePaths "\\src\\".toList 0 line))

def sanitizeStackTrace (stack : String) : String :=
  let lines := (Js.splitOn ['\n'] stack.toList).take 10
  String.ofList (Js.joinWith ['\n'] (lines.map sanitizeLine))

/-- `errorStack ? this.sanitizeStackTrace(errorStack) : undefined`. -/
def sanitizeStack (errorStack : Option String) : Option String :=
  (Js.truthy errorStack).map sanitizeStackTrace

def inferActorType (userId : Option ℕ) (actorId : Option String) : ActorType :=
  if userId.any fun id => id ≠ 0 then .user
  else
    match Js.truthy actorId with
    | none => .system
    | some actorId =>
      if actorId.startsWith "cron_" then .cron
      else if actorId.startsWith "api_" then .api_key
      else if actorId.startsWith "webhook_" then .webhook
      else .system

def sanitizePayload (payload : AuditEventPayload) : AuditEventPayload :=
  { payload with
    oldValues := sanitizeValues payload.oldValues
    newValues := sanitizeValues payload.newValues
    metadata := sanitizeValues payload.metadata
    errorStack := sanitizeStack payload.errorStack }

/-- The `data` that `createAuditLog` writes. -/
def auditLogData (payload : AuditEventPayload) (timestamp createdAt : Time) : AuditLogData :=
  fun id =>
    { id
      eventType := payload.eventType
      action := payload.action
      entityType := payload.entityType
      entityId := payload.entityId
      description := payload.description
      userId := payload.userId
      actorId := Js.truthy payload.actorId <|> payload.userId.map toString
      actorType := some (payload.actorType.getD (inferActorType payload.userId payload.actorId))
      oldValues := sanitizeValues payload.oldValues
      newValues := sanitizeValues payload.newValues
      ipAddress := payload.ipAddress
      userAgent := payload.userAgent
      sessionId := payload.sessionId
      requestId := payload.requestId
      success := payload.success.getD true
      errorMessage := payload.errorMessage
      errorStack := sanitizeStack payload.errorStack
      metadata := sanitizeValues payload.metadata
      timestamp, createdAt }

def readClock : AuditProcess Time :=
  Process.query .dateNow (.prisma .other) World.now

/-- `timestamp || new Date()`. -/
def timestampOrNow : Option Time → AuditProcess Time
  | some timestamp => return timestamp
  | none => readClock

def createAuditLog (payload : AuditEventPayload) : AuditProcess Unit := do
  let timestamp ← timestampOrNow payload.timestamp
  let createdAt ← readClock
  let data := auditLogData payload timestamp createdAt
  Process.atomic (.auditLogCreate data) (.prisma .other) fun w =>
    (if w.takesAuditLog data then .ok () else .error (.prisma .other),
      (AuditCall.auditLogCreate data).effect w)

/-- `handleAuditEvent`. An audit failure is logged, never thrown. -/
def handleAuditEvent (payload : AuditEventPayload) : AuditProcess Unit :=
  (createAuditLog (sanitizePayload payload)).tryCatch fun _ =>
    Process.modify (.loggerError (sanitizePayload payload)) (.prisma .other) id fun _ => ()

end AuditLogService

end FifiAlert
