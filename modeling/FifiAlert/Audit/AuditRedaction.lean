import FifiAlert.Audit.AuditLogService

/-!
# What the audit log shows of secrets

The listener redacts the values of an event twice, on the way in and when it writes the row. A
second redaction changes nothing, and values that agree but for what lies under sensitive keys are
redacted alike. So the row says nothing of the secrets.
-/

namespace FifiAlert

open Concurrency Store

/-- The three columns of a row that hold values of any shape. -/
def AuditLog.values (row : AuditLog) : Js.Value × Js.Value × Js.Value :=
  (row.oldValues, row.newValues, row.metadata)

/-- The values of the payloads agree but for what lies under sensitive keys. -/
structure SameButSecrets (payload payload' : AuditEventPayload) : Prop where
  oldValues : Js.Value.SameBut AuditLogService.isSensitive payload.oldValues payload'.oldValues
  newValues : Js.Value.SameBut AuditLogService.isSensitive payload.newValues payload'.newValues
  metadata : Js.Value.SameBut AuditLogService.isSensitive payload.metadata payload'.metadata

namespace AuditLogService

/-- The writes that the handling of an event asks the database for. -/
def auditWrites (payload : AuditEventPayload) (w : World) : List AuditLogData :=
  ((handleAuditEvent payload).trace w).filterMap fun l =>
    match l with
    | .auditLogCreate data => some data
    | _ => none

/-- The handling of the event asks for one row with these values, and whichever calls fail it adds
no row with others. -/
structure Records (payload : AuditEventPayload) (w : World)
    (values : Js.Value × Js.Value × Js.Value) : Prop where
  asked : ∃ data : AuditLogData, auditWrites payload w = [data] ∧ ∀ id, (data id).values = values
  added : ∀ fails, ∀ row ∈ ((handleAuditEvent payload).runWith fails w).2.auditLogs.rows,
    row ∈ w.auditLogs.rows ∨ row.values = values

variable {payload payload' : AuditEventPayload}

theorem sanitizeValues_sanitizeValues (v : Js.Value) :
    sanitizeValues (sanitizeValues v) = sanitizeValues v := by
  have htruthy : (removeSensitiveFields v).isTruthy = v.isTruthy := by cases v <;> rfl
  unfold sanitizeValues
  by_cases hv : v.isTruthy = true
  · rw [if_pos hv, htruthy, if_pos hv]
    exact Js.Value.redact_redact _ _ rfl v
  · rw [if_neg hv]
    rfl

theorem sanitizeValues_congr {v v' : Js.Value} (h : Js.Value.SameBut isSensitive v v') :
    sanitizeValues v = sanitizeValues v' := by
  unfold sanitizeValues removeSensitiveFields
  rw [h.isTruthy_eq, h.redact_eq]

/-- The values of an event as its row has them. -/
def redactedValues (payload : AuditEventPayload) : Js.Value × Js.Value × Js.Value :=
  (sanitizeValues payload.oldValues, sanitizeValues payload.newValues,
    sanitizeValues payload.metadata)

/-- The second redaction changes nothing. -/
theorem values_auditLogData (timestamp createdAt : Time) (id : ℕ) :
    (auditLogData (sanitizePayload payload) timestamp createdAt id).values =
      redactedValues payload := by
  simp only [AuditLog.values, auditLogData, sanitizePayload, sanitizeValues_sanitizeValues,
    redactedValues]

/-- Payloads that agree but for secrets have the same values in their rows. -/
theorem redactedValues_congr (h : SameButSecrets payload payload') :
    redactedValues payload = redactedValues payload' := by
  simp only [redactedValues, sanitizeValues_congr h.oldValues, sanitizeValues_congr h.newValues,
    sanitizeValues_congr h.metadata]

/-- Every call adds no row but one with these values. -/
abbrev AddsOnly {α : Type} (values : Js.Value × Js.Value × Js.Value) (p : AuditProcess α) : Prop :=
  p.Confined (fun _ next => ∀ w : World, ∀ row ∈ (next w).auditLogs.rows,
    row ∈ w.auditLogs.rows ∨ row.values = values) fun _ => True

theorem createAuditLog_addsOnly (payload : AuditEventPayload) :
    AddsOnly (redactedValues payload) (createAuditLog (sanitizePayload payload)) := by
  have hclock : AddsOnly (redactedValues payload) readClock :=
    Process.confined_query (fun _ _ => .inl) trivial
  have hcreate : ∀ (timestamp createdAt : Time) (w : World),
      ∀ row ∈ ((AuditCall.auditLogCreate
        (auditLogData (sanitizePayload payload) timestamp createdAt)).effect w).auditLogs.rows,
        row ∈ w.auditLogs.rows ∨ row.values = redactedValues payload := by
    intro timestamp createdAt w row hrow
    unfold AuditCall.effect at hrow
    dsimp only at hrow
    split at hrow
    · rcases Table.mem_of_mem_insertNew hrow with hrow | rfl
      · exact .inl hrow
      · exact .inr (values_auditLogData timestamp createdAt _)
    · exact .inl hrow
  unfold createAuditLog
  refine Process.Confined.bind ?_ fun timestamp => hclock.bind fun createdAt => ?_
  · cases (sanitizePayload payload).timestamp with
    | none => exact hclock
    | some timestamp => trivial
  · exact Process.confined_atomic (hcreate timestamp createdAt) (fun _ _ _ => trivial) trivial

theorem handleAuditEvent_addsOnly (payload : AuditEventPayload) :
    AddsOnly (redactedValues payload) (handleAuditEvent payload) :=
  (createAuditLog_addsOnly payload).tryCatch fun _ _ =>
    Process.confined_modify (fun _ _ => .inl) trivial

/-- The handling of an event asks for one row, whether the database takes it or not. -/
theorem auditWrites_eq (payload : AuditEventPayload) (w : World) :
    ∃ timestamp, auditWrites payload w =
      [auditLogData (sanitizePayload payload) timestamp w.now] := by
  have hcreate : ∀ data : AuditLogData,
      (((Process.atomic (.auditLogCreate data) (.prisma .other) fun w =>
        (if w.takesAuditLog data then .ok () else .error (.prisma .other),
          (AuditCall.auditLogCreate data).effect w) : AuditProcess Unit).tryCatch fun _ =>
        Process.modify (.loggerError (sanitizePayload payload)) (.prisma .other) id fun _ =>
          ()).trace w).filterMap (fun l => match l with
            | .auditLogCreate data => some data
            | _ => none) = [data] := by
    intro data
    unfold Process.atomic
    rw [Process.tryCatch, Process.trace]
    by_cases htakes : w.takesAuditLog data = true
    · simp only [htakes, if_true]
      rfl
    · simp only [htakes]
      rfl
  unfold auditWrites handleAuditEvent createAuditLog
  have htimestamp : (sanitizePayload payload).timestamp = payload.timestamp := rfl
  rw [htimestamp]
  cases payload.timestamp with
  | none => exact ⟨w.now, hcreate _⟩
  | some timestamp => exact ⟨timestamp, hcreate _⟩

theorem records (payload : AuditEventPayload) (w : World) :
    Records payload w (redactedValues payload) where
  asked := by
    obtain ⟨timestamp, hwrites⟩ := auditWrites_eq payload w
    exact ⟨_, hwrites, values_auditLogData timestamp w.now⟩
  added := fun fails =>
    (handleAuditEvent_addsOnly payload).runWith_kept
      (r := fun w w' => ∀ row ∈ w'.auditLogs.rows,
        row ∈ w.auditLogs.rows ∨ row.values = redactedValues payload)
      (fun _ _ => .inl)
      (fun _ _ _ h h' row hrow => (h' row hrow).elim (h row) .inr) fails w

/-- The audit log leaks no secret: payloads that agree but for what lies under sensitive keys leave
the same values in it. -/
theorem auditLog_leaksNothing (payload payload' : AuditEventPayload)
    (hsame : SameButSecrets payload payload') (w w' : World) :
    ∃ values, Records payload w values ∧ Records payload' w' values :=
  ⟨redactedValues payload, records payload w,
    redactedValues_congr hsame ▸ records payload' w'⟩

/-- An event that names the new password of an account. -/
def passwordEvent (password : String) : AuditEventPayload where
  eventType := .UPDATE
  action := "password_changed"
  userId := some 1
  newValues := .obj [("email", .str "ann@example.com"),
    ("accounts", .arr [.obj [("id", .num 1), ("newPassword", .str password)]])]

theorem isSensitive_newPassword : isSensitive "newPassword" = true := by decide +kernel

theorem sameButSecrets_passwordEvent (password password' : String) :
    SameButSecrets (passwordEvent password) (passwordEvent password') where
  oldValues := .same _
  newValues := .obj (.cons (.same _) (.cons (.arr (.cons
    (.obj (.cons (.same _) (.secret isSensitive_newPassword .nil))) .nil)) .nil))
  metadata := .same _

/-- Two passwords leave the same row. -/
theorem auditLog_leaksNothing_password :
    ∃ values, Records (passwordEvent "correct horse") {} values ∧
      Records (passwordEvent "battery staple") {} values :=
  auditLog_leaksNothing (passwordEvent "correct horse") (passwordEvent "battery staple")
    (sameButSecrets_passwordEvent _ _) {} {}

end AuditLogService

end FifiAlert
