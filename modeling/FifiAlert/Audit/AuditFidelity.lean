import FifiAlert.Audit.AuditRedaction
import FifiAlert.Js.Serialization

/-!
# What the audit log keeps of the rest

A redaction is to change the secrets and nothing else. The copy that the listener makes of an array
or of a date is a plain object, and a value that is falsy is not stored at all. So the row keeps
everything but the secrets if and only if none of the three values is so.
-/

namespace FifiAlert

open Js (Value)

namespace AuditLogService

/-- The column holds, wherever no sensitive key leads, what serializes as the payload's value with
its secrets masked. -/
abbrev ColumnKept (v column : Value) : Prop :=
  Value.KeptBut isSensitive (.str "[REDACTED]") v column

/-- So do the three columns of a row. -/
def ColumnsKept (payload : AuditEventPayload) (values : Value × Value × Value) : Prop :=
  ColumnKept payload.oldValues values.1 ∧ ColumnKept payload.newValues values.2.1 ∧
    ColumnKept payload.metadata values.2.2

/-- The row that the handling of the event asks for changes nothing but secrets. -/
def RedactsOnlySecrets (payload : AuditEventPayload) : Prop :=
  ∀ w, ∃ data : AuditLogData, auditWrites payload w = [data] ∧
    ∀ id, ColumnsKept payload (data id).values

/-- The value is not left out for being falsy, and holds no array and no date but under sensitive
keys. -/
def survives (v : Value) : Bool :=
  (v.isTruthy || v matches .undefined) && v.isPlain isSensitive

theorem columnKept_sanitizeValues_iff (v : Value) :
    ColumnKept v (sanitizeValues v) ↔ survives v = true := by
  have hkept := @Value.keptBut_redact_iff isSensitive (.str "[REDACTED]") v
  have hplain : ∀ u : Value, ¬ u.isTruthy = true → u.isPlain isSensitive = true := by
    intro u hu
    cases u with
    | arr | obj | date => exact absurd rfl hu
    | _ => rfl
  unfold sanitizeValues survives
  by_cases htruthy : v.isTruthy = true
  · rw [if_pos htruthy, htruthy, Bool.true_or, Bool.true_and]
    exact hkept
  · rw [if_neg htruthy, hplain v htruthy, Bool.and_true, Bool.eq_false_iff.2 htruthy,
      Bool.false_or]
    constructor
    · intro hfalsy
      obtain ⟨y, hy, hjson⟩ := hfalsy [] (by simp) v rfl
      rw [← Option.some.inj hy] at hjson
      rw [(Value.masked_eq_undefined_iff v).1 ((Value.toJson_eq_none_iff _).1 hjson.symm)]
    · intro hv
      cases v with
      | undefined => exact hkept.2 rfl
      | _ => simp at hv

/-- The row has what one redaction makes of the values. -/
theorem redactsOnlySecrets_iff_redactedValues (payload : AuditEventPayload) :
    RedactsOnlySecrets payload ↔ ColumnsKept payload (redactedValues payload) := by
  constructor
  · intro hkept
    obtain ⟨data, hwrites, hcolumns⟩ := hkept {}
    obtain ⟨timestamp, hwritten⟩ := auditWrites_eq payload {}
    obtain rfl := List.singleton_inj.1 (hwrites.symm.trans hwritten)
    rw [← values_auditLogData]
    exact hcolumns 0
  · intro hcolumns w
    obtain ⟨timestamp, hwritten⟩ := auditWrites_eq payload w
    refine ⟨_, hwritten, fun id => ?_⟩
    rwa [values_auditLogData]

/-- The audit log keeps everything but the secrets if and only if each of the three values
survives. -/
theorem redactsOnlySecrets_iff (payload : AuditEventPayload) :
    RedactsOnlySecrets payload ↔
      survives payload.oldValues = true ∧ survives payload.newValues = true ∧
        survives payload.metadata = true := by
  simp only [redactsOnlySecrets_iff_redactedValues, ColumnsKept, redactedValues,
    columnKept_sanitizeValues_iff]

/-- The event that the update of an alert emits when a photo was added. -/
def photoEvent : AuditEventPayload where
  eventType := .UPDATE
  action := "alert_updated"
  entityType := some .ALERT
  entityId := some 1
  userId := some 1
  oldValues := .obj [("notes", .str "Limping")]
  newValues := .obj [("petPhotos", .arr [.str "https://res.cloudinary.com/demo/rex.jpg"])]
  success := some true

/-- The photos are stored as an object. -/
theorem not_redactsOnlySecrets : ¬ RedactsOnlySecrets photoEvent := by
  rw [redactsOnlySecrets_iff_redactedValues]
  intro hkept
  have hsurvives := (columnKept_sanitizeValues_iff _).1 hkept.2.1
  revert hsurvives
  decide +kernel

end AuditLogService

end FifiAlert
