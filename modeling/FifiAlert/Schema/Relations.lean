import FifiAlert.Store.Cascade
import FifiAlert.World

/-!
# The relations of the schema

The rows of all tables, the keys by which they are cited, and the keys they cite: those that
`onDelete: Cascade` follows and those that `onDelete: SetNull` clears.

What the database does when a row that others cite is deleted. Rows that are cited and cite others
themselves cite a user only, so a key goes with the row when its own row cites that row; every other
row goes with a key that it cites.
-/

namespace FifiAlert

open Store

/-- The tables whose rows are cited. -/
inductive Entity where
  | user
  | role
  | gate
  | pet
  | alert
  | device
  | invitation
  deriving DecidableEq

abbrev EntityKey := Entity × ℕ

/-- A row of one of the tables. -/
inductive Row where
  | user (r : User)
  | role (r : Role)
  | gate (r : Gate)
  | userRole (r : UserRole)
  | userGate (r : UserGate)
  | session (r : Session)
  | account (r : Account)
  | passkey (r : Passkey)
  | pet (r : Pet)
  | adoptionListing (r : AdoptionListing)
  | alert (r : Alert)
  | sighting (r : Sighting)
  | reunionSnapshot (r : ReunionSnapshot)
  | device (r : Device)
  | savedZone (r : SavedZone)
  | alertZone (r : AlertZone)
  | notification (r : Notification)
  | invitation (r : Invitation)
  | invitationSendLog (r : InvitationSendLog)
  | auditLog (r : AuditLog)

namespace Row

def key : Row → Option EntityKey
  | user r => some (.user, r.id)
  | role r => some (.role, r.id)
  | gate r => some (.gate, r.id)
  | pet r => some (.pet, r.id)
  | alert r => some (.alert, r.id)
  | device r => some (.device, r.id)
  | invitation r => some (.invitation, r.id)
  | _ => none

/-- The keys of the relations with `onDelete: Cascade`. -/
def cascading : Row → List EntityKey
  | userRole r => [(.user, r.user_id), (.role, r.role_id)]
  | userGate r => [(.user, r.user_id), (.gate, r.gate_id)]
  | session r => [(.user, r.userId)]
  | account r => [(.user, r.userId)]
  | passkey r => [(.user, r.userId)]
  | pet r => [(.user, r.userId)]
  | adoptionListing r => [(.pet, r.petId), (.user, r.userId)]
  | alert r => [(.user, r.creator_id)]
  | sighting r => [(.alert, r.alert_id), (.user, r.reporter_id)]
  | reunionSnapshot r => [(.alert, r.alertId)]
  | device r => [(.user, r.user_id)]
  | savedZone r => [(.device, r.device_id)]
  | alertZone r => [(.user, r.user_id)]
  | notification r => [(.alert, r.alert_id), (.device, r.device_id)]
  | invitation r => [(.user, r.senderUserId)]
  | invitationSendLog r => [(.invitation, r.invitationId), (.user, r.senderUserId)]
  | user _ | role _ | gate _ | auditLog _ => []

/-- The keys of the relations with `onDelete: SetNull`. -/
def nullable : Row → List EntityKey
  | alert r => r.pet_id.toList.map fun id => (.pet, id)
  | invitation r => r.convertedUserId.toList.map fun id => (.user, id)
  | auditLog r => r.userId.toList.map fun id => (.user, id)
  | _ => []

end Row

/-- The id, unless the row that it is the key of is gone. -/
def clear (gone : EntityKey → Bool) (entity : Entity) (id : Option ℕ) : Option ℕ :=
  id.filter fun id => !gone (entity, id)

theorem toList_clear (gone : EntityKey → Bool) (entity : Entity) (id : Option ℕ) :
    ((clear gone entity id).toList.map fun id => (entity, id)) =
      (id.toList.map fun id => (entity, id)).filter fun k => !gone k := by
  cases id with
  | none => rfl
  | some id => cases h : gone (entity, id) <;> simp [clear, h]

def Alert.release (gone : EntityKey → Bool) (r : Alert) : Alert :=
  { r with pet_id := clear gone .pet r.pet_id }

def Invitation.release (gone : EntityKey → Bool) (r : Invitation) : Invitation :=
  { r with convertedUserId := clear gone .user r.convertedUserId }

def AuditLog.release (gone : EntityKey → Bool) (r : AuditLog) : AuditLog :=
  { r with userId := clear gone .user r.userId }

/-- What `onDelete: SetNull` leaves of a row. -/
def Row.release (gone : EntityKey → Bool) : Row → Row
  | alert r => alert (r.release gone)
  | invitation r => invitation (r.release gone)
  | auditLog r => auditLog (r.release gone)
  | r => r

def foreignKeys : ForeignKeys Row EntityKey where
  key := Row.key
  cascading := Row.cascading
  nullable := Row.nullable
  release := Row.release
  key_release := fun _ r => by cases r <;> rfl
  cascading_release := fun _ r => by cases r <;> rfl
  nullable_release := fun gone r => by
    cases r with
    | alert r => exact toList_clear gone .pet r.pet_id
    | invitation r => exact toList_clear gone .user r.convertedUserId
    | auditLog r => exact toList_clear gone .user r.userId
    | _ => rfl

namespace World

def holds (w : World) : Row → Prop
  | .user r => r ∈ w.users.rows
  | .role r => r ∈ w.roles.rows
  | .gate r => r ∈ w.gates.rows
  | .userRole r => r ∈ w.userRoles.rows
  | .userGate r => r ∈ w.userGates.rows
  | .session r => r ∈ w.sessions.rows
  | .account r => r ∈ w.accounts.rows
  | .passkey r => r ∈ w.passkeys.rows
  | .pet r => r ∈ w.pets.rows
  | .adoptionListing r => r ∈ w.adoptionListings.rows
  | .alert r => r ∈ w.alerts.rows
  | .sighting r => r ∈ w.sightings.rows
  | .reunionSnapshot r => r ∈ w.reunionSnapshots.rows
  | .device r => r ∈ w.devices.rows
  | .savedZone r => r ∈ w.savedZones.rows
  | .alertZone r => r ∈ w.alertZones.rows
  | .notification r => r ∈ w.notifications.rows
  | .invitation r => r ∈ w.invitations.rows
  | .invitationSendLog r => r ∈ w.invitationSendLogs.rows
  | .auditLog r => r ∈ w.auditLogs.rows

/-- Every row that is cited is there. -/
def Intact (w : World) : Prop := foreignKeys.Intact w.holds

/-- The row with a key. -/
def rowOf (w : World) : EntityKey → Option Row
  | (.user, id) => (w.users.find? id).map Row.user
  | (.role, id) => (w.roles.find? id).map Row.role
  | (.gate, id) => (w.gates.find? id).map Row.gate
  | (.pet, id) => (w.pets.find? id).map Row.pet
  | (.alert, id) => (w.alerts.find? id).map Row.alert
  | (.device, id) => (w.devices.find? id).map Row.device
  | (.invitation, id) => (w.invitations.find? id).map Row.invitation

variable {w : World} {p p' : Row} {k : EntityKey}

theorem rowOf_of_holds (hp : w.holds p) (hkey : p.key = some k) : w.rowOf k = some p := by
  cases p <;> cases hkey <;> exact congrArg (Option.map _) (Table.find?_of_mem hp)

theorem holds_rowOf (h : w.rowOf k = some p) : w.holds p ∧ p.key = some k := by
  obtain ⟨entity, id⟩ := k
  cases entity <;> obtain ⟨r, hr, rfl⟩ := Option.map_eq_some_iff.1 h <;>
    exact ⟨Table.mem_of_find? hr, congrArg (fun id => some (_, id)) (Table.key_of_find? hr)⟩

/-- A key is that of one row. -/
theorem holds_unique (hp : w.holds p) (hp' : w.holds p') (hkey : p.key = some k)
    (hkey' : p'.key = some k) : p = p' :=
  Option.some.inj ((rowOf_of_holds hp hkey).symm.trans (rowOf_of_holds hp' hkey'))

section Executable

/-- The rows of all tables. -/
def allRows (w : World) : List Row :=
  w.users.rows.map Row.user ++ w.roles.rows.map Row.role ++ w.gates.rows.map Row.gate ++
    w.userRoles.rows.map Row.userRole ++ w.userGates.rows.map Row.userGate ++
    w.sessions.rows.map Row.session ++ w.accounts.rows.map Row.account ++
    w.passkeys.rows.map Row.passkey ++ w.pets.rows.map Row.pet ++
    w.adoptionListings.rows.map Row.adoptionListing ++ w.alerts.rows.map Row.alert ++
    w.sightings.rows.map Row.sighting ++ w.reunionSnapshots.rows.map Row.reunionSnapshot ++
    w.devices.rows.map Row.device ++ w.savedZones.rows.map Row.savedZone ++
    w.alertZones.rows.map Row.alertZone ++ w.notifications.rows.map Row.notification ++
    w.invitations.rows.map Row.invitation ++
    w.invitationSendLogs.rows.map Row.invitationSendLog ++ w.auditLogs.rows.map Row.auditLog

theorem mem_allRows : p ∈ w.allRows ↔ w.holds p := by
  unfold allRows
  simp only [List.mem_append, List.mem_map]
  cases p <;> simp [holds]

theorem intact_iff : w.Intact ↔
    ∀ row ∈ w.allRows, ∀ k ∈ row.cascading ++ row.nullable, (w.rowOf k).isSome = true := by
  refine forall_congr' fun row => ?_
  rw [mem_allRows]
  refine imp_congr_right fun _ => forall₂_congr fun k _ => ?_
  rw [Option.isSome_iff_exists]
  exact exists_congr fun p =>
    ⟨fun h => rowOf_of_holds h.1 h.2, holds_rowOf⟩

instance : Decidable w.Intact := decidable_of_iff' _ intact_iff

end Executable

end World

end FifiAlert

namespace FifiAlert

open Store

/-- One of the keys of the row is gone that it cannot do without. -/
def Row.isTaken (gone : EntityKey → Bool) (row : Row) : Bool :=
  row.key.any gone || row.cascading.any gone

namespace World

/-- The keys that go with the row with the key `root`. -/
def goneWith (w : World) (root k : EntityKey) : Bool :=
  k = root || (w.rowOf k).any fun row => root ∈ row.cascading

/-- The tables without the rows that are taken. -/
def deleteGone (w : World) (gone : EntityKey → Bool) : World :=
  { w with
    users := w.users.deleteMany fun r => (Row.user r).isTaken gone
    roles := w.roles.deleteMany fun r => (Row.role r).isTaken gone
    gates := w.gates.deleteMany fun r => (Row.gate r).isTaken gone
    userRoles := w.userRoles.deleteMany fun r => (Row.userRole r).isTaken gone
    userGates := w.userGates.deleteMany fun r => (Row.userGate r).isTaken gone
    sessions := w.sessions.deleteMany fun r => (Row.session r).isTaken gone
    accounts := w.accounts.deleteMany fun r => (Row.account r).isTaken gone
    passkeys := w.passkeys.deleteMany fun r => (Row.passkey r).isTaken gone
    pets := w.pets.deleteMany fun r => (Row.pet r).isTaken gone
    adoptionListings :=
      w.adoptionListings.deleteMany fun r => (Row.adoptionListing r).isTaken gone
    alerts := (w.alerts.deleteMany fun r => (Row.alert r).isTaken gone).updateMany (fun _ => true)
      (Alert.release gone)
    sightings := w.sightings.deleteMany fun r => (Row.sighting r).isTaken gone
    reunionSnapshots :=
      w.reunionSnapshots.deleteMany fun r => (Row.reunionSnapshot r).isTaken gone
    devices := w.devices.deleteMany fun r => (Row.device r).isTaken gone
    savedZones := w.savedZones.deleteMany fun r => (Row.savedZone r).isTaken gone
    alertZones := w.alertZones.deleteMany fun r => (Row.alertZone r).isTaken gone
    notifications := w.notifications.deleteMany fun r => (Row.notification r).isTaken gone
    invitations := (w.invitations.deleteMany fun r => (Row.invitation r).isTaken gone).updateMany
      (fun _ => true) (Invitation.release gone)
    invitationSendLogs :=
      w.invitationSendLogs.deleteMany fun r => (Row.invitationSendLog r).isTaken gone
    auditLogs := w.auditLogs.updateMany (fun _ => true) (AuditLog.release gone) }

/-- `DELETE FROM … WHERE id = …`, with the relations of the schema. -/
def delete (w : World) (root : EntityKey) : World := w.deleteGone (w.goneWith root)

section Rows

variable {w : World} {gone : EntityKey → Bool} {root k : EntityKey} {row : Row}

theorem mem_deleteMany {ρ κ : Type*} {key : ρ → κ} {t : Table ρ key} {p : ρ → Bool} {r : ρ} :
    r ∈ (t.deleteMany p).rows ↔ r ∈ t.rows ∧ p r = false :=
  List.mem_filter.trans (and_congr_right' (Bool.not_eq_eq_eq_not ..))

/-- A row that is not taken stays, without the keys that are gone. -/
theorem holds_release (hrow : w.holds row) (hstays : row.isTaken gone = false) :
    (w.deleteGone gone).holds (row.release gone) := by
  cases row with
  | alert r =>
      exact List.mem_map.2 ⟨r, mem_deleteMany.2 ⟨hrow, hstays⟩, if_pos rfl⟩
  | invitation r =>
      exact List.mem_map.2 ⟨r, mem_deleteMany.2 ⟨hrow, hstays⟩, if_pos rfl⟩
  | auditLog r => exact List.mem_map.2 ⟨r, hrow, if_pos rfl⟩
  | _ => exact mem_deleteMany.2 ⟨hrow, hstays⟩

/-- Every row that stays was there. -/
theorem exists_of_holds (hrow : (w.deleteGone gone).holds row) :
    ∃ row₀, w.holds row₀ ∧ row₀.isTaken gone = false ∧ row = row₀.release gone := by
  cases row with
  | alert r =>
      obtain ⟨r₀, hr₀, rfl⟩ := List.mem_map.1 hrow
      obtain ⟨hmem, hstays⟩ := mem_deleteMany.1 hr₀
      exact ⟨.alert r₀, hmem, hstays, congrArg Row.alert (if_pos rfl)⟩
  | invitation r =>
      obtain ⟨r₀, hr₀, rfl⟩ := List.mem_map.1 hrow
      obtain ⟨hmem, hstays⟩ := mem_deleteMany.1 hr₀
      exact ⟨.invitation r₀, hmem, hstays, congrArg Row.invitation (if_pos rfl)⟩
  | auditLog r =>
      obtain ⟨r₀, hmem, rfl⟩ := List.mem_map.1 hrow
      exact ⟨.auditLog r₀, hmem, rfl, congrArg Row.auditLog (if_pos rfl)⟩
  | _ =>
      obtain ⟨hmem, hstays⟩ := mem_deleteMany.1 hrow
      refine ⟨_, ?_, hstays, rfl⟩
      exact hmem

theorem holds_deleteGone : (w.deleteGone gone).holds row ↔
    ∃ row₀, w.holds row₀ ∧ row₀.isTaken gone = false ∧ row = row₀.release gone :=
  ⟨exists_of_holds, fun ⟨_, hrow, hstays, heq⟩ => heq ▸ holds_release hrow hstays⟩

end Rows

section Cascade

variable {w : World} {root k : EntityKey} {row : Row}

/-- A row that is cited cites users only, and a user cites nobody. -/
theorem cascading_user (hkey : row.key.isSome = true) : ∀ k ∈ row.cascading, k.1 = .user := by
  cases row <;> simp_all [Row.key, Row.cascading]

theorem cascading_rowOf_user {id : ℕ} (h : w.rowOf (.user, id) = some row) :
    row.cascading = [] := by
  obtain ⟨r, -, rfl⟩ := Option.map_eq_some_iff.1 h
  rfl

theorem goneWith_iff : w.goneWith root k = true ↔
    k = root ∨ ∃ row, w.rowOf k = some row ∧ root ∈ row.cascading := by
  simp [goneWith, Option.any_eq_true]

/-- The keys that go are those of the rows that the delete takes. -/
theorem goneWith_iff_keyGoes (hroot : (w.rowOf root).isSome = true) :
    w.goneWith root k = true ↔ foreignKeys.KeyGoes w.holds root k := by
  obtain ⟨p, hp⟩ := Option.isSome_iff_exists.1 hroot
  have hgoes : foreignKeys.Goes w.holds root p := .root (holds_rowOf hp).1 (holds_rowOf hp).2
  constructor
  · intro hgone
    rcases goneWith_iff.1 hgone with rfl | ⟨row, hrow, hcites⟩
    · exact ⟨p, hgoes, (holds_rowOf hp).2⟩
    · obtain ⟨hmem, hkey⟩ := holds_rowOf hrow
      exact ⟨row, .child hmem hcites hgoes (holds_rowOf hp).2, hkey⟩
  · rintro ⟨row, hrow, hkey⟩
    refine ForeignKeys.Goes.of_closed
      (P := fun row => ∀ k, row.key = some k → w.goneWith root k = true) ?_ ?_ hrow k hkey
    · intro row _ hkey k hk
      exact goneWith_iff.2 (.inl (Option.some.inj (hk.symm.trans hkey)))
    · intro row p k hmem hcites _ hp hkey k' hk'
      have huser := cascading_user (by rw [hk']; rfl) k hcites
      refine goneWith_iff.2 (.inr ⟨row, rowOf_of_holds hmem hk', ?_⟩)
      rcases goneWith_iff.1 (hp k hkey) with rfl | ⟨row', hrow', hcites'⟩
      · exact hcites
      · obtain ⟨entity, id⟩ := k
        obtain rfl := huser
        rw [cascading_rowOf_user hrow'] at hcites'
        cases hcites'

/-- The rows that are taken are those that the delete takes. -/
theorem isTaken_iff_goes (hroot : (w.rowOf root).isSome = true) (hrow : w.holds row) :
    row.isTaken (w.goneWith root) = true ↔ foreignKeys.Goes w.holds root row := by
  rw [Row.isTaken, Bool.or_eq_true, Option.any_eq_true, List.any_eq_true]
  constructor
  · rintro (⟨k, hkey, hgone⟩ | ⟨k, hcites, hgone⟩)
    · obtain ⟨p, hp, hkey'⟩ := (goneWith_iff_keyGoes hroot).1 hgone
      exact holds_unique hrow hp.row hkey hkey' ▸ hp
    · obtain ⟨p, hp, hkey⟩ := (goneWith_iff_keyGoes hroot).1 hgone
      exact .child hrow hcites hp hkey
  · intro hgoes
    cases hgoes with
    | root _ hkey =>
        exact .inl ⟨root, hkey, goneWith_iff.2 (.inl rfl)⟩
    | child _ hcites hp hkey =>
        exact .inr ⟨_, hcites, (goneWith_iff_keyGoes hroot).2 ⟨_, hp, hkey⟩⟩

/-- The delete takes what the relations of the schema demand, and nothing else. -/
theorem deletes_delete (hroot : (w.rowOf root).isSome = true) :
    foreignKeys.Deletes root (w.goneWith root) w.holds (w.delete root).holds where
  gone_iff := fun _ => goneWith_iff_keyGoes hroot
  exact := by
    intro row
    refine holds_deleteGone.trans (exists_congr fun row₀ => ?_)
    refine and_congr_right fun hrow₀ => and_congr_left' ?_
    rw [← isTaken_iff_goes hroot hrow₀, Bool.not_eq_true]

end Cascade

end World

end FifiAlert
