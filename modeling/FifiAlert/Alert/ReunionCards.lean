import FifiAlert.Alert.ReunionReplacement
import FifiAlert.Concurrency.Protocol

/-!
# The table of reunion snapshots

The service with the ids that the rows get from their sequence, since an expired row is deleted by
the id that was read. Without the ids a resolved alert is written as before.
-/

namespace FifiAlert

open Concurrency Store

/-- A row of `reunion_snapshot`. -/
structure ReunionCard where
  id : ℕ
  snapshot : ReunionSnapshot
  deriving DecidableEq

namespace ReunionCard

def tagId (card : ReunionCard) : String := card.snapshot.tagId

def alertId (card : ReunionCard) : ℕ := card.snapshot.alertId

def expiresAt (card : ReunionCard) : Time := card.snapshot.expiresAt

end ReunionCard

/-- The rows, with two unique columns beside the id. -/
structure ReunionCards extends Serial ReunionCard ReunionCard.id where
  nodup_tagId : (rows.map ReunionCard.tagId).Nodup
  nodup_alertId : (rows.map ReunionCard.alertId).Nodup

namespace ReunionCards

def empty : ReunionCards where
  toSerial := .empty
  nodup_tagId := List.nodup_nil
  nodup_alertId := List.nodup_nil

def deleteMany (t : ReunionCards) (p : ReunionCard → Bool) : ReunionCards where
  toSerial := t.toSerial.deleteMany p
  nodup_tagId := t.nodup_tagId.sublist (List.filter_sublist.map _)
  nodup_alertId := t.nodup_alertId.sublist (List.filter_sublist.map _)

/-- The row that a unique column keeps from being inserted, if there is one. -/
def clash (t : ReunionCards) (s : ReunionSnapshot) : Option ReunionCard :=
  t.rows.find? fun card => card.tagId = s.tagId || card.alertId = s.alertId

theorem clash_eq_none_iff {t : ReunionCards} {s : ReunionSnapshot} :
    t.clash s = none ↔ ∀ card ∈ t.rows, card.tagId ≠ s.tagId ∧ card.alertId ≠ s.alertId := by
  simp [clash]

/-- `create`: the sequence moves on also when a unique column refuses the row. -/
def create (t : ReunionCards) (s : ReunionSnapshot) : ReunionCards :=
  if h : t.clash s = none then
    { t.toSerial.create fun id => ⟨id, s⟩ with
      nodup_tagId := by
        rw [Serial.rows_create, List.map_append, List.nodup_append]
        refine ⟨t.nodup_tagId, by simp, fun tagId htag tagId' hnew heq => ?_⟩
        obtain ⟨card, hcard, rfl⟩ := List.mem_map.1 htag
        rw [List.map_singleton, List.mem_singleton] at hnew
        exact (clash_eq_none_iff.1 h card hcard).1 (heq.trans hnew)
      nodup_alertId := by
        rw [Serial.rows_create, List.map_append, List.nodup_append]
        refine ⟨t.nodup_alertId, by simp, fun alertId halert alertId' hnew heq => ?_⟩
        obtain ⟨card, hcard, rfl⟩ := List.mem_map.1 halert
        rw [List.map_singleton, List.mem_singleton] at hnew
        exact (clash_eq_none_iff.1 h card hcard).2 (heq.trans hnew) }
  else
    { t with
      next := t.next + 1
      lt_next := fun card hcard => (t.lt_next card hcard).trans (Nat.lt_succ_self _) }

def findByTagId (t : ReunionCards) (tagId : String) : Option ReunionCard :=
  t.rows.find? fun card => card.tagId = tagId

variable {t : ReunionCards} {s : ReunionSnapshot} {card : ReunionCard}

theorem mem_deleteMany {p : ReunionCard → Bool} :
    card ∈ (t.deleteMany p).rows ↔ card ∈ t.rows ∧ p card = false := by
  simp [deleteMany, Serial.deleteMany, Table.deleteMany]

theorem mem_of_mem_create (h : card ∈ (t.create s).rows) :
    card ∈ t.rows ∨ t.clash s = none ∧ card = ⟨t.next, s⟩ := by
  unfold create at h
  split at h
  next hfree =>
    rw [Serial.rows_create, List.mem_append, List.mem_singleton] at h
    exact h.imp_right fun hnew => ⟨hfree, hnew⟩
  next => exact .inl h

theorem mem_create (h : card ∈ t.rows) : card ∈ (t.create s).rows := by
  unfold create
  split
  next => exact List.mem_append_left _ h
  next => exact h

@[simp] theorem next_create : (t.create s).next = t.next + 1 := by
  unfold create
  split <;> rfl

@[simp] theorem next_deleteMany {p : ReunionCard → Bool} : (t.deleteMany p).next = t.next := rfl

/-- A tag names one row at most. -/
theorem findByTagId_eq_some_iff {tagId : String} :
    t.findByTagId tagId = some card ↔ card ∈ t.rows ∧ card.tagId = tagId := by
  constructor
  · intro h
    exact ⟨List.mem_of_find?_eq_some h, by simpa using List.find?_some h⟩
  · rintro ⟨hcard, rfl⟩
    let tags : Table ReunionCard ReunionCard.tagId := ⟨t.rows, t.nodup_tagId⟩
    exact Table.find?_of_mem (t := tags) hcard

/-- The rows without their ids. -/
def snapshots (t : ReunionCards) : ReunionSnapshots where
  rows := t.rows.map ReunionCard.snapshot
  nodup := by
    rw [List.map_map]
    exact t.nodup_tagId

end ReunionCards

/-- The table beside the rest of the shared state. -/
structure CardWorld where
  rest : World
  cards : ReunionCards

namespace CardWorld

def now (w : CardWorld) : Time := w.rest.now

/-- The state without the ids of the rows. -/
def world (w : CardWorld) : World := { w.rest with reunionSnapshots := w.cards.snapshots }

end CardWorld

inductive CardCall where
  | dateNow
  | notificationFindDelivered (alertId : ℕ)
  | sightingCount (alertId : ℕ)
  | snapshotDeleteMany (tagId : String) (alertId : ℕ)
  | snapshotCreate (snapshot : ReunionSnapshot)
  | snapshotFindUnique (tagId : String)
  | snapshotDelete (id : ℕ)
  | snapshotDeleteExpired (date : Time)
  | alertDelete (id : ℕ)
  deriving DecidableEq

namespace CardCall

/-- The rows that a call takes away. The rows of a deleted alert go with it. -/
def gone : CardCall → ReunionCard → Bool
  | snapshotDeleteMany tagId alertId, card => card.tagId = tagId || card.alertId = alertId
  | snapshotDelete id, card => card.id = id
  | snapshotDeleteExpired date, card => card.expiresAt < date
  | alertDelete id, card => card.alertId = id
  | _, _ => false

/-- What a call does to the table. -/
def effect (l : CardCall) (w : CardWorld) : CardWorld :=
  match l with
  | snapshotCreate s => { w with cards := w.cards.create s }
  | snapshotDeleteMany _ _ | snapshotDelete _ | snapshotDeleteExpired _ | alertDelete _ =>
      { w with cards := w.cards.deleteMany l.gone }
  | _ => w

end CardCall

abbrev CardProcess := Process CardWorld CardCall AppError

def CardCall.read {α : Type} (l : CardCall) (g : CardWorld → α) : CardProcess α :=
  Process.query l (.prisma .other) g

def CardCall.write {α : Type} (l : CardCall) (g : CardWorld → α) : CardProcess α :=
  Process.modify l (.prisma .other) l.effect g

structure ReunionSnapshotDto where
  tagId : String
  alertId : ℕ
  petName : String
  petPhotoUrl : Option String
  thankYouMessage : Option String
  resolvedAt : String
  neighboursNotified : Option ℕ
  sightingsReported : ℕ
  expiresAt : String
  deriving DecidableEq

namespace ReunionSnapshotService

open CardCall

def upsertForResolvedAlert (E : AlertEnv) (alertId : ℕ) (pet : Pet)
    (thankYouMessage : Option String) (resolvedAt : Time) : CardProcess ReunionCard := do
  let neighboursNotified ← read (.notificationFindDelivered alertId) fun w =>
    AlertService.countNeighboursNotified alertId w.rest
  let sightingsReported ← read (.sightingCount alertId) fun w =>
    w.rest.sightings.count fun s => s.alert_id = alertId
  let data : ReunionSnapshot :=
    { tagId := pet.tagId, alertId, petName := pet.name
      petPhotoUrl := pet.primaryPhoto <|> pet.photos.head?
      thankYouMessage, resolvedAt
      neighboursNotified := some neighboursNotified
      sightingsReported
      expiresAt := resolvedAt + getReunionTtlDays E * MS_PER_DAY }
  write (.snapshotDeleteMany pet.tagId alertId) fun _ => ()
  Process.atomic (.snapshotCreate data) (.prisma .other) fun w =>
    (if (w.cards.clash data).isNone then .ok ⟨w.cards.next, data⟩ else .error (.prisma .P2002),
      (snapshotCreate data).effect w)

def toDto (toISOString : Time → String) (snapshot : ReunionSnapshot) : ReunionSnapshotDto where
  tagId := snapshot.tagId
  alertId := snapshot.alertId
  petName := snapshot.petName
  petPhotoUrl := snapshot.petPhotoUrl
  thankYouMessage := snapshot.thankYouMessage
  resolvedAt := toISOString snapshot.resolvedAt
  neighboursNotified := snapshot.neighboursNotified
  sightingsReported := snapshot.sightingsReported
  expiresAt := toISOString snapshot.expiresAt

/-- `reunionSnapshot.delete`, whose failure is passed over. -/
def deleteExpired (id : ℕ) : CardProcess Unit :=
  (Process.atomic (.snapshotDelete id) (.prisma .other) fun w =>
    (if (w.cards.find? id).isSome then .ok () else .error (.prisma .P2025),
      (snapshotDelete id).effect w)).tryCatch fun _ => .ret ()

def findPublicByTagId (toISOString : Time → String) (tagId : String) :
    CardProcess (Option ReunionSnapshotDto) := do
  let snapshot ← read (.snapshotFindUnique tagId) fun w => w.cards.findByTagId tagId
  match snapshot with
  | none => return none
  | some card =>
    let now ← read .dateNow CardWorld.now
    if card.expiresAt ≤ now then
      deleteExpired card.id
      return none
    else return some (toDto toISOString card.snapshot)

/-- `AlertController.findReunionByTag`. -/
def findReunionByTag (toISOString : Time → String) (tagId : String) :
    CardProcess ReunionSnapshotDto := do
  let snapshot ← findPublicByTagId toISOString tagId
  match snapshot with
  | none => .raise (.notFound ("No reunion for tag " ++ tagId))
  | some dto => return dto

def purgeExpired : CardProcess ℕ := do
  let date ← read .dateNow CardWorld.now
  write (.snapshotDeleteExpired date) fun w => w.cards.count fun card => card.expiresAt < date

end ReunionSnapshotService

section Forgetting

/-- The same call without the ids. -/
def CardCall.alertCall : CardCall → AlertCall
  | notificationFindDelivered alertId => .notificationFindDelivered alertId
  | sightingCount alertId => .sightingCount alertId
  | snapshotDeleteMany tagId alertId => .snapshotDeleteMany tagId alertId
  | snapshotCreate snapshot => .snapshotCreate snapshot
  | _ => .dateNow

variable {w : CardWorld} {s : ReunionSnapshot}

theorem snapshots_deleteMany (t : ReunionCards) (tagId : String) (alertId : ℕ) :
    (t.deleteMany (CardCall.snapshotDeleteMany tagId alertId).gone).snapshots =
      t.snapshots.deleteMany fun s => s.tagId = tagId || s.alertId = alertId := by
  refine Table.eq_of_rows ?_
  simp only [Table.deleteMany, ReunionCards.snapshots, List.filter_map]
  rfl

theorem clash_isNone (t : ReunionCards) (s : ReunionSnapshot) :
    (t.clash s).isNone = ((t.snapshots.find? s.tagId).isNone &&
      !t.snapshots.rows.any fun r => r.alertId = s.alertId) := by
  rw [Bool.eq_iff_iff, Option.isNone_iff_eq_none, ReunionCards.clash_eq_none_iff]
  simp [Table.find?, ReunionCards.snapshots, ReunionCard.tagId, ReunionCard.alertId, forall_and]

theorem snapshots_create (t : ReunionCards) (s : ReunionSnapshot) :
    (t.create s).snapshots =
      if t.snapshots.rows.any fun r => r.alertId = s.alertId then t.snapshots
      else t.snapshots.insertNew s := by
  have hclash := clash_isNone t s
  unfold ReunionCards.create
  split
  next hfree =>
    rw [hfree, Option.isNone_none, Eq.comm, Bool.and_eq_true, Bool.not_eq_true',
      Option.isNone_iff_eq_none] at hclash
    rw [hclash.2, if_neg Bool.false_ne_true]
    refine Table.eq_of_rows ?_
    rw [Table.insertNew_rows hclash.1]
    exact List.map_append
  next hheld =>
    have hno : (t.clash s).isNone = false := by
      rwa [Bool.eq_false_iff, ne_eq, Option.isNone_iff_eq_none]
    rw [hno] at hclash
    cases hany : t.snapshots.rows.any fun r => decide (r.alertId = s.alertId) with
    | true => rfl
    | false =>
        rw [hany, Bool.not_false, Bool.and_true] at hclash
        obtain ⟨r, hr⟩ : ∃ r, t.snapshots.find? s.tagId = some r := by
          cases hfind : t.snapshots.find? s.tagId with
          | none => simp [hfind] at hclash
          | some r => exact ⟨r, rfl⟩
        rw [if_neg Bool.false_ne_true, Table.insertNew_of_some hr]
        rfl

theorem world_deleteMany (w : CardWorld) (tagId : String) (alertId : ℕ) :
    ((CardCall.snapshotDeleteMany tagId alertId).effect w).world =
      (AlertCall.snapshotDeleteMany tagId alertId).effect w.world :=
  congrArg (fun t => { w.rest with reunionSnapshots := t })
    (snapshots_deleteMany w.cards tagId alertId)

theorem world_create (w : CardWorld) (s : ReunionSnapshot) :
    ((CardCall.snapshotCreate s).effect w).world =
      (AlertCall.snapshotCreate s).effect w.world := by
  refine (congrArg (fun t => { w.rest with reunionSnapshots := t })
    (snapshots_create w.cards s)).trans ?_
  rw [AlertCall.effect]
  change _ = if w.cards.snapshots.rows.any fun r => r.alertId = s.alertId then _ else _
  split <;> rfl

theorem insert_world (fails : AlertCall → Bool) (s : ReunionSnapshot) (w : CardWorld) :
    let out : Except AppError ReunionCard × CardWorld :=
      if fails (.snapshotCreate s) then (.error (.prisma .other), w)
      else (if (w.cards.clash s).isNone then .ok ⟨w.cards.next, s⟩ else .error (.prisma .P2002),
        (CardCall.snapshotCreate s).effect w)
    (out.1.map fun _ => (), out.2.world) =
      if fails (.snapshotCreate s) then (.error (.prisma .other), w.world)
      else (if (w.world.reunionSnapshots.find? s.tagId).isNone &&
          !w.world.reunionSnapshots.rows.any fun r => r.alertId = s.alertId then .ok ()
        else .error (.prisma .P2002), (AlertCall.snapshotCreate s).effect w.world) := by
  split
  · rfl
  · refine Prod.ext ?_ (world_create w s)
    change Except.map _ (if _ then _ else _) =
      if (w.cards.snapshots.find? s.tagId).isNone &&
        !w.cards.snapshots.rows.any fun r => r.alertId = s.alertId then _ else _
    rw [clash_isNone]
    split <;> rfl

/-- A resolved alert writes its snapshot as it does without the ids. -/
theorem runWith_upsertForResolvedAlert (E : AlertEnv) (alertId : ℕ) (pet : Pet)
    (thankYouMessage : Option String) (resolvedAt : Time) (fails : AlertCall → Bool)
    (w : CardWorld) :
    let out := (ReunionSnapshotService.upsertForResolvedAlert E alertId pet thankYouMessage
      resolvedAt).runWith (fun l => fails l.alertCall) w
    (out.1.map fun _ => (), out.2.world) =
      (AlertService.upsertForResolvedAlert E alertId pet thankYouMessage resolvedAt).runWith fails
        w.world := by
  dsimp only
  unfold ReunionSnapshotService.upsertForResolvedAlert AlertService.upsertForResolvedAlert
    CardCall.read CardCall.write AlertCall.read AlertCall.write AlertCall.writeIf
  simp only [Process.runWith_bind, Process.runWith_query, Process.runWith_modify,
    Process.runWith_atomic, CardCall.alertCall]
  by_cases hread : fails (.notificationFindDelivered alertId) = true
  · rw [if_pos hread, if_pos hread]
    rfl
  rw [if_neg hread, if_neg hread]
  dsimp only
  by_cases hcount : fails (.sightingCount alertId) = true
  · rw [if_pos hcount, if_pos hcount]
    rfl
  rw [if_neg hcount, if_neg hcount]
  dsimp only
  by_cases hdelete : fails (.snapshotDeleteMany pet.tagId alertId) = true
  · rw [if_pos hdelete, if_pos hdelete]
    rfl
  rw [if_neg hdelete, if_neg hdelete]
  dsimp only
  rw [← world_deleteMany]
  exact insert_world fails (newSnapshot E alertId pet thankYouMessage resolvedAt w.world)
    ((CardCall.snapshotDeleteMany pet.tagId alertId).effect w)

end Forgetting

end FifiAlert
