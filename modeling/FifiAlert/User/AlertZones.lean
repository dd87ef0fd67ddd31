import FifiAlert.Concurrency.Since
import FifiAlert.User.AlertZoneService
import Mathlib.Data.Rat.Cast.Order

/-!
# The zones of a user

The point of a zone stays with its coordinates in every run. Its radius is checked only where it is
a number. The limit is counted before a zone is inserted, and an update of the position writes back
what it has read; so the limit holds when the zones inserted in between leave room, and the other
columns are left alone if and only if each such update finds them as its call has read them.
-/

namespace FifiAlert

open Concurrency Store Js AlertZoneService

/-- The radius is between its bounds. -/
def RadiusInBounds (radius_meters : ℤ) : Prop :=
  MIN_RADIUS_METERS ≤ radius_meters ∧ radius_meters ≤ MAX_RADIUS_METERS

instance : DecidablePred RadiusInBounds := fun _ => inferInstanceAs (Decidable (_ ∧ _))

/-- The point is that of the coordinates. -/
def AlertZone.AtPoint (zone : AlertZone) : Prop :=
  zone.location_point = ⟨zone.lon, zone.lat⟩

instance : DecidablePred AlertZone.AtPoint :=
  fun zone => inferInstanceAs (Decidable (zone.location_point = ⟨zone.lon, zone.lat⟩))

def World.ZonesAtPoint (w : World) : Prop :=
  ∀ zone ∈ w.alertZones.rows, zone.AtPoint

def World.ZonesInBounds (w : World) : Prop :=
  ∀ zone ∈ w.alertZones.rows, RadiusInBounds zone.radius_meters

def World.ZonesLimited (w : World) : Prop :=
  ∀ userId, w.zoneCount userId ≤ MAX_ZONES_PER_USER

/-- A state to start from: the zones are at their points, in their bounds and within the limit. -/
structure World.ZonesReady (w : World) : Prop where
  fresh : ∀ zone ∈ w.alertZones.rows, zone.id < w.nextAlertZone
  placed : w.ZonesAtPoint
  bounded : w.ZonesInBounds
  limited : w.ZonesLimited

inductive ZoneRequest where
  | create (dto : CreateAlertZoneDto) (userId : ℕ)
  | update (zoneId : ℕ) (dto : UpdateAlertZoneDto) (userId : ℕ)
  | delete (zoneId userId : ℕ)

namespace ZoneRequest

def process (E : AlertZoneEnv) : ZoneRequest → ZoneProcess Unit
  | create dto userId => do
      let _ ← AlertZoneService.create E dto userId
      return ()
  | update zoneId dto userId => do
      let _ ← AlertZoneService.update E zoneId dto userId
      return ()
  | delete zoneId userId => AlertZoneService.delete zoneId userId

/-- The fields of an update. -/
def dto : ZoneRequest → Option UpdateAlertZoneDto
  | update _ dto _ => some dto
  | _ => none

/-- The fields of a creation. -/
def newDto : ZoneRequest → Option CreateAlertZoneDto
  | create dto _ => some dto
  | _ => none

end ZoneRequest

/-- Two rows agree on the columns whose fields are not in the request. -/
structure SameAbsent (dto : UpdateAlertZoneDto) (zone zone' : AlertZone) : Prop where
  name : dto.lookup "name" = none → zone.name = zone'.name
  latitude : dto.lookup "latitude" = none → zone.lat = zone'.lat
  longitude : dto.lookup "longitude" = none → zone.lon = zone'.lon
  radius_meters : dto.lookup "radius_meters" = none → zone.radius_meters = zone'.radius_meters
  priority : dto.lookup "priority" = none → zone.priority = zone'.priority
  is_active : dto.lookup "is_active" = none → zone.is_active = zone'.is_active

/-- An update changes only the columns whose fields are in the request. -/
structure KeepsAbsent (dto : UpdateAlertZoneDto) (before after : AlertZone) : Prop extends
    SameAbsent dto before after where
  id : before.id = after.id
  user_id : before.user_id = after.user_id
  created_at : before.created_at = after.created_at
  point : locationChanged dto = false → before.location_point = after.location_point

section Absent

variable {dto : UpdateAlertZoneDto} {z z' z'' : AlertZone}

instance : Decidable (SameAbsent dto z z') :=
  decidable_of_iff (((dto.lookup "name").isNone → z.name = z'.name) ∧
    ((dto.lookup "latitude").isNone → z.lat = z'.lat) ∧
    ((dto.lookup "longitude").isNone → z.lon = z'.lon) ∧
    ((dto.lookup "radius_meters").isNone → z.radius_meters = z'.radius_meters) ∧
    ((dto.lookup "priority").isNone → z.priority = z'.priority) ∧
    ((dto.lookup "is_active").isNone → z.is_active = z'.is_active))
    (by
      simp only [Option.isNone_iff_eq_none]
      exact ⟨fun h => ⟨h.1, h.2.1, h.2.2.1, h.2.2.2.1, h.2.2.2.2.1, h.2.2.2.2.2⟩, fun h =>
        ⟨h.name, h.latitude, h.longitude, h.radius_meters, h.priority, h.is_active⟩⟩)

theorem SameAbsent.symm (h : SameAbsent dto z z') : SameAbsent dto z' z where
  name := fun hd => (h.name hd).symm
  latitude := fun hd => (h.latitude hd).symm
  longitude := fun hd => (h.longitude hd).symm
  radius_meters := fun hd => (h.radius_meters hd).symm
  priority := fun hd => (h.priority hd).symm
  is_active := fun hd => (h.is_active hd).symm

theorem SameAbsent.trans (h : SameAbsent dto z z') (h' : SameAbsent dto z' z'') :
    SameAbsent dto z z'' where
  name := fun hd => (h.name hd).trans (h'.name hd)
  latitude := fun hd => (h.latitude hd).trans (h'.latitude hd)
  longitude := fun hd => (h.longitude hd).trans (h'.longitude hd)
  radius_meters := fun hd => (h.radius_meters hd).trans (h'.radius_meters hd)
  priority := fun hd => (h.priority hd).trans (h'.priority hd)
  is_active := fun hd => (h.is_active hd).trans (h'.is_active hd)

end Absent

/-- The notable calls: a thread read a zone before it changes it, it selected one, it counted those
of a user, it inserted one for a user, or it updated one. -/
inductive ZoneMark (ι : Type*) where
  | existing (thread : ι) (row : AlertZone)
  | located (thread : ι) (row : AlertZone)
  | counted (thread : ι) (userId found : ℕ)
  | inserted (thread : ι) (userId : ℕ)
  | updated (thread : ι) (before after : AlertZone)
  deriving DecidableEq

abbrev ZoneSnapshot (ι : Type*) := Snapshot World (ZoneMark ι)

/-- The mark of an update that the database did not refuse. -/
def updateMark {ι : Type*} (i : ι) (zoneId : ℕ) (data : AlertZoneData) (w : World) :
    Option (ZoneMark ι) :=
  (w.alertZones.find? zoneId).bind fun before => (data.apply w.now before).map (.updated i before)

def zoneMark {ι : Type*} (i : ι) (l : ZoneCall) (w : World) : Option (ZoneMark ι) :=
  match l with
  | .zoneFindExisting zoneId => (w.alertZones.find? zoneId).map (.existing i)
  | .zoneSelect zoneId => (w.alertZones.find? zoneId).map (.located i)
  | .zoneCount userId => some (.counted i userId (w.zoneCount userId))
  | .zoneInsert zone =>
      if (w.users.find? zone.user_id).isSome then some (.inserted i zone.user_id) else none
  | .zoneMove zoneId data | .zoneUpdate zoneId data => updateMark i zoneId data w
  | _ => none

/-- Others may delete zones, with their users. -/
def LosesZones (w w' : World) : Prop :=
  (∀ zone ∈ w'.alertZones.rows, zone ∈ w.alertZones.rows) ∧ w.nextAlertZone ≤ w'.nextAlertZone

def zoneSetting {ι : Type*} (fails : ZoneCall → Prop) : Setting ι World ZoneCall (ZoneMark ι) where
  mark := zoneMark
  env := LosesZones
  mayFail := fails
  admits := fun _ _ _ => True

/-- A radius that is a number or `null`, or that is not given: the check compares it. -/
def isComparable : Option Json → Bool
  | none | some .null | some (.num _) => true
  | some _ => false

/-- The radius of a new zone was compared, or is read as one within the bounds. -/
def NewRadiusFits (E : AlertZoneEnv) (dto : CreateAlertZoneDto) : Prop :=
  isComparable (dto.lookup "radius_meters") = true ∨
    ∀ v ∈ dto.lookup "radius_meters", ∀ n ∈ E.integer v, RadiusInBounds n

/-- The new radius of a zone was compared, or what the request gives in its place, which may be an
operation, leads from the stored one to one within the bounds. -/
def RadiusFits (E : AlertZoneEnv) (dto : UpdateAlertZoneDto) (stored : ℤ) : Prop :=
  isComparable (dto.lookup "radius_meters") = true ∨
    ∀ v ∈ dto.lookup "radius_meters",
      if locationChanged dto then ∀ n ∈ E.integer v, RadiusInBounds n
      else ∀ change ∈ intChange Json.int32? v, ∀ n ∈ change.apply stored, RadiusInBounds n

instance (E : AlertZoneEnv) (dto : CreateAlertZoneDto) : Decidable (NewRadiusFits E dto) :=
  inferInstanceAs (Decidable (_ ∨ _))

instance (E : AlertZoneEnv) (dto : UpdateAlertZoneDto) (stored : ℤ) :
    Decidable (RadiusFits E dto stored) :=
  inferInstanceAs (Decidable (_ ∨ _))

section Marks

variable {ι : Type*}

namespace ZoneMark

/-- The radius of a zone that was inserted or updated fits. -/
def Fits (E : AlertZoneEnv) (req : ι → ZoneRequest) : ZoneMark ι → Prop
  | inserted i _ => ∀ dto ∈ (req i).newDto, NewRadiusFits E dto
  | updated i before _ => ∀ dto ∈ (req i).dto, RadiusFits E dto before.radius_meters
  | _ => True

instance (E : AlertZoneEnv) (req : ι → ZoneRequest) : DecidablePred (Fits E req)
  | inserted _ _ | updated _ _ _ => inferInstanceAs (Decidable (∀ _ ∈ _, _))
  | existing _ _ | located _ _ | counted _ _ _ => inferInstanceAs (Decidable True)

/-- An update in the history changed only what it was given. -/
def Keeps (req : ι → ZoneRequest) : ZoneMark ι → Prop
  | updated i before after => ∀ dto ∈ (req i).dto, KeepsAbsent dto before after
  | _ => True

def thread : ZoneMark ι → ι
  | existing i _ | located i _ | counted i _ _ | inserted i _ | updated i _ _ => i

/-- A zone of the user was inserted. -/
def insertsFor (userId : ℕ) : ZoneMark ι → Bool
  | inserted _ userId' => userId' = userId
  | _ => false

variable [DecidableEq ι]

def existingFor (i : ι) : ZoneMark ι → Option AlertZone
  | existing j row => if j = i then some row else none
  | _ => none

def locatedFor (i : ι) : ZoneMark ι → Option AlertZone
  | located j row => if j = i then some row else none
  | _ => none

def countedFor (i : ι) (userId : ℕ) : ZoneMark ι → Option ℕ
  | counted j userId' found => if j = i ∧ userId' = userId then some found else none
  | _ => none

end ZoneMark

/-- A zone with the coordinates of another row. -/
def AlertZone.locatedAs (row located : AlertZone) : AlertZone :=
  { row with lat := located.location_point.lat, lon := located.location_point.lon }

variable [DecidableEq ι]

/-- What a thread has read of the zone that it changes: the row, and later its point. -/
def zoneSeen (i : ι) (marks : List (ZoneMark ι)) : Option AlertZone :=
  (marks.findSome? (ZoneMark.existingFor i)).bind fun row =>
    (marks.findSome? (ZoneMark.locatedFor i)).map row.locatedAs

/-- Each update of a position finds the columns that it writes back as its thread has read them. -/
def ZonesFoundAsRead (req : ι → ZoneRequest) : List (ZoneMark ι) → Prop
  | [] => True
  | .updated i before _ :: marks =>
      (∀ dto ∈ (req i).dto, locationChanged dto = true →
        ∀ seen ∈ zoneSeen i marks, SameAbsent dto seen before) ∧ ZonesFoundAsRead req marks
  | _ :: marks => ZonesFoundAsRead req marks

instance instDecidableZonesFoundAsRead (req : ι → ZoneRequest) :
    ∀ marks, Decidable (ZonesFoundAsRead req marks)
  | [] => inferInstanceAs (Decidable True)
  | .existing _ _ :: marks | .located _ _ :: marks | .counted _ _ _ :: marks
  | .inserted _ _ :: marks => instDecidableZonesFoundAsRead req marks
  | .updated _ _ _ :: marks =>
      have := instDecidableZonesFoundAsRead req marks
      inferInstanceAs (Decidable (_ ∧ _))

/-- How many zones of a user were inserted since a thread has counted them. -/
def insertedSince (i : ι) (userId : ℕ) (marks : List (ZoneMark ι)) : ℕ :=
  (marks.takeWhile fun m => (m.countedFor i userId).isNone).countP (ZoneMark.insertsFor userId)

/-- Between the count of a thread and its insertion no zone of the user is inserted, or those that
are leave room for one more. -/
def InsertionsHaveRoom : List (ZoneMark ι) → Prop
  | [] => True
  | .inserted i userId :: marks =>
      (∀ found ∈ marks.findSome? (ZoneMark.countedFor i userId),
        insertedSince i userId marks = 0 ∨
          found + insertedSince i userId marks < MAX_ZONES_PER_USER) ∧ InsertionsHaveRoom marks
  | _ :: marks => InsertionsHaveRoom marks

instance instDecidableInsertionsHaveRoom :
    ∀ marks : List (ZoneMark ι), Decidable (InsertionsHaveRoom marks)
  | [] => inferInstanceAs (Decidable True)
  | .existing _ _ :: marks | .located _ _ :: marks | .counted _ _ _ :: marks
  | .updated _ _ _ :: marks => instDecidableInsertionsHaveRoom marks
  | .inserted _ _ :: marks =>
      have := instDecidableInsertionsHaveRoom marks
      inferInstanceAs (Decidable (_ ∧ _))

end Marks

section Effect

variable {w : World} {zoneId : ℕ} {data : AlertZoneData}

/-- What an update leaves of a row, and the point that it sets with the coordinates. -/
theorem AlertZone.AtPoint.apply {before after : AlertZone} {now : Time} (h : before.AtPoint)
    (hafter : data.apply now before = some after) : after.AtPoint := by
  obtain ⟨radius_meters, priority, -, -, rfl⟩ := AlertZoneData.apply_eq_some.1 hafter
  unfold AlertZone.AtPoint
  cases data.point with
  | none => exact h
  | some point => rfl

theorem AlertZoneData.apply_frame {before after : AlertZone} {now : Time}
    (h : data.apply now before = some after) :
    before.id = after.id ∧ before.user_id = after.user_id ∧
      before.created_at = after.created_at := by
  obtain ⟨radius_meters, priority, -, -, rfl⟩ := apply_eq_some.1 h
  exact ⟨rfl, rfl, rfl⟩

/-- The rows after a statement that writes columns of a zone. -/
theorem mem_rewritten {zone : AlertZone}
    (h : zone ∈ ((ZoneCall.zoneMove zoneId data).effect w).alertZones.rows) :
    zone ∈ w.alertZones.rows ∨ ∃ before, w.alertZones.find? zoneId = some before ∧
      data.apply w.now before = some zone := by
  obtain ⟨before, hbefore, rfl⟩ := List.mem_map.1 h
  split
  next hid =>
    rw [AlertZoneData.rewrite]
    cases hafter : data.apply w.now before with
    | none => exact .inl hbefore
    | some after =>
        exact .inr ⟨before, Table.find?_eq_some_iff.2 ⟨hbefore, of_decide_eq_true hid⟩, hafter⟩
  next => exact .inl hbefore

theorem zoneCount_rewritten (userId : ℕ) :
    ((ZoneCall.zoneMove zoneId data).effect w).zoneCount userId ≤ w.zoneCount userId := by
  refine Table.count_le_count fun zone hzone huser => ?_
  rcases mem_rewritten hzone with hold | ⟨before, hbefore, hafter⟩
  · exact ⟨zone, hold, rfl, huser⟩
  · obtain ⟨hid, hsame, -⟩ := AlertZoneData.apply_frame hafter
    exact ⟨before, Table.mem_of_find? hbefore, hid, by rw [hsame]; exact huser⟩

end Effect

section Counts

variable {ι : Type*} [DecidableEq ι] {w w' : World} {m : ZoneMark ι} {marks : List (ZoneMark ι)}

/-- A user has no more zones than a thread has counted and were inserted since. -/
def CountsBehind (w : World) (marks : List (ZoneMark ι)) : Prop :=
  ∀ i userId, ∀ found ∈ marks.findSome? (ZoneMark.countedFor i userId),
    w.zoneCount userId ≤ found + insertedSince i userId marks

theorem insertedSince_cons {i : ι} {userId : ℕ} (h : m.countedFor i userId = none) :
    insertedSince i userId (m :: marks) =
      insertedSince i userId marks + if m.insertsFor userId then 1 else 0 := by
  unfold insertedSince
  rw [List.takeWhile_cons, h, Option.isNone_none, if_pos rfl, List.countP_cons]

theorem CountsBehind.mono (h : CountsBehind w marks)
    (hw : ∀ userId, w'.zoneCount userId ≤ w.zoneCount userId) : CountsBehind w' marks :=
  fun i userId found hfound => (hw userId).trans (h i userId found hfound)

/-- A call that counts nothing adds at most the zone that its mark says. -/
theorem CountsBehind.cons (h : CountsBehind w marks)
    (hm : ∀ i userId, m.countedFor i userId = none)
    (hw : ∀ userId, w'.zoneCount userId ≤
      w.zoneCount userId + if m.insertsFor userId then 1 else 0) :
    CountsBehind w' (m :: marks) := by
  intro i userId found hfound
  rw [Option.mem_def, List.findSome?_cons, hm] at hfound
  rw [insertedSince_cons (hm i userId), ← Nat.add_assoc]
  exact (hw userId).trans (Nat.add_le_add_right (h i userId found hfound) _)

/-- What a thread counts is how many there are. -/
theorem CountsBehind.counted (h : CountsBehind w marks) (j : ι) (userId' : ℕ) :
    CountsBehind w (.counted j userId' (w.zoneCount userId') :: marks) := by
  intro i userId found hfound
  by_cases heq : j = i ∧ userId' = userId
  · obtain ⟨rfl, rfl⟩ := heq
    rw [Option.mem_def, List.findSome?_cons, ZoneMark.countedFor, if_pos ⟨rfl, rfl⟩] at hfound
    obtain rfl := Option.some.inj hfound
    exact Nat.le_add_right _ _
  · have hnone : (ZoneMark.counted j userId' (w.zoneCount userId')).countedFor i userId = none :=
      if_neg heq
    rw [Option.mem_def, List.findSome?_cons, hnone] at hfound
    rw [insertedSince_cons hnone]
    exact h i userId found hfound

end Counts

section Protocol

variable {ι : Type*} [DecidableEq ι]

/-- The statement of an update leaves the radius within the bounds, if the radius fits now and did
before; and it keeps what it was not given, if and only if it finds what was read. -/
structure UpdatesZone (E : AlertZoneEnv) (req : ι → ZoneRequest) (i : ι) (data : AlertZoneData)
    (s : ZoneSnapshot ι) : Prop where
  bounded : (∀ m ∈ s.marks, m.Fits E req) → ∀ now before after,
    data.apply now before = some after →
    (∀ dto ∈ (req i).dto, RadiusFits E dto before.radius_meters) →
    RadiusInBounds before.radius_meters → RadiusInBounds after.radius_meters
  kept : ∀ now before after, data.apply now before = some after →
    ((∀ dto ∈ (req i).dto, KeepsAbsent dto before after) ↔
      ∀ dto ∈ (req i).dto, locationChanged dto = true →
        ∀ seen ∈ zoneSeen i s.marks, SameAbsent dto seen before)

/-- A new zone is at its point, its radius is within the bounds if it fits, and its thread has
counted fewer zones than the limit. -/
structure InsertsZone (E : AlertZoneEnv) (req : ι → ZoneRequest) (i : ι) (zone : AlertZone)
    (s : ZoneSnapshot ι) : Prop where
  placed : zone.AtPoint
  bounded : (∀ dto ∈ (req i).newDto, NewRadiusFits E dto) → RadiusInBounds zone.radius_meters
  counted : ∃ found ∈ s.marks.findSome? (ZoneMark.countedFor i zone.user_id),
    found < MAX_ZONES_PER_USER

def WritesZone (E : AlertZoneEnv) (req : ι → ZoneRequest) (i : ι) (l : ZoneCall)
    (s : ZoneSnapshot ι) : Prop :=
  match l with
  | .zoneInsert zone => InsertsZone E req i zone s
  | .zoneMove _ data | .zoneUpdate _ data => UpdatesZone E req i data s
  | _ => True

/-- The zones are at their points, and in their bounds if all radii fit. The limit holds if the
insertions have room, and updates change only what they were given if and only if the columns were
found as they had been read. -/
structure ZoneInv (E : AlertZoneEnv) (req : ι → ZoneRequest) (s : ZoneSnapshot ι) : Prop where
  fresh : ∀ zone ∈ s.state.alertZones.rows, zone.id < s.state.nextAlertZone
  placed : s.state.ZonesAtPoint
  bounded : (∀ m ∈ s.marks, m.Fits E req) → s.state.ZonesInBounds
  counts : CountsBehind s.state s.marks
  limited : InsertionsHaveRoom s.marks → s.state.ZonesLimited
  kept : (∀ m ∈ s.marks, m.Keeps req) ↔ ZonesFoundAsRead req s.marks

variable {E : AlertZoneEnv} {req : ι → ZoneRequest} {i : ι} {s : ZoneSnapshot ι}

theorem LosesZones.zoneCount_le {w w' : World} (h : LosesZones w w') (userId : ℕ) :
    w'.zoneCount userId ≤ w.zoneCount userId :=
  Table.count_le_count fun zone hzone huser => ⟨zone, h.1 zone hzone, rfl, huser⟩

theorem ZoneInv.of_loses {w : World} (h : ZoneInv E req s) (hw : LosesZones s.state w) :
    ZoneInv E req ⟨w, s.marks⟩ where
  fresh := fun zone hzone => (h.fresh zone (hw.1 zone hzone)).trans_le hw.2
  placed := fun zone hzone => h.placed zone (hw.1 zone hzone)
  bounded := fun hfit zone hzone => h.bounded hfit zone (hw.1 zone hzone)
  counts := h.counts.mono hw.zoneCount_le
  limited := fun hroom userId => (hw.zoneCount_le userId).trans (h.limited hroom userId)
  kept := h.kept

/-- A thread reads a zone. -/
theorem ZoneInv.read {m : ZoneMark ι} (h : ZoneInv E req s)
    (hm : ∃ row, m = .existing i row ∨ m = .located i row) :
    ZoneInv E req ⟨s.state, m :: s.marks⟩ := by
  have hcounts : CountsBehind s.state (m :: s.marks) := by
    refine h.counts.cons (fun j userId => ?_) fun userId => Nat.le_add_right _ _
    obtain ⟨row, rfl | rfl⟩ := hm <;> rfl
  obtain ⟨row, rfl | rfl⟩ := hm
  all_goals
    exact ⟨h.fresh, h.placed, fun hfit => h.bounded (List.forall_mem_cons.1 hfit).2, hcounts,
      h.limited, List.forall_mem_cons.trans ((and_iff_right trivial).trans h.kept)⟩

/-- A thread counts the zones of a user. -/
theorem ZoneInv.count (h : ZoneInv E req s) (userId : ℕ) :
    ZoneInv E req ⟨s.state, .counted i userId (s.state.zoneCount userId) :: s.marks⟩ :=
  ⟨h.fresh, h.placed, fun hfit => h.bounded (List.forall_mem_cons.1 hfit).2,
    h.counts.counted i userId, h.limited,
    List.forall_mem_cons.trans ((and_iff_right trivial).trans h.kept)⟩

theorem ZoneInv.insert {zone : AlertZone} (h : ZoneInv E req s)
    (hzone : InsertsZone E req i zone s) :
    ZoneInv E req ⟨(ZoneCall.zoneInsert zone).effect s.state,
      (zoneMark i (.zoneInsert zone) s.state).toList ++ s.marks⟩ := by
  cases huser : (s.state.users.find? zone.user_id).isSome with
  | false =>
      have hmark : zoneMark i (.zoneInsert zone) s.state = none := by simp [zoneMark, huser]
      rw [hmark]
      refine h.of_loses ⟨fun zone' hzone' => ?_, Nat.le_succ _⟩
      simpa [ZoneCall.effect, ZoneCall.onZones, huser] using hzone'
  | true =>
      have hmark : zoneMark i (.zoneInsert zone) s.state = some (.inserted i zone.user_id) := by
        simp [zoneMark, huser]
      let row : AlertZone := { zone with
        id := s.state.nextAlertZone, created_at := s.state.now, updated_at := s.state.now }
      have hzones : ((ZoneCall.zoneInsert zone).effect s.state).alertZones =
          s.state.alertZones.insertNew row := by
        simp [ZoneCall.effect, ZoneCall.onZones, huser, row]
      have hmem : ∀ zone' ∈ ((ZoneCall.zoneInsert zone).effect s.state).alertZones.rows,
          zone' ∈ s.state.alertZones.rows ∨ zone' = row := by
        rw [hzones]
        exact fun _ => Table.mem_of_mem_insertNew
      have hcount : ∀ userId, ((ZoneCall.zoneInsert zone).effect s.state).zoneCount userId ≤
          s.state.zoneCount userId +
            if (ZoneMark.inserted i zone.user_id).insertsFor userId then 1 else 0 := by
        intro userId
        unfold World.zoneCount
        rw [hzones]
        exact Table.count_insertNew_le s.state.alertZones row
          fun zone' => decide (zone'.user_id = userId)
      rw [hmark]
      refine ⟨fun zone' hzone' => ?_, fun zone' hzone' => ?_, fun hfit zone' hzone' => ?_,
        h.counts.cons (fun _ _ => rfl) hcount, fun hroom userId => (hcount userId).trans ?_,
        List.forall_mem_cons.trans ((and_iff_right trivial).trans h.kept)⟩
      · rcases hmem zone' hzone' with hold | rfl
        · exact (h.fresh zone' hold).trans (Nat.lt_succ_self _)
        · exact Nat.lt_succ_self s.state.nextAlertZone
      · rcases hmem zone' hzone' with hold | rfl
        · exact h.placed zone' hold
        · exact hzone.placed
      · obtain ⟨hnew, hpast⟩ := List.forall_mem_cons.1 hfit
        rcases hmem zone' hzone' with hold | rfl
        · exact h.bounded hpast zone' hold
        · exact hzone.bounded hnew
      · obtain ⟨hbetween, hroom⟩ := hroom
        have hlimited := h.limited hroom userId
        by_cases hid : zone.user_id = userId
        · subst hid
          obtain ⟨found, hfound, hlt⟩ := hzone.counted
          have hbehind := h.counts i zone.user_id found hfound
          have hleft : found + insertedSince i zone.user_id s.marks < MAX_ZONES_PER_USER :=
            (hbetween found hfound).elim
              (fun h₀ : insertedSince i zone.user_id s.marks = 0 => by rwa [h₀, Nat.add_zero]) id
          split <;> omega
        · rw [ZoneMark.insertsFor, if_neg (by simpa using hid)]
          exact hlimited

/-- An update that writes back what was read changes only what it was given, if and only if it
finds what was read. -/
theorem keepsAbsent_iff {dto : UpdateAlertZoneDto} {seen before after : AlertZone}
    (hchanged : locationChanged dto = true)
    (hframe : before.id = after.id ∧ before.user_id = after.user_id ∧
      before.created_at = after.created_at)
    (hback : SameAbsent dto seen after) :
    KeepsAbsent dto before after ↔ SameAbsent dto seen before := by
  constructor
  · exact fun hkeeps => hback.trans hkeeps.toSameAbsent.symm
  · exact fun hfound =>
      { hfound.symm.trans hback with
        id := hframe.1, user_id := hframe.2.1, created_at := hframe.2.2
        point := fun hno => absurd (hchanged.symm.trans hno) (by decide) }

theorem ZoneInv.write {zoneId : ℕ} {data : AlertZoneData} (h : ZoneInv E req s)
    (hper : UpdatesZone E req i data s) :
    ZoneInv E req ⟨(ZoneCall.zoneMove zoneId data).effect s.state,
      (updateMark i zoneId data s.state).toList ++ s.marks⟩ := by
  cases hmark : updateMark i zoneId data s.state with
  | none =>
      refine h.of_loses ⟨fun zone hzone => ?_, le_rfl⟩
      rcases mem_rewritten hzone with hold | ⟨before, hbefore, hafter⟩
      · exact hold
      · rw [updateMark, hbefore, Option.bind_some, hafter] at hmark
        cases hmark
  | some m =>
      obtain ⟨before, hbefore, hm⟩ := Option.bind_eq_some_iff.1 hmark
      obtain ⟨after, hafter, rfl⟩ := Option.map_eq_some_iff.1 hm
      have hmem := Table.mem_of_find? hbefore
      have hrows : ∀ zone ∈ ((ZoneCall.zoneMove zoneId data).effect s.state).alertZones.rows,
          zone ∈ s.state.alertZones.rows ∨ zone = after := by
        intro zone hzone
        refine (mem_rewritten hzone).imp_right ?_
        rintro ⟨before', hbefore', hafter'⟩
        obtain rfl := Option.some.inj (hbefore.symm.trans hbefore')
        exact (Option.some.inj (hafter.symm.trans hafter')).symm
      refine ⟨fun zone hzone => ?_, fun zone hzone => ?_, fun hfit zone hzone => ?_,
        h.counts.cons (fun _ _ => rfl) zoneCount_rewritten,
        fun hroom userId => (zoneCount_rewritten userId).trans (h.limited hroom userId),
        List.forall_mem_cons.trans (and_congr (hper.kept _ before after hafter) h.kept)⟩
      · rcases hrows zone hzone with hold | rfl
        · exact h.fresh zone hold
        · rw [← (AlertZoneData.apply_frame hafter).1]
          exact h.fresh before hmem
      · rcases hrows zone hzone with hold | rfl
        · exact h.placed zone hold
        · exact (h.placed before hmem).apply hafter
      · obtain ⟨hnew, hpast⟩ := List.forall_mem_cons.1 hfit
        rcases hrows zone hzone with hold | rfl
        · exact h.bounded hpast zone hold
        · exact hper.bounded hpast _ before zone hafter hnew (h.bounded hpast before hmem)

theorem ZoneInv.call {l : ZoneCall} (h : ZoneInv E req s) (hper : WritesZone E req i l s) :
    ZoneInv E req (s.after zoneMark i l l.effect) := by
  have hsame : ∀ w : World, LosesZones w { w with alertZones := w.alertZones } :=
    fun w => ⟨fun _ hzone => hzone, le_rfl⟩
  cases l with
  | userFindUnique userId | zoneFindUnique zoneId | cacheDel => exact h.of_loses (hsame s.state)
  | zoneCount userId => exact (h.count userId).of_loses (hsame s.state)
  | zoneFindExisting zoneId | zoneSelect zoneId =>
      have hread : ∀ (f : AlertZone → ZoneMark ι) (row : Option AlertZone),
          (∀ row, f row = .existing i row ∨ f row = .located i row) →
            ZoneInv E req ⟨s.state, (row.map f).toList ++ s.marks⟩ := by
        intro f row hf
        cases row with
        | none => exact h
        | some row => exact h.read ⟨row, hf row⟩
      first
        | exact (hread _ _ fun _ => .inl rfl).of_loses (hsame s.state)
        | exact (hread _ _ fun _ => .inr rfl).of_loses (hsame s.state)
  | zoneInsert zone => exact h.insert hper
  | zoneMove zoneId data | zoneUpdate zoneId data => exact h.write hper
  | zoneDelete zoneId =>
      exact h.of_loses ⟨fun zone hzone => (List.mem_filter.1 hzone).1, le_rfl⟩

/-- The protocol of the zones. -/
def zoneProtocol (E : AlertZoneEnv) (req : ι → ZoneRequest) (fails : ZoneCall → Prop) :
    Protocol (zoneSetting (ι := ι) fails) where
  effect := ZoneCall.effect
  permits := WritesZone E req
  inv := ZoneInv E req
  inv_call := fun hinv hper _ => hinv.call hper
  inv_env := fun henv hinv => hinv.of_loses henv

end Protocol

section Columns

variable {E : AlertZoneEnv} {dto : UpdateAlertZoneDto} {data : AlertZoneData}

theorem eq_some_of_nonNull {x : Option Json} {v : Json} (h : nonNull x = some v) : x = some v := by
  cases x with
  | none => cases h
  | some v' =>
      cases v' with
      | null => cases h
      | _ => exact h

/-- A parameter, or what was read. -/
theorem given_or_read {α : Type} {read : Json → Option α} {x : Option Json} {a b : α}
    (h : (nonNull x).elim (some a) read = some b) : b = a ∨ ∃ v ∈ x, read v = some b := by
  cases hx : nonNull x with
  | none =>
      rw [hx] at h
      exact .inl (Option.some.inj h).symm
  | some v =>
      rw [hx] at h
      exact .inr ⟨v, eq_some_of_nonNull hx, h⟩

/-- A column keeps what was read when its field is not given. -/
theorem read_of_absent {α : Type} {read : Json → Option α} {x : Option Json} {a b : α}
    (h : (nonNull x).elim (some a) read = some b) (hx : x = none) : a = b := by
  subst hx
  exact Option.some.inj h

theorem eq_of_int4 {n m : ℤ} (h : int4 n = some m) : m = n := by
  unfold int4 at h
  split at h
  · exact (Option.some.inj h).symm
  · cases h

theorem cast_of_int32? {r : ℚ} {n : ℤ} (h : Json.int32? (.num r) = some n) : (n : ℚ) = r := by
  unfold Json.int32? at h
  dsimp only at h
  split at h
  next hr =>
    obtain rfl := Option.some.inj h
    exact Rat.coe_int_num_of_den_eq_one hr.1
  next => cases h

/-- A radius that was compared is a number between the bounds, if it is given. -/
theorem number_of_valid {radius_meters : Option Json} (hvalid : radiusIsValid radius_meters = true)
    (hnumber : isComparable radius_meters = true) {v : Json} (hv : v ∈ radius_meters) :
    ∃ r : ℚ, v = .num r ∧ (MIN_RADIUS_METERS : ℚ) ≤ r ∧ r ≤ MAX_RADIUS_METERS := by
  obtain rfl := hv
  cases v with
  | num r =>
      simp only [radiusIsValid, Json.isBelow, Json.isAbove, Json.toNumber, Option.bind_some,
        Option.any_some, Bool.not_or, Bool.and_eq_true, Bool.not_eq_true', decide_eq_false_iff_not,
        not_lt] at hvalid
      exact ⟨r, rfl, hvalid⟩
  | null => exact absurd hvalid (by decide +kernel)
  | _ => cases hnumber

/-- What the raw statement stores for a radius that was checked. -/
theorem inBounds_of_read (hE : E.RoundsBetween) {x : Option Json} (hvalid : radiusIsValid x = true)
    (hfit : isComparable x = true ∨ ∀ v ∈ x, ∀ n ∈ E.integer v, RadiusInBounds n) {v : Json}
    (hv : v ∈ x) {n : ℤ} (hn : E.integer v = some n) : RadiusInBounds n := by
  rcases hfit with hnumber | hfit
  · obtain ⟨r, rfl, hmin, hmax⟩ := number_of_valid hvalid hnumber hv
    exact hE r n hn _ _ hmin hmax
  · exact hfit v hv n hn

/-- What an operation of the client makes of a radius that was checked. -/
theorem inBounds_of_change {x : Option Json} {stored : ℤ} (hvalid : radiusIsValid x = true)
    (hfit : isComparable x = true ∨ ∀ v ∈ x, ∀ change ∈ intChange Json.int32? v,
      ∀ n ∈ change.apply stored, RadiusInBounds n) {v : Json} (hv : v ∈ x) {change : IntChange}
    (hchange : intChange Json.int32? v = some change) {n : ℤ} (hn : change.apply stored = some n) :
    RadiusInBounds n := by
  rcases hfit with hnumber | hfit
  · obtain ⟨r, rfl, hmin, hmax⟩ := number_of_valid hvalid hnumber hv
    obtain ⟨m, hm, rfl⟩ := Option.map_eq_some_iff.1 hchange
    rw [← cast_of_int32? hm] at hmin hmax
    rw [eq_of_int4 hn]
    exact ⟨Int.cast_le.1 hmin, Int.cast_le.1 hmax⟩
  · exact hfit v hv change hchange n hn

/-- The row that is inserted was checked. -/
theorem newZone_checked (hE : E.RoundsBetween) {dto : CreateAlertZoneDto} {userId : ℕ}
    {zone : AlertZone} (hvalid : radiusIsValid (dto.lookup "radius_meters") = true)
    (h : newZone E dto userId = some zone) :
    zone.AtPoint ∧ zone.user_id = userId ∧
      (NewRadiusFits E dto → RadiusInBounds zone.radius_meters) := by
  simp only [newZone, bind, Option.bind_eq_some_iff] at h
  obtain ⟨name, -, lat, -, lon, -, radius_meters, ⟨v, hv, hradius⟩, priority, -,
    is_active, -, h⟩ := h
  obtain rfl := Option.some.inj h
  exact ⟨rfl, rfl, fun hfit => inBounds_of_read hE hvalid hfit (eq_some_of_nonNull hv) hradius⟩

/-- What the update of a position leaves: its fields, and what was read. -/
theorem moveData_writesBack {existing located before after : AlertZone} {now : Time}
    (h : moveData E existing (mapToResponseDto located) dto = some data)
    (hafter : data.apply now before = some after) :
    SameAbsent dto (existing.locatedAs located) after ∧
      (after.radius_meters = existing.radius_meters ∨
        ∃ v ∈ dto.lookup "radius_meters", E.integer v = some after.radius_meters) := by
  simp only [moveData, bind, Option.bind_eq_some_iff] at h
  obtain ⟨lat, hlat, lon, hlon, name, hname, radius_meters, hradius, priority, hpriority, is_active,
    hactive, h⟩ := h
  obtain rfl := Option.some.inj h
  obtain ⟨radius_meters', priority', hradius', hpriority', rfl⟩ :=
    AlertZoneData.apply_eq_some.1 hafter
  obtain rfl := eq_of_int4 hradius'
  obtain rfl := eq_of_int4 hpriority'
  exact ⟨⟨read_of_absent hname, read_of_absent hlat, read_of_absent hlon, read_of_absent hradius,
    read_of_absent hpriority, read_of_absent hactive⟩, given_or_read hradius⟩

/-- A column that an update does not name stays as it is. -/
theorem changed_of_column {meaning : Json → Option IntChange} {key : String}
    {change : Option IntChange} {stored n : ℤ} (hcolumn : column meaning dto key = some change)
    (hn : changed change stored = some n) :
    dto.lookup key = none ∧ n = stored ∨
      ∃ v ∈ dto.lookup key, ∃ c, meaning v = some c ∧ c.apply stored = some n := by
  rcases column_eq_some.1 hcolumn with ⟨habsent, rfl⟩ | ⟨v, c, hv, hc, rfl⟩
  · exact .inl ⟨habsent, (Option.some.inj hn).symm⟩
  · exact .inr ⟨v, hv, c, hc, hn⟩

theorem getD_of_column {α : Type} {meaning : Json → Option α} {key : String} {value : Option α}
    (hcolumn : column meaning dto key = some value) (stored : α) (habsent : dto.lookup key = none) :
    stored = value.getD stored := by
  rcases column_eq_some.1 hcolumn with ⟨-, rfl⟩ | ⟨v, a, hv, -, -⟩
  · rfl
  · rw [habsent] at hv
    cases hv

/-- What an update without a coordinate leaves. -/
theorem updateData_keeps {before after : AlertZone} {now : Time} (h : updateData dto = some data)
    (hafter : data.apply now before = some after) :
    KeepsAbsent dto before after ∧
      (after.radius_meters = before.radius_meters ∨
        ∃ v ∈ dto.lookup "radius_meters", ∃ change, intChange Json.int32? v = some change ∧
          change.apply before.radius_meters = some after.radius_meters) := by
  simp only [updateData, bind, Option.bind_eq_some_iff] at h
  obtain ⟨name, hname, radius_meters, hradius, priority, hpriority, is_active, hactive, h⟩ := h
  obtain rfl := Option.some.inj h
  obtain ⟨radius_meters', priority', hradius', hpriority', rfl⟩ :=
    AlertZoneData.apply_eq_some.1 hafter
  have hkept : ∀ {key : String} {stored n : ℤ},
      (dto.lookup key = none ∧ n = stored ∨ ∃ v ∈ dto.lookup key, ∃ c,
        intChange Json.int32? v = some c ∧ c.apply stored = some n) →
        dto.lookup key = none → stored = n := by
    rintro key stored n (⟨-, rfl⟩ | ⟨v, hv, -⟩) habsent
    · rfl
    · rw [habsent] at hv
      cases hv
  have hr := changed_of_column hradius hradius'
  exact ⟨⟨⟨getD_of_column hname _, fun _ => rfl, fun _ => rfl, hkept hr,
    hkept (changed_of_column hpriority hpriority'), getD_of_column hactive _⟩,
    rfl, rfl, rfl, fun _ => rfl⟩, hr.imp_left And.right⟩

end Columns

section Threads

variable {ι : Type*} [DecidableEq ι] {E : AlertZoneEnv} {req : ι → ZoneRequest}
  {fails : ZoneCall → Prop} {i : ι} {s : ZoneSnapshot ι} {zoneId userId : ℕ}

/-- The process makes calls that are permitted anywhere, and leaves no mark of the kind. -/
abbrev ZonesQuiet {α : Type} (E : AlertZoneEnv) (req : ι → ZoneRequest) (i : ι)
    (asks : ZoneMark ι → Bool) (p : ZoneProcess α) : Prop :=
  p.Confined (fun l next => next = l.effect ∧ (∀ s, WritesZone E req i l s) ∧
    ∀ w m, zoneMark i l w = some m → asks m = false) fun _ => True

theorem findOne_zonesQuiet {asks : ZoneMark ι → Bool}
    (hasks : ∀ row, asks (.located i row) = false) :
    ZonesQuiet E req i asks (findOne zoneId userId) := by
  unfold findOne
  refine Process.Confined.bind (Process.confined_query
    ⟨by rfl, fun _ => trivial, fun _ _ hm => by cases hm⟩ trivial) fun zone => ?_
  cases zone with
  | none => trivial
  | some zone =>
      dsimp only
      split
      next => trivial
      next =>
        refine Process.Confined.bind (Process.confined_query
          ⟨by rfl, fun _ => trivial, fun w m hm => ?_⟩ trivial) fun found => ?_
        · obtain ⟨row, -, rfl⟩ := Option.map_eq_some_iff.1 hm
          exact hasks row
        · cases found <;> trivial

theorem invalidateCache_zonesQuiet (asks : ZoneMark ι → Bool) :
    ZonesQuiet E req i asks invalidateCache := by
  unfold invalidateCache
  exact Process.Confined.tryCatch (T := fun _ => True) (Process.confined_modify
    ⟨rfl, fun _ => trivial, fun _ _ hm => by cases hm⟩ trivial) fun _ _ => trivial

theorem findExisting_zonesQuiet (verb : String) :
    ZonesQuiet E req i (fun _ => false) (findExisting zoneId userId verb) := by
  unfold findExisting
  refine Process.Confined.bind (Process.confined_query
    ⟨by rfl, fun _ => trivial, fun _ _ _ => rfl⟩ trivial) fun existingZone => ?_
  cases existingZone with
  | none => trivial
  | some existingZone =>
      dsimp only
      split <;> trivial

theorem delete_zonesQuiet : ZonesQuiet E req i (fun _ => false) (delete zoneId userId) := by
  unfold delete
  refine Process.Confined.bind (findExisting_zonesQuiet "delete") fun _ => ?_
  refine Process.Confined.bind (findOne_zonesQuiet fun _ => rfl) fun _ => ?_
  refine Process.Confined.bind (Process.confined_atomic
    ⟨rfl, fun _ => trivial, fun _ _ _ => rfl⟩ (fun _ _ _ => trivial) trivial) fun _ => ?_
  exact invalidateCache_zonesQuiet _

omit [DecidableEq ι] in
theorem thread_of_zoneMark {l : ZoneCall} {w : World} {m : ZoneMark ι}
    (h : zoneMark i l w = some m) : m.thread = i := by
  cases l with
  | zoneFindExisting zoneId | zoneSelect zoneId =>
      obtain ⟨row, -, rfl⟩ := Option.map_eq_some_iff.1 h
      rfl
  | zoneMove zoneId data | zoneUpdate zoneId data =>
      obtain ⟨before, -, h⟩ := Option.bind_eq_some_iff.1 h
      obtain ⟨after, -, rfl⟩ := Option.map_eq_some_iff.1 h
      rfl
  | zoneCount userId =>
      cases h
      rfl
  | zoneInsert zone =>
      simp only [zoneMark] at h
      split at h
      · cases h
        rfl
      · cases h
  | _ => cases h

theorem thread_of_existingFor {m : ZoneMark ι} (h : (m.existingFor i).isSome = true) :
    m.thread = i := by
  cases m with
  | existing j row =>
      rw [ZoneMark.existingFor] at h
      split at h
      next heq => exact heq
      next => cases h
  | _ => cases h

theorem thread_of_locatedFor {m : ZoneMark ι} (h : (m.locatedFor i).isSome = true) :
    m.thread = i := by
  cases m with
  | located j row =>
      rw [ZoneMark.locatedFor] at h
      split at h
      next heq => exact heq
      next => cases h
  | _ => cases h

theorem thread_of_countedFor {m : ZoneMark ι} (h : (m.countedFor i userId).isSome = true) :
    m.thread = i := by
  cases m with
  | counted j userId' found =>
      rw [ZoneMark.countedFor] at h
      split at h
      next heq => exact heq.1
      next => cases h
  | _ => cases h

/-- The zone that the thread changes, as it has read it. -/
theorem lasting_existing (row : Option AlertZone) :
    (zoneProtocol E req fails).Lasting i (fun m => (m.existingFor i).isSome)
      fun s => s.marks.findSome? (ZoneMark.existingFor i) = row :=
  .findSome (fun _ _ _ _ hm h => (thread_of_zoneMark hm).symm.trans (thread_of_existingFor h)) row

theorem lasting_located (row : Option AlertZone) :
    (zoneProtocol E req fails).Lasting i (fun m => (m.locatedFor i).isSome)
      fun s => s.marks.findSome? (ZoneMark.locatedFor i) = row :=
  .findSome (fun _ _ _ _ hm h => (thread_of_zoneMark hm).symm.trans (thread_of_locatedFor h)) row

/-- How many zones of the user the thread has counted. -/
theorem lasting_countedZones (userId : ℕ) (found : Option ℕ) :
    (zoneProtocol E req fails).Lasting i (fun m => (m.countedFor i userId).isSome)
      fun s => s.marks.findSome? (ZoneMark.countedFor i userId) = found :=
  .findSome (fun _ _ _ _ hm h => (thread_of_zoneMark hm).symm.trans (thread_of_countedFor h)) found

/-- What follows from all radii of a history follows from those of a longer one. -/
theorem lasting_fits (p : Prop) : (zoneProtocol E req fails).Lasting i (fun _ => false)
    fun s => (∀ m ∈ s.marks, m.Fits E req) → p :=
  .of_kept (fun _ _ _ _ _ _ h hfit => h fun m hm => hfit m (Snapshot.mem_after_of_mem hm))
    fun _ _ _ _ _ h => h

/-- A zone is inserted after its thread has counted those of the user. -/
theorem safe_createZone (hE : E.RoundsBetween) {dto : CreateAlertZoneDto}
    (hreq : req i = .create dto userId) :
    Safe (zoneProtocol E req fails).contract i (OnReturn fun _ _ => True)
      (create E dto userId) s := by
  have hnothing : (zoneProtocol E req fails).Lasting i _ _ := .nothing
  unfold create
  refine hnothing.query_bind trivial (by rfl) (fun _ => trivial) fun s₁ _ _ => ?_
  split
  next => exact Protocol.safe_onReturn_raise
  next =>
    refine hnothing.query_bind trivial (by rfl) (fun _ => trivial) fun s₂ _ _ => ?_
    split
    next => exact Protocol.safe_onReturn_raise
    next hcount =>
      split
      next => exact Protocol.safe_onReturn_raise
      next hradius =>
        have hvalid : radiusIsValid (dto.lookup "radius_meters") = true := by simpa using hradius
        split
        next => exact Protocol.safe_onReturn_raise
        next zone hzone =>
          obtain ⟨hplaced, rfl, hbounded⟩ := newZone_checked hE hvalid hzone
          have hcounted : (s₂.after zoneMark i (.zoneCount zone.user_id)
              (ZoneCall.zoneCount zone.user_id).effect).marks.findSome?
                (ZoneMark.countedFor i zone.user_id) = some (s₂.state.zoneCount zone.user_id) := by
            simp [Snapshot.after, zoneMark, ZoneMark.countedFor]
          have hlasting : (zoneProtocol E req fails).Lasting i _ _ :=
            lasting_countedZones zone.user_id (some (s₂.state.zoneCount zone.user_id))
          refine Protocol.safe_onReturn_bind (R := fun _ _ => True)
            (Protocol.safe_call rfl fun s₃ hr _ => ⟨fun _ => ⟨?_, fun _ => ?_⟩, fun _ => ?_⟩)
            fun zoneId s₄ _ _ => ?_
          · refine ⟨hplaced, fun hfit => hbounded (hfit dto ?_), s₂.state.zoneCount zone.user_id,
              hlasting.stable hcounted hr, Nat.lt_of_not_le hcount⟩
            rw [hreq]
            rfl
          · split
            · exact Safe.ret fun _ _ _ => trivial
            · exact Protocol.safe_onReturn_raise
          · exact Protocol.safe_onReturn_raise
          · refine hnothing.quietly trivial (Process.Confined.bind (findOne_zonesQuiet fun _ => rfl)
              fun found => ?_)
            exact Process.Confined.bind (invalidateCache_zonesQuiet _) fun _ => trivial

theorem safe_findExisting (verb : String) :
    Safe (zoneProtocol E req fails).contract i
      (OnReturn fun row s' => ((∀ m ∈ s'.marks, m.Fits E req) → RadiusInBounds row.radius_meters) ∧
        s'.marks.findSome? (ZoneMark.existingFor i) = some row)
      (findExisting zoneId userId verb) s := by
  have hnothing : (zoneProtocol E req fails).Lasting i _ _ := .nothing
  unfold findExisting
  refine hnothing.query_bind trivial (by rfl) (fun _ => trivial) fun s₁ hinv _ => ?_
  cases hrow : s₁.state.alertZones.find? zoneId with
  | none => exact Protocol.safe_onReturn_raise
  | some row =>
      dsimp only
      split
      next => exact Protocol.safe_onReturn_raise
      next =>
        have hseen : (s₁.after zoneMark i (.zoneFindExisting zoneId)
            (ZoneCall.zoneFindExisting zoneId).effect).marks.findSome?
              (ZoneMark.existingFor i) = some row := by
          simp [Snapshot.after, zoneMark, hrow, ZoneMark.existingFor]
        refine ((lasting_fits (RadiusInBounds row.radius_meters)).and
          (lasting_existing (some row))).ret ⟨fun hfit => ?_, hseen⟩ fun _ _ h => h
        exact hinv.bounded (fun m hm => hfit m (Snapshot.mem_after_of_mem hm)) row
          (Table.mem_of_find? hrow)

/-- The zone as the thread has read it, before the statement that changes it. -/
theorem safe_findOne_zone {row : AlertZone}
    (hs : ((∀ m ∈ s.marks, m.Fits E req) → RadiusInBounds row.radius_meters) ∧
      s.marks.findSome? (ZoneMark.existingFor i) = some row) :
    Safe (zoneProtocol E req fails).contract i
      (OnReturn fun response s' => ∃ located, response = mapToResponseDto located ∧
        (((∀ m ∈ s'.marks, m.Fits E req) → RadiusInBounds row.radius_meters) ∧
          s'.marks.findSome? (ZoneMark.existingFor i) = some row) ∧
        s'.marks.findSome? (ZoneMark.locatedFor i) = some located)
      (findOne zoneId userId) s := by
  have hfits : (zoneProtocol E req fails).Lasting i _ _ :=
    lasting_fits (RadiusInBounds row.radius_meters)
  have hlasting := hfits.and (lasting_existing (some row))
  unfold findOne
  refine hlasting.query_bind hs (by rfl) (fun _ => trivial) fun s₁ _ hs₁ => ?_
  cases s₁.state.alertZones.find? zoneId with
  | none => exact Protocol.safe_onReturn_raise
  | some zone =>
      dsimp only
      split
      next => exact Protocol.safe_onReturn_raise
      next =>
        refine hlasting.query_bind hs₁ (by rfl) (fun _ => trivial) fun s₂ hinv₂ hs₂ => ?_
        cases hrow : s₂.state.alertZones.find? zoneId with
        | none => exact Protocol.safe_onReturn_raise
        | some located =>
            have hmark : zoneMark i (.zoneSelect zoneId) s₂.state = some (.located i located) := by
              simp only [zoneMark, hrow, Option.map_some]
            have hseen : (s₂.after zoneMark i (.zoneSelect zoneId)
                (ZoneCall.zoneSelect zoneId).effect).marks.findSome?
                  (ZoneMark.locatedFor i) = some located := by
              simp [Snapshot.after, hmark, ZoneMark.locatedFor]
            have hkept := hlasting.call i (.zoneSelect zoneId) s₂ hinv₂ trivial trivial
              (fun m hm => by
                obtain rfl := Option.some.inj (hmark.symm.trans hm)
                rfl) hs₂
            exact (hlasting.and (lasting_located (some located))).ret ⟨hkept, hseen⟩
              fun s₃ _ h => ⟨located, rfl, h⟩

/-- The statement of an update is permitted where its thread has read the zone. -/
theorem safe_writeZone (hE : E.RoundsBetween) {dto : UpdateAlertZoneDto} {row located : AlertZone}
    (hreq : (req i).dto = some dto)
    (hvalid : (dto.lookup "radius_meters").isSome = true →
      radiusIsValid (dto.lookup "radius_meters") = true)
    (hs : (((∀ m ∈ s.marks, m.Fits E req) → RadiusInBounds row.radius_meters) ∧
        s.marks.findSome? (ZoneMark.existingFor i) = some row) ∧
      s.marks.findSome? (ZoneMark.locatedFor i) = some located) :
    Safe (zoneProtocol E req fails).contract i (OnReturn fun _ _ => True)
      (writeZone E zoneId row (mapToResponseDto located) dto) s := by
  have hchecked : ∀ v ∈ dto.lookup "radius_meters",
      radiusIsValid (dto.lookup "radius_meters") = true :=
    fun v hv => hvalid (by rw [hv]; rfl)
  unfold writeZone
  split
  next hchanged =>
    split
    next => exact Protocol.safe_onReturn_raise
    next data hdata =>
      have hfits : (zoneProtocol E req fails).Lasting i _ _ :=
        lasting_fits (RadiusInBounds row.radius_meters)
      have hlasting := (hfits.and (lasting_existing (some row))).and
        (lasting_located (some located))
      refine Protocol.safe_call rfl fun s₁ hr _ => ⟨fun _ => ⟨?_, fun _ => ?_⟩, fun _ => ?_⟩
      · obtain ⟨⟨hbounded, hexisting⟩, hlocated⟩ := hlasting.stable hs hr
        have hseen : zoneSeen i s₁.marks = some (row.locatedAs located) := by
          rw [zoneSeen, hexisting, Option.bind_some, hlocated, Option.map_some]
        constructor
        · intro hfit now before after hafter hnew _
          rcases (moveData_writesBack hdata hafter).2 with hsame | ⟨v, hv, hread⟩
          · rw [hsame]
            exact hbounded hfit
          · have hnew := hnew dto hreq
            simp only [RadiusFits, hchanged, if_true] at hnew
            exact inBounds_of_read hE (hchecked v hv) hnew hv hread
        · intro now before after hafter
          have hback := (moveData_writesBack hdata hafter).1
          simp only [hreq, hseen, Option.mem_def, Option.some.injEq, forall_eq', hchanged,
            true_implies]
          exact keepsAbsent_iff hchanged (AlertZoneData.apply_frame hafter) hback
      · exact Safe.ret fun _ _ _ => trivial
      · exact Protocol.safe_onReturn_raise
  next hchanged =>
    have hunchanged : locationChanged dto = false := by simpa using hchanged
    have hnothing : (zoneProtocol E req fails).Lasting i _ _ := .nothing
    split
    next => exact Protocol.safe_onReturn_raise
    next data hdata =>
      refine hnothing.quietly trivial (Process.confined_atomic
        ⟨rfl, fun s₁ => ⟨?_, ?_⟩, fun _ _ _ => rfl⟩ (fun _ _ _ => trivial) trivial)
      · intro _ now before after hafter hnew hbefore
        rcases (updateData_keeps hdata hafter).2 with hsame | ⟨v, hv, change, hchange, happly⟩
        · rw [hsame]
          exact hbefore
        · have hnew := hnew dto hreq
          simp only [RadiusFits, hunchanged, Bool.false_eq_true, if_false] at hnew
          exact inBounds_of_change (hchecked v hv) hnew hv hchange happly
      · intro now before after hafter
        simp only [hreq, Option.mem_def, Option.some.injEq, forall_eq', hunchanged,
          Bool.false_eq_true, false_implies, iff_true]
        exact (updateData_keeps hdata hafter).1

theorem safe_update (hE : E.RoundsBetween) {dto : UpdateAlertZoneDto}
    (hreq : req i = .update zoneId dto userId) :
    Safe (zoneProtocol E req fails).contract i (OnReturn fun _ _ => True)
      (update E zoneId dto userId) s := by
  have hnothing : (zoneProtocol E req fails).Lasting i _ _ := .nothing
  unfold update
  refine Protocol.safe_onReturn_bind (safe_findExisting "update") fun row s₁ _ hs₁ => ?_
  split
  next => exact Protocol.safe_onReturn_raise
  next hradius =>
    have hvalid : (dto.lookup "radius_meters").isSome = true →
        radiusIsValid (dto.lookup "radius_meters") = true := by
      intro hsome
      simpa [hsome] using hradius
    refine Protocol.safe_onReturn_bind (safe_findOne_zone hs₁) ?_
    rintro _ s₂ - ⟨located, rfl, hs₂⟩
    refine Protocol.safe_onReturn_bind (safe_writeZone hE (by rw [hreq, ZoneRequest.dto])
      hvalid hs₂)
      fun _ s₃ _ _ => ?_
    refine hnothing.quietly trivial (Process.Confined.bind (findOne_zonesQuiet fun _ => rfl)
      fun _ => ?_)
    exact Process.Confined.bind (invalidateCache_zonesQuiet _) fun _ => trivial

theorem safe_zoneRequest (hE : E.RoundsBetween) :
    Safe (zoneProtocol E req fails).contract i (OnReturn fun _ _ => True)
      ((req i).process E) s := by
  have hnothing : (zoneProtocol E req fails).Lasting i _ _ := .nothing
  cases hreq : req i with
  | create dto userId =>
      exact Protocol.safe_onReturn_bind (safe_createZone hE hreq) fun _ s₁ _ _ =>
        hnothing.ret trivial fun _ _ _ => trivial
  | update zoneId dto userId =>
      exact Protocol.safe_onReturn_bind (safe_update hE hreq) fun _ s₁ _ _ =>
        hnothing.ret trivial fun _ _ _ => trivial
  | delete zoneId userId => exact hnothing.quietly trivial delete_zonesQuiet

end Threads

/-- In every run of creations, updates and deletions, whatever fails: the zones are at their points,
and within the bounds when all radii fit; each user has at most the limit when the insertions have
room; and every update changes only the columns whose fields it was given, if and only if each
update of a position finds the others as its call has read them. -/
theorem AlertZoneService.zones_kept {ι : Type*} [DecidableEq ι] (E : AlertZoneEnv)
    (hE : E.RoundsBetween) (w₀ : World) (req : ι → ZoneRequest) (fails : ZoneCall → Prop)
    (hready : w₀.ZonesReady) {c : Config ι World ZoneCall AppError Unit (ZoneMark ι)}
    (h : Reaches (zoneSetting fails) (Config.init w₀ fun i => (req i).process E) c) :
    c.state.ZonesAtPoint ∧
      ((∀ m ∈ c.marks, m.Fits E req) → c.state.ZonesInBounds) ∧
      (InsertionsHaveRoom c.marks → c.state.ZonesLimited) ∧
      ((∀ m ∈ c.marks, m.Keeps req) ↔ ZonesFoundAsRead req c.marks) := by
  have hinv : ZoneInv E req (⟨w₀, []⟩ : ZoneSnapshot ι) :=
    ⟨hready.fresh, hready.placed, fun _ => hready.bounded, fun _ _ _ hfound => (by cases hfound),
      fun _ => hready.limited, iff_of_true (fun _ hm => absurd hm List.not_mem_nil) trivial⟩
  have hsound : Sound (zoneProtocol E req fails).contract (fun _ => OnReturn fun _ _ => True)
      (Config.init w₀ fun i => (req i).process E) :=
    ⟨hinv, fun i => safe_zoneRequest hE⟩
  have hc := (hsound.reaches h).1
  exact ⟨hc.placed, hc.bounded, hc.limited, hc.kept⟩

section Runs

/-- Values of the type of a column are stored as they are, others are refused. -/
def wholeNumberEnv : AlertZoneEnv where
  text := Json.string?
  integer := Json.int32?
  double := fun v =>
    match v with
    | .num q => some q
    | _ => none
  boolean := Json.bool?

theorem roundsBetween_wholeNumberEnv : wholeNumberEnv.RoundsBetween := by
  intro r n hn a b ha hb
  rw [← cast_of_int32? hn] at ha hb
  exact ⟨Int.cast_le.1 ha, Int.cast_le.1 hb⟩

/-- A user with so many zones at home. -/
def zonesWorld (n : ℕ) : World where
  users := Table.empty.insertNew { id := 1, email := "a@b.c" }
  alertZones := (List.range n).foldl (fun zones id => zones.insertNew
    { id, user_id := 1, name := "Home", lat := 10, lon := 20, location_point := ⟨20, 10⟩,
      radius_meters := 500 }) .empty
  nextAlertZone := n

/-- A zone is moved while it is made inactive. -/
def moveAndDeactivate : Fin 2 → ZoneRequest
  | 0 => .update 0 [("latitude", .num 30)] 1
  | 1 => .update 0 [("is_active", .bool false)] 1

/-- Two zones are created. -/
def createTwo (_ : Fin 2) : ZoneRequest :=
  .create [("name", .str "Park"), ("latitude", .num 1), ("longitude", .num 2),
    ("radius_meters", .num 100)] 1

/-- A radius is made larger, and the zone is moved. -/
def enlargeAndMove : Fin 2 → ZoneRequest
  | 0 => .update 0 [("radius_meters", .obj [("increment", .num 100000)])] 1
  | 1 => .update 0 [("latitude", .num 30)] 1

def zonePool (n : ℕ) (req : Fin 2 → ZoneRequest) :
    Config (Fin 2) World ZoneCall AppError Unit (ZoneMark (Fin 2)) :=
  Config.init (zonesWorld n) fun i => (req i).process wholeNumberEnv

theorem zonesReady_of_length {w : World}
    (hfresh : ∀ zone ∈ w.alertZones.rows, zone.id < w.nextAlertZone)
    (hplaced : ∀ zone ∈ w.alertZones.rows, zone.AtPoint)
    (hbounded : ∀ zone ∈ w.alertZones.rows, RadiusInBounds zone.radius_meters)
    (hlength : w.alertZones.rows.length ≤ MAX_ZONES_PER_USER) : w.ZonesReady :=
  ⟨hfresh, hplaced, hbounded, fun _ => List.countP_le_length.trans hlength⟩

theorem zonesReady_one : (zonesWorld 1).ZonesReady :=
  zonesReady_of_length (by decide +kernel) (by decide +kernel) (by decide +kernel)
    (by decide +kernel)

theorem zonesReady_nine : (zonesWorld 9).ZonesReady :=
  zonesReady_of_length (by decide +kernel) (by decide +kernel) (by decide +kernel)
    (by decide +kernel)

theorem zonesReady_eight : (zonesWorld 8).ZonesReady :=
  zonesReady_of_length (by decide +kernel) (by decide +kernel) (by decide +kernel)
    (by decide +kernel)

/-- Two creations count eight zones. A zone is made inactive first, and stays so when it is
moved. -/
theorem zones_kept_deactivated :
    (((zonePool 8 createTwo).schedule zoneMark [0, 0, 1, 1, 0, 1]).state.ZonesInBounds ∧
      ((zonePool 8 createTwo).schedule zoneMark [0, 0, 1, 1, 0, 1]).state.ZonesLimited) ∧
    ((zonePool 1 moveAndDeactivate).schedule zoneMark [1, 1, 1, 1, 0, 0, 0, 0]).marks.Forall
      fun m => m.Keeps moveAndDeactivate := by
  have hcreated := AlertZoneService.zones_kept wholeNumberEnv roundsBetween_wholeNumberEnv
    (zonesWorld 8) createTwo (fun _ => False) zonesReady_eight
    (Reaches.schedule (fun _ _ _ => trivial) [0, 0, 1, 1, 0, 1] (zonePool 8 createTwo))
  have hmoved := AlertZoneService.zones_kept wholeNumberEnv roundsBetween_wholeNumberEnv
    (zonesWorld 1) moveAndDeactivate (fun _ => False) zonesReady_one
    (Reaches.schedule (fun _ _ _ => trivial) [1, 1, 1, 1, 0, 0, 0, 0]
      (zonePool 1 moveAndDeactivate))
  exact ⟨⟨hcreated.2.1 (by decide +kernel), hcreated.2.2.1 (by decide +kernel)⟩,
    List.forall_iff_forall_mem.2 (hmoved.2.2.2.2 (by decide +kernel))⟩

/-- Two creations that count nine zones make eleven. A radius that is incremented leaves its bounds.
A zone that is moved becomes active again after it was made inactive. -/
theorem not_zones_kept :
    ((zonesWorld 9).ZonesReady ∧ ∃ c, Reaches (zoneSetting fun _ => False)
      (zonePool 9 createTwo) c ∧
      c.state.zoneCount 1 = 11) ∧
    (zonesWorld 1).ZonesReady ∧
    (∃ c, Reaches (zoneSetting fun _ => False) (zonePool 1 enlargeAndMove) c ∧
      ¬ c.state.ZonesInBounds) ∧
    ∃ c before after,
      Reaches (zoneSetting fun _ => False) (zonePool 1 moveAndDeactivate) c ∧
      .updated 0 before after ∈ c.marks ∧
      (moveAndDeactivate 0).dto = some [("latitude", .num 30)] ∧
      before.is_active = false ∧ after.is_active = true := by
  refine ⟨⟨zonesReady_nine, (zonePool 9 createTwo).schedule zoneMark [0, 0, 1, 1, 0, 1],
    Reaches.schedule (fun _ _ _ => trivial) _ _, by decide +kernel⟩, zonesReady_one,
    ⟨(zonePool 1 enlargeAndMove).schedule zoneMark [0, 0, 0, 0],
      Reaches.schedule (fun _ _ _ => trivial) _ _, fun hbounded => ?_⟩, ?_⟩
  · have hrows : ∀ zone ∈ ((zonePool 1 enlargeAndMove).schedule zoneMark
        [0, 0, 0, 0]).state.alertZones.rows, RadiusInBounds zone.radius_meters := hbounded
    revert hrows
    decide +kernel
  · let before : AlertZone :=
      { id := 0, user_id := 1, name := "Home", lat := 10, lon := 20, location_point := ⟨20, 10⟩,
        radius_meters := 500, is_active := false }
    let after : AlertZone :=
      { before with lat := 30, location_point := ⟨20, 30⟩, is_active := true }
    have hmark : .updated 0 before after ∈ ((zonePool 1 moveAndDeactivate).schedule zoneMark
        [0, 0, 0, 1, 1, 1, 1, 0]).marks := by
      decide +kernel
    exact ⟨_, before, after, Reaches.schedule (fun _ _ _ => trivial) _ _, hmark, rfl, rfl, rfl⟩

end Runs

end FifiAlert
