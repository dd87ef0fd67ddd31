import FifiAlert.Concurrency.Mirror
import FifiAlert.Concurrency.Ending
import FifiAlert.Device.DeviceWrites

/-!
# Coordinates and their point

The coordinates of a device are columns, and the point that is searched is a column of its own. A
fix sets the coordinates in one statement and the point in the next. So the point is a copy of the
coordinates, and it agrees with them when no position that is older comes in after a newer one.
-/

namespace FifiAlert

open Concurrency Store DeviceCall

/-- The point of the coordinates, when both are set. -/
def Device.position (d : Device) : Option Point :=
  d.gps_lat.bind fun lat => d.gps_lon.map fun lon => ⟨lon, lat⟩

/-- The point is that of the coordinates, when these are set. -/
def World.PositionsAgree (w : World) : Prop :=
  ∀ d ∈ w.devices.rows, ∀ point, d.position = some point → d.gps_point = some point

/-- A request that sets a position, or may. -/
inductive PositionRequest where
  | register (dto : RegisterDeviceDto) (userId : ℕ)
  | updateLocation (deviceId : ℕ) (dto : UpdateLocationDto) (userId : ℕ)

namespace PositionRequest

def process : PositionRequest → DeviceProcess Unit
  | register dto userId => do
      let _ ← DeviceService.register dto userId
      return ()
  | updateLocation deviceId dto userId => do
      let _ ← DeviceService.updateLocation deviceId dto userId
      return ()

def gps : PositionRequest → Option GpsLocationDto
  | register dto _ => dto.location.bind DeviceLocationDto.gps
  | updateLocation _ dto _ => dto.gps

end PositionRequest

namespace GpsLocationDto

/-- The position that a fix makes of a row; a coordinate that it lacks stays. -/
def positionOn (gps : GpsLocationDto) (row : Device) : Option Point :=
  (gps.latitude <|> row.gps_lat).bind fun lat =>
    (gps.longitude <|> row.gps_lon).map fun lon => ⟨lon, lat⟩

/-- The fix comes without a coordinate that the row has not got either. -/
def Lacks (gps : GpsLocationDto) (row : Device) : Prop :=
  (gps.latitude = none ∧ row.gps_lat = none) ∨ (gps.longitude = none ∧ row.gps_lon = none)

instance (gps : GpsLocationDto) (row : Device) : Decidable (gps.Lacks row) :=
  inferInstanceAs (Decidable (_ ∨ _))

theorem positionOn_eq_point {gps : GpsLocationDto} {row : Device}
    (h : gps.point = none → gps.Lacks row) : gps.positionOn row = gps.point := by
  cases hpoint : gps.point with
  | none =>
      rcases h hpoint with ⟨hgps, hrow⟩ | ⟨hgps, hrow⟩ <;> simp [positionOn, hgps, hrow]
  | some p =>
      obtain ⟨lat, hlat, hp⟩ := Option.bind_eq_some_iff.1 hpoint
      obtain ⟨lon, hlon, rfl⟩ := Option.map_eq_some_iff.1 hp
      simp [positionOn, hlat, hlon]

end GpsLocationDto

abbrev PositionMark (ι : Type*) := MirrorMark ι ℕ Point Device

abbrev PositionSnapshot (ι : Type*) := Snapshot World (PositionMark ι)

/-- A call reads the position of a device, it writes one, or it sets the point. -/
def positionMark {ι : Type*} (req : ι → PositionRequest) (i : ι) (l : DeviceCall) (w : World) :
    Option (PositionMark ι) :=
  match l with
  | deviceFindByUuid device_uuid userId =>
      (w.registeredDevice device_uuid userId).map (.read i)
  | deviceFindOwned id userId => (w.ownedDevice id userId).map (.read i)
  | deviceUpdate id data =>
      if (w.checkDeviceUpdate id data).isOk then
        (req i).gps.map fun gps => .wrote i id gps.point
      else none
  | deviceSetGpsPoint id point => some (.copied i id point)
  | deviceCreate device =>
      if (w.checkDeviceCreate device).isOk then some (.wrote i w.nextDevice device.position)
      else none
  | _ => none

/-- Others leave the positions and the points alone; they may delete devices. -/
def KeepsPositions (w w' : World) : Prop :=
  (∀ d' ∈ w'.devices.rows, ∃ d ∈ w.devices.rows,
    d.id = d'.id ∧ d.position = d'.position ∧ d.gps_point = d'.gps_point) ∧
    w.nextDevice ≤ w'.nextDevice

def positionSetting {ι : Type*} (req : ι → PositionRequest) (fails : DeviceCall → Prop)
    (admits : ι → DeviceCall → PositionSnapshot ι → Prop) :
    Setting ι World DeviceCall (PositionMark ι) where
  mark := positionMark req
  env := KeepsPositions
  mayFail := fails
  admits := admits

/-- The points at the start. -/
def World.gpsPoint (w : World) (id : ℕ) : Option Point :=
  (w.devices.find? id).bind Device.gps_point

section Condition

variable {ι : Type*} [DecidableEq ι]

/-- A request without a fix writes back no coordinates but those of the last fix, and a point is
set before those of all later fixes. A fix without one of its coordinates has read a row in which
it is unset. -/
def SetsInOrder (w₀ : World) (req : ι → PositionRequest) (i : ι) (l : DeviceCall)
    (s : PositionSnapshot ι) : Prop :=
  match l with
  | deviceUpdate id _ => ∀ row ∈ lastSeen i s.marks,
      ((req i).gps.isNone → row.id = id →
        ∀ point ∈ row.position, wanted w₀.gpsPoint id s.marks = some point) ∧
      ∀ gps ∈ (req i).gps, gps.point = none → gps.Lacks row
  | deviceSetGpsPoint id point =>
      Settled id s.marks → ∀ last ∈ wanted w₀.gpsPoint id s.marks, point = some last
  | _ => True

instance decidableSetsInOrder (w₀ : World) (req : ι → PositionRequest) (i : ι) :
    ∀ l s, Decidable (SetsInOrder w₀ req i l s)
  | deviceUpdate _ _, _ => inferInstanceAs (Decidable (∀ _ ∈ _, _))
  | deviceSetGpsPoint _ _, _ => inferInstanceAs (Decidable (_ → _))
  | notification _, _ | dateNow, _ | deviceFindByUuid _ _, _ | deviceFindOwned _ _, _
  | deviceCreate _, _ | deviceFindUnique _, _ => inferInstanceAs (Decidable True)

/-- The calls that may fail: not the one that sets the point. -/
def SparesPoint (l : DeviceCall) : Prop :=
  ∀ id point, l ≠ deviceSetGpsPoint id point

/-- Steps that set the points in the order of the fixes. -/
def orderlySetting (w₀ : World) (req : ι → PositionRequest) :
    Setting ι World DeviceCall (PositionMark ι) :=
  positionSetting req SparesPoint (SetsInOrder w₀ req)

end Condition

section Effect

variable {w : World} {id k : ℕ}

/-- The position of the device with this id. -/
def World.positionOf (w : World) (id : ℕ) : Option Point :=
  (w.devices.find? id).bind Device.position

def World.pointOf (w : World) (id : ℕ) : Option (Option Point) :=
  (w.devices.find? id).map Device.gps_point

theorem positionOf_eq_some_iff {point : Point} :
    w.positionOf id = some point ↔ ∃ d, w.devices.find? id = some d ∧ d.position = some point :=
  Option.bind_eq_some_iff

theorem pointOf_eq_some_iff {point : Option Point} :
    w.pointOf id = some point ↔ ∃ d, w.devices.find? id = some d ∧ d.gps_point = point :=
  Option.map_eq_some_iff

/-- The rows after an update that is carried out. -/
theorem find?_of_deviceUpdate {data : DeviceData} {d : Device}
    (hok : (w.checkDeviceUpdate id data).isOk = true)
    (h : ((deviceUpdate id data).effect w).devices.find? k = some d) :
    ∃ before, w.devices.find? k = some before ∧
      ((k = id ∧ d = data.apply w.now before) ∨ (k ≠ id ∧ d = before)) := by
  change (onDevices w (deviceUpdate id data)).find? k = some d at h
  rw [onDevices, if_pos hok] at h
  exact Table.exists_of_find?_updateMany h

theorem find?_of_deviceSetGpsPoint {point : Option Point} {d : Device}
    (h : ((deviceSetGpsPoint id point).effect w).devices.find? k = some d) :
    ∃ before, w.devices.find? k = some before ∧
      ((k = id ∧ d = { before with gps_point := point }) ∨ (k ≠ id ∧ d = before)) := by
  change (onDevices w (deviceSetGpsPoint id point)).find? k = some d at h
  rw [onDevices] at h
  exact Table.exists_of_find?_updateMany h

/-- The rows after a new device got the next id. -/
theorem find?_of_deviceCreate {device d : Device}
    (hok : (w.checkDeviceCreate device).isOk = true)
    (hfresh : ∀ d ∈ w.devices.rows, d.id < w.nextDevice)
    (h : ((deviceCreate device).effect w).devices.find? k = some d) :
    (k = w.nextDevice ∧
        d = { device with id := w.nextDevice, created_at := w.now, updated_at := w.now }) ∨
      (k ≠ w.nextDevice ∧ w.devices.find? k = some d) := by
  have hnone : w.devices.find? w.nextDevice = none :=
    Table.find?_eq_none_iff.2 fun d hd => (hfresh d hd).ne
  change (onDevices w (deviceCreate device)).find? k = some d at h
  rw [onDevices, if_pos hok, Table.find?_insertNew hnone] at h
  by_cases hk : w.nextDevice = k
  · rw [if_pos hk] at h
    exact .inl ⟨hk.symm, (Option.some.inj h).symm⟩
  · rw [if_neg hk] at h
    exact .inr ⟨Ne.symm hk, h⟩

end Effect

section Protocol

variable {ι : Type*}

/-- A request writes the fix that it comes with over what it has read, if it comes with one, and
before it sets the point. -/
def SetsPosition [DecidableEq ι] (req : ι → PositionRequest) (i : ι) (l : DeviceCall)
    (s : PositionSnapshot ι) : Prop :=
  match l with
  | notification _ => False
  | deviceUpdate id data => ¬ Copied i s.marks ∧ ∃ row, lastSeen i s.marks = some row ∧
      row.id = id ∧ ∀ now before,
        (data.apply now before).position = ((req i).gps.getD {}).positionOn row
  | deviceSetGpsPoint id point =>
      ∀ k position, lastWrite k s.marks = some (i, position) → k = id ∧ position = point
  | deviceCreate _ => ¬ Copied i s.marks
  | _ => True

/-- The points are copies of the positions; ids are handed out in order. -/
structure PositionInv (w₀ : World) (s : PositionSnapshot ι) : Prop where
  fresh : ∀ d ∈ s.state.devices.rows, d.id < s.state.nextDevice
  mirrored : Mirrored w₀.gpsPoint s.state.positionOf s.state.pointOf s.marks

variable {w₀ : World} {req : ι → PositionRequest} {i : ι} {l : DeviceCall}
  {s : PositionSnapshot ι}

theorem thread_of_positionMark {j : ι} {w : World} {m : PositionMark ι}
    (h : positionMark req j l w = some m) : m.thread = j := by
  cases l with
  | deviceFindByUuid device_uuid userId | deviceFindOwned id userId =>
      obtain ⟨d, -, rfl⟩ := Option.map_eq_some_iff.1 h
      rfl
  | deviceUpdate id data =>
      simp only [positionMark] at h
      split at h
      · obtain ⟨gps, -, rfl⟩ := Option.map_eq_some_iff.1 h
        rfl
      · cases h
  | deviceSetGpsPoint id point =>
      cases h
      rfl
  | deviceCreate device =>
      simp only [positionMark] at h
      split at h
      · cases h
        rfl
      · cases h
  | _ => cases h

/-- A call that changes no device and leaves no mark. -/
theorem PositionInv.of_devices {w : World} (h : PositionInv w₀ s)
    (hdevices : w.devices = s.state.devices) (hnext : s.state.nextDevice ≤ w.nextDevice) :
    PositionInv w₀ ⟨w, s.marks⟩ where
  fresh := fun d hd => (h.fresh d (hdevices ▸ hd)).trans_le hnext
  mirrored := by
    have hposition : w.positionOf = s.state.positionOf := by
      funext id
      rw [World.positionOf, hdevices, World.positionOf]
    have hpoint : w.pointOf = s.state.pointOf := by
      funext id
      rw [World.pointOf, hdevices, World.pointOf]
    change Mirrored _ w.positionOf w.pointOf s.marks
    rw [hposition, hpoint]
    exact h.mirrored

theorem PositionInv.read (h : PositionInv w₀ s) (d : Option Device) :
    PositionInv w₀ ⟨s.state, (d.map (MirrorMark.read i)).toList ++ s.marks⟩ where
  fresh := h.fresh
  mirrored := by
    cases d with
    | none => exact h.mirrored
    | some d => exact h.mirrored.read i d

variable [DecidableEq ι]

theorem PositionInv.update {id : ℕ} {data : DeviceData} (h : PositionInv w₀ s)
    (hper : SetsPosition req i (deviceUpdate id data) s)
    (hadm : SetsInOrder w₀ req i (deviceUpdate id data) s)
    (hok : (s.state.checkDeviceUpdate id data).isOk = true) :
    PositionInv w₀ ⟨(deviceUpdate id data).effect s.state,
      ((req i).gps.map fun gps => MirrorMark.wrote i id gps.point).toList ++ s.marks⟩ where
  fresh := by
    intro d hd
    obtain ⟨before, hbefore, -⟩ := find?_of_deviceUpdate hok (Table.find?_of_mem hd)
    exact (Table.key_of_find? hbefore) ▸ h.fresh before (Table.mem_of_find? hbefore)
  mirrored := by
    have hpoint : ∀ k c, ((deviceUpdate id data).effect s.state).pointOf k = some c →
        s.state.pointOf k = some c := by
      intro k c hc
      obtain ⟨d, hd, hc⟩ := pointOf_eq_some_iff.1 hc
      obtain ⟨before, hbefore, ⟨-, rfl⟩ | ⟨-, rfl⟩⟩ := find?_of_deviceUpdate hok hd
      · exact pointOf_eq_some_iff.2 ⟨before, hbefore, hc⟩
      · exact pointOf_eq_some_iff.2 ⟨d, hbefore, hc⟩
    obtain ⟨hnot, row, hseen, hid, hback⟩ := hper
    obtain ⟨hunset, hlacks⟩ := hadm row hseen
    cases hgps : (req i).gps with
    | none =>
        rw [hgps] at hback hunset
        refine h.mirrored.rewrite (fun k v hv => ?_) hpoint
        obtain ⟨d, hd, hv⟩ := positionOf_eq_some_iff.1 hv
        obtain ⟨before, hbefore, ⟨rfl, rfl⟩ | ⟨-, rfl⟩⟩ := find?_of_deviceUpdate hok hd
        · rw [hback] at hv
          exact .inr (hunset rfl hid v hv)
        · exact .inl (positionOf_eq_some_iff.2 ⟨d, hbefore, hv⟩)
    | some gps =>
        rw [hgps, Option.getD_some, GpsLocationDto.positionOn_eq_point (hlacks gps hgps)] at hback
        refine h.mirrored.wrote hnot (fun k v hv => ?_) fun k c hc => .inr (hpoint k c hc)
        obtain ⟨d, hd, hv⟩ := positionOf_eq_some_iff.1 hv
        obtain ⟨before, hbefore, ⟨rfl, rfl⟩ | ⟨hne, rfl⟩⟩ := find?_of_deviceUpdate hok hd
        · exact .inl ⟨rfl, (hback _ _).symm.trans hv⟩
        · exact .inr ⟨hne, positionOf_eq_some_iff.2 ⟨d, hbefore, hv⟩⟩

theorem PositionInv.place {id : ℕ} {point : Option Point} (h : PositionInv w₀ s)
    (hper : SetsPosition req i (deviceSetGpsPoint id point) s)
    (hadm : SetsInOrder w₀ req i (deviceSetGpsPoint id point) s) :
    PositionInv w₀ ⟨(deviceSetGpsPoint id point).effect s.state,
      .copied i id point :: s.marks⟩ where
  fresh := by
    intro d hd
    obtain ⟨before, hbefore, -⟩ := find?_of_deviceSetGpsPoint (Table.find?_of_mem hd)
    exact (Table.key_of_find? hbefore) ▸ h.fresh before (Table.mem_of_find? hbefore)
  mirrored := by
    have hmirrored : Mirrored w₀.gpsPoint s.state.positionOf
        ((deviceSetGpsPoint id point).effect s.state).pointOf
        (.copied i id point :: s.marks) := by
      refine h.mirrored.copied hper hadm fun k c hc => ?_
      obtain ⟨d, hd, hc⟩ := pointOf_eq_some_iff.1 hc
      obtain ⟨before, hbefore, ⟨rfl, rfl⟩ | ⟨hne, rfl⟩⟩ := find?_of_deviceSetGpsPoint hd
      · exact .inl ⟨rfl, hc.symm⟩
      · exact .inr ⟨hne, pointOf_eq_some_iff.2 ⟨d, hbefore, hc⟩⟩
    refine hmirrored.rewrite (fun k v hv => .inl ?_) fun _ _ hc => hc
    obtain ⟨d, hd, hv⟩ := positionOf_eq_some_iff.1 hv
    obtain ⟨before, hbefore, ⟨-, rfl⟩ | ⟨-, rfl⟩⟩ := find?_of_deviceSetGpsPoint hd
    · exact positionOf_eq_some_iff.2 ⟨before, hbefore, hv⟩
    · exact positionOf_eq_some_iff.2 ⟨d, hbefore, hv⟩

theorem PositionInv.create {device : Device} (h : PositionInv w₀ s)
    (hper : SetsPosition req i (deviceCreate device) s)
    (hok : (s.state.checkDeviceCreate device).isOk = true) :
    PositionInv w₀ ⟨(deviceCreate device).effect s.state,
      .wrote i s.state.nextDevice device.position :: s.marks⟩ where
  fresh := by
    intro d hd
    rcases find?_of_deviceCreate hok h.fresh (Table.find?_of_mem hd) with ⟨hid, -⟩ | ⟨-, hold⟩
    · exact hid.le.trans_lt (Nat.lt_succ_self s.state.nextDevice)
    · exact (h.fresh d (Table.mem_of_find? hold)).trans (Nat.lt_succ_self _)
  mirrored := by
    refine h.mirrored.wrote hper (fun k v hv => ?_) fun k c hc => ?_
    · obtain ⟨d, hd, hv⟩ := positionOf_eq_some_iff.1 hv
      rcases find?_of_deviceCreate hok h.fresh hd with ⟨hid, rfl⟩ | ⟨hne, hold⟩
      · exact .inl ⟨hid, hv⟩
      · exact .inr ⟨hne, positionOf_eq_some_iff.2 ⟨d, hold, hv⟩⟩
    · obtain ⟨d, hd, hc⟩ := pointOf_eq_some_iff.1 hc
      rcases find?_of_deviceCreate hok h.fresh hd with ⟨hid, -⟩ | ⟨-, hold⟩
      · exact .inl hid
      · exact .inr (pointOf_eq_some_iff.2 ⟨d, hold, hc⟩)

/-- Each call of a request keeps the invariant, when its step sets the points in order. -/
theorem PositionInv.call (h : PositionInv w₀ s) (hper : SetsPosition req i l s)
    (hadm : SetsInOrder w₀ req i l s) :
    PositionInv w₀ (s.after (positionMark req) i l l.effect) := by
  cases l with
  | notification l => exact hper.elim
  | dateNow | deviceFindUnique id => exact h.of_devices rfl le_rfl
  | deviceFindByUuid device_uuid userId | deviceFindOwned id userId =>
      exact (h.read _).of_devices rfl le_rfl
  | deviceUpdate id data =>
      cases hok : (s.state.checkDeviceUpdate id data).isOk with
      | true =>
          have hinv := h.update hper hadm hok
          simpa only [Snapshot.after, positionMark, hok, if_true] using hinv
      | false =>
          have hdevices : ((deviceUpdate id data).effect s.state).devices = s.state.devices := by
            simp [DeviceCall.effect, onDevices, hok]
          have hinv := h.of_devices hdevices le_rfl
          simpa [Snapshot.after, positionMark, hok] using hinv
  | deviceSetGpsPoint id point => exact h.place hper hadm
  | deviceCreate device =>
      cases hok : (s.state.checkDeviceCreate device).isOk with
      | true =>
          have hinv := h.create hper hok
          simpa [Snapshot.after, positionMark, hok] using hinv
      | false =>
          have hdevices : ((deviceCreate device).effect s.state).devices = s.state.devices := by
            simp [DeviceCall.effect, onDevices, hok]
          have hinv := h.of_devices hdevices (Nat.le_succ _)
          simpa [Snapshot.after, positionMark, hok] using hinv

omit [DecidableEq ι] in
theorem PositionInv.env {w : World} (h : PositionInv w₀ s) (henv : KeepsPositions s.state w) :
    PositionInv w₀ ⟨w, s.marks⟩ where
  fresh := by
    intro d' hd'
    obtain ⟨d, hd, hid, -⟩ := henv.1 d' hd'
    exact (hid ▸ h.fresh d hd).trans_le henv.2
  mirrored := by
    have hfind : ∀ k d', w.devices.find? k = some d' → ∃ d, s.state.devices.find? k = some d ∧
        d.position = d'.position ∧ d.gps_point = d'.gps_point := by
      intro k d' hd'
      obtain ⟨d, hd, hid, hposition, hpoint⟩ := henv.1 d' (Table.mem_of_find? hd')
      exact ⟨d, Table.find?_eq_some_iff.2 ⟨hd, hid.trans (Table.key_of_find? hd')⟩, hposition,
        hpoint⟩
    refine h.mirrored.rewrite (fun k v hv => .inl ?_) fun k c hc => ?_
    · obtain ⟨d', hd', hv⟩ := positionOf_eq_some_iff.1 hv
      obtain ⟨d, hd, hposition, -⟩ := hfind k d' hd'
      exact positionOf_eq_some_iff.2 ⟨d, hd, hposition.trans hv⟩
    · obtain ⟨d', hd', hc⟩ := pointOf_eq_some_iff.1 hc
      obtain ⟨d, hd, -, hpoint⟩ := hfind k d' hd'
      exact pointOf_eq_some_iff.2 ⟨d, hd, hpoint.trans hc⟩

/-- The protocol of the positions. -/
def positionProtocol (w₀ : World) (req : ι → PositionRequest) :
    Protocol (orderlySetting w₀ req) where
  effect := DeviceCall.effect
  permits := SetsPosition req
  inv := PositionInv w₀
  inv_call := fun hinv hper hadm => hinv.call hper hadm
  inv_env := fun henv hinv => hinv.env henv

/-- The marks of a thread are its reads and the one write of a position. -/
def WroteOnly (i : ι) (id : ℕ) (position : Option Point) (s : PositionSnapshot ι) : Prop :=
  ∀ m ∈ s.marks, m.thread = i → (m.isRead || decide (m = .wrote i id position)) = true

/-- The marks of a thread are its reads. -/
def ReadOnly (i : ι) (s : PositionSnapshot ι) : Prop :=
  ∀ m ∈ s.marks, m.thread = i → m.isRead = true

end Protocol

section Threads

variable {ι : Type*} [DecidableEq ι] {w₀ : World} {req : ι → PositionRequest} {i : ι}
  {s : PositionSnapshot ι} {id : ℕ} {position : Option Point}

theorem lasting_readOnly :
    (positionProtocol w₀ req).Lasting i (fun m => decide (m.thread = i) && !m.isRead)
      (ReadOnly i) :=
  .ownMarks (fun _ _ _ _ hm => thread_of_positionMark hm) MirrorMark.isRead

theorem lasting_wroteOnly :
    (positionProtocol w₀ req).Lasting i
      (fun m => decide (m.thread = i) && !(m.isRead || decide (m = .wrote i id position)))
      (WroteOnly i id position) :=
  .ownMarks (fun _ _ _ _ hm => thread_of_positionMark hm) _

theorem lasting_paid_position :
    (positionProtocol w₀ req).Lasting i (fun m => decide (m.thread = i) && m.isWrote)
      fun s => Paid i s.marks :=
  lasting_paid fun _ _ _ _ hm => thread_of_positionMark hm

theorem lasting_seen (seen : Option Device) :
    (positionProtocol w₀ req).Lasting i (fun m => (m.seenBy i).isSome)
      fun s => lastSeen i s.marks = seen :=
  lasting_lastSeen (fun _ _ _ _ hm => thread_of_positionMark hm) seen

omit [DecidableEq ι] in
theorem ReadOnly.not_copied (h : ReadOnly i s) : ¬ Copied i s.marks := by
  rintro ⟨k, v, hm⟩
  cases h _ hm rfl

omit [DecidableEq ι] in
theorem ReadOnly.paid (h : ReadOnly i s) : Paid i s.marks := by
  intro k v hm
  cases h _ hm rfl

theorem ReadOnly.wroteOnly (h : ReadOnly i s) : WroteOnly i id position s :=
  fun m hm hi => by rw [h m hm hi]; rfl

/-- Without a position there is no copy to write. -/
theorem WroteOnly.paid (h : WroteOnly i id none s) : Paid i s.marks := by
  intro k v hm
  simpa [MirrorMark.isRead] using h _ hm rfl

/-- The one copy that the thread may write. -/
theorem WroteOnly.sets {point : Option Point} (h : WroteOnly i id point s) :
    SetsPosition req i (deviceSetGpsPoint id point) s := by
  intro k v hlast
  simpa [MirrorMark.isRead] using h _ (mem_of_lastWrite hlast) rfl

/-- The process makes calls that are permitted anywhere, and writes no position. -/
abbrev PositionQuiet {α : Type} (req : ι → PositionRequest) (i : ι) (asks : PositionMark ι → Bool)
    (p : DeviceProcess α) : Prop :=
  p.Confined (fun l next => next = l.effect ∧ (∀ s, SetsPosition req i l s) ∧
    ∀ w m, positionMark req i l w = some m → asks m = false) fun _ => True

theorem dateNow_positionQuiet (asks : PositionMark ι → Bool) :
    PositionQuiet req i asks DeviceService.dateNow :=
  Process.confined_query ⟨by rfl, fun _ => trivial, fun _ _ hm => by cases hm⟩ trivial

theorem respond_positionQuiet (deviceId : ℕ) (asks : PositionMark ι → Bool) :
    PositionQuiet req i asks (DeviceService.respond deviceId) := by
  unfold DeviceService.respond
  refine Process.Confined.bind (Process.confined_query
    ⟨by rfl, fun _ => trivial, fun _ _ hm => by cases hm⟩ trivial) fun found => ?_
  cases found with
  | none => trivial
  | some found =>
      unfold DeviceService.mapToResponseDto
      exact Process.Confined.bind (dateNow_positionQuiet asks) fun _ => trivial

/-- A thread that owes no copy ends so, when it writes no further position. -/
theorem safe_paid {α : Type} {p : DeviceProcess α} (hs : Paid i s.marks)
    (hp : PositionQuiet req i (fun m => decide (m.thread = i) && m.isWrote) p) :
    Safe (positionProtocol w₀ req).contract i (fun _ s' => Paid i s'.marks) p s :=
  Safe.mono (lasting_paid_position.guarded hs hp) fun _ _ _ h => h.1

theorem safe_paid_bind {α β : Type} {p : DeviceProcess α} {k : α → DeviceProcess β}
    (hp : Safe (positionProtocol w₀ req).contract i (fun _ s' => Paid i s'.marks) p s)
    (hk : ∀ a, PositionQuiet req i (fun m => decide (m.thread = i) && m.isWrote) (k a)) :
    Safe (positionProtocol w₀ req).contract i (fun _ s' => Paid i s'.marks) (p >>= k) s := by
  apply Safe.bind
  refine Safe.mono hp fun r s' _ hs' => ?_
  cases r with
  | ok a => exact safe_paid hs' (hk a)
  | error e => exact hs'

/-- The second statement writes the copy, and it does not fail. -/
theorem safe_setGpsPoint {gps : Option GpsLocationDto}
    (hs : WroteOnly i id (gps.bind GpsLocationDto.point) s) :
    Safe (positionProtocol w₀ req).contract i (fun _ s' => Paid i s'.marks)
      (DeviceService.setGpsPoint id gps) s := by
  cases gps with
  | none => exact Safe.ret fun s' hr _ => (lasting_wroteOnly.stable hs hr).paid
  | some gps =>
      refine Protocol.safe_call rfl fun s₁ hr _ => ⟨fun _ => ⟨?_, fun _ => ?_⟩, fun hfail => ?_⟩
      · have hwrote : WroteOnly i id gps.point s₁ := lasting_wroteOnly.stable hs hr
        exact (hwrote.sets : SetsPosition req i (deviceSetGpsPoint id gps.point) s₁)
      · refine Safe.ret fun s₂ hr₂ _ => lasting_paid_position.stable ?_ hr₂
        exact fun _ _ _ => ⟨id, gps.point, List.mem_cons_self⟩
      · exact absurd rfl (hfail id gps.point)

/-- After the first statement the thread owes the copy of what it has written, if it has. -/
def Owes {α : Type} (i : ι) (key : α → ℕ) (position : Option Point) :
    Except AppError α → PositionSnapshot ι → Prop
  | .ok a, s => WroteOnly i (key a) position s
  | .error _, s => Paid i s.marks

theorem safe_firstStatement {α : Type} {l : DeviceCall} {err : AppError}
    {f : World → Except AppError α × World} {key : α → ℕ} {asks : PositionMark ι → Bool}
    {J : PositionSnapshot ι → Prop} (hf : (fun w => (f w).2) = l.effect)
    (hJ : (positionProtocol w₀ req).Lasting i asks J) (hs : J s)
    (hread : ∀ s₁, J s₁ → ReadOnly i s₁) (hper : ∀ s₁, J s₁ → SetsPosition req i l s₁)
    (hok : ∀ w a m, (f w).1 = .ok a → positionMark req i l w = some m →
      m = .wrote i (key a) position)
    (herror : ∀ w e, (f w).1 = .error e → positionMark req i l w = none) :
    Safe (positionProtocol w₀ req).contract i (Owes i key position) (Process.atomic l err f) s := by
  refine Protocol.safe_call hf fun s₁ hr _ => ?_
  have hs₁ := hJ.stable hs hr
  refine ⟨fun _ => ⟨hper s₁ hs₁, fun _ => ?_⟩, fun _ => ?_⟩
  · cases hresult : (f s₁.state).1 with
    | ok a =>
        refine Safe.ret fun s₂ hr₂ _ => lasting_wroteOnly.stable (fun m hm hi => ?_) hr₂
        rcases Snapshot.mem_after.1 hm with hnew | hold
        · rw [hok s₁.state a m hresult hnew, decide_eq_true rfl, Bool.or_true]
        · exact (hread s₁ hs₁).wroteOnly m hold hi
    | error e =>
        refine Safe.raise fun s₂ hr₂ _ => lasting_paid_position.stable ?_ hr₂
        change Paid i ((positionMark req i l s₁.state).toList ++ s₁.marks)
        rw [herror s₁.state e hresult]
        exact (hread s₁ hs₁).paid
  · exact Safe.raise fun s₂ hr₂ _ => lasting_paid_position.stable (hread s₁ hs₁).paid hr₂

/-- The update writes the fix, if there is one, over what was read. -/
def Writes (req : ι → PositionRequest) (i : ι) (data : DeviceData) (row : Device) : Prop :=
  ∀ now before, (data.apply now before).position = ((req i).gps.getD {}).positionOn row

theorem safe_updateDevice {data : DeviceData} {row : Device} (hs : ReadOnly i s)
    (hseen : lastSeen i s.marks = some row) (hdata : Writes req i data row) :
    Safe (positionProtocol w₀ req).contract i
      (Owes i (fun _ => row.id) ((req i).gps.bind GpsLocationDto.point))
      (DeviceService.updateDevice row.id data) s := by
  refine safe_firstStatement rfl (lasting_readOnly.and (lasting_seen (some row)))
    ⟨hs, hseen⟩ (fun _ h => h.1) (fun s₁ h => ⟨h.1.not_copied, row, h.2, rfl, hdata⟩)
    (fun w _ m hcheck hm => ?_) fun w e hcheck => ?_
  · change w.checkDeviceUpdate row.id data = _ at hcheck
    simp only [positionMark, hcheck] at hm
    obtain ⟨gps, hgps, rfl⟩ := Option.map_eq_some_iff.1 hm
    rw [hgps, Option.bind_some]
  · change w.checkDeviceUpdate row.id data = _ at hcheck
    simp [positionMark, hcheck]

theorem safe_createDevice {device : Device} (hs : ReadOnly i s) :
    Safe (positionProtocol w₀ req).contract i (Owes i (fun id => id) device.position)
      (DeviceService.createDevice device) s := by
  refine safe_firstStatement rfl lasting_readOnly hs (fun _ h => h)
    (fun _ h => h.not_copied) (fun w id m hcheck hm => ?_) fun w e hcheck => ?_
  · obtain ⟨_, hresult, rfl⟩ := except_map_eq_ok.1 hcheck
    simp only [positionMark, hresult] at hm
    exact (Option.some.inj hm).symm
  · simp [positionMark, except_map_eq_error.1 hcheck]

/-- The two statements, one after the other. -/
theorem safe_bothStatements {α β : Type} {p : DeviceProcess α} {key : α → ℕ}
    {gps : Option GpsLocationDto} {k : α → DeviceProcess β}
    (hp : Safe (positionProtocol w₀ req).contract i
      (Owes i key (gps.bind GpsLocationDto.point)) p s)
    (hk : ∀ a, PositionQuiet req i (fun m => decide (m.thread = i) && m.isWrote) (k a)) :
    Safe (positionProtocol w₀ req).contract i (fun _ s' => Paid i s'.marks)
      (p >>= fun a => DeviceService.setGpsPoint (key a) gps >>= fun _ => k a) s := by
  apply Safe.bind
  refine Safe.mono hp fun r s' _ hs' => ?_
  cases r with
  | ok a => exact safe_paid_bind (safe_setGpsPoint hs') fun _ => hk a
  | error e => exact hs'

omit [DecidableEq ι] in
theorem writes_registerData {dto : RegisterDeviceDto} {userId : ℕ} {now : Time} {existing : Device}
    (hreq : req i = .register dto userId) :
    Writes req i (DeviceService.registerData existing dto now) existing := by
  intro t before
  rw [hreq, PositionRequest.gps]
  cases hgps : dto.location.bind DeviceLocationDto.gps <;>
    simp [Device.position, DeviceService.registerData, DeviceService.gpsData, DeviceData.apply,
      GpsLocationDto.positionOn, hgps]

omit [DecidableEq ι] in
theorem writes_locationData {deviceId userId : ℕ} {dto : UpdateLocationDto} {now : Time}
    {existing : Device} (hreq : req i = .updateLocation deviceId dto userId) :
    Writes req i (DeviceService.locationData existing dto now) existing := by
  intro t before
  rw [hreq, PositionRequest.gps]
  cases hgps : dto.gps <;>
    simp [Device.position, DeviceService.locationData, DeviceService.gpsData, DeviceData.apply,
      GpsLocationDto.positionOn, hgps]

theorem position_newDevice {dto : RegisterDeviceDto} {userId : ℕ} {now : Time} :
    (DeviceService.newDevice dto userId now).position =
      (dto.location.bind DeviceLocationDto.gps).bind GpsLocationDto.point := by
  cases hgps : dto.location.bind DeviceLocationDto.gps <;>
    simp [Device.position, DeviceService.newDevice, GpsLocationDto.point, hgps]

omit [DecidableEq ι] in
/-- A thread that has only read may read again. -/
theorem ReadOnly.after {l : DeviceCall} {next : World → World} (h : ReadOnly i s)
    (hl : ∀ m, positionMark req i l s.state = some m → m.isRead = true) :
    ReadOnly i (s.after (positionMark req) i l next) := by
  intro m hm hi
  rcases Snapshot.mem_after.1 hm with hnew | hold
  · exact hl m hnew
  · exact h m hold hi

theorem lastSeen_after {l : DeviceCall} {next : World → World} {d : Device}
    (h : positionMark req i l s.state = some (.read i d)) :
    lastSeen i (s.after (positionMark req) i l next).marks = some d := by
  unfold Snapshot.after
  rw [h]
  exact lastSeen_read d s.marks

theorem safe_upsertDevice_position {dto : RegisterDeviceDto} {userId : ℕ} {now : Time}
    {existing : Option Device} (hreq : req i = .register dto userId) (hs : ReadOnly i s)
    (hseen : ∀ d, existing = some d → lastSeen i s.marks = some d) :
    Safe (positionProtocol w₀ req).contract i (fun _ s' => Paid i s'.marks)
      (DeviceService.upsertDevice dto userId now existing) s := by
  have hgps : (req i).gps = dto.location.bind DeviceLocationDto.gps := by
    rw [hreq, PositionRequest.gps]
  unfold DeviceService.upsertDevice
  cases existing with
  | some existing =>
      have hwrites : Writes req i (DeviceService.registerData existing dto now) existing :=
        writes_registerData hreq
      have hupdate : Safe (positionProtocol w₀ req).contract i
          (Owes i (fun _ => existing.id) ((req i).gps.bind GpsLocationDto.point))
          (DeviceService.updateDevice existing.id _) s :=
        safe_updateDevice hs (hseen existing rfl) hwrites
      rw [hgps] at hupdate
      exact safe_bothStatements hupdate fun _ => trivial
  | none =>
      have hcreate : Safe (positionProtocol w₀ req).contract i (Owes i (fun id => id) _)
          (DeviceService.createDevice (DeviceService.newDevice dto userId now)) s :=
        safe_createDevice hs
      rw [position_newDevice] at hcreate
      exact safe_bothStatements hcreate fun _ => trivial

theorem safe_register_position {dto : RegisterDeviceDto} {userId : ℕ}
    (hreq : req i = .register dto userId) (hs : ReadOnly i s) :
    Safe (positionProtocol w₀ req).contract i (fun _ s' => Paid i s'.marks)
      (DeviceService.register dto userId) s := by
  unfold DeviceService.register
  refine lasting_readOnly.guarded_bind hs (dateNow_positionQuiet _) (fun now s₁ _ hs₁ => ?_)
    fun _ _ _ _ h => h.paid
  refine lasting_readOnly.call_bind hs₁ (by rfl) (fun _ _ _ _ => trivial) (fun s₂ _ hs₂ => ?_)
    fun _ _ _ h => h.paid
  refine safe_paid_bind (safe_upsertDevice_position hreq (hs₂.after fun m hm => ?_)
    fun d hd => lastSeen_after ?_) fun id => respond_positionQuiet id _
  · obtain ⟨d, -, rfl⟩ := Option.map_eq_some_iff.1 hm
    rfl
  · exact congrArg (Option.map (MirrorMark.read i)) hd

/-- The position of the device is the last that was read, and nothing else was done. -/
def Found (i : ι) (deviceId : ℕ) : Except AppError Device → PositionSnapshot ι → Prop
  | .ok d, s => ReadOnly i s ∧ lastSeen i s.marks = some d ∧ d.id = deviceId
  | .error _, s => Paid i s.marks

theorem safe_findOwned_position (deviceId userId : ℕ) (hs : ReadOnly i s) :
    Safe (positionProtocol w₀ req).contract i (Found i deviceId)
      (DeviceService.findOwned deviceId userId) s := by
  unfold DeviceService.findOwned
  refine lasting_readOnly.call_bind hs (by rfl) (fun _ _ _ _ => trivial) (fun s₁ _ hs₁ => ?_)
    fun _ _ _ h => h.paid
  have hs₂ : ReadOnly i (s₁.after (positionMark req) i (deviceFindOwned deviceId userId)
      (deviceFindOwned deviceId userId).effect) := hs₁.after fun m hm => by
    obtain ⟨d, -, rfl⟩ := Option.map_eq_some_iff.1 hm
    rfl
  cases hrow : s₁.state.ownedDevice deviceId userId with
  | none => exact Safe.raise fun _ hr _ => (lasting_readOnly.stable hs₂ hr).paid
  | some d =>
      have hid : d.id = deviceId := Table.key_of_find? (Option.filter_eq_some_iff.1 hrow).1
      have hseen : lastSeen i (s₁.after (positionMark req) i (deviceFindOwned deviceId userId)
          (deviceFindOwned deviceId userId).effect).marks = some d :=
        lastSeen_after (congrArg (Option.map (MirrorMark.read i)) hrow)
      refine Safe.ret fun s₃ hr _ => ?_
      obtain ⟨hread, hseen₃⟩ := (lasting_readOnly.and (lasting_seen _)).stable ⟨hs₂, hseen⟩ hr
      exact ⟨hread, hseen₃, hid⟩

theorem safe_updateLocation_position {deviceId userId : ℕ} {dto : UpdateLocationDto}
    (hreq : req i = .updateLocation deviceId dto userId) (hs : ReadOnly i s) :
    Safe (positionProtocol w₀ req).contract i (fun _ s' => Paid i s'.marks)
      (DeviceService.updateLocation deviceId dto userId) s := by
  unfold DeviceService.updateLocation
  apply Safe.bind
  refine Safe.mono (safe_findOwned_position deviceId userId hs) fun r s₁ _ hs₁ => ?_
  cases r with
  | error e => exact hs₁
  | ok d =>
      obtain ⟨hread, hseen, rfl⟩ := hs₁
      refine (lasting_readOnly.and (lasting_seen _)).guarded_bind ⟨hread, hseen⟩
        (dateNow_positionQuiet _) (fun now s₂ _ hs₂ => ?_) fun _ _ _ _ h => h.1.paid
      have hwrites : Writes req i (DeviceService.locationData d dto now) d :=
        writes_locationData hreq
      have hupdate : Safe (positionProtocol w₀ req).contract i
          (Owes i (fun _ => d.id) ((req i).gps.bind GpsLocationDto.point))
          (DeviceService.updateDevice d.id _) s₂ :=
        safe_updateDevice hs₂.1 hs₂.2 hwrites
      rw [hreq, PositionRequest.gps] at hupdate
      exact safe_bothStatements hupdate fun _ => respond_positionQuiet d.id _

theorem safe_positionRequest (hs : ReadOnly i s) :
    Safe (positionProtocol w₀ req).contract i (fun _ s' => Paid i s'.marks) (req i).process s := by
  cases hreq : req i with
  | register dto userId =>
      exact safe_paid_bind (safe_register_position hreq hs) fun _ => trivial
  | updateLocation deviceId dto userId =>
      exact safe_paid_bind (safe_updateLocation_position hreq hs) fun _ => trivial

end Threads

/-- In every run in which each step sets the points in the order of the fixes, each fix comes with
the coordinates that its device has got, and no failure hits a statement that sets a point: once the
calls have ended, the point of each device is that of its coordinates. -/
theorem positionsAgree_of_setsInOrder {ι : Type*} [DecidableEq ι] (w₀ : World)
    (req : ι → PositionRequest) (hagree : w₀.PositionsAgree)
    (hfresh : ∀ d ∈ w₀.devices.rows, d.id < w₀.nextDevice)
    {c : Config ι World DeviceCall AppError Unit (PositionMark ι)}
    (h : Reaches (orderlySetting w₀ req) (Config.init w₀ fun i => (req i).process) c)
    (hended : c.Ended) : c.state.PositionsAgree := by
  have hstart : Mirrored w₀.gpsPoint w₀.positionOf w₀.pointOf ([] : List (PositionMark ι)) := by
    refine .nil (fun k v hv => ?_) fun k c v hc hv => ?_
    · obtain ⟨d, hd, hv⟩ := positionOf_eq_some_iff.1 hv
      rw [World.gpsPoint, hd]
      exact hagree d (Table.mem_of_find? hd) v hv
    · obtain ⟨d, hd, rfl⟩ := pointOf_eq_some_iff.1 hc
      rwa [World.gpsPoint, hd] at hv
  have hsound : Sound (positionProtocol w₀ req).contract (fun i _ s => Paid i s.marks)
      (Config.init w₀ fun i => (req i).process) :=
    ⟨⟨hfresh, hstart⟩, fun i => safe_positionRequest fun _ hm => absurd hm List.not_mem_nil⟩
  have hc := hsound.reaches h
  have hpaid : ∀ i, Paid i c.marks := by
    intro i
    have hi := hended i
    cases hpool : c.pool i with
    | ret a => exact hc.result hpool
    | raise e => exact hc.exception hpool
    | call l next rest fault =>
        rw [hpool] at hi
        cases hi
  intro d hd point hpoint
  have hfind : c.state.devices.find? d.id = some d := Table.find?_of_mem hd
  exact hc.1.mirrored.eq_of_settled (settled_of_paid hpaid)
    (positionOf_eq_some_iff.2 ⟨d, hfind, hpoint⟩) (pointOf_eq_some_iff.2 ⟨d, hfind, rfl⟩)

section Runs

/-- A device whose position was set once. -/
def placedDevice : Device where
  id := 1
  user_id := 2
  device_uuid := "uuid"
  gps_lat := some 1
  gps_lon := some 2
  gps_point := some ⟨2, 1⟩

def placedWorld : World where
  devices := Table.empty.insertNew placedDevice
  nextDevice := 2

def moveTo (latitude longitude : ℚ) : PositionRequest :=
  .updateLocation 1 { gps := some { latitude := some latitude, longitude := some longitude } } 2

/-- Two fixes come in. -/
def twoFixes : Fin 2 → PositionRequest
  | 0 => moveTo 10 20
  | 1 => moveTo 30 40

/-- Postal codes are set while a fix comes in. -/
def codesWithFix : Fin 2 → PositionRequest
  | 0 => .updateLocation 1 { postal_codes := some ["1000"] } 2
  | 1 => moveTo 30 40

/-- A fix comes in without its longitude, after another one. -/
def fixAndHalf : Fin 2 → PositionRequest
  | 0 => moveTo 10 20
  | 1 => .updateLocation 1 { gps := some { latitude := some 30 } } 2

def positionPool (req : Fin 2 → PositionRequest) :
    Config (Fin 2) World DeviceCall AppError Unit (PositionMark (Fin 2)) :=
  Config.init placedWorld fun i => (req i).process

theorem positionsAgree_placedWorld : placedWorld.PositionsAgree := by
  intro d hd point hpoint
  obtain rfl : d = placedDevice := List.mem_singleton.1 hd
  exact hpoint

/-- Both fixes are written before the points are set, in the same order. -/
def orderedRun : Config (Fin 2) World DeviceCall AppError Unit (PositionMark (Fin 2)) :=
  (positionPool twoFixes).schedule (positionMark twoFixes) [0, 0, 1, 1, 0, 1, 0, 1, 0, 0, 1, 1]

theorem positionsAgree_orderedRun : orderedRun.state.PositionsAgree := by
  have hreach : Reaches (orderlySetting placedWorld twoFixes) (positionPool twoFixes) orderedRun :=
    Reaches.scheduleOk (fun i l s => decide (SetsInOrder placedWorld twoFixes i l s))
      (fun i l s h => (of_decide_eq_true h : SetsInOrder placedWorld twoFixes i l s))
      (by decide +kernel)
  have hended : orderedRun.Ended := by
    unfold Config.Ended
    decide +kernel
  exact positionsAgree_of_setsInOrder placedWorld twoFixes positionsAgree_placedWorld
    (by decide) hreach hended

/-- The calls have ended, and the point of a device is not that of its coordinates. -/
def EndsApart (req : Fin 2 → PositionRequest) (fails : DeviceCall → Prop) : Prop :=
  ∃ c, Reaches (positionSetting req fails fun _ _ _ => True) (positionPool req) c ∧ c.Ended ∧
    ¬ c.state.PositionsAgree

theorem not_positionsAgree_of_mem {w : World} {point : Point}
    (h : ∃ d ∈ w.devices.rows, d.position = some point ∧ d.gps_point ≠ some point) :
    ¬ w.PositionsAgree := by
  obtain ⟨d, hd, hposition, hpoint⟩ := h
  exact fun hagree => hpoint (hagree d hd point hposition)

/-- Two fixes that cross, a position that is written back after a fix, a fix without its longitude,
and a failure between the two statements of a fix. -/
theorem not_positionsAgree :
    placedWorld.PositionsAgree ∧ EndsApart twoFixes (fun _ => False) ∧
      EndsApart codesWithFix (fun _ => False) ∧ EndsApart fixAndHalf (fun _ => False) ∧
      EndsApart twoFixes fun _ => True := by
  refine ⟨positionsAgree_placedWorld, ?_, ?_, ?_, ?_⟩
  · refine ⟨(positionPool twoFixes).schedule (positionMark twoFixes)
      [0, 0, 0, 1, 1, 1, 1, 0, 0, 0, 1, 1], Reaches.schedule (fun _ _ _ => trivial) _ _, ?_, ?_⟩
    · unfold Config.Ended
      decide +kernel
    · exact @not_positionsAgree_of_mem _ ⟨40, 30⟩ (by decide +kernel)
  · refine ⟨(positionPool codesWithFix).schedule (positionMark codesWithFix)
      [0, 0, 1, 1, 1, 1, 1, 1, 0, 0, 0], Reaches.schedule (fun _ _ _ => trivial) _ _, ?_, ?_⟩
    · unfold Config.Ended
      decide +kernel
    · exact @not_positionsAgree_of_mem _ ⟨2, 1⟩ (by decide +kernel)
  · refine ⟨(positionPool fixAndHalf).schedule (positionMark fixAndHalf)
      [0, 0, 0, 0, 0, 0, 1, 1, 1, 1, 1, 1], Reaches.schedule (fun _ _ _ => trivial) _ _, ?_, ?_⟩
    · unfold Config.Ended
      decide +kernel
    · exact @not_positionsAgree_of_mem _ ⟨20, 30⟩ (by decide +kernel)
  · refine ⟨((positionPool twoFixes).schedule (positionMark twoFixes)
      [1, 1, 1, 1, 1, 1, 0, 0, 0]).drop 0,
      (Reaches.schedule (fun _ _ _ => trivial) _ _).trans (Reaches.drop fun _ => trivial), ?_, ?_⟩
    · unfold Config.Ended
      decide +kernel
    · exact @not_positionsAgree_of_mem _ ⟨20, 10⟩ (by decide +kernel)

end Runs

end FifiAlert
