import FifiAlert.Concurrency.Since
import FifiAlert.Device.DeviceService

/-!
# What device writes leave alone

A registration without a push token, and a location without a GPS fix or without postal codes,
write these columns back as they were read. So they are left alone if and only if each update
finds them as its call has read them.
-/

namespace FifiAlert

open Concurrency Store DeviceCall

/-- A request that writes to a device; the processor clears a dead token. -/
inductive DeviceRequest where
  | register (dto : RegisterDeviceDto) (userId : ℕ)
  | updateLocation (deviceId : ℕ) (dto : UpdateLocationDto) (userId : ℕ)
  | updatePushToken (deviceId : ℕ) (pushToken : String) (userId : ℕ)
  | clearToken (deviceId : ℕ)

namespace DeviceRequest

def process : DeviceRequest → DeviceProcess Unit
  | register dto userId => do
      let _ ← DeviceService.register dto userId
      return ()
  | updateLocation deviceId dto userId => do
      let _ ← DeviceService.updateLocation deviceId dto userId
      return ()
  | updatePushToken deviceId pushToken userId => do
      let _ ← DeviceService.updatePushToken deviceId pushToken userId
      return ()
  | clearToken deviceId => (NotificationQueueProcessor.clearToken deviceId).relabel .notification

/-- A registration without a push token. -/
def lacksToken : DeviceRequest → Bool
  | register dto _ => (Js.truthy dto.push_token).isNone
  | _ => false

/-- A registration or a location without a GPS fix. -/
def lacksFix : DeviceRequest → Bool
  | register dto _ => (dto.location.bind DeviceLocationDto.gps).isNone
  | updateLocation _ dto _ => dto.gps.isNone
  | _ => false

/-- A registration or a location without postal codes. -/
def lacksPostalCodes : DeviceRequest → Bool
  | register dto _ => (dto.location.bind DeviceLocationDto.postalCodes).isNone
  | updateLocation _ dto _ => dto.postal_codes.isNone
  | _ => false

end DeviceRequest

/-- The GPS columns of a device, apart from the geometry. -/
structure GpsColumns where
  gps_lat : Option ℚ
  gps_lon : Option ℚ
  gps_accuracy_meters : Option ℚ
  gps_updated_at : Option Time
  deriving DecidableEq

def Device.gpsColumns (d : Device) : GpsColumns :=
  ⟨d.gps_lat, d.gps_lon, d.gps_accuracy_meters, d.gps_updated_at⟩

/-- Two rows agree on the columns that a request reads and writes back. -/
structure SameUngiven (req : DeviceRequest) (d d' : Device) : Prop where
  push_token : req.lacksToken = true → d.push_token = d'.push_token
  gps : req.lacksFix = true → d.gpsColumns = d'.gpsColumns
  postal_codes : req.lacksPostalCodes = true → d.postal_codes = d'.postal_codes

/-- A write changes no column that the request was not given. -/
structure KeepsUngiven (req : DeviceRequest) (before after : Device) : Prop extends
    SameUngiven req before after where
  gps_point : req.lacksFix = true → before.gps_point = after.gps_point

section Ungiven

variable {req : DeviceRequest} {d d' d'' : Device}

instance : Decidable (SameUngiven req d d') :=
  decidable_of_iff ((req.lacksToken = true → d.push_token = d'.push_token) ∧
    (req.lacksFix = true → d.gpsColumns = d'.gpsColumns) ∧
    (req.lacksPostalCodes = true → d.postal_codes = d'.postal_codes))
    ⟨fun h => ⟨h.1, h.2.1, h.2.2⟩, fun h => ⟨h.push_token, h.gps, h.postal_codes⟩⟩

theorem SameUngiven.symm (h : SameUngiven req d d') : SameUngiven req d' d where
  push_token := fun hl => (h.push_token hl).symm
  gps := fun hl => (h.gps hl).symm
  postal_codes := fun hl => (h.postal_codes hl).symm

theorem SameUngiven.trans (h : SameUngiven req d d') (h' : SameUngiven req d' d'') :
    SameUngiven req d d'' where
  push_token := fun hl => (h.push_token hl).trans (h'.push_token hl)
  gps := fun hl => (h.gps hl).trans (h'.gps hl)
  postal_codes := fun hl => (h.postal_codes hl).trans (h'.postal_codes hl)

end Ungiven

/-- The notable calls: a thread read the row of a device, it updated one, or it set its point. -/
inductive DeviceMark (ι : Type*) where
  | read (thread : ι) (row : Device)
  | updated (thread : ι) (before after : Device)
  | placed (thread : ι) (before after : Device)
  deriving DecidableEq

abbrev DeviceSnapshot (ι : Type*) := Snapshot World (DeviceMark ι)

/-- The row of a device before and after a call. -/
def DeviceCall.rowChange (l : DeviceCall) (w : World) (id : ℕ) : Option (Device × Device) :=
  (w.devices.find? id).bind fun before =>
    ((l.effect w).devices.find? id).map fun after => (before, after)

def deviceMark {ι : Type*} (i : ι) (l : DeviceCall) (w : World) : Option (DeviceMark ι) :=
  match l with
  | deviceFindByUuid device_uuid userId => (w.registeredDevice device_uuid userId).map (.read i)
  | deviceFindOwned id userId => (w.ownedDevice id userId).map (.read i)
  | deviceUpdate id data =>
      if (w.checkDeviceUpdate id data).isOk then
        (rowChange (deviceUpdate id data) w id).map fun r => .updated i r.1 r.2
      else none
  | deviceSetGpsPoint id point =>
      (rowChange (deviceSetGpsPoint id point) w id).map fun r => .placed i r.1 r.2
  | _ => none

section Marks

variable {ι : Type*}

/-- A write in the history leaves the columns alone that its request was not given. -/
def DeviceMark.Keeps (req : ι → DeviceRequest) : DeviceMark ι → Prop
  | read _ _ => True
  | updated i before after => KeepsUngiven (req i) before after
  | placed i before after => KeepsUngiven (req i) before after

variable [DecidableEq ι]

/-- The thread read a row. -/
def DeviceMark.isRead (i : ι) : DeviceMark ι → Bool
  | read j _ => j = i
  | _ => false

/-- The row that a thread read last. -/
def lastRead (i : ι) : List (DeviceMark ι) → Option Device
  | [] => none
  | .read j row :: marks => if j = i then some row else lastRead i marks
  | _ :: marks => lastRead i marks

/-- Each update finds the columns that it writes back as its thread has read them. -/
def FoundAsRead (req : ι → DeviceRequest) : List (DeviceMark ι) → Prop
  | [] => True
  | .updated i before _ :: marks =>
      (∀ row ∈ lastRead i marks, SameUngiven (req i) row before) ∧ FoundAsRead req marks
  | _ :: marks => FoundAsRead req marks

instance instDecidableFoundAsRead (req : ι → DeviceRequest) :
    ∀ marks, Decidable (FoundAsRead req marks)
  | [] => inferInstanceAs (Decidable True)
  | .read _ _ :: marks => instDecidableFoundAsRead req marks
  | .placed _ _ _ :: marks => instDecidableFoundAsRead req marks
  | .updated _ _ _ :: marks =>
      have := instDecidableFoundAsRead req marks
      inferInstanceAs (Decidable (_ ∧ _))

end Marks

section Data

variable {existing before : Device} {now t : Time}

/-- What `register` writes into the columns that it was not given is what it has read. -/
theorem sameUngiven_registerData (dto : RegisterDeviceDto) (userId : ℕ) :
    SameUngiven (.register dto userId) existing
      ((DeviceService.registerData existing dto now).apply t before) where
  push_token := fun h => by
    simp only [DeviceRequest.lacksToken, Option.isNone_iff_eq_none] at h
    simp [DeviceService.registerData, DeviceData.apply, h]
  gps := fun h => by
    simp only [DeviceRequest.lacksFix, Option.isNone_iff_eq_none] at h
    simp [Device.gpsColumns, DeviceService.registerData, DeviceService.gpsData, DeviceData.apply, h]
  postal_codes := fun h => by
    simp only [DeviceRequest.lacksPostalCodes, Option.isNone_iff_eq_none] at h
    simp [DeviceService.registerData, DeviceData.apply, h]

/-- So does `updateLocation`. -/
theorem sameUngiven_locationData (deviceId : ℕ) (dto : UpdateLocationDto) (userId : ℕ) :
    SameUngiven (.updateLocation deviceId dto userId) existing
      ((DeviceService.locationData existing dto now).apply t before) where
  push_token := nofun
  gps := fun h => by
    simp only [DeviceRequest.lacksFix, Option.isNone_iff_eq_none] at h
    simp [Device.gpsColumns, DeviceService.locationData, DeviceService.gpsData, DeviceData.apply, h]
  postal_codes := fun h => by
    simp only [DeviceRequest.lacksPostalCodes, Option.isNone_iff_eq_none] at h
    simp [DeviceService.locationData, DeviceData.apply, h]

end Data

section Effect

variable {ι : Type*} {i : ι} {w : World} {id : ℕ}

theorem find?_deviceUpdate {data : DeviceData} (h : (w.checkDeviceUpdate id data).isOk = true) :
    ((deviceUpdate id data).effect w).devices.find? id =
      (w.devices.find? id).map (data.apply w.now) := by
  change (onDevices w (deviceUpdate id data)).find? id = _
  rw [onDevices, if_pos h, Table.find?_updateMany_self]

theorem find?_deviceSetGpsPoint (point : Option Point) :
    ((deviceSetGpsPoint id point).effect w).devices.find? id =
      (w.devices.find? id).map fun row => { row with gps_point := point } := by
  change (onDevices w (deviceSetGpsPoint id point)).find? id = _
  rw [onDevices, Table.find?_updateMany_self]

/-- The mark of an update: the row that was there, with the columns written. -/
theorem updated_of_mark {data : DeviceData} {m : DeviceMark ι}
    (h : deviceMark i (deviceUpdate id data) w = some m) :
    ∃ before, w.devices.find? id = some before ∧
      m = .updated i before (data.apply w.now before) := by
  simp only [deviceMark] at h
  split at h
  next hok =>
    obtain ⟨r, hr, rfl⟩ := Option.map_eq_some_iff.1 h
    obtain ⟨before, hbefore, hr⟩ := Option.bind_eq_some_iff.1 hr
    rw [find?_deviceUpdate hok, hbefore] at hr
    cases hr
    exact ⟨before, hbefore, rfl⟩
  next => cases h

theorem placed_of_mark {point : Option Point} {m : DeviceMark ι}
    (h : deviceMark i (deviceSetGpsPoint id point) w = some m) :
    ∃ before, w.devices.find? id = some before ∧
      m = .placed i before { before with gps_point := point } := by
  obtain ⟨r, hr, rfl⟩ := Option.map_eq_some_iff.1 h
  obtain ⟨before, hbefore, hr⟩ := Option.bind_eq_some_iff.1 hr
  rw [find?_deviceSetGpsPoint, hbefore] at hr
  cases hr
  exact ⟨before, hbefore, rfl⟩

end Effect

section Protocol

variable {ι : Type*} [DecidableEq ι]

/-- The surroundings may change everything. -/
def deviceSetting {ι : Type*} (fails : DeviceCall → Prop) :
    Setting ι World DeviceCall (DeviceMark ι) where
  mark := deviceMark
  env := fun _ _ => True
  mayFail := fails
  admits := fun _ _ _ => True

/-- An update writes back what its thread has read; a point is set with a fix. -/
def WritesBack (req : ι → DeviceRequest) (i : ι) (l : DeviceCall) (s : DeviceSnapshot ι) : Prop :=
  match l with
  | deviceUpdate _ data => ∃ row, lastRead i s.marks = some row ∧
      ∀ now before, SameUngiven (req i) row (data.apply now before)
  | deviceSetGpsPoint _ _ => (req i).lacksFix = false
  | _ => True

/-- The invariant of the history: each write keeps what it was not given, if and only if each
update found it as it was read. -/
def KeptIffFound (req : ι → DeviceRequest) (marks : List (DeviceMark ι)) : Prop :=
  (∀ m ∈ marks, m.Keeps req) ↔ FoundAsRead req marks

variable {req : ι → DeviceRequest} {i : ι} {l : DeviceCall} {s : DeviceSnapshot ι}

/-- An update that writes back what was read keeps it if and only if it found it. -/
theorem keepsUngiven_iff {row before : Device} {data : DeviceData} {now : Time}
    {req : DeviceRequest} (h : SameUngiven req row (data.apply now before)) :
    KeepsUngiven req before (data.apply now before) ↔ SameUngiven req row before := by
  constructor
  · exact fun hkeeps => h.trans hkeeps.toSameUngiven.symm
  · exact fun hfound => { hfound.symm.trans h with gps_point := fun _ => rfl }

theorem KeptIffFound.call (hinv : KeptIffFound req s.marks) (hper : WritesBack req i l s) :
    KeptIffFound req (s.after deviceMark i l l.effect).marks := by
  change KeptIffFound req ((deviceMark i l s.state).toList ++ s.marks)
  cases hm : deviceMark i l s.state with
  | none => exact hinv
  | some m =>
      unfold KeptIffFound at hinv ⊢
      rw [Option.toList_some, List.singleton_append, List.forall_mem_cons]
      cases l with
      | deviceFindByUuid device_uuid userId | deviceFindOwned id userId =>
          obtain ⟨row, -, rfl⟩ := Option.map_eq_some_iff.1 hm
          exact (and_iff_right trivial).trans hinv
      | deviceUpdate id data =>
          obtain ⟨before, -, rfl⟩ := updated_of_mark hm
          obtain ⟨row, hread, hback⟩ := hper
          rw [hinv, FoundAsRead, hread]
          refine and_congr_left' ((keepsUngiven_iff (hback _ _)).trans ?_)
          simp only [Option.mem_def, Option.some.injEq, forall_eq']
      | deviceSetGpsPoint id point =>
          obtain ⟨before, -, rfl⟩ := placed_of_mark hm
          have hfix : (req i).lacksFix ≠ true := Bool.eq_false_iff.1 hper
          have hkeeps : KeepsUngiven (req i) before { before with gps_point := point } :=
            { push_token := fun _ => rfl, gps := fun _ => rfl, postal_codes := fun _ => rfl
              gps_point := fun h => absurd h hfix }
          exact (and_iff_right hkeeps).trans hinv
      | _ => cases hm

/-- The protocol of the device writes. -/
def deviceProtocol (req : ι → DeviceRequest) (fails : DeviceCall → Prop) :
    Protocol (deviceSetting (ι := ι) fails) where
  effect := DeviceCall.effect
  permits := WritesBack req
  inv := fun s => KeptIffFound req s.marks
  inv_call := fun hinv hper _ => hinv.call hper
  inv_env := fun _ hinv => hinv

variable {fails : DeviceCall → Prop}

theorem thread_of_isRead {w : World} {j : ι} {m : DeviceMark ι} (h : deviceMark j l w = some m)
    (hread : m.isRead i = true) : j = i := by
  cases l with
  | deviceFindByUuid device_uuid userId | deviceFindOwned id userId =>
      obtain ⟨row, -, rfl⟩ := Option.map_eq_some_iff.1 h
      exact of_decide_eq_true hread
  | deviceUpdate id data =>
      obtain ⟨before, -, rfl⟩ := updated_of_mark h
      cases hread
  | deviceSetGpsPoint id point =>
      obtain ⟨before, -, rfl⟩ := placed_of_mark h
      cases hread
  | _ => cases h

theorem lastRead_cons {m : DeviceMark ι} {marks : List (DeviceMark ι)} (h : m.isRead i = false) :
    lastRead i (m :: marks) = lastRead i marks := by
  cases m with
  | read j row => exact if_neg (of_decide_eq_false h)
  | updated j before after => rfl
  | placed j before after => rfl

/-- The last read stays the last until the thread reads again. -/
theorem lasting_lastRead (row : Device) :
    (deviceProtocol req fails).Lasting i (DeviceMark.isRead i)
      fun s => lastRead i s.marks = some row where
  call := by
    intro j l s _ _ _ hask h
    change lastRead i ((deviceMark j l s.state).toList ++ s.marks) = some row
    cases hm : deviceMark j l s.state with
    | none => exact h
    | some m =>
        rw [Option.toList_some, List.singleton_append, lastRead_cons (hask m hm)]
        exact h
  env := fun _ _ _ _ _ h => h
  own := fun _ _ _ _ hm h => thread_of_isRead hm h

end Protocol

section Threads

variable {ι : Type*} [DecidableEq ι] {req : ι → DeviceRequest} {fails : DeviceCall → Prop}
  {i : ι} {s : DeviceSnapshot ι}

/-- The process makes permitted calls only, and reads no row of the kind. -/
abbrev WritesQuietly {α : Type} (req : ι → DeviceRequest) (i : ι) (asks : DeviceMark ι → Bool)
    (p : DeviceProcess α) : Prop :=
  p.Confined (fun l next => next = l.effect ∧ (∀ s, WritesBack req i l s) ∧
    ∀ w m, deviceMark i l w = some m → asks m = false) fun _ => True

theorem dateNow_writesQuietly (asks : DeviceMark ι → Bool) :
    WritesQuietly req i asks DeviceService.dateNow :=
  Process.confined_query ⟨by rfl, fun _ => trivial, fun _ _ hm => by cases hm⟩ trivial

theorem mapToResponseDto_writesQuietly (device : Device) (savedZoneCount : ℕ)
    (asks : DeviceMark ι → Bool) :
    WritesQuietly req i asks (DeviceService.mapToResponseDto device savedZoneCount) := by
  unfold DeviceService.mapToResponseDto
  exact Process.Confined.bind (dateNow_writesQuietly asks) fun _ => trivial

theorem respond_writesQuietly (deviceId : ℕ) (asks : DeviceMark ι → Bool) :
    WritesQuietly req i asks (DeviceService.respond deviceId) := by
  unfold DeviceService.respond
  refine Process.Confined.bind (Process.confined_query
    ⟨by rfl, fun _ => trivial, fun _ _ hm => by cases hm⟩ trivial) fun found => ?_
  cases found with
  | none => trivial
  | some found => exact mapToResponseDto_writesQuietly found.1 found.2 asks

theorem setGpsPoint_writesQuietly (id : ℕ) {gps : Option GpsLocationDto}
    (hgps : (req i).lacksFix = gps.isNone) :
    WritesQuietly req i (fun _ => false) (DeviceService.setGpsPoint id gps) := by
  cases gps with
  | none => trivial
  | some gps => exact Process.confined_modify ⟨rfl, fun _ => hgps, fun _ _ _ => rfl⟩ trivial

/-- An update of what was read, and then nothing of the kind. -/
theorem safe_deviceUpdate {α β : Type} {id : ℕ} {data : DeviceData} {existing : Device}
    {err : AppError} {f : World → Except AppError α × World} {k : α → DeviceProcess β}
    (hf : (fun w => (f w).2) = (deviceUpdate id data).effect)
    (hs : lastRead i s.marks = some existing)
    (hdata : ∀ now before, SameUngiven (req i) existing (data.apply now before))
    (hk : ∀ a, WritesQuietly req i (fun _ => false) (k a)) :
    Safe (deviceProtocol req fails).contract i (OnReturn fun _ _ => True)
      (Process.atomic (.deviceUpdate id data) err f >>= k) s := by
  have hnothing : (deviceProtocol req fails).Lasting i _ _ := .nothing
  have hupdate : Safe (deviceProtocol req fails).contract i (OnReturn fun _ _ => True)
      (Process.atomic (.deviceUpdate id data) err f) s := by
    refine Protocol.safe_call hf fun s₁ hr _ =>
      ⟨fun _ => ⟨⟨existing, (lasting_lastRead existing).stable hs hr, hdata⟩, fun _ => ?_⟩,
        fun _ => Protocol.safe_onReturn_raise⟩
    cases (f s₁.state).1 with
    | ok a => exact Safe.ret fun _ _ _ => trivial
    | error e => exact Protocol.safe_onReturn_raise
  exact Protocol.safe_onReturn_bind hupdate fun a s₁ _ _ => hnothing.quietly trivial (hk a)

theorem lastRead_after {l : DeviceCall} {row : Device} (next : World → World)
    (h : deviceMark i l s.state = some (.read i row)) :
    lastRead i (s.after deviceMark i l next).marks = some row := by
  unfold Snapshot.after
  rw [h]
  exact if_pos rfl

theorem safe_upsertDevice {dto : RegisterDeviceDto} {userId : ℕ} {now : Time}
    {existing : Option Device} (hreq : req i = .register dto userId)
    (hs : ∀ row, existing = some row → lastRead i s.marks = some row) :
    Safe (deviceProtocol req fails).contract i (OnReturn fun _ _ => True)
      (DeviceService.upsertDevice dto userId now existing) s := by
  have hnothing : (deviceProtocol req fails).Lasting i _ _ := .nothing
  have hpoint : ∀ id, WritesQuietly req i (fun _ => false)
      (DeviceService.setGpsPoint id (dto.location.bind DeviceLocationDto.gps)) :=
    fun id => setGpsPoint_writesQuietly id (by rw [hreq, DeviceRequest.lacksFix])
  unfold DeviceService.upsertDevice
  cases existing with
  | none =>
      refine hnothing.quietly trivial (Process.Confined.bind (Process.confined_atomic
        ⟨rfl, fun _ => trivial, fun _ _ _ => rfl⟩ (fun _ _ _ => trivial) trivial) fun id => ?_)
      exact Process.Confined.bind (hpoint id) fun _ => trivial
  | some existing =>
      refine safe_deviceUpdate rfl (hs existing rfl) (fun t before => ?_)
        fun _ => Process.Confined.bind (hpoint _) fun _ => trivial
      rw [hreq]
      exact sameUngiven_registerData dto userId

theorem safe_register {dto : RegisterDeviceDto} {userId : ℕ} (hreq : req i = .register dto userId) :
    Safe (deviceProtocol req fails).contract i (OnReturn fun _ _ => True)
      (DeviceService.register dto userId) s := by
  have hnothing : (deviceProtocol req fails).Lasting i _ _ := .nothing
  unfold DeviceService.register
  refine hnothing.guarded_bind trivial (dateNow_writesQuietly _) (fun now s₁ _ _ => ?_)
    fun _ _ _ _ _ => trivial
  refine hnothing.query_bind trivial (by rfl) (fun _ => trivial) fun s₂ _ _ => ?_
  have hread : ∀ row, s₂.state.registeredDevice dto.device_uuid userId = some row →
      lastRead i (s₂.after deviceMark i (deviceFindByUuid dto.device_uuid userId)
        (deviceFindByUuid dto.device_uuid userId).effect).marks = some row :=
    fun row hrow => lastRead_after _ (congrArg (Option.map (DeviceMark.read i)) hrow)
  refine Protocol.safe_onReturn_bind (safe_upsertDevice hreq hread) fun id s₃ _ _ => ?_
  exact hnothing.quietly trivial (respond_writesQuietly id _)

/-- The device of a user, which is the last that was read. -/
theorem safe_findOwned_device (deviceId userId : ℕ) :
    Safe (deviceProtocol req fails).contract i
      (OnReturn fun device s' => lastRead i s'.marks = some device)
      (DeviceService.findOwned deviceId userId) s := by
  have hnothing : (deviceProtocol req fails).Lasting i _ _ := .nothing
  unfold DeviceService.findOwned
  refine hnothing.query_bind trivial (by rfl) (fun _ => trivial) fun s₁ _ _ => ?_
  cases hrow : s₁.state.ownedDevice deviceId userId with
  | none => exact Protocol.safe_onReturn_raise
  | some device =>
      have hread : lastRead i (s₁.after deviceMark i (deviceFindOwned deviceId userId)
          (deviceFindOwned deviceId userId).effect).marks = some device :=
        lastRead_after _ (congrArg (Option.map (DeviceMark.read i)) hrow)
      exact (lasting_lastRead device).ret hread fun _ _ h => h

theorem safe_updateLocation {deviceId userId : ℕ} {dto : UpdateLocationDto}
    (hreq : req i = .updateLocation deviceId dto userId) :
    Safe (deviceProtocol req fails).contract i (OnReturn fun _ _ => True)
      (DeviceService.updateLocation deviceId dto userId) s := by
  unfold DeviceService.updateLocation
  refine Protocol.safe_onReturn_bind (safe_findOwned_device deviceId userId)
    fun device s₁ _ hs₁ => ?_
  refine (lasting_lastRead device).guarded_bind hs₁ (dateNow_writesQuietly _)
    (fun now s₂ _ hs₂ => ?_) fun _ _ _ _ _ => trivial
  refine safe_deviceUpdate rfl hs₂ (fun t before => ?_) fun _ => ?_
  · rw [hreq]
    exact sameUngiven_locationData deviceId dto userId
  · have hpoint : WritesQuietly req i (fun _ => false)
        (DeviceService.setGpsPoint deviceId dto.gps) :=
      setGpsPoint_writesQuietly deviceId (by rw [hreq, DeviceRequest.lacksFix])
    exact Process.Confined.bind hpoint fun _ => respond_writesQuietly deviceId _

theorem safe_updatePushToken {deviceId userId : ℕ} {pushToken : String}
    (hreq : req i = .updatePushToken deviceId pushToken userId) :
    Safe (deviceProtocol req fails).contract i (OnReturn fun _ _ => True)
      (DeviceService.updatePushToken deviceId pushToken userId) s := by
  unfold DeviceService.updatePushToken
  refine Protocol.safe_onReturn_bind (safe_findOwned_device deviceId userId)
    fun device s₁ _ hs₁ => ?_
  refine (lasting_lastRead device).guarded_bind hs₁ (dateNow_writesQuietly _)
    (fun now s₂ _ hs₂ => ?_) fun _ _ _ _ _ => trivial
  refine safe_deviceUpdate rfl hs₂ (fun t before => ?_) fun updated => ?_
  · rw [hreq]
    exact ⟨nofun, nofun, nofun⟩
  · cases updated with
    | none => trivial
    | some found => exact mapToResponseDto_writesQuietly found.1 found.2 _

/-- The calls of the processor leave no mark. -/
theorem clearToken_writesQuietly (deviceId : ℕ) :
    WritesQuietly req i (fun _ => false)
      ((NotificationQueueProcessor.clearToken deviceId).relabel DeviceCall.notification) := by
  apply Process.Confined.relabel
  unfold NotificationQueueProcessor.clearToken LocationService.dateNow
  refine Process.Confined.tryCatch (T := fun _ => True) ?_ fun _ _ => trivial
  refine Process.Confined.bind (Process.confined_query
    ⟨by rfl, fun _ => trivial, fun _ _ hm => by cases hm⟩ trivial) fun now => ?_
  exact Process.confined_atomic ⟨rfl, fun _ => trivial, fun _ _ hm => by cases hm⟩
    (fun _ _ _ => trivial) trivial

theorem safe_deviceRequest :
    Safe (deviceProtocol req fails).contract i (OnReturn fun _ _ => True) (req i).process s := by
  have hnothing : (deviceProtocol req fails).Lasting i _ _ := .nothing
  have hret : ∀ s', Safe (deviceProtocol req fails).contract i (OnReturn fun _ _ => True)
      (.ret () : DeviceProcess Unit) s' :=
    fun _ => hnothing.ret trivial fun _ _ _ => trivial
  cases hreq : req i with
  | register dto userId =>
      exact Protocol.safe_onReturn_bind (safe_register hreq) fun _ s₁ _ _ => hret s₁
  | updateLocation deviceId dto userId =>
      exact Protocol.safe_onReturn_bind (safe_updateLocation hreq) fun _ s₁ _ _ => hret s₁
  | updatePushToken deviceId pushToken userId =>
      exact Protocol.safe_onReturn_bind (safe_updatePushToken hreq) fun _ s₁ _ _ => hret s₁
  | clearToken deviceId => exact hnothing.quietly trivial (clearToken_writesQuietly deviceId)

end Threads

/-- In every run of registrations, locations, new push tokens and cleared ones, whatever else
changes: each write leaves the columns alone that its call was not given, if and only if each
update finds the columns that it writes back as its call has read them. -/
theorem deviceWrites_keep_iff {ι : Type*} [DecidableEq ι] (w₀ : World) (req : ι → DeviceRequest)
    (fails : DeviceCall → Prop) {c : Config ι World DeviceCall AppError Unit (DeviceMark ι)}
    (h : Reaches (deviceSetting fails) (Config.init w₀ fun i => (req i).process) c) :
    (∀ m ∈ c.marks, m.Keeps req) ↔ FoundAsRead req c.marks := by
  have hsound : Sound (deviceProtocol req fails).contract
      (fun _ => OnReturn fun _ _ => True) (Config.init w₀ fun i => (req i).process) :=
    ⟨iff_of_true (fun _ hm => absurd hm List.not_mem_nil) trivial, fun i => safe_deviceRequest⟩
  exact (hsound.reaches h).1

section Runs

/-- A device of user 2 with a token that is dead. -/
def deadDevice : Device where
  id := 20
  user_id := 2
  device_uuid := "uuid"
  push_token := some "dead"

def deadDeviceWorld : World where
  devices := Table.empty.insertNew deadDevice

def plainRegistration : RegisterDeviceDto where
  device_uuid := "uuid"
  platform := .WEB
  os_version := "1"
  app_version := "1"

/-- The device is registered again while the processor clears its token. -/
def registerAndClear : Fin 2 → DeviceRequest
  | 0 => .register plainRegistration 2
  | 1 => .clearToken 20

/-- The postal codes are set while a GPS fix comes in. -/
def codesAndFix : Fin 2 → DeviceRequest
  | 0 => .updateLocation 20 { postal_codes := some ["1000"] } 2
  | 1 => .updateLocation 20 { gps := some { latitude := some 10, longitude := some 20 } } 2

def devicePool (req : Fin 2 → DeviceRequest) :
    Config (Fin 2) World DeviceCall AppError Unit (DeviceMark (Fin 2)) :=
  Config.init deadDeviceWorld fun i => (req i).process

theorem reaches_deviceSchedule (req : Fin 2 → DeviceRequest) (is : List (Fin 2)) :
    Reaches (deviceSetting fun _ => False) (devicePool req)
      ((devicePool req).schedule deviceMark is) :=
  Reaches.schedule (fun _ _ _ => trivial) is _

def clearedRun : Config (Fin 2) World DeviceCall AppError Unit (DeviceMark (Fin 2)) :=
  (devicePool registerAndClear).schedule deviceMark [1, 1, 0, 0, 0, 0, 0]

/-- The clearing comes first: the registration finds the token as it has read it, and leaves it
cleared. -/
theorem deviceWrites_keep_iff_cleared :
    FoundAsRead registerAndClear clearedRun.marks ∧
      ∀ m ∈ clearedRun.marks, m.Keeps registerAndClear := by
  have hfound : FoundAsRead registerAndClear clearedRun.marks := by decide +kernel
  exact ⟨hfound, (deviceWrites_keep_iff deadDeviceWorld registerAndClear (fun _ => False)
    (reaches_deviceSchedule _ _)).2 hfound⟩

/-- A registration without a token brings back the dead one, and postal codes without a fix take
away the position that has come in. -/
theorem deviceWrites_undo :
    (∃ c before after, Reaches (deviceSetting fun _ => False) (devicePool registerAndClear) c ∧
      .updated 0 before after ∈ c.marks ∧ (registerAndClear 0).lacksToken = true ∧
      before.push_token = none ∧ after.push_token = some "dead") ∧
    ∃ c before after, Reaches (deviceSetting fun _ => False) (devicePool codesAndFix) c ∧
      .updated 0 before after ∈ c.marks ∧ (codesAndFix 0).lacksFix = true ∧
      before.gps_lat = some 10 ∧ after.gps_lat = none := by
  constructor
  · let before := deadDevice.clearToken 0
    have hmark : .updated 0 before
        ((DeviceService.registerData deadDevice plainRegistration 0).apply 0 before) ∈
          ((devicePool registerAndClear).schedule deviceMark [0, 0, 1, 1, 0, 0, 0]).marks := by
      decide +kernel
    exact ⟨_, _, _, reaches_deviceSchedule _ _, hmark, by decide, rfl, rfl⟩
  · let fix : GpsLocationDto := { latitude := some 10, longitude := some 20 }
    let before := { (DeviceService.locationData deadDevice { gps := some fix } 0).apply 0 deadDevice
      with gps_point := some ⟨20, 10⟩ }
    have hmark : .updated 0 before
        ((DeviceService.locationData deadDevice { postal_codes := some ["1000"] } 0).apply 0
          before) ∈
          ((devicePool codesAndFix).schedule deviceMark
            [0, 0, 1, 1, 1, 1, 1, 1, 0, 0, 0]).marks := by
      decide +kernel
    exact ⟨_, _, _, reaches_deviceSchedule _ _, hmark, by decide, rfl, rfl⟩

end Runs

end FifiAlert
