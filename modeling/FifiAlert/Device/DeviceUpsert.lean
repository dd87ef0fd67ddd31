import FifiAlert.Device.DeviceService

/-!
# Registering a device again

`register` looks for the device of the caller with a uuid, while the table has no two devices with
one uuid and no two with one push token. So it is an upsert that can be repeated, as long as the
uuid is not registered by another account and the token is not stored on another device.
-/

namespace FifiAlert

open Concurrency Store DeviceCall Js

/-- The unique keys of the table of devices; ids are handed out in order. -/
structure World.DeviceKeys (w : World) : Prop where
  uuid : ∀ d ∈ w.devices.rows, ∀ d' ∈ w.devices.rows, d.device_uuid = d'.device_uuid → d = d'
  token : ∀ d ∈ w.devices.rows, ∀ d' ∈ w.devices.rows, ∀ token,
    d.push_token = some token → d'.push_token = some token → d = d'
  fresh : ∀ d ∈ w.devices.rows, d.id < w.nextDevice

namespace RegisterDeviceDto

def gps (dto : RegisterDeviceDto) : Option GpsLocationDto :=
  dto.location.bind DeviceLocationDto.gps

/-- The push token that is sent. -/
def token (dto : RegisterDeviceDto) : Option String :=
  truthy dto.push_token

def ipAddress (dto : RegisterDeviceDto) : Option String :=
  dto.location.bind DeviceLocationDto.ipAddress

end RegisterDeviceDto

/-- The row with the point of a fix. -/
def Device.placed (gps : Option GpsLocationDto) (d : Device) : Device :=
  { d with gps_point := (gps.map GpsLocationDto.point).getD d.gps_point }

/-- What a registration makes of the row that it has read. -/
def RegisterDeviceDto.renewed (dto : RegisterDeviceDto) (now : Time) (d : Device) : Device :=
  ((DeviceService.registerData d dto now).apply now d).placed dto.gps

/-- The row that a registration inserts. -/
def RegisterDeviceDto.inserted (dto : RegisterDeviceDto) (userId : ℕ) (now : Time) (id : ℕ) :
    Device :=
  { DeviceService.newDevice dto userId now with id, created_at := now, updated_at := now }.placed
    dto.gps

/-- The row without the times that a registration sets. -/
def Device.untimed (d : Device) : Device :=
  { d with push_token_updated_at := none, last_app_open := none, gps_updated_at := none,
           updated_at := 0 }

/-- There is one device with the uuid, owned by the user, and with the token that was sent. -/
def World.HoldsDevice (w : World) (dto : RegisterDeviceDto) (userId : ℕ) : Prop :=
  ∃ d ∈ w.devices.rows, d.device_uuid = dto.device_uuid ∧ d.user_id = userId ∧
    (∀ token, dto.token = some token → d.push_token = some token) ∧
    ∀ d' ∈ w.devices.rows, d'.device_uuid = dto.device_uuid → d' = d

/-- Only times have changed, and only those of devices. -/
def World.SameButTimes (w w' : World) : Prop :=
  w' = { w with devices := w'.devices } ∧
    w'.devices.rows.map Device.untimed = w.devices.rows.map Device.untimed

/-- The registration succeeds, and so does the same one at any later time, which changes times
only. -/
def IdempotentUpsert (w : World) (dto : RegisterDeviceDto) (userId : ℕ) : Prop :=
  ∃ response w₁, (DeviceService.register dto userId).run w = (.ok response, w₁) ∧
    w₁.HoldsDevice dto userId ∧
    ∀ t, ∃ response' w₂, (DeviceService.register dto userId).run (w₁.atTime t) =
      (.ok response', w₂) ∧ (w₁.atTime t).SameButTimes w₂

/-- The uuid is not registered by another account, the token is not stored on another device, and
a new device does not come with an empty address. -/
structure Registrable (w : World) (dto : RegisterDeviceDto) (userId : ℕ) : Prop where
  uuid : ∀ d ∈ w.devices.rows, d.device_uuid = dto.device_uuid → d.user_id = userId
  token : ∀ d ∈ w.devices.rows, ∀ token, dto.token = some token → d.push_token = some token →
    d.device_uuid = dto.device_uuid
  ipAddress : dto.ipAddress = some "" → ∃ d ∈ w.devices.rows, d.device_uuid = dto.device_uuid

section Rows

variable {w : World} {dto : RegisterDeviceDto} {userId : ℕ} {e : Device}

theorem tokenIsFree_iff {id : Option ℕ} {token : Option String} :
    w.tokenIsFree id token = true ↔ ∀ t, token = some t → ∀ d ∈ w.devices.rows, some d.id ≠ id →
      d.push_token ≠ some t := by
  cases token with
  | none => simp [World.tokenIsFree]
  | some token => simp [World.tokenIsFree]

/-- One row has the uuid, so the owner finds it. -/
theorem registeredDevice_eq_some_iff
    (huuid : ∀ d ∈ w.devices.rows, ∀ d' ∈ w.devices.rows, d.device_uuid = dto.device_uuid →
      d'.device_uuid = dto.device_uuid → d = d') :
    w.registeredDevice dto.device_uuid userId = some e ↔
      e ∈ w.devices.rows ∧ e.device_uuid = dto.device_uuid ∧ e.user_id = userId := by
  constructor
  · intro h
    have hp := List.find?_some h
    rw [Bool.and_eq_true, decide_eq_true_eq, decide_eq_true_eq] at hp
    exact ⟨List.mem_of_find?_eq_some h, hp⟩
  · rintro ⟨he, heuuid, huser⟩
    unfold World.registeredDevice
    cases hfound : w.devices.rows.find? fun d =>
        d.device_uuid = dto.device_uuid && d.user_id = userId with
    | none => exact absurd (List.find?_eq_none.1 hfound e he) (by simp [heuuid, huser])
    | some d =>
        have hp := List.find?_some hfound
        rw [Bool.and_eq_true, decide_eq_true_eq, decide_eq_true_eq] at hp
        rw [huuid d (List.mem_of_find?_eq_some hfound) e he hp.1 heuuid]

theorem World.DeviceKeys.uuids (hkeys : w.DeviceKeys) (device_uuid : String) :
    ∀ d ∈ w.devices.rows, ∀ d' ∈ w.devices.rows, d.device_uuid = device_uuid →
      d'.device_uuid = device_uuid → d = d' :=
  fun d hd d' hd' h h' => hkeys.uuid d hd d' hd' (h.trans h'.symm)

theorem registeredDevice_eq_none_iff :
    w.registeredDevice dto.device_uuid userId = none ↔
      ∀ d ∈ w.devices.rows, d.device_uuid = dto.device_uuid → d.user_id ≠ userId := by
  simp [World.registeredDevice]

/-- An update of a row that is there needs a free token. -/
theorem isOk_checkDeviceUpdate_iff (he : e ∈ w.devices.rows) {data : DeviceData} :
    (w.checkDeviceUpdate e.id data).isOk = true ↔
      w.tokenIsFree (some e.id) (data.push_token.getD none) = true := by
  have hfound : w.devices.find? e.id = some e := Table.find?_of_mem he
  unfold World.checkDeviceUpdate
  rw [hfound]
  cases w.tokenIsFree (some e.id) (data.push_token.getD none) <;> simp

theorem checkDeviceCreate_eq_ok_iff {device : Device} :
    w.checkDeviceCreate device = .ok () ↔
      (∀ d ∈ w.devices.rows, d.device_uuid ≠ device.device_uuid) ∧
        w.tokenIsFree none device.push_token = true ∧
        (w.users.find? device.user_id).isSome = true := by
  unfold World.checkDeviceCreate
  split
  next h =>
    obtain ⟨d, hd, huuid⟩ := List.any_eq_true.1 h
    exact iff_of_false (by simp) fun h' => h'.1 d hd (of_decide_eq_true huuid)
  next h =>
    have hnone : ∀ d ∈ w.devices.rows, d.device_uuid ≠ device.device_uuid := by
      simpa [List.any_eq_true] using h
    rw [and_iff_right hnone]
    cases w.tokenIsFree none device.push_token <;>
      cases w.users.find? device.user_id <;> simp

end Rows

section Runs

variable {w : World} {dto : RegisterDeviceDto} {userId : ℕ} {e : Device}

theorem run_respond {id : ℕ} (h : (w.devices.find? id).isSome = true) :
    ∃ response, (DeviceService.respond id).run w = (.ok response, w) := by
  obtain ⟨d, hd⟩ := Option.isSome_iff_exists.1 h
  unfold DeviceService.respond DeviceCall.read
  rw [Process.run_query_bind, hd]
  exact ⟨_, rfl⟩

/-- The state after the statement that sets the point. -/
theorem run_setGpsPoint (id : ℕ) (gps : Option GpsLocationDto) (w : World) :
    ∃ w', (DeviceService.setGpsPoint id gps).run w = (.ok (), w') ∧
      w' = { w with devices := w'.devices } ∧
      w'.devices.rows = w.devices.rows.map fun d => if d.id = id then d.placed gps else d := by
  cases gps with
  | none =>
      have hsame : ∀ d : Device, (if d.id = id then d.placed none else d) = d := by
        intro d
        split <;> rfl
      exact ⟨w, rfl, rfl, (List.map_id'' hsame _).symm⟩
  | some gps =>
      refine ⟨_, rfl, rfl, ?_⟩
      simp [DeviceCall.effect, DeviceCall.onDevices, Table.updateMany, Device.placed]

theorem run_register (w : World) :
    (DeviceService.register dto userId).run w =
      (DeviceService.upsertDevice dto userId w.now (w.registeredDevice dto.device_uuid userId) >>=
        DeviceService.respond).run w := rfl

/-- A registration answers when its device is written and is there afterwards. -/
theorem run_register_of_upsert {w w' : World} {id : ℕ} {found : Device}
    (hupsert : (DeviceService.upsertDevice dto userId w.now
      (w.registeredDevice dto.device_uuid userId)).run w = (.ok id, w'))
    (hfound : w'.devices.find? id = some found) :
    ∃ response, (DeviceService.register dto userId).run w = (.ok response, w') := by
  obtain ⟨response, hrespond⟩ := run_respond (Option.isSome_of_eq_some hfound)
  exact ⟨response, (run_register w).trans ((Process.run_bind_ok hupsert _).trans hrespond)⟩

theorem run_updateDevice (id : ℕ) (data : DeviceData) (w : World) :
    (DeviceService.updateDevice id data).run w =
      (w.checkDeviceUpdate id data, (deviceUpdate id data).effect w) :=
  Process.run_atomic _ _ _ _

theorem run_createDevice (device : Device) (w : World) :
    (DeviceService.createDevice device).run w =
      ((w.checkDeviceCreate device).map fun _ => w.nextDevice, (deviceCreate device).effect w) :=
  Process.run_atomic _ _ _ _

/-- A row under a key is the row with that key. -/
theorem eq_of_id_eq {d : Device} (he : e ∈ w.devices.rows) (hd : d ∈ w.devices.rows)
    (hid : d.id = e.id) : d = e :=
  List.inj_on_of_nodup_map w.devices.nodup hd he hid

/-- A registration of a device of the caller renews its row. -/
theorem run_register_of_some (he : w.registeredDevice dto.device_uuid userId = some e)
    (hfree : w.tokenIsFree (some e.id) (dto.token <|> e.push_token) = true) :
    ∃ response w', (DeviceService.register dto userId).run w = (.ok response, w') ∧
      w' = { w with devices := w'.devices } ∧ w'.devices.rows =
        w.devices.rows.map fun d => if d.id = e.id then dto.renewed w.now d else d := by
  have hmem : e ∈ w.devices.rows := List.mem_of_find?_eq_some he
  let data := DeviceService.registerData e dto w.now
  have hok : (w.checkDeviceUpdate e.id data).isOk = true :=
    (isOk_checkDeviceUpdate_iff hmem).2 hfree
  obtain ⟨_, hcheck⟩ : ∃ u, w.checkDeviceUpdate e.id data = .ok u := by
    cases hcheck : w.checkDeviceUpdate e.id data with
    | ok u => exact ⟨u, rfl⟩
    | error _ => rw [hcheck] at hok; cases hok
  have hupdate := run_updateDevice e.id data w
  rw [hcheck] at hupdate
  obtain ⟨w', hplaced, hw', hrows⟩ :=
    run_setGpsPoint e.id dto.gps ((deviceUpdate e.id data).effect w)
  have hupdated : ((deviceUpdate e.id data).effect w).devices.rows =
      w.devices.rows.map fun d => if d.id = e.id then data.apply w.now d else d := by
    simp [DeviceCall.effect, DeviceCall.onDevices, hok, Table.updateMany]
  have hrows' : w'.devices.rows =
      w.devices.rows.map fun d => if d.id = e.id then dto.renewed w.now d else d := by
    rw [hrows, hupdated, List.map_map]
    refine List.map_congr_left fun d hd => ?_
    by_cases hid : d.id = e.id
    · have hd' : d = e := eq_of_id_eq hmem hd hid
      subst hd'
      simp [RegisterDeviceDto.renewed, DeviceData.apply_id, data]
    · simp [hid]
  have hfound : w'.devices.find? e.id = some (dto.renewed w.now e) :=
    Table.find?_eq_some_iff.2 ⟨hrows' ▸ List.mem_map.2 ⟨e, hmem, if_pos rfl⟩, rfl⟩
  have hupsert : (DeviceService.upsertDevice dto userId w.now
      (w.registeredDevice dto.device_uuid userId)).run w = (.ok e.id, w') := by
    rw [he]
    unfold DeviceService.upsertDevice
    exact (Process.run_bind_ok hupdate _).trans (Process.run_bind_ok hplaced _)
  obtain ⟨response, hrun⟩ := run_register_of_upsert hupsert hfound
  exact ⟨response, w', hrun, hw', hrows'⟩

/-- It fails when another device holds the token. -/
theorem run_register_of_taken (he : w.registeredDevice dto.device_uuid userId = some e)
    (hfree : w.tokenIsFree (some e.id) (dto.token <|> e.push_token) = false) :
    ∃ error, ((DeviceService.register dto userId).run w).1 = .error error := by
  have hmem : e ∈ w.devices.rows := List.mem_of_find?_eq_some he
  have hupdate := run_updateDevice e.id (DeviceService.registerData e dto w.now) w
  cases hcheck : w.checkDeviceUpdate e.id (DeviceService.registerData e dto w.now) with
  | ok _ =>
      have hfree' := (isOk_checkDeviceUpdate_iff hmem).1 (by rw [hcheck]; rfl)
      exact absurd (hfree'.symm.trans hfree) (by decide)
  | error error =>
      rw [hcheck] at hupdate
      have hupsert := Process.run_bind_error hupdate fun _ => do
        DeviceService.setGpsPoint e.id dto.gps
        return e.id
      rw [run_register, he]
      exact ⟨error, congrArg Prod.fst (Process.run_bind_error hupsert _)⟩

/-- A new device is inserted. -/
theorem run_register_of_none (hfresh : ∀ d ∈ w.devices.rows, d.id < w.nextDevice)
    (he : w.registeredDevice dto.device_uuid userId = none)
    (hcheck : w.checkDeviceCreate (DeviceService.newDevice dto userId w.now) = .ok ()) :
    ∃ response w', (DeviceService.register dto userId).run w = (.ok response, w') ∧
      w' = { w with devices := w'.devices, nextDevice := w.nextDevice + 1 } ∧
      w'.devices.rows = w.devices.rows ++ [dto.inserted userId w.now w.nextDevice] := by
  let device := DeviceService.newDevice dto userId w.now
  have hcreate := run_createDevice device w
  rw [hcheck] at hcreate
  obtain ⟨w', hplaced, hw', hrows⟩ :=
    run_setGpsPoint w.nextDevice dto.gps ((deviceCreate device).effect w)
  have hinserted : ((deviceCreate device).effect w).devices.rows = w.devices.rows ++
      [{ device with id := w.nextDevice, created_at := w.now, updated_at := w.now }] := by
    have hnone : w.devices.find? w.nextDevice = none :=
      Table.find?_eq_none_iff.2 fun d hd => (hfresh d hd).ne
    have hok : (w.checkDeviceCreate device).isOk = true := by rw [hcheck]; rfl
    simp only [DeviceCall.effect, DeviceCall.onDevices, hok, if_true]
    exact Table.insertNew_rows hnone
  have hrows' : w'.devices.rows =
      w.devices.rows ++ [dto.inserted userId w.now w.nextDevice] := by
    have hother : ∀ d ∈ w.devices.rows,
        (if d.id = w.nextDevice then d.placed dto.gps else d) = d :=
      fun d hd => if_neg (hfresh d hd).ne
    rw [hrows, hinserted, List.map_append, List.map_congr_left hother, List.map_id',
      List.map_singleton, if_pos rfl]
    rfl
  have hfound : w'.devices.find? w.nextDevice = some (dto.inserted userId w.now w.nextDevice) :=
    Table.find?_eq_some_iff.2 ⟨by simp [hrows'], rfl⟩
  have hupsert : (DeviceService.upsertDevice dto userId w.now
      (w.registeredDevice dto.device_uuid userId)).run w = (.ok w.nextDevice, w') := by
    rw [he]
    unfold DeviceService.upsertDevice
    exact (Process.run_bind_ok hcreate _).trans (Process.run_bind_ok hplaced _)
  obtain ⟨response, hrun⟩ := run_register_of_upsert hupsert hfound
  exact ⟨response, w', hrun, hw', hrows'⟩

theorem run_register_of_refused {error : AppError}
    (he : w.registeredDevice dto.device_uuid userId = none)
    (hcheck : w.checkDeviceCreate (DeviceService.newDevice dto userId w.now) = .error error) :
    ((DeviceService.register dto userId).run w).1 = .error error := by
  have hcreate := run_createDevice (DeviceService.newDevice dto userId w.now) w
  rw [hcheck] at hcreate
  have hupsert := Process.run_bind_error hcreate fun deviceId => do
    DeviceService.setGpsPoint deviceId dto.gps
    return deviceId
  rw [run_register, he]
  exact congrArg Prod.fst (Process.run_bind_error hupsert _)

end Runs

section Again

variable {w : World} {dto : RegisterDeviceDto} {userId : ℕ} {e : Device}

/-- What a registration has written it writes again. -/
theorem untimed_renewed_renewed (t t' : Time) :
    (dto.renewed t (dto.renewed t' e)).untimed = (dto.renewed t' e).untimed := by
  simp only [RegisterDeviceDto.renewed, Device.placed, Device.untimed, DeviceData.apply,
    DeviceService.registerData, DeviceService.gpsData, RegisterDeviceDto.gps]
  cases dto.location.bind DeviceLocationDto.gps <;> cases truthy dto.push_token <;>
    cases dto.location.bind DeviceLocationDto.ipAddress <;>
    cases dto.location.bind DeviceLocationDto.postalCodes <;> simp [← Option.or_assoc]

/-- An empty address is stored only by an update. -/
theorem untimed_renewed_inserted_iff {t t' : Time} {id : ℕ} :
    (dto.renewed t (dto.inserted userId t' id)).untimed = (dto.inserted userId t' id).untimed ↔
      dto.ipAddress ≠ some "" := by
  have haddress : (dto.ipAddress <|> truthy dto.ipAddress) = truthy dto.ipAddress ↔
      dto.ipAddress ≠ some "" := by
    cases dto.ipAddress with
    | none => simp [truthy]
    | some address => by_cases h : address = "" <;> simp [truthy, Option.filter_some, h]
  rw [← haddress]
  simp only [RegisterDeviceDto.renewed, RegisterDeviceDto.inserted, DeviceService.newDevice,
    Device.placed, Device.untimed, DeviceData.apply, DeviceService.registerData,
    DeviceService.gpsData, RegisterDeviceDto.gps, RegisterDeviceDto.ipAddress]
  cases dto.location.bind DeviceLocationDto.gps <;> cases truthy dto.push_token <;>
    cases dto.location.bind DeviceLocationDto.postalCodes <;> simp

/-- A registration of the device that holds what it stores. -/
theorem run_register_again (he : w.registeredDevice dto.device_uuid userId = some e)
    (hfree : w.tokenIsFree (some e.id) (dto.token <|> e.push_token) = true) :
    ∃ response w', (DeviceService.register dto userId).run w = (.ok response, w') ∧
      (w.SameButTimes w' ↔ (dto.renewed w.now e).untimed = e.untimed) := by
  obtain ⟨response, w', hrun, hw', hrows⟩ := run_register_of_some he hfree
  have hmem : e ∈ w.devices.rows := List.mem_of_find?_eq_some he
  refine ⟨response, w', hrun, ?_⟩
  unfold World.SameButTimes
  rw [and_iff_right hw', hrows, List.map_map, List.map_inj_left]
  constructor
  · intro h
    simpa using h e hmem
  · intro h d hd
    by_cases hid : d.id = e.id
    · rw [eq_of_id_eq hmem hd hid]
      simpa using h
    · simp [hid]

/-- A registration that throws is no upsert. -/
theorem not_idempotentUpsert_of_error {error : AppError}
    (h : ((DeviceService.register dto userId).run w).1 = .error error) :
    ¬ IdempotentUpsert w dto userId := by
  rintro ⟨response, w₁, hrun, -⟩
  rw [hrun] at h
  cases h

/-- Once the device is stored, the upsert can be repeated if and only if it stores the same. -/
theorem idempotentUpsert_iff {response : DeviceResponseDto} {w₁ : World}
    (hrun : (DeviceService.register dto userId).run w = (.ok response, w₁))
    (he : e ∈ w₁.devices.rows) (huuid : e.device_uuid = dto.device_uuid)
    (huser : e.user_id = userId) (htoken : (dto.token <|> e.push_token) = e.push_token)
    (honly : ∀ d ∈ w₁.devices.rows, d.device_uuid = dto.device_uuid → d = e)
    (hfree : w₁.tokenIsFree (some e.id) e.push_token = true) :
    IdempotentUpsert w dto userId ↔ ∀ t, (dto.renewed t e).untimed = e.untimed := by
  have hfound : ∀ t, (w₁.atTime t).registeredDevice dto.device_uuid userId = some e :=
    fun _ => (registeredDevice_eq_some_iff fun d hd d' hd' h h' =>
      (honly d hd h).trans (honly d' hd' h').symm).2 ⟨he, huuid, huser⟩
  have hagain := fun t => run_register_again (hfound t) (htoken.symm ▸ hfree)
  constructor
  · rintro ⟨response', w₁', hrun', -, hrepeat⟩ t
    obtain ⟨-, rfl⟩ := Prod.mk.inj (hrun.symm.trans hrun')
    obtain ⟨_, w₂, hrun₂, hsame⟩ := hrepeat t
    obtain ⟨_, w₂', hrun₂', hiff⟩ := hagain t
    obtain ⟨-, rfl⟩ := Prod.mk.inj (hrun₂.symm.trans hrun₂')
    exact hiff.1 hsame
  · intro hsame
    refine ⟨response, w₁, hrun, ⟨e, he, huuid, huser, fun token h => ?_, honly⟩, fun t => ?_⟩
    · rw [← htoken, h]
      rfl
    · obtain ⟨response', w₂, hrun₂, hiff⟩ := hagain t
      exact ⟨response', w₂, hrun₂, hiff.2 (hsame t)⟩

/-- A device of the caller is registered as often as they like, unless another device has the
token. -/
theorem idempotentUpsert_of_some_iff (hkeys : w.DeviceKeys)
    (he : w.registeredDevice dto.device_uuid userId = some e) :
    IdempotentUpsert w dto userId ↔
      w.tokenIsFree (some e.id) (dto.token <|> e.push_token) = true := by
  obtain ⟨hmem, huuid, huser⟩ := (registeredDevice_eq_some_iff (hkeys.uuids _)).1 he
  cases hfree : w.tokenIsFree (some e.id) (dto.token <|> e.push_token) with
  | false =>
      obtain ⟨error, herror⟩ := run_register_of_taken he hfree
      exact iff_of_false (not_idempotentUpsert_of_error herror) (by decide)
  | true =>
      obtain ⟨response, w₁, hrun, -, hrows⟩ := run_register_of_some he hfree
      have hother : ∀ d ∈ w₁.devices.rows, d = dto.renewed w.now e ∨
          (d ∈ w.devices.rows ∧ d.id ≠ e.id) := by
        intro d hd
        rw [hrows] at hd
        obtain ⟨d', hd', rfl⟩ := List.mem_map.1 hd
        by_cases hid : d'.id = e.id
        · rw [if_pos hid, eq_of_id_eq hmem hd' hid]
          exact .inl rfl
        · rw [if_neg hid]
          exact .inr ⟨hd', hid⟩
      refine iff_of_true ((idempotentUpsert_iff (e := dto.renewed w.now e) hrun ?_ huuid huser ?_
        ?_ ?_).2 fun t => untimed_renewed_renewed t w.now) rfl
      · rw [hrows]
        exact List.mem_map.2 ⟨e, hmem, if_pos rfl⟩
      · change (dto.token <|> (dto.token <|> e.push_token)) = (dto.token <|> e.push_token)
        cases dto.token <;> rfl
      · intro d hd huuid'
        rcases hother d hd with rfl | ⟨hd', hid⟩
        · rfl
        · exact absurd (congrArg Device.id (hkeys.uuid d hd' e hmem (huuid'.trans huuid.symm))) hid
      · refine tokenIsFree_iff.2 fun token htoken d hd hid => ?_
        rcases hother d hd with rfl | ⟨hd', -⟩
        · exact absurd rfl hid
        · exact tokenIsFree_iff.1 hfree token htoken d hd' hid

/-- A new device is, unless its uuid or its token is taken, or its address is empty. -/
theorem idempotentUpsert_of_none_iff (hkeys : w.DeviceKeys)
    (he : w.registeredDevice dto.device_uuid userId = none) :
    IdempotentUpsert w dto userId ↔
      w.checkDeviceCreate (DeviceService.newDevice dto userId w.now) = .ok () ∧
        dto.ipAddress ≠ some "" := by
  cases hcheck : w.checkDeviceCreate (DeviceService.newDevice dto userId w.now) with
  | error error =>
      have herror := run_register_of_refused he hcheck
      exact iff_of_false (not_idempotentUpsert_of_error herror) (by simp)
  | ok =>
      obtain ⟨huuid, hfree, -⟩ := checkDeviceCreate_eq_ok_iff.1 hcheck
      obtain ⟨response, w₁, hrun, -, hrows⟩ := run_register_of_none hkeys.fresh he hcheck
      have hother : ∀ d ∈ w₁.devices.rows, d = dto.inserted userId w.now w.nextDevice ∨
          d ∈ w.devices.rows := by
        intro d hd
        rw [hrows, List.mem_append, List.mem_singleton] at hd
        exact hd.symm
      rw [and_iff_right rfl, idempotentUpsert_iff (e := dto.inserted userId w.now w.nextDevice)
        hrun]
      · exact ⟨fun h => untimed_renewed_inserted_iff.1 (h 0),
          fun h t => untimed_renewed_inserted_iff.2 h⟩
      · simp [hrows]
      · rfl
      · rfl
      · change (dto.token <|> dto.token) = dto.token
        cases dto.token <;> rfl
      · intro d hd huuid'
        rcases hother d hd with rfl | hd'
        · rfl
        · exact absurd huuid' (huuid d hd')
      · refine tokenIsFree_iff.2 fun token htoken d hd hid => ?_
        rcases hother d hd with rfl | hd'
        · exact absurd rfl hid
        · exact tokenIsFree_iff.1 hfree token htoken d hd' nofun

end Again

/-- A registration of a user succeeds and can be repeated, changing times only, if and only if the
uuid is not registered by another account, the token is not stored on another device, and a new
device does not come with an empty address. -/
theorem DeviceService.register_idempotentUpsert_iff (w : World) (dto : RegisterDeviceDto)
    (userId : ℕ) (hkeys : w.DeviceKeys) (huser : (w.users.find? userId).isSome = true) :
    IdempotentUpsert w dto userId ↔ Registrable w dto userId := by
  cases he : w.registeredDevice dto.device_uuid userId with
  | some e =>
      obtain ⟨hmem, huuid, hown⟩ := (registeredDevice_eq_some_iff (hkeys.uuids _)).1 he
      rw [idempotentUpsert_of_some_iff hkeys he, tokenIsFree_iff]
      constructor
      · refine fun hfree => ⟨fun d hd h => ?_, fun d hd token h htoken => ?_,
          fun _ => ⟨e, hmem, huuid⟩⟩
        · rw [hkeys.uuid d hd e hmem (h.trans huuid.symm), hown]
        · by_contra hne
          refine hfree token (by rw [h]; rfl) d hd (fun hid => hne ?_) htoken
          rw [eq_of_id_eq hmem hd (Option.some.inj hid), huuid]
      · intro hreg token h d hd hid htoken
        refine hid (congrArg some (congrArg Device.id ?_))
        cases hsent : dto.token with
        | none =>
            rw [hsent] at h
            exact hkeys.token d hd e hmem token htoken h
        | some sent =>
            rw [hsent] at h
            obtain rfl : sent = token := Option.some.inj h
            exact hkeys.uuid d hd e hmem ((hreg.token d hd sent hsent htoken).trans huuid.symm)
  | none =>
      rw [idempotentUpsert_of_none_iff hkeys he, checkDeviceCreate_eq_ok_iff, tokenIsFree_iff]
      rw [registeredDevice_eq_none_iff] at he
      constructor
      · rintro ⟨⟨huuid, hfree, -⟩, haddress⟩
        exact ⟨fun d hd h => absurd h (huuid d hd),
          fun d hd token h htoken => absurd htoken (hfree token h d hd nofun),
          fun h => absurd h haddress⟩
      · intro hreg
        have huuid : ∀ d ∈ w.devices.rows, d.device_uuid ≠ dto.device_uuid :=
          fun d hd h => he d hd h (hreg.uuid d hd h)
        refine ⟨⟨huuid, fun token h d hd _ htoken => ?_, huser⟩, fun h => ?_⟩
        · exact huuid d hd (hreg.token d hd token h htoken)
        · obtain ⟨d, hd, h'⟩ := hreg.ipAddress h
          exact huuid d hd h'

section Accounts

/-- Two accounts; the first has registered its phone. -/
def registeredWorld : World where
  users := (Table.empty.insertNew { id := 1, email := "a@b.c" }).insertNew
    { id := 2, email := "d@e.f" }
  devices := Table.empty.insertNew
    { id := 1, user_id := 1, device_uuid := "uuid", push_token := some "token" }
  nextDevice := 2

def phone : RegisterDeviceDto where
  device_uuid := "uuid"
  platform := .IOS
  os_version := "18"
  app_version := "2"
  push_token := some "token"

theorem deviceKeys_registeredWorld : registeredWorld.DeviceKeys := by
  have honly : ∀ d ∈ registeredWorld.devices.rows, ∀ d' ∈ registeredWorld.devices.rows, d = d' := by
    decide
  exact ⟨fun d hd d' hd' _ => honly d hd d' hd', fun d hd d' hd' _ _ _ => honly d hd d' hd',
    by decide⟩

/-- The first account registers its phone as often as it likes. -/
theorem register_idempotentUpsert_phone : IdempotentUpsert registeredWorld phone 1 := by
  have huuid : ∀ d ∈ registeredWorld.devices.rows, d.device_uuid = "uuid" := by decide
  exact (DeviceService.register_idempotentUpsert_iff registeredWorld phone 1
    deviceKeys_registeredWorld rfl).2 ⟨by decide, fun d hd _ _ _ => huuid d hd, by decide⟩

/-- The second account cannot register this phone, and neither can the first one move the token to
another phone. -/
theorem not_register_idempotentUpsert :
    registeredWorld.DeviceKeys ∧ (registeredWorld.users.find? 2).isSome = true ∧
      ¬ IdempotentUpsert registeredWorld phone 2 ∧
      ¬ IdempotentUpsert registeredWorld { phone with device_uuid := "other" } 1 := by
  refine ⟨deviceKeys_registeredWorld, rfl, ?_, ?_⟩
  · have hthrows : ((DeviceService.register phone 2).run registeredWorld).1 =
        .error (.prisma .P2002) := rfl
    exact not_idempotentUpsert_of_error hthrows
  · have hthrows : ((DeviceService.register { phone with device_uuid := "other" } 1).run
        registeredWorld).1 = .error (.prisma .P2002) := rfl
    exact not_idempotentUpsert_of_error hthrows

end Accounts

end FifiAlert
