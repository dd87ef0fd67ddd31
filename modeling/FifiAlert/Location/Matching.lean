import FifiAlert.Location.LocationService

/-!
# Who is found for an alert

Which strategy reaches which device is a question about the database
(`LocationStrategy.reaches`). Every strategy returns the devices it reaches and no
others, and what is left after the deduplication is one match for each user id,
of the best priority under that id.
-/

namespace FifiAlert

open Concurrency Store Js LocationService

namespace LocationStrategy

def confidence : LocationStrategy → NotificationConfidence
  | savedZone | alertZone | freshGps => .HIGH
  | staleGps | postalCode => .MEDIUM
  | ipGeo => .LOW

def priority : LocationStrategy → ℕ
  | savedZone | alertZone => 1
  | freshGps => 2
  | staleGps => 3
  | postalCode => 4
  | ipGeo => 5

/-- The value that a strategy makes of an id. -/
def ident (E : LocationEnv) : LocationStrategy → ℕ → Ident
  | alertZone, n => .str (toString n)
  | _, n => E.integers.read n

/-- Does the strategy find the device for the alert? -/
def reaches (E : LocationEnv) (alert : Alert) (w : World) (device : Device) :
    LocationStrategy → Bool
  | savedZone => w.savedZones.rows.any fun zone =>
      zone.device_id = device.id && savedZoneInRange E (center alert) alert.alert_radius_km zone
  | alertZone => w.alertZones.rows.any fun zone =>
      zone.user_id = device.user_id &&
        (w.users.find? zone.user_id).any (fun user => !user.banned) &&
        alertZoneInRange E (center alert) alert.alert_radius_km zone
  | freshGps => gpsInRange E (center alert) alert.alert_radius_km (isFresh w.now) device
  | staleGps => gpsInRange E (center alert) (alert.alert_radius_km + STALE_GPS_EXPANSION_KM)
      (isStale w.now) device
  | postalCode => postalCodesOverlap alert.affected_postal_codes device
  | ipGeo => ipInRange E (center alert) (alert.alert_radius_km + IP_GEO_EXPANSION_KM) device

end LocationStrategy

/-- The match says of a device what the strategy says of it. -/
structure IsMatch (E : LocationEnv) (s : LocationStrategy) (device : Device) (m : DeviceMatch) :
    Prop where
  deviceId : m.deviceId = s.ident E device.id
  userId : m.userId = s.ident E device.user_id
  pushToken : m.pushToken = device.push_token
  confidence : m.confidence = s.confidence

section Ident

variable {E : LocationEnv} {s t : LocationStrategy} {m n : ℕ}

/-- Two ids that are the same value are the same id, turned into a value in the
same way. -/
theorem ident_congr (h : s.ident E m = t.ident E n) : m = n ∧ ∀ k, s.ident E k = t.ident E k := by
  have hstr : ∀ a b : ℕ, IntegerColumns.string.read a = IntegerColumns.string.read b ↔ a = b :=
    fun a b => IntegerColumns.read_inj
  have hnum : ∀ a b : ℕ, IntegerColumns.number.read a = IntegerColumns.number.read b ↔ a = b :=
    fun a b => IntegerColumns.read_inj
  simp only [IntegerColumns.read] at hstr hnum
  cases hE : E.integers <;> cases s <;> cases t <;>
    simp_all [LocationStrategy.ident, IntegerColumns.read]

theorem parseInt_ident (E : LocationEnv) (s : LocationStrategy) (n : ℕ) :
    (s.ident E n).parseInt = some n := by
  cases s with
  | alertZone => exact IntegerColumns.parseInt_read .string n
  | _ => exact IntegerColumns.parseInt_read E.integers n

end Ident

/-- The row is about the device. -/
structure RawRow.IsOf (E : LocationEnv) (device : Device) (row : RawRow) : Prop where
  device_id : row.device_id = E.integers.read device.id
  user_id : row.user_id = E.integers.read device.user_id
  push_token : row.push_token = device.push_token

/-- The rows are about the devices that satisfy a condition, all of them. -/
structure RowsOf (E : LocationEnv) (w : World) (p : Device → Bool) (rows : List RawRow) :
    Prop where
  sound : ∀ row ∈ rows, ∃ device ∈ w.devices.rows, p device = true ∧ row.IsOf E device
  complete : ∀ device ∈ w.devices.rows, p device = true → ∃ row ∈ rows, row.IsOf E device

/-- The matches are the strategy's for the devices it reaches, all of them. -/
structure Finds (E : LocationEnv) (alert : Alert) (w : World) (s : LocationStrategy)
    (ms : List MatchResult) : Prop where
  sound : ∀ m ∈ ms, ∃ device ∈ w.devices.rows, s.reaches E alert w device = true ∧
    IsMatch E s device m.toDeviceMatch ∧ m.priority = s.priority
  complete : ∀ device ∈ w.devices.rows, s.reaches E alert w device = true → ∃ m ∈ ms,
    IsMatch E s device m.toDeviceMatch ∧ m.priority = s.priority

section Rows

variable {E : LocationEnv} {alert : Alert} {w : World} {rows : List RawRow}
  {s : LocationStrategy} {p : Device → Bool}

/-- A query over the devices alone. -/
theorem RowsOf.of_devices {mk : Device → RawRow} (hmk : ∀ device, (mk device).IsOf E device)
    (hrows : ∀ row, row ∈ rows ↔ row ∈ (w.devices.findMany p).map mk) : RowsOf E w p rows := by
  constructor
  · intro row hrow
    obtain ⟨device, hdevice, rfl⟩ := List.mem_map.1 ((hrows row).1 hrow)
    obtain ⟨hmem, hp⟩ := Table.mem_findMany.1 hdevice
    exact ⟨device, hmem, hp, hmk device⟩
  · intro device hmem hp
    have hfound := Table.mem_findMany.2 ⟨hmem, hp⟩
    exact ⟨mk device, (hrows _).2 (List.mem_map_of_mem hfound), hmk device⟩

theorem savedZoneRows_rowsOf (E : LocationEnv) (alert : Alert) (w : World) :
    RowsOf E w (LocationStrategy.savedZone.reaches E alert w)
      (savedZoneRows E (center alert) alert.alert_radius_km w) := by
  constructor
  · intro row hrow
    obtain ⟨⟨zone, device⟩, hfound, rfl⟩ := List.mem_map.1 hrow
    rw [RowOrder.mem_sort, List.mem_filter, List.mem_filterMap] at hfound
    obtain ⟨⟨zone', hzone, hjoin⟩, hrange⟩ := hfound
    obtain ⟨device', hdevice, heq⟩ := Option.map_eq_some_iff.1 hjoin
    obtain ⟨rfl, rfl⟩ := Prod.mk.inj heq
    refine ⟨device', Table.mem_of_find? hdevice, ?_, rfl, rfl, rfl⟩
    have hkey := Table.key_of_find? hdevice
    simp only [LocationStrategy.reaches, List.any_eq_true]
    exact ⟨zone', hzone, by simpa [hkey] using hrange⟩
  · intro device hmem hreach
    obtain ⟨zone, hzone, hz⟩ := List.any_eq_true.1 hreach
    obtain ⟨hdevice, hrange⟩ : zone.device_id = device.id ∧
        savedZoneInRange E (center alert) alert.alert_radius_km zone = true := by simpa using hz
    refine ⟨_, List.mem_map_of_mem (a := (zone, device)) ?_, rfl, rfl, rfl⟩
    rw [RowOrder.mem_sort, List.mem_filter, List.mem_filterMap]
    have hfind := Table.find?_of_mem hmem
    exact ⟨⟨zone, hzone, by rw [hdevice, hfind, Option.map_some]⟩, hrange⟩

theorem alertZoneRows_rowsOf (E : LocationEnv) (alert : Alert) (w : World) :
    RowsOf E w (LocationStrategy.alertZone.reaches E alert w)
      (alertZoneRows E (center alert) alert.alert_radius_km w) := by
  constructor
  · intro row hrow
    obtain ⟨⟨zone, device⟩, hfound, rfl⟩ := List.mem_map.1 hrow
    rw [RowOrder.mem_sort, List.mem_filter, List.mem_flatMap] at hfound
    obtain ⟨⟨zone', hzone, hjoin⟩, hrange⟩ := hfound
    cases huser : w.users.find? zone'.user_id with
    | none => simp [huser] at hjoin
    | some user =>
        have hkey := Table.key_of_find? huser
        obtain ⟨hbanned, hmem, howner, rfl⟩ : user.banned = false ∧ device ∈ w.devices.rows ∧
            device.user_id = user.id ∧ zone' = zone := by
          cases hb : user.banned <;> simp [huser, hb, Table.mem_findMany] at hjoin ⊢
          exact ⟨hjoin.1.1, hjoin.1.2, hjoin.2⟩
        refine ⟨device, hmem, ?_, rfl, rfl, rfl⟩
        simp only [LocationStrategy.reaches, List.any_eq_true]
        exact ⟨zone', hzone, by simpa [huser, hbanned, howner, hkey] using hrange⟩
  · intro device hmem hreach
    obtain ⟨zone, hzone, hz⟩ := List.any_eq_true.1 hreach
    cases huser : w.users.find? zone.user_id with
    | none => simp [huser] at hz
    | some user =>
        have hkey := Table.key_of_find? huser
        obtain ⟨⟨howner, hbanned⟩, hrange⟩ : (zone.user_id = device.user_id ∧
            user.banned = false) ∧
            alertZoneInRange E (center alert) alert.alert_radius_km zone = true := by
          simpa [huser] using hz
        refine ⟨_, List.mem_map_of_mem (a := (zone, device)) ?_, rfl, rfl, rfl⟩
        rw [RowOrder.mem_sort, List.mem_filter, List.mem_flatMap]
        refine ⟨⟨zone, hzone, ?_⟩, hrange⟩
        simp [huser, hbanned, Table.mem_findMany, hmem, hkey, howner.symm]

theorem gpsRows_rowsOf (E : LocationEnv) (c : Point) (radiusKm : ℚ) (p : Time → Bool) (w : World) :
    RowsOf E w (gpsInRange E c radiusKm p) (gpsRows E c radiusKm p w) :=
  .of_devices (fun _ => ⟨rfl, rfl, rfl⟩) fun _ => RowOrder.mem_sort

theorem postalCodeRows_rowsOf (E : LocationEnv) (codes : List String) (w : World) :
    RowsOf E w (postalCodesOverlap codes) (postalCodeRows E codes w) :=
  .of_devices (fun _ => ⟨rfl, rfl, rfl⟩) fun _ => RowOrder.mem_unordered

theorem ipGeoRows_rowsOf (E : LocationEnv) (c : Point) (radiusKm : ℚ) (w : World) :
    RowsOf E w (ipInRange E c radiusKm) (ipGeoRows E c radiusKm w) :=
  .of_devices (fun _ => ⟨rfl, rfl, rfl⟩) fun _ => RowOrder.mem_sort

/-- The first row of each device is enough. -/
theorem RowsOf.firstRows (h : RowsOf E w p rows) :
    RowsOf E w p
      (Assoc.bestOf (fun row => row.device_id.Number) (fun _ _ => false) rows).values := by
  constructor
  · intro row hrow
    exact h.sound row (Assoc.mem_values_bestOf hrow).1
  · intro device hmem hp
    obtain ⟨row, hrow, hof⟩ := h.complete device hmem hp
    obtain ⟨first, hfirst⟩ : ∃ first, (Assoc.bestOf (fun row : RawRow => row.device_id.Number)
        (fun _ _ => false) rows).get row.device_id.Number = some first :=
      Assoc.get_bestOf_of_mem hrow
    obtain ⟨hin, hkey⟩ := Assoc.mem_of_get_bestOf hfirst
    obtain ⟨device', hmem', hp', hof'⟩ := h.sound first hin
    have hid : device'.id = device.id := by
      have htext := congrArg numberText hkey
      rw [hof.device_id, hof'.device_id, IntegerColumns.numberText_read,
        IntegerColumns.numberText_read] at htext
      have hstr : IntegerColumns.string.read device'.id = IntegerColumns.string.read device.id :=
        congrArg Ident.str htext
      exact IntegerColumns.read_inj.1 hstr
    have hsame : device' = device := by
      have hfind := Table.find?_of_mem hmem'
      rw [hid, Table.find?_of_mem hmem] at hfind
      exact (Option.some.inj hfind).symm
    subst hsame
    exact ⟨first, Assoc.mem_values_iff.2 ⟨_, hfirst⟩, hof'⟩

/-- The matches that a strategy makes of its rows. -/
theorem Finds.of_rows {mk : RawRow → MatchResult}
    (h : RowsOf E w (s.reaches E alert w) rows)
    (hmk : ∀ row device, row.IsOf E device →
      IsMatch E s device (mk row).toDeviceMatch ∧ (mk row).priority = s.priority) :
    Finds E alert w s (rows.map mk) := by
  constructor
  · intro m hm
    obtain ⟨row, hrow, rfl⟩ := List.mem_map.1 hm
    obtain ⟨device, hmem, hreach, hof⟩ := h.sound row hrow
    exact ⟨device, hmem, hreach, hmk row device hof⟩
  · intro device hmem hreach
    obtain ⟨row, hrow, hof⟩ := h.complete device hmem hreach
    exact ⟨mk row, List.mem_map_of_mem hrow, hmk row device hof⟩

end Rows

section Strategies

variable {ℓ : Type} [LocationCalls ℓ]

/-- Each strategy returns the devices it reaches. -/
theorem findSavedZoneMatches_run (E : LocationEnv) (alert : Alert) (w : World) :
    ∃ ms, (findSavedZoneMatches (ℓ := ℓ) E (center alert) alert.alert_radius_km).run w =
      (.ok ms, w) ∧ Finds E alert w .savedZone ms :=
  ⟨_, rfl, .of_rows (savedZoneRows_rowsOf E alert w) fun _ _ h =>
    ⟨⟨h.device_id, h.user_id, h.push_token, rfl⟩, rfl⟩⟩

theorem findAlertZoneMatches_run (E : LocationEnv) (alert : Alert) (w : World) :
    ∃ ms, (findAlertZoneMatches (ℓ := ℓ) E (center alert) alert.alert_radius_km).run w =
      (.ok ms, w) ∧ Finds E alert w .alertZone ms := by
  refine ⟨_, rfl, .of_rows (alertZoneRows_rowsOf E alert w).firstRows fun row device h => ?_⟩
  have hdevice : (alertZoneMatch row).deviceId = .str (toString device.id) := by
    simp [alertZoneMatch, h.device_id]
  have huser : (alertZoneMatch row).userId = .str (toString device.user_id) := by
    simp [alertZoneMatch, h.user_id]
  exact ⟨⟨hdevice, huser, h.push_token, rfl⟩, rfl⟩

theorem findFreshGpsMatches_run (E : LocationEnv) (alert : Alert) (w : World) :
    ∃ ms, (findFreshGpsMatches (ℓ := ℓ) E (center alert) alert.alert_radius_km).run w =
      (.ok ms, w) ∧ Finds E alert w .freshGps ms :=
  ⟨_, rfl, .of_rows (gpsRows_rowsOf E _ _ _ w) fun _ _ h =>
    ⟨⟨h.device_id, h.user_id, h.push_token, rfl⟩, rfl⟩⟩

theorem findStaleGpsMatches_run (E : LocationEnv) (alert : Alert) (w : World) :
    ∃ ms, (findStaleGpsMatches (ℓ := ℓ) E (center alert) alert.alert_radius_km).run w =
      (.ok ms, w) ∧ Finds E alert w .staleGps ms :=
  ⟨_, rfl, .of_rows (gpsRows_rowsOf E _ _ _ w) fun _ _ h =>
    ⟨⟨h.device_id, h.user_id, h.push_token, rfl⟩, rfl⟩⟩

theorem findPostalCodeMatches_run (E : LocationEnv) (alert : Alert) (w : World) :
    ∃ ms, (findPostalCodeMatches (ℓ := ℓ) E alert.affected_postal_codes).run w =
      (.ok ms, w) ∧ Finds E alert w .postalCode ms := by
  unfold findPostalCodeMatches
  by_cases hnone : alert.affected_postal_codes.isEmpty = true
  · rw [if_pos hnone]
    refine ⟨[], rfl, by simp, ?_⟩
    intro device _ hreach
    simp [LocationStrategy.reaches, postalCodesOverlap, List.isEmpty_iff.1 hnone] at hreach
  · rw [if_neg hnone]
    exact ⟨_, rfl, .of_rows (postalCodeRows_rowsOf E _ w) fun _ _ h =>
      ⟨⟨h.device_id, h.user_id, h.push_token, rfl⟩, rfl⟩⟩

theorem findIpGeoMatches_run (E : LocationEnv) (alert : Alert) (w : World) :
    ∃ ms, (findIpGeoMatches (ℓ := ℓ) E (center alert) alert.alert_radius_km).run w =
      (.ok ms, w) ∧ Finds E alert w .ipGeo ms :=
  ⟨_, rfl, .of_rows (ipGeoRows_rowsOf E _ _ w) fun _ _ h =>
    ⟨⟨h.device_id, h.user_id, h.push_token, rfl⟩, rfl⟩⟩

end Strategies

section Deduplicate

variable {ms : List MatchResult} {x : MatchResult}

/-- Both passes go by the priority first. -/
theorem priority_bestOf_le {κ : Type} [DecidableEq κ] (key : MatchResult → κ)
    (better : MatchResult → MatchResult → Bool)
    (hlt : ∀ m m' : MatchResult, m.priority < m'.priority → better m m' = true)
    (hle : ∀ m m' : MatchResult, better m m' = true → m.priority ≤ m'.priority) (hx : x ∈ ms) :
    ∃ m ∈ (Assoc.bestOf key better ms).values, key m = key x ∧ m.priority ≤ x.priority := by
  obtain ⟨m, hm⟩ : ∃ m, (Assoc.bestOf key better ms).get (key x) = some m :=
    Assoc.get_bestOf_of_mem hx
  have hkey := (Assoc.mem_of_get_bestOf hm).2
  have hrank := Assoc.rank_bestOf_le hlt hle hm hx rfl
  exact ⟨m, Assoc.mem_values_iff.2 ⟨_, hm⟩, hkey, hrank⟩

theorem betterForUser_le (m m' : MatchResult) (h : betterForUser m m' = true) :
    m.priority ≤ m'.priority := by
  simp only [betterForUser, Bool.or_eq_true, Bool.and_eq_true, decide_eq_true_eq] at h
  rcases h with h | ⟨h, -⟩
  · exact Nat.le_of_lt h
  · exact Nat.le_of_eq h

theorem mem_of_mem_bestMatches (hx : x ∈ bestMatches ms) : x ∈ ms :=
  (Assoc.mem_values_bestOf (Assoc.mem_values_bestOf hx).1).1

/-- One match for each user id. -/
theorem nodup_bestMatches (ms : List MatchResult) :
    ((bestMatches ms).map fun m => m.userId).Nodup :=
  Assoc.nodup_values_bestOf _

/-- Every match has one under its user id that is at least as good, when a device
belongs to one user. -/
theorem exists_bestMatch_le
    (hdevice : ∀ m ∈ ms, ∀ m' ∈ ms, m.deviceId = m'.deviceId → m.userId = m'.userId)
    (hx : x ∈ ms) : ∃ m ∈ bestMatches ms, m.userId = x.userId ∧ m.priority ≤ x.priority := by
  obtain ⟨y, hy, hyid, hyle⟩ := priority_bestOf_le (fun m => m.deviceId) betterForDevice
    (fun _ _ h => by simpa [betterForDevice] using h)
    (fun _ _ h => Nat.le_of_lt (by simpa [betterForDevice] using h)) hx
  obtain ⟨m, hm, hmid, hmle⟩ := priority_bestOf_le (fun m => m.userId) betterForUser
    (fun _ _ h => by simp [betterForUser, h]) betterForUser_le hy
  have huser := hdevice y (Assoc.mem_values_bestOf hy).1 x hx hyid
  exact ⟨m, hm, hmid.trans huser, Nat.le_trans hmle hyle⟩

end Deduplicate

section Recipients

variable {ℓ : Type} [LocationCalls ℓ] {E : LocationEnv} {alert : Alert} {w : World}

/-- All matches for an alert: the devices that some strategy reaches. -/
theorem collectMatches_run (E : LocationEnv) (alert : Alert) (w : World) :
    ∃ ms, (collectMatches (ℓ := ℓ) E alert).run w = (.ok ms, w) ∧
      (∀ m ∈ ms, ∃ s, ∃ device ∈ w.devices.rows, s.reaches E alert w device = true ∧
        IsMatch E s device m.toDeviceMatch ∧ m.priority = s.priority) ∧
      ∀ s, ∀ device ∈ w.devices.rows, s.reaches E alert w device = true → ∃ m ∈ ms,
        IsMatch E s device m.toDeviceMatch ∧ m.priority = s.priority := by
  obtain ⟨ms₁, hrun₁, h₁⟩ := findSavedZoneMatches_run (ℓ := ℓ) E alert w
  obtain ⟨ms₂, hrun₂, h₂⟩ := findAlertZoneMatches_run (ℓ := ℓ) E alert w
  obtain ⟨ms₃, hrun₃, h₃⟩ := findFreshGpsMatches_run (ℓ := ℓ) E alert w
  obtain ⟨ms₄, hrun₄, h₄⟩ := findStaleGpsMatches_run (ℓ := ℓ) E alert w
  obtain ⟨ms₅, hrun₅, h₅⟩ := findPostalCodeMatches_run (ℓ := ℓ) E alert w
  obtain ⟨ms₆, hrun₆, h₆⟩ := findIpGeoMatches_run (ℓ := ℓ) E alert w
  refine ⟨ms₁ ++ ms₂ ++ ms₃ ++ ms₄ ++ ms₅ ++ ms₆, ?_, ?_, ?_⟩
  · unfold collectMatches
    rw [Process.run_bind_ok hrun₁, Process.run_bind_ok hrun₂, Process.run_bind_ok hrun₃,
      Process.run_bind_ok hrun₄, Process.run_bind_ok hrun₅, Process.run_bind_ok hrun₆]
    rfl
  · intro m hm
    simp only [List.mem_append] at hm
    rcases hm with ((((hm | hm) | hm) | hm) | hm) | hm
    · exact ⟨_, h₁.sound m hm⟩
    · exact ⟨_, h₂.sound m hm⟩
    · exact ⟨_, h₃.sound m hm⟩
    · exact ⟨_, h₄.sound m hm⟩
    · exact ⟨_, h₅.sound m hm⟩
    · exact ⟨_, h₆.sound m hm⟩
  · intro s device hmem hreach
    cases s with
    | savedZone =>
        obtain ⟨m, hm, h⟩ := h₁.complete device hmem hreach
        exact ⟨m, by simp [hm], h⟩
    | alertZone =>
        obtain ⟨m, hm, h⟩ := h₂.complete device hmem hreach
        exact ⟨m, by simp [hm], h⟩
    | freshGps =>
        obtain ⟨m, hm, h⟩ := h₃.complete device hmem hreach
        exact ⟨m, by simp [hm], h⟩
    | staleGps =>
        obtain ⟨m, hm, h⟩ := h₄.complete device hmem hreach
        exact ⟨m, by simp [hm], h⟩
    | postalCode =>
        obtain ⟨m, hm, h⟩ := h₅.complete device hmem hreach
        exact ⟨m, by simp [hm], h⟩
    | ipGeo =>
        obtain ⟨m, hm, h⟩ := h₆.complete device hmem hreach
        exact ⟨m, by simp [hm], h⟩

/-- The matches of an alert: one for each user id, each from a strategy that
reaches its device, and for each device reached one of its user that is at least
as good. -/
structure Recipients (E : LocationEnv) (alert : Alert) (w : World) (ms : List DeviceMatch) :
    Prop where
  nodup : (ms.map fun m => m.userId).Nodup
  sound : ∀ m ∈ ms, ∃ s, ∃ device ∈ w.devices.rows, s.reaches E alert w device = true ∧
    IsMatch E s device m
  best : ∀ s : LocationStrategy, ∀ device ∈ w.devices.rows, s.reaches E alert w device = true →
    ∃ m ∈ ms, m.userId = s.ident E device.user_id ∧ ∃ t, ∃ device' ∈ w.devices.rows,
      t.reaches E alert w device' = true ∧ IsMatch E t device' m ∧ t.priority ≤ s.priority

/-- A device has one owner, whichever strategy found it. -/
theorem userId_of_deviceId {s t : LocationStrategy} {device device' : Device} {m m' : DeviceMatch}
    (hmem : device ∈ w.devices.rows) (hmem' : device' ∈ w.devices.rows)
    (h : IsMatch E s device m) (h' : IsMatch E t device' m') (hid : m.deviceId = m'.deviceId) :
    device = device' ∧ m.userId = m'.userId := by
  rw [h.deviceId, h'.deviceId] at hid
  obtain ⟨hkey, hident⟩ := ident_congr hid
  have hsame : device = device' := by
    have hfind := Table.find?_of_mem hmem
    rw [hkey, Table.find?_of_mem hmem'] at hfind
    exact (Option.some.inj hfind).symm
  subst hsame
  exact ⟨rfl, by rw [h.userId, h'.userId, hident]⟩

theorem findDevicesForAlert_run {alertId : ℕ} (hrow : w.alerts.find? alertId = some alert)
    (hactive : alert.status = .ACTIVE) (hcoord : hasCoordinates alert = true) :
    ∃ ms, (findDevicesForAlert (ℓ := ℓ) E alertId).run w = (.ok ms, w) ∧
      Recipients E alert w ms := by
  obtain ⟨ms, hrun, hsound, hcomplete⟩ := collectMatches_run (ℓ := ℓ) E alert w
  have howner : ∀ m ∈ ms, ∀ m' ∈ ms, m.deviceId = m'.deviceId → m.userId = m'.userId := by
    intro m hm m' hm' hid
    obtain ⟨s, device, hmem, -, h, -⟩ := hsound m hm
    obtain ⟨t, device', hmem', -, h', -⟩ := hsound m' hm'
    exact (userId_of_deviceId hmem hmem' h h' hid).2
  refine ⟨deduplicateMatches ms, ?_, ?_, ?_, ?_⟩
  · unfold findDevicesForAlert
    rw [Process.run_query_bind, hrow]
    simp only [hactive, hcoord, ne_eq, not_true_eq_false, if_false, Bool.not_true,
      Bool.false_eq_true]
    rw [Process.run_bind_ok hrun]
    rfl
  · unfold deduplicateMatches
    rw [List.map_map]
    exact nodup_bestMatches ms
  · intro m hm
    obtain ⟨x, hx, rfl⟩ := List.mem_map.1 hm
    obtain ⟨s, device, hmem, hreach, h, -⟩ := hsound x (mem_of_mem_bestMatches hx)
    exact ⟨s, device, hmem, hreach, h⟩
  · intro s device hmem hreach
    obtain ⟨x, hx, h, hpriority⟩ := hcomplete s device hmem hreach
    obtain ⟨m, hm, huser, hle⟩ := exists_bestMatch_le howner hx
    obtain ⟨t, device', hmem', hreach', h', hpriority'⟩ := hsound m (mem_of_mem_bestMatches hm)
    refine ⟨m.toDeviceMatch, List.mem_map_of_mem hm, huser.trans h.userId, t, device', hmem',
      hreach', h', ?_⟩
    rwa [hpriority, hpriority'] at hle

/-- Without coordinates nobody is found. -/
theorem findDevicesForAlert_run_of_no_coordinates {alertId : ℕ}
    (hrow : w.alerts.find? alertId = some alert) (hcoord : hasCoordinates alert = false) :
    (findDevicesForAlert (ℓ := ℓ) E alertId).run w = (.ok [], w) := by
  unfold findDevicesForAlert
  rw [Process.run_query_bind, hrow]
  by_cases hactive : alert.status = .ACTIVE <;> simp [hactive, hcoord]

end Recipients

end FifiAlert
