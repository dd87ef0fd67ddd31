import FifiAlert.Location.Matching

/-!
# One match for each recipient

With integer columns handed over as numbers, the ids of the alert zones are strings
and all other ids are numbers. The deduplication keeps the two apart, so a user
appears twice among the matches of an alert exactly when an alert zone of theirs
reaches them and another strategy does too.
-/

namespace FifiAlert

open Concurrency Store Js LocationService

/-- At most one match for each user and for each device of the database. -/
def UniqueRecipients (ms : List DeviceMatch) : Prop :=
  (ms.map fun m => m.userId.parseInt).Nodup ∧ (ms.map fun m => m.deviceId.parseInt).Nodup

/-- No user is reached by an alert zone and by another strategy. -/
def NoUserReachedTwice (E : LocationEnv) (alert : Alert) (w : World) : Prop :=
  ∀ device ∈ w.devices.rows, ∀ device' ∈ w.devices.rows, device.user_id = device'.user_id →
    LocationStrategy.alertZone.reaches E alert w device = true →
      ∀ s : LocationStrategy, s ≠ .alertZone → s.reaches E alert w device' = false

section Unique

variable {E : LocationEnv} {alert : Alert} {w : World} {ms : List DeviceMatch}

theorem ident_of_ne_alertZone (hE : E.integers = .number) {s : LocationStrategy}
    (hs : s ≠ .alertZone) (n : ℕ) : s.ident E n = .num n := by
  cases s <;> simp_all [LocationStrategy.ident, IntegerColumns.read]

/-- Two matches of one user have the same user id. -/
theorem userId_eq_of_user (hE : E.integers = .number) (hnone : NoUserReachedTwice E alert w)
    {s t : LocationStrategy} {device device' : Device} {m m' : DeviceMatch}
    (hmem : device ∈ w.devices.rows) (hmem' : device' ∈ w.devices.rows)
    (hreach : s.reaches E alert w device = true) (hreach' : t.reaches E alert w device' = true)
    (h : IsMatch E s device m) (h' : IsMatch E t device' m')
    (huser : device.user_id = device'.user_id) : m.userId = m'.userId := by
  rw [h.userId, h'.userId, huser]
  by_cases hs : s = .alertZone
  · by_cases ht : t = .alertZone
    · rw [hs, ht]
    · subst hs
      have hfalse := hnone device hmem device' hmem' huser hreach t ht
      rw [hreach'] at hfalse
      cases hfalse
  · by_cases ht : t = .alertZone
    · subst ht
      have hfalse := hnone device' hmem' device hmem huser.symm hreach' s hs
      rw [hreach] at hfalse
      cases hfalse
    · rw [ident_of_ne_alertZone hE hs, ident_of_ne_alertZone hE ht]

/-- A property that tells no two matches of one user apart is listed once. -/
theorem Recipients.nodup_map {β : Type} (h : Recipients E alert w ms) {g : DeviceMatch → β}
    (hg : ∀ m ∈ ms, ∀ m' ∈ ms, g m = g m' → m.userId = m'.userId) : (ms.map g).Nodup := by
  have hms : ms.Nodup := List.Nodup.of_map _ h.nodup
  rw [List.nodup_map_iff_inj_on hms]
  intro m hm m' hm' heq
  exact List.inj_on_of_nodup_map h.nodup hm hm' (hg m hm m' hm' heq)

theorem Recipients.unique (h : Recipients E alert w ms) (hE : E.integers = .number)
    (hnone : NoUserReachedTwice E alert w) : UniqueRecipients ms := by
  constructor
  · apply h.nodup_map
    intro m hm m' hm' heq
    obtain ⟨s, device, hmem, hreach, hmatch⟩ := h.sound m hm
    obtain ⟨t, device', hmem', hreach', hmatch'⟩ := h.sound m' hm'
    rw [hmatch.userId, hmatch'.userId, parseInt_ident, parseInt_ident, Option.some.injEq] at heq
    exact userId_eq_of_user hE hnone hmem hmem' hreach hreach' hmatch hmatch' heq
  · apply h.nodup_map
    intro m hm m' hm' heq
    obtain ⟨s, device, hmem, hreach, hmatch⟩ := h.sound m hm
    obtain ⟨t, device', hmem', hreach', hmatch'⟩ := h.sound m' hm'
    rw [hmatch.deviceId, hmatch'.deviceId, parseInt_ident, parseInt_ident,
      Option.some.injEq] at heq
    have hfind := Table.find?_of_mem hmem
    rw [heq, Table.find?_of_mem hmem', Option.some.injEq] at hfind
    subst hfind
    exact userId_eq_of_user hE hnone hmem hmem' hreach hreach' hmatch hmatch' rfl

/-- A user reached by an alert zone and by another strategy has two matches. -/
theorem Recipients.noUserReachedTwice (h : Recipients E alert w ms) (hE : E.integers = .number)
    (hunique : UniqueRecipients ms) : NoUserReachedTwice E alert w := by
  intro device hmem device' hmem' huser hzone s hs
  by_contra hreach
  rw [Bool.not_eq_false] at hreach
  obtain ⟨m, hm, hid, -⟩ := h.best .alertZone device hmem hzone
  obtain ⟨m', hm', hid', -⟩ := h.best s device' hmem' hreach
  have hparse : m.userId.parseInt = m'.userId.parseInt := by
    rw [hid, hid', parseInt_ident, parseInt_ident, huser]
  have hsame : m = m' := List.inj_on_of_nodup_map hunique.1 hm hm' hparse
  subst hsame
  rw [hid, ident_of_ne_alertZone hE hs] at hid'
  cases hid'

/-- The matches of an active alert are unique for each user and each device exactly
when no user is reached by an alert zone and by another strategy. -/
theorem findDevicesForAlert_unique_iff {ℓ : Type} [LocationCalls ℓ] (E : LocationEnv)
    (hE : E.integers = .number) (w : World) (alertId : ℕ) (alert : Alert)
    (hrow : w.alerts.find? alertId = some alert) (hactive : alert.status = .ACTIVE) :
    (∃ ms, (findDevicesForAlert (ℓ := ℓ) E alertId).run w = (.ok ms, w) ∧ UniqueRecipients ms) ↔
      (hasCoordinates alert = true → NoUserReachedTwice E alert w) := by
  cases hcoord : hasCoordinates alert with
  | false =>
      have hrun := findDevicesForAlert_run_of_no_coordinates (ℓ := ℓ) (E := E) hrow hcoord
      simp only [Bool.false_eq_true, false_implies, iff_true]
      exact ⟨[], hrun, List.nodup_nil, List.nodup_nil⟩
  | true =>
      obtain ⟨ms, hrun, h⟩ := findDevicesForAlert_run (ℓ := ℓ) (E := E) hrow hactive hcoord
      simp only [forall_const]
      constructor
      · rintro ⟨ms', hrun', hunique⟩
        rw [hrun] at hrun'
        cases hrun'
        exact h.noUserReachedTwice hE hunique
      · intro hnone
        exact ⟨ms, hrun, h.unique hE hnone⟩

end Unique

/-- A plane where degrees are meters, and numbers are numbers. -/
def flatLocation : LocationEnv where
  ST_Distance := fun a b => |a.lon - b.lon| + |a.lat - b.lat|
  ST_DWithin := fun a b r => |a.lon - b.lon| + |a.lat - b.lat| ≤ r
  rowOrder := .insertion
  integers := .number

/-- Alert 7 of user 1, and a device of user 2 with an alert zone at the place. -/
def zoneWorld : World where
  users := (Table.empty.insertNew { id := 1, email := "a@b.c" }).insertNew
    { id := 2, email := "d@e.f" }
  alerts := Table.empty.insertNew
    { id := 7, creator_id := 1, last_seen_lat := 1, last_seen_lon := 1 }
  devices := Table.empty.insertNew { id := 20, user_id := 2, push_token := some "token" }
  alertZones := Table.empty.insertNew
    { id := 3, user_id := 2, location_point := ⟨1, 1⟩, radius_meters := 100 }

/-- Only an alert zone reaches a device of `zoneWorld`. -/
theorem zoneWorld_reaches {device : Device} (hmem : device ∈ zoneWorld.devices.rows)
    {s : LocationStrategy} (hs : s ≠ .alertZone) :
    s.reaches flatLocation { id := 7, creator_id := 1, last_seen_lat := 1, last_seen_lon := 1 }
      zoneWorld device = false := by
  have hdevices : zoneWorld.devices.rows =
      [{ id := 20, user_id := 2, push_token := some "token" }] := by decide +kernel
  rw [hdevices, List.mem_singleton] at hmem
  subst hmem
  cases s with
  | alertZone => exact absurd rfl hs
  | savedZone => decide +kernel
  | freshGps => decide +kernel
  | staleGps => decide +kernel
  | postalCode => decide +kernel
  | ipGeo => decide +kernel

/-- The same, and a saved zone at the place for the same device. -/
def twoZonesWorld : World :=
  { zoneWorld with
    savedZones := Table.empty.insertNew { id := 4, device_id := 20, location_point := ⟨1, 1⟩ } }

/-- With the alert zone alone, the matches are unique. -/
theorem findDevicesForAlert_unique_iff_zone :
    ∃ ms, (findDevicesForAlert (ℓ := LocationCall) flatLocation 7).run zoneWorld =
      (.ok ms, zoneWorld) ∧ UniqueRecipients ms :=
  (findDevicesForAlert_unique_iff flatLocation rfl zoneWorld 7
    { id := 7, creator_id := 1, last_seen_lat := 1, last_seen_lon := 1 } (by decide +kernel)
      rfl).2 fun _ _ _ _ hmem' _ _ _ hs => zoneWorld_reaches hmem' hs

/-- A saved zone and an alert zone of one user: two matches for their only device. -/
theorem findDevicesForAlert_repeats_user :
    ∃ ms, (findDevicesForAlert (ℓ := LocationCall) flatLocation 7).run twoZonesWorld =
        (.ok ms, twoZonesWorld) ∧
      (ms.map fun m => (m.userId, m.deviceId)) =
        [(.num 2, .num 20), (.str "2", .str "20")] ∧
      ¬ UniqueRecipients ms := by
  have hmatches : (((findDevicesForAlert (ℓ := LocationCall) flatLocation 7).run
      twoZonesWorld).1.toOption.getD []).map (fun m => (m.userId, m.deviceId)) =
        [(.num 2, .num 20), (.str "2", .str "20")] := by decide +kernel
  have hrow : twoZonesWorld.alerts.find? 7 =
      some { id := 7, creator_id := 1, last_seen_lat := 1, last_seen_lon := 1 } := by
    decide +kernel
  obtain ⟨ms, hrun, -⟩ := findDevicesForAlert_run (ℓ := LocationCall) (E := flatLocation) hrow rfl
    (by decide +kernel)
  rw [hrun] at hmatches
  change ms.map _ = _ at hmatches
  refine ⟨ms, hrun, hmatches, ?_⟩
  rintro ⟨husers, -⟩
  have hparse : (ms.map fun m => m.userId.parseInt) = [some 2, some 2] := by
    have hids := congrArg (List.map fun p : Ident × Ident => p.1.parseInt) hmatches
    rw [List.map_map] at hids
    exact hids.trans (by decide +kernel)
  rw [hparse] at husers
  revert husers
  decide

end FifiAlert
