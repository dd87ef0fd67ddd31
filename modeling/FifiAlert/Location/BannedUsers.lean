import FifiAlert.Location.UniqueRecipients

/-!
# Banned users among the matches

Of the six strategies only the alert zones leave out the devices of banned users. A banned
user is among the matches of an active alert exactly when one of the other five strategies
reaches a device of theirs.
-/

namespace FifiAlert

open Concurrency Store Js LocationService

def World.isBanned (w : World) (userId : ℕ) : Bool :=
  (w.users.find? userId).any User.banned

/-- No match belongs to a banned user. -/
def SparesBanned (w : World) (ms : List DeviceMatch) : Prop :=
  ∀ m ∈ ms, ∀ userId, m.userId.parseInt = some userId → w.isBanned userId = false

/-- No strategy but the alert zones reaches a device of a banned user. -/
def NoBannedReached (E : LocationEnv) (alert : Alert) (w : World) : Prop :=
  ∀ device ∈ w.devices.rows, w.isBanned device.user_id = true →
    ∀ s : LocationStrategy, s ≠ .alertZone → s.reaches E alert w device = false

section Banned

variable {E : LocationEnv} {alert : Alert} {w : World} {ms : List DeviceMatch} {device : Device}

/-- The alert zones ask for the ban. -/
theorem not_isBanned_of_alertZone
    (h : LocationStrategy.alertZone.reaches E alert w device = true) :
    w.isBanned device.user_id = false := by
  obtain ⟨zone, -, hz⟩ := List.any_eq_true.1 h
  rw [Bool.and_eq_true, Bool.and_eq_true, decide_eq_true_eq] at hz
  obtain ⟨⟨howner, hbanned⟩, -⟩ := hz
  rw [howner] at hbanned
  unfold World.isBanned
  cases huser : w.users.find? device.user_id with
  | none => rfl
  | some user =>
      rw [huser] at hbanned
      simpa using hbanned

theorem Recipients.sparesBanned (h : Recipients E alert w ms) (hnone : NoBannedReached E alert w) :
    SparesBanned w ms := by
  intro m hm userId hid
  obtain ⟨s, device, hmem, hreach, hmatch⟩ := h.sound m hm
  rw [hmatch.userId, parseInt_ident] at hid
  cases hid
  by_cases hs : s = .alertZone
  · subst hs
    exact not_isBanned_of_alertZone hreach
  · rw [Bool.eq_false_iff]
    intro hbanned
    rw [hnone device hmem hbanned s hs] at hreach
    cases hreach

theorem Recipients.noBannedReached (h : Recipients E alert w ms) (hspares : SparesBanned w ms) :
    NoBannedReached E alert w := by
  intro device hmem hbanned s hs
  rw [Bool.eq_false_iff]
  intro hreach
  obtain ⟨m, hm, hid, -⟩ := h.best s device hmem hreach
  have hfalse := hspares m hm device.user_id (hid ▸ parseInt_ident E s device.user_id)
  rw [hbanned] at hfalse
  cases hfalse

/-- No match of an active alert belongs to a banned user exactly when no strategy but the alert
zones reaches a device of one. -/
theorem findDevicesForAlert_sparesBanned_iff {ℓ : Type} [LocationCalls ℓ] (E : LocationEnv)
    (w : World) (alertId : ℕ) (alert : Alert) (hrow : w.alerts.find? alertId = some alert)
    (hactive : alert.status = .ACTIVE) :
    (∃ ms, (findDevicesForAlert (ℓ := ℓ) E alertId).run w = (.ok ms, w) ∧ SparesBanned w ms) ↔
      (hasCoordinates alert = true → NoBannedReached E alert w) := by
  cases hcoord : hasCoordinates alert with
  | false =>
      have hrun := findDevicesForAlert_run_of_no_coordinates (ℓ := ℓ) (E := E) hrow hcoord
      simp only [Bool.false_eq_true, false_implies, iff_true]
      exact ⟨[], hrun, fun m hm => absurd hm List.not_mem_nil⟩
  | true =>
      obtain ⟨ms, hrun, h⟩ := findDevicesForAlert_run (ℓ := ℓ) (E := E) hrow hactive hcoord
      simp only [forall_const]
      constructor
      · rintro ⟨ms', hrun', hspares⟩
        rw [hrun] at hrun'
        cases hrun'
        exact h.noBannedReached hspares
      · intro hnone
        exact ⟨ms, hrun, h.sparesBanned hnone⟩

end Banned

/-- Who is banned is looked up for the alert zones only. -/
theorem reaches_congr (w w' : World) {E : LocationEnv} {alert : Alert} {device : Device}
    {s : LocationStrategy} (hs : s ≠ .alertZone) (hzones : w.savedZones = w'.savedZones)
    (hnow : w.now = w'.now) : s.reaches E alert w device = s.reaches E alert w' device := by
  cases s with
  | alertZone => exact absurd rfl hs
  | savedZone => simp only [LocationStrategy.reaches, hzones]
  | freshGps => simp only [LocationStrategy.reaches, hnow]
  | staleGps => simp only [LocationStrategy.reaches, hnow]
  | postalCode => rfl
  | ipGeo => rfl

/-- User 2 of `zoneWorld` is banned. -/
def bannedOwnerWorld : World :=
  { zoneWorld with
    users := zoneWorld.users.updateMany (fun u => u.id = 2) fun u => { u with banned := true } }

/-- The same, and a saved zone at the place for the device of the banned user. -/
def bannedZoneWorld : World :=
  { bannedOwnerWorld with
    savedZones := Table.empty.insertNew { id := 4, device_id := 20, location_point := ⟨1, 1⟩ } }

/-- With the alert zone alone, the banned user is left out. -/
theorem findDevicesForAlert_sparesBanned_iff_zone :
    ∃ ms, (findDevicesForAlert (ℓ := LocationCall) flatLocation 7).run bannedOwnerWorld =
      (.ok ms, bannedOwnerWorld) ∧ SparesBanned bannedOwnerWorld ms :=
  (findDevicesForAlert_sparesBanned_iff flatLocation bannedOwnerWorld 7
    { id := 7, creator_id := 1, last_seen_lat := 1, last_seen_lon := 1 } (by decide +kernel)
      rfl).2 fun _ _ hmem _ _ hs =>
        (reaches_congr bannedOwnerWorld zoneWorld hs rfl rfl).trans (zoneWorld_reaches hmem hs)

/-- A saved zone reaches the device of a banned user: the user is a match. -/
theorem findDevicesForAlert_matches_banned :
    (bannedZoneWorld.alerts.find? 7).map Alert.status = some .ACTIVE ∧
      bannedZoneWorld.isBanned 2 = true ∧
      ∃ ms, (findDevicesForAlert (ℓ := LocationCall) flatLocation 7).run bannedZoneWorld =
          (.ok ms, bannedZoneWorld) ∧
        (ms.map fun m => m.userId) = [.num 2] ∧ ¬ SparesBanned bannedZoneWorld ms := by
  have hmatches : (((findDevicesForAlert (ℓ := LocationCall) flatLocation 7).run
      bannedZoneWorld).1.toOption.getD []).map (fun m => m.userId) = [.num 2] := by decide +kernel
  have hbanned : bannedZoneWorld.isBanned 2 = true := by decide +kernel
  have hrow : bannedZoneWorld.alerts.find? 7 =
      some { id := 7, creator_id := 1, last_seen_lat := 1, last_seen_lon := 1 } := by
    decide +kernel
  obtain ⟨ms, hrun, -⟩ := findDevicesForAlert_run (ℓ := LocationCall) (E := flatLocation) hrow rfl
    (by decide +kernel)
  rw [hrun] at hmatches
  change ms.map _ = _ at hmatches
  refine ⟨by rw [hrow]; rfl, hbanned, ms, hrun, hmatches, fun hspares => ?_⟩
  obtain ⟨m, hm, hid⟩ := List.mem_map.1 (hmatches ▸ List.mem_singleton_self (Ident.num 2))
  have hparse : m.userId.parseInt = some 2 := by
    rw [hid]
    decide +kernel
  rw [hspares m hm 2 hparse] at hbanned
  cases hbanned

end FifiAlert
