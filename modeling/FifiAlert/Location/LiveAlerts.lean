import FifiAlert.Location.UniqueRecipients

/-!
# Every live alert is matched

An active alert whose coordinates both count as such is matched by all six strategies, and every
user with a device that one of them reaches is among the matches. On the equator and on the prime
meridian a coordinate is zero, which counts as none, and nobody is found.
-/

namespace FifiAlert

open Concurrency Store Js LocationService

/-- Whoever has a device that some strategy reaches is among the matches. -/
def MatchesReached (E : LocationEnv) (alert : Alert) (w : World) (ms : List DeviceMatch) : Prop :=
  ∀ device ∈ w.devices.rows, ∀ s : LocationStrategy, s.reaches E alert w device = true →
    ∃ m ∈ ms, m.userId.parseInt = some device.user_id

/-- Every strategy sends its query. Without affected postal codes theirs has nothing to ask. -/
def EvaluatesAll (alert : Alert) (calls : List LocationCall) : Prop :=
  ∀ s : LocationStrategy, (s = .postalCode → alert.affected_postal_codes ≠ []) →
    .queryRaw s ∈ calls

section Live

variable {E : LocationEnv} {alert : Alert} {w : World} {ms : List DeviceMatch}

theorem Recipients.matchesReached (h : Recipients E alert w ms) : MatchesReached E alert w ms := by
  intro device hmem s hreach
  obtain ⟨m, hm, hid, -⟩ := h.best s device hmem hreach
  exact ⟨m, hm, hid ▸ parseInt_ident E s device.user_id⟩

/-- The queries of the six strategies, one after the other. -/
theorem collectMatches_evaluatesAll (E : LocationEnv) (alert : Alert) (w : World) :
    EvaluatesAll alert ((collectMatches E alert).trace w) := by
  have htrace : (collectMatches (ℓ := LocationCall) E alert).trace w =
      [.queryRaw .savedZone, .queryRaw .alertZone, .dateNow, .queryRaw .freshGps, .dateNow,
        .queryRaw .staleGps] ++
      ((if alert.affected_postal_codes.isEmpty then [] else [.queryRaw .postalCode]) ++
        [.queryRaw .ipGeo]) := by
    unfold collectMatches findPostalCodeMatches
    split <;> rfl
  intro s hs
  rw [htrace]
  cases s with
  | postalCode =>
      have hcodes := hs rfl
      simp [hcodes]
  | _ => simp

theorem findDevicesForAlert_trace {alertId : ℕ} (hrow : w.alerts.find? alertId = some alert)
    (hactive : alert.status = .ACTIVE) :
    (findDevicesForAlert (ℓ := LocationCall) E alertId).trace w = .alertFindUnique alertId ::
      if hasCoordinates alert then (collectMatches E alert).trace w else [] := by
  unfold findDevicesForAlert
  rw [Process.trace_query_bind, hrow]
  refine congrArg (LocationCall.alertFindUnique alertId :: ·) ?_
  cases hcoord : hasCoordinates alert with
  | false => simp [hactive, hcoord, Process.trace]
  | true =>
      obtain ⟨ms, hrun, -⟩ := collectMatches_run (ℓ := LocationCall) E alert w
      simp [hactive, hcoord, Process.trace, Process.trace_bind_ok hrun]

/-- The six strategies are evaluated for an active alert, and whoever they reach is matched,
exactly when neither coordinate is zero. -/
theorem liveAlert_matched_iff (E : LocationEnv) (w : World) (alertId : ℕ) (alert : Alert)
    (hrow : w.alerts.find? alertId = some alert) (hactive : alert.status = .ACTIVE) :
    (EvaluatesAll alert ((findDevicesForAlert E alertId).trace w) ∧
      ∃ ms, (findDevicesForAlert (ℓ := LocationCall) E alertId).run w = (.ok ms, w) ∧
        MatchesReached E alert w ms) ↔
      alert.last_seen_lat ≠ 0 ∧ alert.last_seen_lon ≠ 0 := by
  have hcoord : hasCoordinates alert = true ↔
      alert.last_seen_lat ≠ 0 ∧ alert.last_seen_lon ≠ 0 := by
    simp [hasCoordinates]
  rw [findDevicesForAlert_trace hrow hactive, ← hcoord]
  constructor
  · rintro ⟨hall, -⟩
    by_contra hnone
    have hsaved := hall .savedZone nofun
    simp [hnone] at hsaved
  · intro hsome
    obtain ⟨ms, hrun, h⟩ :=
      findDevicesForAlert_run (ℓ := LocationCall) (E := E) hrow hactive hsome
    rw [if_pos hsome]
    refine ⟨fun s hs => ?_, ms, hrun, h.matchesReached⟩
    exact List.mem_cons_of_mem _ (collectMatches_evaluatesAll E alert w s hs)

end Live

/-- A device with a saved zone at the place of alert 7. -/
def savedZoneWorld (lat : ℚ) : World where
  alerts := Table.empty.insertNew
    { id := 7, creator_id := 1, last_seen_lat := lat, last_seen_lon := 1 }
  devices := Table.empty.insertNew { id := 20, user_id := 2 }
  savedZones := Table.empty.insertNew { id := 4, device_id := 20, location_point := ⟨1, lat⟩ }

/-- North of the equator the owner of the zone is matched. -/
theorem liveAlert_matched_iff_north :
    EvaluatesAll { id := 7, creator_id := 1, last_seen_lat := 1, last_seen_lon := 1 }
        ((findDevicesForAlert flatLocation 7).trace (savedZoneWorld 1)) ∧
      ∃ ms, (findDevicesForAlert (ℓ := LocationCall) flatLocation 7).run (savedZoneWorld 1) =
        (.ok ms, savedZoneWorld 1) ∧
        MatchesReached flatLocation
          { id := 7, creator_id := 1, last_seen_lat := 1, last_seen_lon := 1 }
            (savedZoneWorld 1) ms :=
  (liveAlert_matched_iff flatLocation (savedZoneWorld 1) 7
    { id := 7, creator_id := 1, last_seen_lat := 1, last_seen_lon := 1 } (by decide +kernel) rfl).2
    ⟨by decide, by decide⟩

/-- On the equator nobody is asked for, and the owner of the zone is not matched. -/
theorem liveAlert_unmatched_equator :
    (savedZoneWorld 0).alerts.find? 7 =
        some { id := 7, creator_id := 1, last_seen_lat := 0, last_seen_lon := 1 } ∧
      (∀ s, LocationCall.queryRaw s ∉
        (findDevicesForAlert flatLocation 7).trace (savedZoneWorld 0)) ∧
      (findDevicesForAlert (ℓ := LocationCall) flatLocation 7).run (savedZoneWorld 0) =
        (.ok [], savedZoneWorld 0) ∧
      ¬ MatchesReached flatLocation
        { id := 7, creator_id := 1, last_seen_lat := 0, last_seen_lon := 1 }
          (savedZoneWorld 0) [] := by
  have hrow : (savedZoneWorld 0).alerts.find? 7 =
      some { id := 7, creator_id := 1, last_seen_lat := 0, last_seen_lon := 1 } := by
    decide +kernel
  refine ⟨hrow, fun s => ?_, findDevicesForAlert_run_of_no_coordinates hrow (by decide),
    fun hmatches => ?_⟩
  · rw [findDevicesForAlert_trace hrow rfl]
    simp [hasCoordinates]
  · obtain ⟨m, hm, -⟩ := hmatches { id := 20, user_id := 2 } (by decide +kernel) .savedZone
      (by decide +kernel)
    cases hm

end FifiAlert
