import FifiAlert.Notification.PushFanOut

/-!
# The three waves of an alert

Each wave keeps its own tier of the matches. A user is reached by the escalation
exactly when at one of the waves their match is of the tier of that wave, so a
user whose match moves to an earlier tier before its wave would have come is
reached by none.
-/

namespace FifiAlert

open Concurrency Store Js LocationService NotificationService NotificationQueueProcessor

/-- A push row for the alert on a device of the user was added. -/
def PushedTo (w w' : World) (alertId userId : ℕ) : Prop :=
  ∃ r ∈ (w'.addedSince w).rows, r.alert_id = alertId ∧ r.isPush = true ∧
    w.ownerOf r = some userId

/-- The run of a wave that finds the user in a tier: the alert is active and of
somebody else, the user has a reachable device, is under the cap and awake. -/
structure WaveRun (E : NotificationEnv) (alertId userId : ℕ) (wave tier : NotificationConfidence)
    (w w' : World) : Prop where
  active : ∃ alert, w.alerts.find? alertId = some alert ∧ alert.status = .ACTIVE ∧
    alert.creator_id ≠ userId
  matched : ∃ ms, (findDevicesForAlert (ℓ := NotificationCall) E.location alertId).run w =
    (.ok ms, w) ∧ ∃ m ∈ ms, m.userId.parseInt = some userId ∧ m.confidence = tier
  reachable : ∃ device ∈ w.devices.rows, device.user_id = userId ∧ isReachable device = true
  awake : isQuietHours (E.getHours w.now) = false
  underCap : overDailyCap w userId (w.now - MS_PER_DAY) wave = false
  run : (processAlertNotifications E alertId (some wave)).run w = (.ok (), w')

section Waves

variable {E : NotificationEnv} {alertId userId : ℕ} {alert : Alert} {w w' : World}
  {wave tier : NotificationConfidence} {ms : List DeviceMatch}

theorem ident_string {L : LocationEnv} (hL : L.integers = .string) (s : LocationStrategy) (n : ℕ) :
    s.ident L n = .str (toString n) := by
  cases s <;> simp [LocationStrategy.ident, hL, IntegerColumns.read]

/-- With all ids as strings the id of a match is the id of its user. -/
theorem Recipients.userId_string {L : LocationEnv} (h : Recipients L alert w ms)
    (hL : L.integers = .string) {m : DeviceMatch} (hm : m ∈ ms)
    (hparse : m.userId.parseInt = some userId) : m.userId = .str (toString userId) := by
  obtain ⟨s, device, -, -, hmatch⟩ := h.sound m hm
  rw [hmatch.userId, parseInt_ident, Option.some.injEq] at hparse
  rw [hmatch.userId, ident_string hL, hparse]

/-- What a wave run finds, and what it does. -/
theorem WaveRun.acts (h : WaveRun E alertId userId wave tier w w')
    (hE : E.location.integers = .string) :
    ∃ (alert : Alert) (ms : List DeviceMatch) (m : DeviceMatch), alert.creator_id ≠ userId ∧
      w' = w.acts (waveActs E alertId wave (deviceMatches wave alert.creator_id ms) w) ∧
        (ms.map fun m => m.userId).Nodup ∧ m ∈ ms ∧ m.userId = .str (toString userId) ∧
          m.confidence = tier := by
  obtain ⟨alert, hrow, hactive, hother⟩ := h.active
  obtain ⟨ms, hfind, m, hm, hparse, htier⟩ := h.matched
  have hrecipients := (recipients_of_mem hrow hactive hfind hm).2
  have hrun := processAlertNotifications_run (some wave) hrow hactive hfind
  rw [h.run] at hrun
  exact ⟨alert, ms, m, hother, congrArg Prod.snd hrun, hrecipients.nodup, hm,
    hrecipients.userId_string hE hm hparse, htier⟩

/-- A wave pushes to users of its own tier only. -/
theorem WaveRun.tier_of_pushed (h : WaveRun E alertId userId wave tier w w')
    (hE : E.location.integers = .string) (hpushed : PushedTo w w' alertId userId) :
    tier = wave := by
  obtain ⟨alert, ms, m, -, rfl, hnodup, hm, huser, rfl⟩ := h.acts hE
  obtain ⟨r, hr, -, hpush, howner⟩ := hpushed
  rw [addedSince_acts] at hr
  obtain ⟨-, data, heq, hact⟩ := mem_rowsOf hr
  rcases hact with hact | hact
  · have hfalse : (data.toRow 0 0).isPush = false := waveActs_forAlert _ hact
    rw [heq, isPush_toRow, hfalse] at hpush
    cases hpush
  · obtain ⟨e, he, device, hdevice, rfl, hkey, -⟩ := push_mem_waveActs hact
    obtain ⟨hmem, hid⟩ := mem_userMatches he
    obtain ⟨hin, hwave, -⟩ := mem_deviceMatches.1 hmem
    have hfound := Table.find?_of_mem hdevice
    have hdev : r.device_id = device.id := by
      rw [heq]
      rfl
    rw [World.ownerOf, hdev, hfound, Option.map_some, Option.some.injEq] at howner
    have hsame : e.2 = m := by
      apply List.inj_on_of_nodup_map hnodup hin hm
      rw [hid, hkey, howner, huser]
    rw [← hsame, hwave]

/-- A wave pushes to a user of its tier who was not pushed to before. -/
theorem WaveRun.pushed (h : WaveRun E alertId userId wave wave w w')
    (hE : E.location.integers = .string)
    (hbeen : beenNotified w alertId userId .PUSH = false) : PushedTo w w' alertId userId := by
  obtain ⟨alert, ms, m, hother, rfl, -, hm, huser, htier⟩ := h.acts hE
  obtain ⟨device, hdevice, rfl, hreach⟩ := h.reachable
  have hpush : Pushable E w alertId wave device.user_id :=
    ⟨h.reachable, by rw [h.awake, Bool.false_and], hbeen, h.underCap⟩
  have hcreator : m.userId ≠ .str (toString alert.creator_id) := by
    rw [huser]
    exact fun heq => hother (str_toString_inj.1 heq).symm
  obtain ⟨m', hentry⟩ := exists_entry (mem_deviceMatches.2 ⟨hm, htier, hcreator⟩)
  rw [huser] at hentry
  have hone := countP_waveActs hpush hdevice hreach hentry
  obtain ⟨row, hrow, halert, -⟩ := (pushedOnce_iff waveActs_forAlert).2 hone
  have hmem : row ∈ ((w.acts (waveActs E alertId wave (deviceMatches wave alert.creator_id ms)
      w)).addedSince w).rows.filter fun r => r.device_id = device.id && r.isPush := by
    rw [hrow]
    exact List.mem_cons_self
  obtain ⟨hin, hcond⟩ := List.mem_filter.1 hmem
  simp only [Bool.and_eq_true, decide_eq_true_eq] at hcond
  refine ⟨row, hin, halert, hcond.2, ?_⟩
  rw [World.ownerOf, hcond.1, Table.find?_of_mem hdevice, Option.map_some]

end Waves

/-- The escalation of an alert pushes to a user whom it finds at every wave exactly
when it finds them in the tier of the wave at one of them, as long as no push row of
theirs for the alert comes from elsewhere. -/
theorem escalation_pushes_iff (E : NotificationEnv) (hE : E.location.integers = .string)
    (alertId userId : ℕ) {t₁ t₂ t₃ : NotificationConfidence} {w₁ w₁' w₂ w₂' w₃ w₃' : World}
    (h₁ : WaveRun E alertId userId .HIGH t₁ w₁ w₁')
    (h₂ : WaveRun E alertId userId .MEDIUM t₂ w₂ w₂')
    (h₃ : WaveRun E alertId userId .LOW t₃ w₃ w₃')
    (hfirst : beenNotified w₁ alertId userId .PUSH = false)
    (hsecond : beenNotified w₂ alertId userId .PUSH = true → PushedTo w₁ w₁' alertId userId)
    (hthird : beenNotified w₃ alertId userId .PUSH = true →
      PushedTo w₁ w₁' alertId userId ∨ PushedTo w₂ w₂' alertId userId) :
    PushedTo w₁ w₁' alertId userId ∨ PushedTo w₂ w₂' alertId userId ∨
        PushedTo w₃ w₃' alertId userId ↔
      t₁ = .HIGH ∨ t₂ = .MEDIUM ∨ t₃ = .LOW := by
  constructor
  · rintro (h | h | h)
    · exact .inl (h₁.tier_of_pushed hE h)
    · exact .inr (.inl (h₂.tier_of_pushed hE h))
    · exact .inr (.inr (h₃.tier_of_pushed hE h))
  · rintro (rfl | rfl | rfl)
    · exact .inl (h₁.pushed hE hfirst)
    · cases hbeen : beenNotified w₂ alertId userId .PUSH with
      | true => exact .inl (hsecond hbeen)
      | false => exact .inr (.inl (h₂.pushed hE hbeen))
    · cases hbeen : beenNotified w₃ alertId userId .PUSH with
      | true =>
          rcases hthird hbeen with h | h
          · exact .inl h
          · exact .inr (.inl h)
      | false => exact .inr (.inr (h₃.pushed hE hbeen))

/-- The flat plane at noon, with all ids as strings. -/
def stringEnv : NotificationEnv where
  location := { flatLocation with integers := .string }
  getHours := fun _ => 12

/-- The world that a wave of alert 7 leaves. -/
def afterWave (wave : NotificationConfidence) (w : World) : World :=
  ((processAlertNotifications stringEnv 7 (some wave)).run w).2

/-- The lost pet is in the world, some minutes after zero, and the device of user 2
had a fix so many minutes after zero. -/
def later (minutes fix : ℤ) (w : World) : World :=
  { w with
    now := minutes * 60000
    alerts := gpsWorld.alerts
    devices := Table.empty.insertNew { gpsDevice with gps_updated_at := some (fix * 60000) } }

/-- What is left to check of a wave of alert 7. -/
theorem waveRun_later {wave tier : NotificationConfidence} {minutes fix : ℤ} {w : World}
    (hmatched : ∃ m ∈ ((findDevicesForAlert (ℓ := NotificationCall) stringEnv.location 7).run
      (later minutes fix w)).1.toOption.getD [], m.userId.parseInt = some 2 ∧ m.confidence = tier)
    (hcap : overDailyCap (later minutes fix w) 2 (minutes * 60000 - MS_PER_DAY) wave = false) :
    WaveRun stringEnv 7 2 wave tier (later minutes fix w)
      (afterWave wave (later minutes fix w)) := by
  have hrow : (later minutes fix w).alerts.find? 7 = some lostPet := by rfl
  have hdevice : { gpsDevice with gps_updated_at := some (fix * 60000) } ∈
      (later minutes fix w).devices.rows := List.mem_cons_self
  obtain ⟨ms, hfind⟩ := findDevicesForAlert_returns stringEnv.location hrow rfl
  have hrun := processAlertNotifications_run (E := stringEnv) (some wave) hrow rfl hfind
  refine ⟨⟨lostPet, hrow, rfl, by decide⟩, ⟨ms, hfind, ?_⟩, ⟨_, hdevice, rfl, rfl⟩, rfl, hcap, ?_⟩
  · rw [hfind] at hmatched
    exact hmatched
  · unfold afterWave
    rw [hrun]

/-- What each wave finds, from the times of the waves and of the last fix by then. -/
def atWave (minutes fix : ℕ → ℤ) (w : World) : ℕ → World
  | 0 => later (minutes 0) (fix 0) w
  | n + 1 => later (minutes (n + 1)) (fix (n + 1))
      (afterWave (if n = 0 then .HIGH else .MEDIUM) (atWave minutes fix w n))

/-- The fix is stale from the first wave on. -/
def staleWorld : ℕ → World :=
  atWave (fun n => [180, 195, 240].getD n 0) (fun _ => 0) gpsWorld

/-- The fix is stale at the first wave, and a fresh one comes before the second. -/
def promotedWorld : ℕ → World :=
  atWave (fun n => [180, 195, 240].getD n 0) (fun n => [0, 190, 190].getD n 0) gpsWorld

/-- The waves that a sighting queues again for an alert whose first wave reached the user an hour
before. -/
def sightingWorld : ℕ → World :=
  atWave (fun n => [60, 75, 120].getD n 0) (fun _ => 0) (afterWave .HIGH (later 0 0 gpsWorld))

/-- A user in the tier of the second wave is pushed to. -/
theorem escalation_pushes_iff_stale :
    PushedTo (staleWorld 0) (afterWave .HIGH (staleWorld 0)) 7 2 ∨
      PushedTo (staleWorld 1) (afterWave .MEDIUM (staleWorld 1)) 7 2 ∨
        PushedTo (staleWorld 2) (afterWave .LOW (staleWorld 2)) 7 2 := by
  have h₁ : WaveRun stringEnv 7 2 .HIGH .MEDIUM (staleWorld 0) (afterWave .HIGH (staleWorld 0)) :=
    waveRun_later (by decide +kernel) (by decide +kernel)
  have h₂ : WaveRun stringEnv 7 2 .MEDIUM .MEDIUM (staleWorld 1)
      (afterWave .MEDIUM (staleWorld 1)) :=
    waveRun_later (by decide +kernel) (by decide +kernel)
  have h₃ : WaveRun stringEnv 7 2 .LOW .MEDIUM (staleWorld 2) (afterWave .LOW (staleWorld 2)) :=
    waveRun_later (by decide +kernel) (by decide +kernel)
  have hbeen : beenNotified (staleWorld 1) 7 2 .PUSH = false := by decide +kernel
  have hsecond := h₂.pushed rfl hbeen
  apply (escalation_pushes_iff stringEnv rfl 7 2 h₁ h₂ h₃ _ _ _).2
  · exact .inr (.inl rfl)
  · decide +kernel
  · intro h
    rw [hbeen] at h
    cases h
  · exact fun _ => .inr hsecond

theorem not_pushedTo_of_all {w w' : World} {alertId userId : ℕ}
    (hall : (w'.addedSince w).rows.all (fun r => !r.isPush) = true) :
    ¬ PushedTo w w' alertId userId := by
  rintro ⟨r, hr, -, hpush, -⟩
  have hfalse := List.all_eq_true.1 hall r hr
  rw [hpush] at hfalse
  cases hfalse

/-- A stale fix that becomes fresh between the waves: the user is found at every wave
and reached by none. Nor do the waves of a sighting push again to a user whom the alert reached. -/
theorem escalation_loses_promoted :
    (WaveRun stringEnv 7 2 .HIGH .MEDIUM (promotedWorld 0) (afterWave .HIGH (promotedWorld 0)) ∧
      WaveRun stringEnv 7 2 .MEDIUM .HIGH (promotedWorld 1)
        (afterWave .MEDIUM (promotedWorld 1)) ∧
      WaveRun stringEnv 7 2 .LOW .HIGH (promotedWorld 2) (afterWave .LOW (promotedWorld 2)) ∧
      beenNotified (promotedWorld 2) 7 2 .PUSH = false ∧
      ¬ (PushedTo (promotedWorld 0) (afterWave .HIGH (promotedWorld 0)) 7 2 ∨
        PushedTo (promotedWorld 1) (afterWave .MEDIUM (promotedWorld 1)) 7 2 ∨
        PushedTo (promotedWorld 2) (afterWave .LOW (promotedWorld 2)) 7 2)) ∧
    WaveRun stringEnv 7 2 .HIGH .HIGH (sightingWorld 0) (afterWave .HIGH (sightingWorld 0)) ∧
      WaveRun stringEnv 7 2 .MEDIUM .HIGH (sightingWorld 1) (afterWave .MEDIUM (sightingWorld 1)) ∧
      WaveRun stringEnv 7 2 .LOW .HIGH (sightingWorld 2) (afterWave .LOW (sightingWorld 2)) ∧
      ¬ (PushedTo (sightingWorld 0) (afterWave .HIGH (sightingWorld 0)) 7 2 ∨
        PushedTo (sightingWorld 1) (afterWave .MEDIUM (sightingWorld 1)) 7 2 ∨
        PushedTo (sightingWorld 2) (afterWave .LOW (sightingWorld 2)) 7 2) := by
  constructor
  · have h₁ : WaveRun stringEnv 7 2 .HIGH .MEDIUM (promotedWorld 0)
        (afterWave .HIGH (promotedWorld 0)) :=
      waveRun_later (by decide +kernel) (by decide +kernel)
    have h₂ : WaveRun stringEnv 7 2 .MEDIUM .HIGH (promotedWorld 1)
        (afterWave .MEDIUM (promotedWorld 1)) :=
      waveRun_later (by decide +kernel) (by decide +kernel)
    have h₃ : WaveRun stringEnv 7 2 .LOW .HIGH (promotedWorld 2)
        (afterWave .LOW (promotedWorld 2)) :=
      waveRun_later (by decide +kernel) (by decide +kernel)
    refine ⟨h₁, h₂, h₃, by decide +kernel, ?_⟩
    rintro (h | h | h)
    · cases h₁.tier_of_pushed rfl h
    · cases h₂.tier_of_pushed rfl h
    · cases h₃.tier_of_pushed rfl h
  · have h₁ : WaveRun stringEnv 7 2 .HIGH .HIGH (sightingWorld 0)
        (afterWave .HIGH (sightingWorld 0)) :=
      waveRun_later (by decide +kernel) (by decide +kernel)
    have h₂ : WaveRun stringEnv 7 2 .MEDIUM .HIGH (sightingWorld 1)
        (afterWave .MEDIUM (sightingWorld 1)) :=
      waveRun_later (by decide +kernel) (by decide +kernel)
    have h₃ : WaveRun stringEnv 7 2 .LOW .HIGH (sightingWorld 2)
        (afterWave .LOW (sightingWorld 2)) :=
      waveRun_later (by decide +kernel) (by decide +kernel)
    refine ⟨h₁, h₂, h₃, ?_⟩
    rintro (h | h | h)
    · exact not_pushedTo_of_all (by decide +kernel) h
    · cases h₂.tier_of_pushed rfl h
    · cases h₃.tier_of_pushed rfl h

end FifiAlert
