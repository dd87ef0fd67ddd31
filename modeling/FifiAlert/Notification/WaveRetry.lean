import FifiAlert.Concurrency.Attempt
import FifiAlert.Notification.PushFanOut
import FifiAlert.Notification.WaveCalls

/-!
# Retrying a wave job

An attempt at a wave job that stopped has left rows and jobs behind, and the retry
asks the rows who was reached already. A user of whom there is a row of a push but
not yet every job is taken as reached, so their other devices get no job any more.
The retry makes the attempt good exactly when no user was left half done and the
others would still be pushed to.
-/

namespace FifiAlert

open Concurrency Store Js LocationService NotificationCall NotificationQueueProcessor

/-- Nothing happens but that time passes. -/
def TimePasses (w w' : World) : Prop :=
  ∃ t, w.now ≤ t ∧ w' = w.atTime t

/-- A push job was added since for a queued push row of the device. -/
def PushJobAdded (w w' : World) (alertId deviceId : ℕ) : Prop :=
  ∃ row ∈ w'.notifications.rows, row.alert_id = alertId ∧ row.device_id = deviceId ∧
    row.isPush = true ∧ row.status = .QUEUED ∧
      .sendPushNotification row.id ∈ (w'.addedSince w).jobs

/-- A wave run now pushes to the user. -/
structure TakesPush (E : NotificationEnv) (w : World) (alertId : ℕ) (alert : Alert)
    (wave : NotificationConfidence) (userId : ℕ) : Prop where
  pushable : Pushable E w alertId wave userId
  matched : ∃ ms, (findDevicesForAlert (ℓ := NotificationCall) E.location alertId).run w =
      (.ok ms, w) ∧
    ∃ m ∈ deviceMatches wave alert.creator_id ms, m.userId = .str (toString userId)

/-- What an attempt at a wave job leaves as it is, and that it only adds jobs. -/
structure World.AddsJobs (w w' : World) : Prop where
  alerts : w'.alerts = w.alerts
  devices : w'.devices = w.devices
  jobs : w.jobs <+: w'.jobs

theorem World.AddsJobs.refl (w : World) : w.AddsJobs w :=
  ⟨rfl, rfl, List.prefix_refl _⟩

theorem World.AddsJobs.trans {w₁ w₂ w₃ : World} (h : w₁.AddsJobs w₂) (h' : w₂.AddsJobs w₃) :
    w₁.AddsJobs w₃ :=
  ⟨h'.alerts.trans h.alerts, h'.devices.trans h.devices, h.jobs.trans h'.jobs⟩

theorem addsJobs_create (data : NotificationData) (w : World) :
    w.AddsJobs ((notificationCreate data).effect w) := by
  have heffect : (notificationCreate data).effect w =
      if w.takesNotification data then w.createNotification data else w := rfl
  rw [heffect]
  split <;> exact ⟨rfl, rfl, List.prefix_refl _⟩

theorem addsJobs_of_silent {l : NotificationCall} (h : l.silent = true) (w : World) :
    w.AddsJobs (l.effect w) := by
  cases l with
  | notificationCreate data => exact addsJobs_create data w
  | queueAdd job => cases h
  | notificationUpdate id data => cases h
  | alertClaimStory id date => cases h
  | deviceClearToken id date => cases h
  | sendNotification push => cases h
  | _ => exact ⟨rfl, rfl, List.prefix_refl _⟩

theorem attempted_addsJobs {E : NotificationEnv} {alertId : ℕ}
    {wave? : Option NotificationConfidence} {w w₁ : World}
    (h : Process.Attempted TimePasses (processAlertNotifications E alertId wave?) w w₁) :
    w.AddsJobs w₁ := by
  have hcalls : (processAlertNotifications E alertId wave?).Confined
      (fun _ f => ∀ w : World, w.AddsJobs (f w)) fun _ => True :=
    (processAlertNotifications_queues E wave?).confined (fun l => addsJobs_of_silent)
      (fun data _ => addsJobs_create data) fun id w => ⟨rfl, rfl, List.prefix_append _ _⟩
  refine hcalls.attempted_kept World.AddsJobs.refl (fun _ _ _ => .trans) ?_ h
  rintro s s' ⟨t, -, rfl⟩
  exact ⟨rfl, rfl, List.prefix_refl _⟩

section Run

variable {E : NotificationEnv} {alertId deviceId : ℕ} {alert : Alert}
  {wave : NotificationConfidence}
  {w v : World} {ms : List DeviceMatch}

/-- A push of the plan is to a reachable device of a user nothing speaks against. -/
theorem pushable_of_mem_waveActs {data : NotificationData}
    (h : Act.push data ∈ waveActs E alertId wave ms w) :
    ∃ device ∈ w.devices.rows, data.device_id = device.id ∧ isReachable device = true ∧
      Pushable E w alertId wave device.user_id ∧
        ∃ m ∈ ms, m.userId = .str (toString device.user_id) := by
  obtain ⟨e, he, device, hdevice, rfl, huser, hreach, hguards⟩ := push_mem_waveActs h
  obtain ⟨hmem, hkey⟩ := mem_userMatches he
  exact ⟨device, hdevice, rfl, hreach, ⟨⟨device, hdevice, rfl, hreach⟩, hguards.awake,
    hguards.fresh, hguards.underCap⟩, e.2, hmem, hkey.trans huser⟩

theorem addedSince_jobs (hjobs : v.jobs <+: w.jobs) (l : List Act) :
    ((w.acts l).addedSince v).jobs =
      (w.addedSince v).jobs ++ jobsOf w.notifications.next l := by
  unfold World.addedSince
  rw [jobs_acts, List.drop_append_of_le_length hjobs.length_le]

/-- After a wave the device has a job added since, if it had one before or the wave pushes
to it. -/
theorem pushJobAdded_acts_iff (hjobs : v.jobs <+: w.jobs) :
    PushJobAdded v (w.acts (waveActs E alertId wave ms w)) alertId deviceId ↔
      PushJobAdded v w alertId deviceId ∨
        0 < (waveActs E alertId wave ms w).countP (Act.pushesTo deviceId) := by
  have hwave : ∀ a ∈ waveActs E alertId wave ms w, a.forAlert alertId := waveActs_forAlert
  generalize waveActs E alertId wave ms w = l at hwave
  unfold PushJobAdded
  rw [addedSince_jobs hjobs, notifications_acts]
  constructor
  · rintro ⟨row, hrow, halert, hdevice, hpush, hqueued, hjob⟩
    rcases List.mem_append.1 hrow with hrow | hrow
    · rcases List.mem_append.1 hjob with hjob | hjob
      · exact .inl ⟨row, hrow, halert, hdevice, hpush, hqueued, hjob⟩
      · obtain ⟨id, -, hle, heq, -⟩ := mem_jobsOf w.now hjob
        have hlt := w.notifications.lt_next row hrow
        rw [Job.sendPushNotification.inj heq] at hlt
        exact absurd hle (Nat.not_le_of_lt hlt)
    · obtain ⟨data, hact, heq, -⟩ := push_of_mem_rowsOf hwave hrow hpush
      have hto : (Act.push data).pushesTo deviceId = true := by
        rw [heq] at hdevice
        exact decide_eq_true hdevice
      exact .inr (List.countP_pos_iff.2 ⟨_, hact, hto⟩)
  · rintro (⟨row, hrow, halert, hdevice, hpush, hqueued, hjob⟩ | hpos)
    · exact ⟨row, List.mem_append_left _ hrow, halert, hdevice, hpush, hqueued,
        List.mem_append_left _ hjob⟩
    · rw [← length_pushRows w.notifications.next w.now hwave] at hpos
      obtain ⟨row, hrow⟩ := List.exists_mem_of_length_pos hpos
      obtain ⟨hmem, hcond⟩ := List.mem_filter.1 hrow
      rw [Bool.and_eq_true, decide_eq_true_eq] at hcond
      obtain ⟨data, -, heq, hdata⟩ := push_of_mem_rowsOf hwave hmem hcond.2
      have hcount := count_jobsOf hwave hmem hcond.2
      have hjob : Job.sendPushNotification row.id ∈ jobsOf w.notifications.next l := by
        rw [← List.count_pos_iff, hcount]
        exact Nat.one_pos
      refine ⟨row, List.mem_append_right _ hmem, ?_, hcond.1, hcond.2, ?_,
        List.mem_append_right _ hjob⟩
      · rw [heq]
        exact hdata.alert
      · rw [heq]
        exact hdata.queued

/-- The wave pushes to the reachable devices of the users it takes. -/
theorem countP_pos_iff_takesPush
    (hfind : (findDevicesForAlert (ℓ := NotificationCall) E.location alertId).run w = (.ok ms, w)) :
    0 < (waveActs E alertId wave (deviceMatches wave alert.creator_id ms) w).countP
        (Act.pushesTo deviceId) ↔
      ∃ device ∈ w.devices.rows, device.id = deviceId ∧ isReachable device = true ∧
        TakesPush E w alertId alert wave device.user_id := by
  constructor
  · intro hpos
    obtain ⟨a, ha, hto⟩ := List.countP_pos_iff.1 hpos
    cases a with
    | create data => cases hto
    | send email => cases hto
    | push data =>
        obtain ⟨device, hdevice, hid, hreach, hpushable, hmatch⟩ := pushable_of_mem_waveActs ha
        have hto : data.device_id = deviceId := of_decide_eq_true hto
        exact ⟨device, hdevice, hid.symm.trans hto, hreach, hpushable, ms, hfind, hmatch⟩
  · rintro ⟨device, hdevice, rfl, hreach, hpushable, ms', hfind', m, hm, huser⟩
    rw [hfind] at hfind'
    cases hfind'
    obtain ⟨m', hentry⟩ := exists_entry hm
    rw [huser] at hentry
    rw [countP_waveActs hpushable hdevice hreach hentry]
    exact Nat.one_pos

/-- What a run of the job adds for a device. -/
theorem pushJobAdded_run_iff (wave? : Option NotificationConfidence)
    (hrow : w.alerts.find? alertId = some alert) (hactive : alert.status = .ACTIVE)
    (hjobs : v.jobs <+: w.jobs) :
    ∃ w', (processAlertNotifications E alertId wave?).run w = (.ok (), w') ∧
      ∀ deviceId, PushJobAdded v w' alertId deviceId ↔ PushJobAdded v w alertId deviceId ∨
        ∃ device ∈ w.devices.rows, device.id = deviceId ∧ isReachable device = true ∧
          TakesPush E w alertId alert (wave?.getD .HIGH) device.user_id := by
  obtain ⟨ms, hfind⟩ := findDevicesForAlert_returns E.location hrow hactive
  refine ⟨_, processAlertNotifications_run wave? hrow hactive hfind, fun deviceId => ?_⟩
  rw [pushJobAdded_acts_iff hjobs, countP_pos_iff_takesPush hfind]

/-- No job was added since now. -/
theorem not_pushJobAdded_self : ¬ PushJobAdded w w alertId deviceId := by
  rintro ⟨row, -, -, -, -, -, hjob⟩
  have hjob : Job.sendPushNotification row.id ∈ w.jobs.drop w.jobs.length := hjob
  rw [List.drop_length] at hjob
  cases hjob

/-- A device with a queued push row belongs to a user who counts as reached. -/
theorem PushJobAdded.beenNotified {device : Device} (h : PushJobAdded v w alertId device.id)
    (hdevice : device ∈ w.devices.rows) :
    beenNotified w alertId device.user_id .PUSH = true := by
  obtain ⟨row, hrow, halert, hid, hpush, hqueued, -⟩ := h
  have howner : w.ownerOf row = some device.user_id := by
    rw [World.ownerOf, hid, Table.find?_of_mem hdevice, Option.map_some]
  unfold Notification.isPush at hpush
  rw [Bool.and_eq_true] at hpush
  refine List.any_eq_true.2 ⟨row, hrow, ?_⟩
  simp [halert, hqueued, howner, hpush.1, of_decide_eq_true hpush.2]

end Run

/-- What an attempt must have left for the retry to make it good: of the devices that a run
before the attempt would have pushed to, those of users with a row of a push have their jobs,
and the users without one would be pushed to now. -/
structure Resumable (E : NotificationEnv) (w w₁ : World) (alertId : ℕ) (alert : Alert)
    (wave : NotificationConfidence) : Prop where
  whole : ∀ device ∈ w.devices.rows, isReachable device = true →
    TakesPush E w alertId alert wave device.user_id →
      beenNotified w₁ alertId device.user_id .PUSH = true → PushJobAdded w w₁ alertId device.id
  again : ∀ device ∈ w.devices.rows, isReachable device = true →
    TakesPush E w alertId alert wave device.user_id →
      beenNotified w₁ alertId device.user_id .PUSH = false →
        TakesPush E w₁ alertId alert wave device.user_id

/-- Wherever an attempt at a wave job stopped, a retry without faults leaves every device that
a run without faults would have pushed to with a push job, exactly when the attempt left
nobody half done and the others would still be pushed to. -/
theorem waveRetry_completes_iff (E : NotificationEnv) (w w₁ : World) (alertId : ℕ) (alert : Alert)
    (hrow : w.alerts.find? alertId = some alert) (hactive : alert.status = .ACTIVE)
    (wave? : Option NotificationConfidence)
    (hattempt : Process.Attempted TimePasses (processAlertNotifications E alertId wave?) w w₁) :
    (∃ wf w₂, (processAlertNotifications E alertId wave?).run w = (.ok (), wf) ∧
      (processAlertNotifications E alertId wave?).run w₁ = (.ok (), w₂) ∧
        ∀ deviceId, PushJobAdded w wf alertId deviceId → PushJobAdded w w₂ alertId deviceId) ↔
      Resumable E w w₁ alertId alert (wave?.getD .HIGH) := by
  obtain ⟨halerts, hdevices, hjobs⟩ := attempted_addsJobs hattempt
  have hrow₁ : w₁.alerts.find? alertId = some alert := by rw [halerts, hrow]
  obtain ⟨wf, hrun, hfirst⟩ := pushJobAdded_run_iff (E := E) wave? hrow hactive
    (List.prefix_refl w.jobs)
  obtain ⟨w₂, hrun₁, hretry⟩ := pushJobAdded_run_iff (E := E) wave? hrow₁ hactive hjobs
  have htaken : ∀ device ∈ w.devices.rows, (∃ device' ∈ w₁.devices.rows, device'.id = device.id ∧
      isReachable device' = true ∧
        TakesPush E w₁ alertId alert (wave?.getD .HIGH) device'.user_id) →
        TakesPush E w₁ alertId alert (wave?.getD .HIGH) device.user_id := by
    rintro device hdevice ⟨device', hdevice', hid, -, htakes⟩
    rw [hdevices] at hdevice'
    have hfind := Table.find?_of_mem hdevice'
    rw [hid, Table.find?_of_mem hdevice, Option.some.injEq] at hfind
    rwa [hfind]
  constructor
  · rintro ⟨wf', w₂', hrun', hrun₁', hall⟩
    rw [hrun] at hrun'
    rw [hrun₁] at hrun₁'
    cases hrun'
    cases hrun₁'
    have hcases : ∀ device ∈ w.devices.rows, isReachable device = true →
        TakesPush E w alertId alert (wave?.getD .HIGH) device.user_id →
          PushJobAdded w w₁ alertId device.id ∨
            TakesPush E w₁ alertId alert (wave?.getD .HIGH) device.user_id := by
      intro device hdevice hreach htakes
      have hdone := hall device.id ((hfirst device.id).2 (.inr ⟨device, hdevice, rfl, hreach,
        htakes⟩))
      exact ((hretry device.id).1 hdone).imp_right (htaken device hdevice)
    constructor
    · intro device hdevice hreach htakes hbeen
      refine (hcases device hdevice hreach htakes).resolve_right fun hnow => ?_
      rw [hnow.pushable.fresh] at hbeen
      cases hbeen
    · intro device hdevice hreach htakes hbeen
      refine (hcases device hdevice hreach htakes).resolve_left fun hjob => ?_
      rw [hjob.beenNotified (hdevices ▸ hdevice)] at hbeen
      cases hbeen
  · rintro ⟨hwhole, hagain⟩
    refine ⟨wf, w₂, hrun, hrun₁, fun deviceId hjob => (hretry deviceId).2 ?_⟩
    rcases (hfirst deviceId).1 hjob with hjob | ⟨device, hdevice, rfl, hreach, htakes⟩
    · exact absurd hjob not_pushJobAdded_self
    · cases hbeen : beenNotified w₁ alertId device.user_id .PUSH with
      | true => exact .inl (hwhole device hdevice hreach htakes hbeen)
      | false =>
          exact .inr ⟨device, hdevices ▸ hdevice, rfl, hreach, hagain device hdevice hreach htakes
            hbeen⟩

/-- The first wave of alert 7 where user 2 has an alert zone, stopped after some calls. -/
def stoppedWave (n : ℕ) : World :=
  (processAlertNotifications flatEnv 7 none).stopAfter n zoneWorld

theorem attempted_stoppedWave (n : ℕ) :
    Process.Attempted TimePasses (processAlertNotifications flatEnv 7 none) zoneWorld
      (stoppedWave n) :=
  Process.attempted_stopAfter n _ zoneWorld

/-- The attempt stops after the job of the device was added: the retry leaves nobody out. -/
theorem waveRetry_completes_iff_added :
    ∃ wf w₂, (processAlertNotifications flatEnv 7 none).run zoneWorld = (.ok (), wf) ∧
      (processAlertNotifications flatEnv 7 none).run (stoppedWave 16) = (.ok (), w₂) ∧
        ∀ deviceId, PushJobAdded zoneWorld wf 7 deviceId →
          PushJobAdded zoneWorld w₂ 7 deviceId := by
  have hjobs : ∀ device ∈ zoneWorld.devices.rows,
      PushJobAdded zoneWorld (stoppedWave 16) 7 device.id ∧
        beenNotified (stoppedWave 16) 7 device.user_id .PUSH = true := by
    unfold PushJobAdded
    decide +kernel
  refine (waveRetry_completes_iff flatEnv zoneWorld (stoppedWave 16) 7 lostPet (by rfl) rfl none
    (attempted_stoppedWave 16)).2 ⟨fun device hdevice _ _ _ => (hjobs device hdevice).1, ?_⟩
  intro device hdevice _ _ hbeen
  rw [(hjobs device hdevice).2] at hbeen
  cases hbeen

/-- The attempt stops between the row of the device and its job: after the retry the device
still has no job, though a run without faults gives it one. -/
theorem waveRetry_loses_device :
    Process.Attempted TimePasses (processAlertNotifications flatEnv 7 none) zoneWorld
        (stoppedWave 15) ∧
      PushJobAdded zoneWorld ((processAlertNotifications flatEnv 7 none).run zoneWorld).2 7 20 ∧
      ((processAlertNotifications flatEnv 7 none).run (stoppedWave 15)).1 = .ok () ∧
      ¬ PushJobAdded zoneWorld ((processAlertNotifications flatEnv 7 none).run (stoppedWave 15)).2
        7 20 := by
  refine ⟨attempted_stoppedWave 15, ?_⟩
  unfold PushJobAdded
  decide +kernel

end FifiAlert
