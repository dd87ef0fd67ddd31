import FifiAlert.Notification.PushFanOut
import FifiAlert.Sighting.SightingService

/-!
# What a sighting queues

A report of a sighting creates a row for each device of the creator that holds a token, and for
each of these rows it queues the waves of the alert once more. So the rows have no push job, and
the report tells the creator and nobody else only where it creates no row.
-/

namespace FifiAlert

open Concurrency Store SightingService NotificationService

/-- Each queued row has one push job, and there is no wave for the alert. -/
structure NotifiesOwner (added : Added) (alertId : ℕ) : Prop where
  pushed : ∀ row ∈ added.rows, row.status = .QUEUED →
    added.jobs.count (.sendPushNotification row.id) = 1
  noWave : ∀ wave delay, .sendAlertNotifications alertId wave delay ∉ added.jobs

/-- The job is a wave for the alert. -/
def Job.IsWave (alertId : ℕ) (job : Job) : Prop :=
  ∃ wave delay, job = .sendAlertNotifications alertId wave delay

/-- Only queued rows and waves were added; where there is a row, there may be waves. -/
structure AddsWaves (alertId : ℕ) (w w' : World) (rows : List Notification) : Prop where
  alerts : w'.alerts = w.alerts
  devices : w'.devices = w.devices
  added : w'.notifications.rows = w.notifications.rows ++ rows
  queued : ∀ row ∈ rows, row.status = .QUEUED
  jobs : ∃ jobs, w'.jobs = w.jobs ++ jobs ∧ (∀ job ∈ jobs, job.IsWave alertId) ∧
    (rows = [] → jobs = [])

section Waves

variable {fails : SightingCall → Bool} {alertId : ℕ} {w w' w'' : World}
  {rows rows' : List Notification}

theorem AddsWaves.nothing (halerts : w'.alerts = w.alerts) (hdevices : w'.devices = w.devices)
    (hrows : w'.notifications.rows = w.notifications.rows) (hjobs : w'.jobs = w.jobs) :
    AddsWaves alertId w w' [] where
  alerts := halerts
  devices := hdevices
  added := hrows.trans (List.append_nil _).symm
  queued := fun _ h => absurd h List.not_mem_nil
  jobs := ⟨[], hjobs.trans (List.append_nil _).symm, fun _ h => absurd h List.not_mem_nil,
    fun _ => rfl⟩

theorem AddsWaves.refl (w : World) : AddsWaves alertId w w [] := .nothing rfl rfl rfl rfl

theorem AddsWaves.trans (h : AddsWaves alertId w w' rows) (h' : AddsWaves alertId w' w'' rows') :
    AddsWaves alertId w w'' (rows ++ rows') := by
  obtain ⟨jobs, hjobs, hwaves, hnone⟩ := h.jobs
  obtain ⟨jobs', hjobs', hwaves', hnone'⟩ := h'.jobs
  refine ⟨h'.alerts.trans h.alerts, h'.devices.trans h.devices, ?_, fun row hrow => ?_,
    jobs ++ jobs', ?_, fun job hjob => ?_, fun hempty => ?_⟩
  · rw [h'.added, h.added, List.append_assoc]
  · exact (List.mem_append.1 hrow).elim (h.queued row) (h'.queued row)
  · rw [hjobs', hjobs, List.append_assoc]
  · exact (List.mem_append.1 hjob).elim (hwaves job) (hwaves' job)
  · obtain ⟨rfl, rfl⟩ := List.append_eq_nil_iff.1 hempty
    rw [hnone rfl, hnone' rfl, List.append_nil]

theorem AddsWaves.addedSince (h : AddsWaves alertId w w' rows) :
    (w'.addedSince w).rows = rows := by
  unfold World.addedSince
  rw [h.added, List.drop_left]

/-- A report tells the creator and nobody else where it adds no row. -/
theorem AddsWaves.notifiesOwner_iff (h : AddsWaves alertId w w' rows) :
    NotifiesOwner (w'.addedSince w) alertId ↔ rows = [] := by
  obtain ⟨jobs, hjobs, hwaves, hnone⟩ := h.jobs
  have hadded : (w'.addedSince w).jobs = jobs := by
    unfold World.addedSince
    rw [hjobs, List.drop_left]
  constructor
  · intro hnotifies
    cases rows with
    | nil => rfl
    | cons row rows =>
        have hcount := hnotifies.pushed row (by rw [h.addedSince]; exact List.mem_cons_self)
          (h.queued row List.mem_cons_self)
        rw [hadded] at hcount
        have hmem : Job.sendPushNotification row.id ∈ jobs :=
          List.count_pos_iff.1 (by rw [hcount]; exact Nat.one_pos)
        obtain ⟨wave, delay, heq⟩ := hwaves _ hmem
        cases heq
  · intro hempty
    constructor
    · rw [h.addedSince, hempty]
      exact fun _ hrow => absurd hrow List.not_mem_nil
    · rw [hadded, hnone hempty]
      exact fun _ _ => List.not_mem_nil

end Waves

section Run

variable {fails : SightingCall → Bool} {alertId : ℕ} {dto : CreateSightingDto} {w : World}

/-- The waves of the alert, as far as the queue takes them. -/
theorem queueAlertNotifications_runWith (fails : SightingCall → Bool) (alertId : ℕ) (w : World) :
    ∃ jobs, (((queueAlertNotifications alertId).relabel SightingCall.notification).runWith fails
        w).2 = { w with jobs := w.jobs ++ jobs } ∧ ∀ job ∈ jobs, job.IsWave alertId := by
  unfold queueAlertNotifications
  generalize ESCALATION_WAVES = waves
  induction waves generalizing w with
  | nil => exact ⟨[], by simp, nofun⟩
  | cons wave waves ih =>
      rw [Process.forEach_cons, Process.relabel_bind, Process.runWith_bind]
      cases hfails : fails (.notification (.queueAdd
          (.sendAlertNotifications alertId (some wave.wave) wave.delayMs))) with
      | true => exact ⟨[], by simp [NotificationCall.write, hfails], nofun⟩
      | false =>
          obtain ⟨jobs, hrun, hwaves⟩ := ih { w with
            jobs := w.jobs ++ [.sendAlertNotifications alertId (some wave.wave) wave.delayMs] }
          refine ⟨.sendAlertNotifications alertId (some wave.wave) wave.delayMs :: jobs, ?_, ?_⟩
          · simpa [NotificationCall.write, NotificationCall.effect, hfails] using hrun
          · intro job hjob
            rcases List.mem_cons.1 hjob with rfl | hjob
            · exact ⟨_, _, rfl⟩
            · exact hwaves job hjob

/-- The row of the notification on a device, if its creation does not fail. -/
def deviceRows (fails : SightingCall → Bool) (alertId : ℕ) (dto : CreateSightingDto) (w : World)
    (deviceId : ℕ) : List Notification :=
  if fails (.notification (.notificationCreate (sightingData alertId dto deviceId))) then []
  else [(sightingData alertId dto deviceId).toRow w.now w.notifications.next]

/-- On one device: the row, and the waves. -/
theorem notifyDevice_runWith (fails : SightingCall → Bool) (dto : CreateSightingDto)
    {device : Device} (halert : (w.alerts.find? alertId).isSome = true)
    (hdevice : (w.devices.find? device.id).isSome = true) :
    ∃ w', (notifyDevice alertId dto device).runWith fails w = (.ok (), w') ∧
      AddsWaves alertId w w' (deviceRows fails alertId dto w device.id) := by
  refine ⟨_, Process.runWith_tryCatch_ret _ _ _, ?_⟩
  have htakes : w.takesNotification (sightingData alertId dto device.id) = true := by
    rw [World.takesNotification, Bool.and_eq_true]
    exact ⟨halert, hdevice⟩
  unfold deviceRows
  rw [Process.runWith_bind]
  cases hfails : fails (.notification (.notificationCreate (sightingData alertId dto device.id)))
  with
  | true =>
      have hcreate : ((NotificationCall.create (sightingData alertId dto device.id)).relabel
          SightingCall.notification).runWith fails w = (.error (.prisma .other), w) := by
        simp [NotificationCall.create, hfails]
      rw [hcreate]
      exact .refl w
  | false =>
      obtain ⟨jobs, hrun, hwaves⟩ := queueAlertNotifications_runWith fails alertId
        (w.createNotification (sightingData alertId dto device.id))
      have hcreate : ((NotificationCall.create (sightingData alertId dto device.id)).relabel
          SightingCall.notification).runWith fails w = (.ok w.notifications.next,
            w.createNotification (sightingData alertId dto device.id)) := by
        simp [NotificationCall.create, NotificationCall.effect, hfails, htakes]
      rw [hcreate, if_neg Bool.false_ne_true]
      dsimp only
      rw [hrun]
      refine ⟨rfl, rfl, rfl, fun row hrow => ?_, jobs, rfl, hwaves, fun h => ?_⟩
      · obtain rfl := List.mem_singleton.1 hrow
        rfl
      · cases h

/-- On all devices of a list. -/
theorem notifyDevices_runWith (fails : SightingCall → Bool) (dto : CreateSightingDto)
    {devices : List Device}
    (halert : (w.alerts.find? alertId).isSome = true)
    (hdevices : ∀ device ∈ devices, (w.devices.find? device.id).isSome = true) :
    ∃ w' rows, (Process.forEach devices (notifyDevice alertId dto)).runWith fails w = (.ok (), w') ∧
      AddsWaves alertId w w' rows ∧ (rows = [] ↔ ∀ device ∈ devices, fails (.notification
        (.notificationCreate (sightingData alertId dto device.id))) = true) := by
  induction devices generalizing w with
  | nil => exact ⟨w, [], rfl, .refl w, iff_of_true rfl fun _ h => absurd h List.not_mem_nil⟩
  | cons device devices ih =>
      obtain ⟨w₁, hrun, htold⟩ := notifyDevice_runWith fails dto halert
        (hdevices device List.mem_cons_self)
      obtain ⟨w', rows, hruns, htold', hnone⟩ := ih (w := w₁) (by rw [htold.alerts, halert])
        fun d hd => by rw [htold.devices, hdevices d (List.mem_cons_of_mem device hd)]
      refine ⟨w', _, ?_, htold.trans htold', ?_⟩
      · rw [Process.forEach_cons, Process.runWith_bind, hrun]
        exact hruns
      · rw [List.append_eq_nil_iff, hnone, List.forall_mem_cons, deviceRows]
        simp

/-- No row could be created for a device of the creator. -/
def NoRowCreated (fails : SightingCall → Bool) (w : World) (creatorId alertId : ℕ)
    (dto : CreateSightingDto) : Prop :=
  fails (.deviceFindTokens creatorId) = true ∨ ∀ device ∈ tokenDevices w creatorId,
    fails (.notification (.notificationCreate (sightingData alertId dto device.id))) = true

theorem notifyCreatorOfSighting_runWith (fails : SightingCall → Bool) (creatorId : ℕ)
    (dto : CreateSightingDto)
    (halert : (w.alerts.find? alertId).isSome = true) :
    ∃ rows, AddsWaves alertId w ((notifyCreatorOfSighting creatorId alertId dto).runWith fails w).2
      rows ∧ (rows = [] ↔ NoRowCreated fails w creatorId alertId dto) := by
  unfold notifyCreatorOfSighting NoRowCreated
  rw [Process.runWith_bind, Process.runWith_query]
  cases hfails : fails (.deviceFindTokens creatorId) with
  | true => exact ⟨[], .refl w, iff_of_true rfl (.inl rfl)⟩
  | false =>
      have hdevices : ∀ device ∈ tokenDevices w creatorId,
          (w.devices.find? device.id).isSome = true := by
        intro device hmem
        rw [Table.find?_of_mem (List.mem_filter.1 hmem).1, Option.isSome_some]
      obtain ⟨w', rows, hrun, htold, hnone⟩ := notifyDevices_runWith fails dto halert hdevices
      refine ⟨rows, ?_, hnone.trans (by simp)⟩
      rw [if_neg Bool.false_ne_true]
      dsimp only
      rw [hrun]
      exact htold

/-- The calls besides the notifications add no row and no job. -/
theorem addsWaves_of_confined {α : Type} {p : SightingProcess α} (fails : SightingCall → Bool)
    (hp : p.Confined (fun _ next => ∀ w, AddsWaves alertId w (next w) []) fun _ => True)
    (w : World) :
    AddsWaves alertId w (p.runWith fails w).2 [] :=
  hp.runWith_kept (r := fun w w' => AddsWaves alertId w w' []) AddsWaves.refl
    (fun _ _ _ h h' => h.trans h') fails w

theorem sendSightingReportedEmail_confined (alertId creatorId : ℕ) :
    (sendSightingReportedEmail creatorId alertId).Confined
      (fun _ next => ∀ w, AddsWaves alertId w (next w) []) fun _ => True := by
  refine (Process.confined_query .refl trivial).bind fun user => ?_
  refine (Process.confined_query .refl trivial).bind fun alert => ?_
  cases user with
  | none => trivial
  | some user =>
      cases alert with
      | none => trivial
      | some alert =>
          exact Process.Confined.tryCatch (T := fun _ => True)
            (Process.confined_modify (fun _ => .nothing rfl rfl rfl rfl) trivial) fun _ _ => trivial

theorem insertSighting_confined (alertId : ℕ) (S : SightingEnv) (dto : CreateSightingDto)
    (reporterId : ℕ) :
    (insertSighting S dto reporterId).Confined
      (fun _ next => ∀ w, AddsWaves alertId w (next w) []) fun _ => True := by
  unfold insertSighting
  split
  · trivial
  · refine Process.confined_atomic (fun w => ?_) (fun _ _ _ => trivial) trivial
    dsimp only [SightingCall.effect]
    split
    · exact .nothing rfl rfl rfl rfl
    · exact .refl w

/-- What follows the insertion adds the rows of the devices and waves. -/
theorem afterInsert_runWith {creatorId sightingId : ℕ} {w' : World} {response : SightingResponseDto}
    (halert : (w.alerts.find? dto.alert_id).isSome = true)
    (hrun : (afterInsert creatorId dto sightingId).runWith fails w = (.ok response, w')) :
    ∃ rows, AddsWaves dto.alert_id w w' rows ∧
      (rows = [] ↔ NoRowCreated fails w creatorId dto.alert_id dto) := by
  obtain ⟨rows, htold, hnone⟩ := notifyCreatorOfSighting_runWith fails creatorId dto halert
  refine ⟨rows, ?_, hnone⟩
  unfold afterInsert at hrun
  obtain ⟨_, w₁, hnotify, hrun⟩ := (Process.runWith_bind_eq_ok fails).1 hrun
  rw [Process.runWith_tryCatch_ret] at hnotify
  obtain ⟨-, rfl⟩ := Prod.mk.inj hnotify
  obtain ⟨found, w₂, hfound, hrun⟩ := (Process.runWith_bind_eq_ok fails).1 hrun
  rw [Process.runWith_query] at hfound
  split at hfound
  · cases hfound
  cases hfound
  cases hsighting : ((notifyCreatorOfSighting creatorId dto.alert_id dto).runWith fails
      w).2.sightings.find? sightingId with
  | none =>
      rw [hsighting] at hrun
      cases hrun
  | some sighting =>
      rw [hsighting] at hrun
      obtain ⟨_, w₃, hemail, hret⟩ := (Process.runWith_bind_eq_ok fails).1 hrun
      rw [Process.runWith_tryCatch_ret] at hemail
      obtain ⟨-, rfl⟩ := Prod.mk.inj hemail
      cases hret
      have hsent := addsWaves_of_confined fails
        (sendSightingReportedEmail_confined dto.alert_id creatorId)
        ((notifyCreatorOfSighting creatorId dto.alert_id dto).runWith fails w).2
      rw [← List.append_nil rows]
      exact htold.trans hsent

end Run

/-- A sighting that is accepted, whichever calls fail: each queued row has one push job and no
wave is queued if and only if no row was created at all. -/
theorem sighting_notifiesOwner_iff (S : SightingEnv) (fails : SightingCall → Bool) (w w' : World)
    (dto : CreateSightingDto) (reporterId : ℕ) (alert : Alert) (response : SightingResponseDto)
    (hrow : w.alerts.find? dto.alert_id = some alert)
    (hrun : (create S dto reporterId).runWith fails w = (.ok response, w')) :
    NotifiesOwner (w'.addedSince w) dto.alert_id ↔
      NoRowCreated fails w alert.creator_id dto.alert_id dto := by
  unfold create at hrun
  obtain ⟨found, w₀, hfound, hrun⟩ := (Process.runWith_bind_eq_ok fails).1 hrun
  rw [NotificationCall.read, Process.relabel_query, Process.runWith_query] at hfound
  split at hfound
  · cases hfound
  cases hfound
  rw [hrow] at hrun
  dsimp only at hrun
  split at hrun
  · cases hrun
  obtain ⟨sightingId, w₁, hinsert, hrun⟩ := (Process.runWith_bind_eq_ok fails).1 hrun
  have hinserted := addsWaves_of_confined fails
    (insertSighting_confined dto.alert_id S dto reporterId) w
  rw [hinsert] at hinserted
  obtain ⟨rows, htold, hnone⟩ := afterInsert_runWith (by rw [hinserted.alerts, hrow]; rfl) hrun
  have hadded := hinserted.trans htold
  rw [List.nil_append] at hadded
  rw [hadded.notifiesOwner_iff, hnone, NoRowCreated, NoRowCreated, tokenDevices, tokenDevices,
    hinserted.devices]

/-- The date of the reports below. -/
def epochDate : SightingEnv where
  newDate := fun s => if s = "1970-01-01T00:00:00Z" then some 0 else none

/-- User 2 reports a sighting for alert 7. -/
def seenDog : CreateSightingDto where
  alert_id := 7
  location := { latitude := 1, longitude := 1, address := "1 Main St" }
  confidence := .HIGH
  sighting_time := "1970-01-01T00:00:00Z"

/-- User 1, who has created alert 7 of `zoneWorld`, has a device with a token. -/
def ownedWorld : World :=
  { zoneWorld with
    devices := zoneWorld.devices.insertNew { id := 10, user_id := 1, push_token := some "mine" } }

/-- The creator has no device: nothing is queued. -/
theorem sighting_notifiesOwner_iff_noDevice :
    NotifiesOwner (((create epochDate seenDog 2).run zoneWorld).2.addedSince zoneWorld) 7 := by
  have hrun : ((create epochDate seenDog 2).runWith (fun _ => false) zoneWorld).1.isOk = true := by
    decide +kernel
  rw [← Process.runWith_false]
  rcases heq : (create epochDate seenDog 2).runWith (fun _ => false) zoneWorld with
    ⟨_ | response, w'⟩
  · rw [heq] at hrun
    cases hrun
  · refine (sighting_notifiesOwner_iff epochDate (fun _ => false) zoneWorld w' seenDog 2 lostPet
      response (by rfl) heq).2 (.inr ?_)
    have hnone : tokenDevices zoneWorld lostPet.creator_id = [] := by decide +kernel
    rw [hnone]
    exact fun _ h => absurd h List.not_mem_nil

/-- The creator has one device with a token: its row has no push job, and the three waves of the
alert are queued again. -/
theorem sighting_queuesWaves :
    ((create epochDate seenDog 2).run ownedWorld).1.isOk = true ∧
      (((create epochDate seenDog 2).run ownedWorld).2.addedSince ownedWorld).rows.map
        (fun row => (row.device_id, row.status)) = [(10, .QUEUED)] ∧
      (((create epochDate seenDog 2).run ownedWorld).2.addedSince ownedWorld).jobs =
        [.sendAlertNotifications 7 (some .HIGH) 0,
          .sendAlertNotifications 7 (some .MEDIUM) 900000,
          .sendAlertNotifications 7 (some .LOW) 3600000] ∧
      ¬ NotifiesOwner
        (((create epochDate seenDog 2).run ownedWorld).2.addedSince ownedWorld) 7 := by
  have hjobs : (((create epochDate seenDog 2).run ownedWorld).2.addedSince ownedWorld).jobs =
      [.sendAlertNotifications 7 (some .HIGH) 0, .sendAlertNotifications 7 (some .MEDIUM) 900000,
        .sendAlertNotifications 7 (some .LOW) 3600000] := by
    decide +kernel
  refine ⟨by decide +kernel, by decide +kernel, hjobs, fun hnotifies => ?_⟩
  have hwave := hnotifies.noWave (some .HIGH) 0
  rw [hjobs] at hwave
  exact hwave List.mem_cons_self

end FifiAlert
