import FifiAlert.Location.UniqueRecipients
import FifiAlert.Notification.WaveOutcome

/-!
# Who is pushed to

The reachable devices of a wave are looked up under the ids of their owners as
strings. A user for whom nothing speaks against a push gets one for each of their
reachable devices when a match of the wave has their id as a string, and none
otherwise. With integer columns handed over as numbers only the matches of the
alert zones have such an id, so the push reaches the users of the alert zones in
the first wave and nobody else.
-/

namespace FifiAlert

open Concurrency Store Js LocationService NotificationQueueProcessor

/-- Nothing speaks against a push to the user in the wave. -/
structure Pushable (E : NotificationEnv) (w : World) (alertId : ℕ) (wave : NotificationConfidence)
    (userId : ℕ) : Prop where
  reachable : ∃ device ∈ w.devices.rows, device.user_id = userId ∧ isReachable device = true
  awake : (isQuietHours (E.getHours w.now) && wave ≠ .HIGH) = false
  fresh : beenNotified w alertId userId .PUSH = false
  underCap : overDailyCap w userId (w.now - MS_PER_DAY) wave = false

section Plan

variable {E : NotificationEnv} {alertId userId deviceId : ℕ} {wave : NotificationConfidence}
  {w : World} {ms : List DeviceMatch}

theorem not_pushesTo_exclusion {targets : List ℕ} {reason : ExclusionReason} {a : Act}
    (h : a ∈ exclusionActs alertId targets reason) : a.pushesTo deviceId = false := by
  obtain ⟨d, -, rfl⟩ := List.mem_map.1 h
  rfl

theorem countP_eq_zero {l : List Act} (h : ∀ a ∈ l, a.pushesTo deviceId = false) :
    l.countP (Act.pushesTo deviceId) = 0 := by
  rw [List.countP_eq_zero]
  intro a ha
  rw [h a ha]
  exact Bool.false_ne_true

/-- One push for each target. -/
theorem countP_pushes {targets : List ℕ} (m : DeviceMatch) (hnodup : targets.Nodup)
    (hmem : deviceId ∈ targets) :
    (targets.map fun d => Act.push (pushData alertId m d)).countP (Act.pushesTo deviceId) = 1 := by
  have hto : Act.pushesTo deviceId ∘ (fun d => Act.push (pushData alertId m d)) =
      fun d => d == deviceId := by
    funext d
    rfl
  rw [List.countP_map, hto]
  exact List.count_eq_one_of_mem hnodup hmem

/-- A device is a target once. -/
theorem nodup_targets (w : World) (userIds : List ℕ) (k : Ident) :
    (((devicesByUser (reachableDevices w userIds)).get k).getD []).Nodup := by
  rw [devicesByUser, Assoc.get_groupBy]
  have hsub : ((reachableDevices w userIds).filter fun d =>
      Ident.str (toString d.user_id) = k).Sublist w.devices.rows :=
    List.filter_sublist.trans List.filter_sublist
  exact w.devices.nodup.sublist (hsub.map Device.id)

/-- Under the id of another user no push goes to the device. -/
theorem pushActs_other {device : Device} {inQuietHours : Bool} {userIds : List ℕ}
    {entry : Ident × DeviceMatch} (hdevice : device ∈ w.devices.rows)
    (hkey : entry.1 ≠ .str (toString device.user_id)) :
    (pushActs alertId wave inQuietHours (devicesByUser (reachableDevices w userIds)) w
      entry).countP (Act.pushesTo device.id) = 0 := by
  apply countP_eq_zero
  intro a ha
  rcases mem_pushActs ha with ⟨targets, reason, hexcluded⟩ | ⟨device', hdevice', rfl, hkey', -⟩
  · exact not_pushesTo_exclusion hexcluded
  · have hid : device'.id ≠ device.id := by
      intro hid
      have hfind := Table.find?_of_mem hdevice'
      rw [hid, Table.find?_of_mem hdevice, Option.some.injEq] at hfind
      rw [hfind] at hkey
      exact hkey hkey'
    exact decide_eq_false hid

/-- Under the id of a pushable user, one push goes to each reachable device. -/
theorem pushActs_own {device : Device} {userIds : List ℕ} {m : DeviceMatch}
    (hpush : Pushable E w alertId wave device.user_id) (hdevice : device ∈ w.devices.rows)
    (hreach : isReachable device = true) (huser : device.user_id ∈ userIds) :
    (pushActs alertId wave (isQuietHours (E.getHours w.now))
      (devicesByUser (reachableDevices w userIds)) w
        (.str (toString device.user_id), m)).countP (Act.pushesTo device.id) = 1 := by
  have hmem : device.id ∈ ((devicesByUser (reachableDevices w userIds)).get
      (.str (toString device.user_id))).getD [] :=
    mem_targets_iff.2 ⟨device, hdevice, rfl, huser, hreach, rfl⟩
  have hparse : (Ident.str (toString device.user_id)).parseInt = some device.user_id :=
    IntegerColumns.parseInt_read .string device.user_id
  have hsome : ¬ (((devicesByUser (reachableDevices w userIds)).get
      (.str (toString device.user_id))).getD []).isEmpty = true := by
    rw [List.isEmpty_iff]
    exact List.ne_nil_of_mem hmem
  unfold pushActs
  dsimp only
  rw [if_neg hsome, hparse, Option.elim_some]
  unfold targetActs
  rw [hpush.awake, hpush.fresh, hpush.underCap]
  exact countP_pushes m (nodup_targets w userIds _) hmem

/-- A pushable user with a match under their id as a string: one push to each of
their reachable devices. -/
theorem countP_waveActs {device : Device} {m : DeviceMatch}
    (hpush : Pushable E w alertId wave device.user_id) (hdevice : device ∈ w.devices.rows)
    (hreach : isReachable device = true)
    (hentry : (.str (toString device.user_id), m) ∈ (userMatches ms).rows) :
    (waveActs E alertId wave ms w).countP (Act.pushesTo device.id) = 1 := by
  have huser : device.user_id ∈ userIdsOf (userMatches ms).rows :=
    List.mem_filterMap.2 ⟨_, hentry, IntegerColumns.parseInt_read .string device.user_id⟩
  have htokenless : (ms.flatMap (tokenlessActs alertId)).countP (Act.pushesTo device.id) = 0 := by
    apply countP_eq_zero
    intro a ha
    obtain ⟨m', -, hm'⟩ := List.mem_flatMap.1 ha
    obtain ⟨targets, reason, h⟩ := mem_tokenlessActs hm'
    exact not_pushesTo_exclusion h
  have hemails : (if wave = .HIGH then emailPassActs alertId (w.acts (pushPassActs E alertId wave ms
      w)) (userMatches ms).rows else []).countP (Act.pushesTo device.id) = 0 := by
    apply countP_eq_zero
    intro a ha
    split at ha
    · obtain ⟨pre, entry, post, -, h⟩ := mem_emailPassActs ha
      rcases mem_emailActs h with ⟨_, _, rfl, -⟩ | ⟨_, _, rfl, -⟩ <;> rfl
    · cases ha
  have hpushes : ((userMatches ms).rows.flatMap (pushActs alertId wave
      (isQuietHours (E.getHours w.now)) (devicesByUser (reachableDevices w (userIdsOf
        (userMatches ms).rows))) w)).countP (Act.pushesTo device.id) = 1 := by
    have hnodup := (userMatches ms).nodup
    generalize userIdsOf (userMatches ms).rows = userIds at huser
    obtain ⟨pre, post, hsplit⟩ := List.append_of_mem hentry
    rw [hsplit] at hnodup ⊢
    rw [List.map_append, List.map_cons, List.nodup_append, List.nodup_cons] at hnodup
    have hother : ∀ l : List (Ident × DeviceMatch),
        (∀ e ∈ l, e.1 ≠ .str (toString device.user_id)) →
          (l.flatMap (pushActs alertId wave (isQuietHours (E.getHours w.now))
            (devicesByUser (reachableDevices w userIds)) w)).countP
              (Act.pushesTo device.id) = 0 := by
      intro l hl
      rw [List.countP_flatMap, List.sum_eq_zero]
      intro n hn
      obtain ⟨e, he, rfl⟩ := List.mem_map.1 hn
      exact pushActs_other hdevice (hl e he)
    have hpre := hother pre fun e he =>
      hnodup.2.2 e.1 (List.mem_map_of_mem he) _ List.mem_cons_self
    have hpost := hother post fun e he heq => by
      have hmem : e.1 ∈ post.map Prod.fst := List.mem_map_of_mem he
      rw [heq] at hmem
      exact hnodup.2.1.1 hmem
    rw [List.flatMap_append, List.flatMap_cons, List.countP_append, List.countP_append, hpre, hpost,
      pushActs_own hpush hdevice hreach huser]
  unfold waveActs pushPassActs
  dsimp only
  rw [List.countP_append, List.countP_append, htokenless, hpushes]
  unfold pushPassActs at hemails
  rw [hemails]

/-- A push to a device needs a match of the wave with its owner's id as a string. -/
theorem exists_match_of_push {device : Device} (hdevice : device ∈ w.devices.rows)
    (h : (waveActs E alertId wave ms w).countP (Act.pushesTo device.id) = 1) :
    ∃ m ∈ ms, m.userId = .str (toString device.user_id) := by
  have hpos : 0 < (waveActs E alertId wave ms w).countP (Act.pushesTo device.id) := by
    rw [h]
    exact Nat.one_pos
  obtain ⟨a, ha, hto⟩ := List.countP_pos_iff.1 hpos
  cases a with
  | create data => cases hto
  | send email => cases hto
  | push data =>
      obtain ⟨e, he, device', hdevice', rfl, hkey, -⟩ := push_mem_waveActs ha
      have hid : device'.id = device.id := of_decide_eq_true hto
      have hfind := Table.find?_of_mem hdevice'
      rw [hid, Table.find?_of_mem hdevice, Option.some.injEq] at hfind
      subst hfind
      obtain ⟨hmem, heq⟩ := mem_userMatches he
      exact ⟨e.2, hmem, heq.trans hkey⟩

/-- The entry of a match of the wave. -/
theorem exists_entry {m : DeviceMatch} (hm : m ∈ ms) :
    ∃ m', (m.userId, m') ∈ (userMatches ms).rows := by
  obtain ⟨m', hm'⟩ : ∃ m', (userMatches ms).get m.userId = some m' := Assoc.get_bestOf_of_mem hm
  exact ⟨m', Assoc.mem_rows_iff.2 hm'⟩

end Plan

section Job

variable {E : NotificationEnv} {alertId : ℕ} {alert : Alert} {w : World}
  {wave? : Option NotificationConfidence} {ms : List DeviceMatch}

theorem World.knows_of_isMatch {L : LocationEnv} {s : LocationStrategy} {device : Device}
    {m : DeviceMatch} (hdevice : device ∈ w.devices.rows) (h : IsMatch L s device m) :
    w.Knows m := by
  refine ⟨device, hdevice, ?_, ?_⟩
  · rw [h.deviceId, parseInt_ident]
  · rw [h.userId, parseInt_ident]

/-- What was found for an active alert are its recipients. -/
theorem recipients_of_run {L : LocationEnv} (hrow : w.alerts.find? alertId = some alert)
    (hactive : alert.status = .ACTIVE)
    (hfind : (findDevicesForAlert (ℓ := NotificationCall) L alertId).run w = (.ok ms, w))
    (hcoord : hasCoordinates alert = true) : Recipients L alert w ms := by
  obtain ⟨ms', hrun, h⟩ := findDevicesForAlert_run (ℓ := NotificationCall) (E := L) hrow hactive
    hcoord
  rw [hfind] at hrun
  cases hrun
  exact h

theorem eq_nil_of_run {L : LocationEnv} (hrow : w.alerts.find? alertId = some alert)
    (hfind : (findDevicesForAlert (ℓ := NotificationCall) L alertId).run w = (.ok ms, w))
    (hcoord : hasCoordinates alert = false) : ms = [] := by
  have hrun := findDevicesForAlert_run_of_no_coordinates (ℓ := NotificationCall) (E := L)
    hrow hcoord
  rw [hfind] at hrun
  cases hrun
  rfl

/-- Somebody was found, so the alert has coordinates. -/
theorem recipients_of_mem {L : LocationEnv} (hrow : w.alerts.find? alertId = some alert)
    (hactive : alert.status = .ACTIVE)
    (hfind : (findDevicesForAlert (ℓ := NotificationCall) L alertId).run w = (.ok ms, w))
    {m : DeviceMatch} (hm : m ∈ ms) :
    hasCoordinates alert = true ∧ Recipients L alert w ms := by
  cases hcoord : hasCoordinates alert with
  | false =>
      rw [eq_nil_of_run hrow hfind hcoord] at hm
      cases hm
  | true => exact ⟨rfl, recipients_of_run hrow hactive hfind hcoord⟩

theorem findDevicesForAlert_returns (L : LocationEnv) (hrow : w.alerts.find? alertId = some alert)
    (hactive : alert.status = .ACTIVE) :
    ∃ ms, (findDevicesForAlert (ℓ := NotificationCall) L alertId).run w = (.ok ms, w) := by
  cases hcoord : hasCoordinates alert with
  | false => exact ⟨[], findDevicesForAlert_run_of_no_coordinates hrow hcoord⟩
  | true =>
      obtain ⟨ms, hrun, -⟩ := findDevicesForAlert_run (ℓ := NotificationCall) (E := L) hrow hactive
        hcoord
      exact ⟨ms, hrun⟩

theorem mem_deviceMatches {wave : NotificationConfidence} {creatorId : ℕ} {m : DeviceMatch} :
    m ∈ deviceMatches wave creatorId ms ↔
      m ∈ ms ∧ m.confidence = wave ∧ m.userId ≠ .str (toString creatorId) := by
  unfold deviceMatches
  rw [List.mem_filter, Bool.and_eq_true, decide_eq_true_eq, decide_eq_true_eq]

/-- The devices of all matches are there. -/
theorem Recipients.knows {L : LocationEnv} {wave : NotificationConfidence} {creatorId : ℕ}
    (h : Recipients L alert w ms) : ∀ m ∈ deviceMatches wave creatorId ms, w.Knows m := by
  intro m hm
  obtain ⟨s, device, hdevice, -, hmatch⟩ := h.sound m (mem_deviceMatches.1 hm).1
  exact World.knows_of_isMatch hdevice hmatch

variable (wave?) in
/-- The job of a wave carries out the plan for the matches of its tier. -/
theorem processAlertNotifications_run (hrow : w.alerts.find? alertId = some alert)
    (hactive : alert.status = .ACTIVE)
    (hfind : (findDevicesForAlert (ℓ := NotificationCall) E.location alertId).run w = (.ok ms, w)) :
    (processAlertNotifications E alertId wave?).run w =
      (.ok (), w.acts (waveActs E alertId (wave?.getD .HIGH)
        (deviceMatches (wave?.getD .HIGH) alert.creator_id ms) w)) := by
  have hknows : ∀ m ∈ deviceMatches (wave?.getD .HIGH) alert.creator_id ms, w.Knows m := by
    intro m hm
    have hmem := (mem_deviceMatches.1 hm).1
    exact (recipients_of_mem hrow hactive hfind hmem).2.knows m hm
  have halert : (w.alerts.find? alertId).isSome = true := by rw [hrow, Option.isSome_some]
  have hread : (NotificationCall.read (.location (.alertFindUnique alertId))
      fun w : World => w.alerts.find? alertId).run w = (.ok (some alert), w) := by
    rw [← hrow]
    rfl
  unfold processAlertNotifications
  rw [Process.run_bind_ok hread]
  dsimp only
  rw [if_neg (not_not_intro hactive), Process.run_bind_ok hfind]
  exact notifyMatches_run E hknows halert

end Job

/-- An alert zone of the user reaches one of their devices. -/
def AlertZoneReaches (L : LocationEnv) (alert : Alert) (w : World) (userId : ℕ) : Prop :=
  ∃ device ∈ w.devices.rows, device.user_id = userId ∧
    LocationStrategy.alertZone.reaches L alert w device = true

section FanOut

variable {E : NotificationEnv} {alertId userId : ℕ} {alert : Alert} {w : World}
  {wave : NotificationConfidence} {ms : List DeviceMatch}

theorem eq_alertZone_of_ident_str {L : LocationEnv} (hL : L.integers = .number)
    {s : LocationStrategy} {m n : ℕ} (h : s.ident L m = .str (toString n)) : s = .alertZone := by
  by_contra hs
  rw [ident_of_ne_alertZone hL hs] at h
  cases h

/-- A match under an id as a string is one of an alert zone of the user. -/
theorem Recipients.alertZone_of_str {L : LocationEnv} (h : Recipients L alert w ms)
    (hL : L.integers = .number) {m : DeviceMatch} (hm : m ∈ ms)
    (huser : m.userId = .str (toString userId)) :
    m.confidence = .HIGH ∧ AlertZoneReaches L alert w userId := by
  obtain ⟨s, device, hdevice, hreach, hmatch⟩ := h.sound m hm
  have hident := hmatch.userId.symm.trans huser
  obtain rfl := eq_alertZone_of_ident_str hL hident
  exact ⟨hmatch.confidence, device, hdevice, str_toString_inj.1 hident, hreach⟩

/-- An alert zone that reaches the user leaves them a match of the first tier under
their id as a string. -/
theorem Recipients.str_of_alertZone {L : LocationEnv} (h : Recipients L alert w ms)
    (hL : L.integers = .number) (hzone : AlertZoneReaches L alert w userId) :
    ∃ m ∈ ms, m.userId = .str (toString userId) ∧ m.confidence = .HIGH := by
  obtain ⟨device, hdevice, rfl, hreach⟩ := hzone
  obtain ⟨m, hm, huser, -⟩ := h.best .alertZone device hdevice hreach
  exact ⟨m, hm, huser, (h.alertZone_of_str hL hm huser).1⟩

end FanOut

/-- Every reachable device of a matched user whom nothing speaks against is pushed to
once, exactly when the wave is the first and an alert zone of the user reaches them. -/
theorem pushFanOut_complete_iff (E : NotificationEnv) (hE : E.location.integers = .number)
    (w : World) (alertId : ℕ) (alert : Alert) (hrow : w.alerts.find? alertId = some alert)
    (hactive : alert.status = .ACTIVE) (wave? : Option NotificationConfidence)
    (ms : List DeviceMatch)
    (hfind : (findDevicesForAlert (ℓ := NotificationCall) E.location alertId).run w = (.ok ms, w))
    (userId : ℕ)
    (hmatched : ∃ m ∈ ms, m.confidence = wave?.getD .HIGH ∧ m.userId.parseInt = some userId)
    (hother : userId ≠ alert.creator_id)
    (hpush : Pushable E w alertId (wave?.getD .HIGH) userId) :
    (∃ w', (processAlertNotifications E alertId wave?).run w = (.ok (), w') ∧
      ∀ device ∈ w.devices.rows, device.user_id = userId → isReachable device = true →
        PushedOnce (w'.addedSince w) alertId device.id) ↔
      wave?.getD .HIGH = .HIGH ∧ AlertZoneReaches E.location alert w userId := by
  have hrun := processAlertNotifications_run wave? hrow hactive hfind
  generalize wave?.getD .HIGH = wave at *
  obtain ⟨m₀, hm₀, -⟩ := hmatched
  have h := (recipients_of_mem hrow hactive hfind hm₀).2
  constructor
  · rintro ⟨w', hrun', hpushed⟩
    rw [hrun] at hrun'
    cases hrun'
    obtain ⟨device, hdevice, rfl, hreach⟩ := hpush.reachable
    have hone := (pushedOnce_iff waveActs_forAlert).1 (hpushed device hdevice rfl hreach)
    obtain ⟨m, hm, huser⟩ := exists_match_of_push hdevice hone
    obtain ⟨hmem, hwave, -⟩ := mem_deviceMatches.1 hm
    obtain ⟨hhigh, hzone⟩ := h.alertZone_of_str hE hmem huser
    exact ⟨hwave.symm.trans hhigh, hzone⟩
  · rintro ⟨rfl, hzone⟩
    obtain ⟨m, hm, huser, hhigh⟩ := h.str_of_alertZone hE hzone
    have hcreator : m.userId ≠ .str (toString alert.creator_id) := by
      rw [huser]
      exact fun heq => hother (str_toString_inj.1 heq)
    obtain ⟨m', hentry⟩ := exists_entry (mem_deviceMatches.2 ⟨hm, hhigh, hcreator⟩)
    rw [huser] at hentry
    refine ⟨_, hrun, ?_⟩
    rintro device hdevice rfl hreach
    rw [pushedOnce_iff waveActs_forAlert]
    exact countP_waveActs hpush hdevice hreach hentry

/-- The flat plane, at noon. -/
def flatEnv : NotificationEnv where
  location := flatLocation
  getHours := fun _ => 12

/-- A device of user 2 whose fix is at the place and fresh. -/
def gpsDevice : Device where
  id := 20
  user_id := 2
  push_token := some "token"
  gps_point := some ⟨1, 1⟩
  gps_updated_at := some 0

/-- Alert 7 of user 1, and the device. -/
def gpsWorld : World where
  users := (Table.empty.insertNew { id := 1, email := "a@b.c", emailVerified := true }).insertNew
    { id := 2, email := "d@e.f" }
  alerts := Table.empty.insertNew
    { id := 7, creator_id := 1, last_seen_lat := 1, last_seen_lon := 1 }
  devices := Table.empty.insertNew gpsDevice

/-- The row of the alert in both worlds. -/
def lostPet : Alert :=
  { id := 7, creator_id := 1, last_seen_lat := 1, last_seen_lon := 1 }

/-- The alert zone of user 2: their device is pushed to. -/
theorem pushFanOut_complete_iff_zone :
    ∃ w', (processAlertNotifications flatEnv 7 none).run zoneWorld = (.ok (), w') ∧
      ∀ device ∈ zoneWorld.devices.rows, device.user_id = 2 → isReachable device = true →
        PushedOnce (w'.addedSince zoneWorld) 7 device.id := by
  have hfind : (findDevicesForAlert (ℓ := NotificationCall) flatLocation 7).run zoneWorld =
      (.ok (((findDevicesForAlert (ℓ := NotificationCall) flatLocation 7).run
        zoneWorld).1.toOption.getD []), zoneWorld) := by
    rfl
  have hdevice : ({ id := 20, user_id := 2, push_token := some "token" } : Device) ∈
      zoneWorld.devices.rows := by decide +kernel
  refine (pushFanOut_complete_iff flatEnv rfl zoneWorld 7 lostPet (by rfl) rfl none _ hfind 2
    (by decide +kernel) (by decide) ⟨⟨_, hdevice, rfl, rfl⟩, rfl, ?_, ?_⟩).2
      ⟨rfl, _, hdevice, rfl, ?_⟩
  · decide +kernel
  · decide +kernel
  · decide +kernel

/-- A fresh fix at the place: user 2 is matched in the first wave, nothing speaks
against a push, and their device gets none. -/
theorem pushFanOut_misses_gps :
    gpsWorld.alerts.find? 7 = some lostPet ∧ lostPet.status = .ACTIVE ∧
      (∃ ms, (findDevicesForAlert (ℓ := NotificationCall) flatLocation 7).run gpsWorld =
          (.ok ms, gpsWorld) ∧
        ∃ m ∈ ms, m.confidence = .HIGH ∧ m.userId.parseInt = some 2) ∧
      Pushable flatEnv gpsWorld 7 .HIGH 2 ∧
      ¬ ∃ w', (processAlertNotifications flatEnv 7 none).run gpsWorld = (.ok (), w') ∧
        ∀ device ∈ gpsWorld.devices.rows, device.user_id = 2 → isReachable device = true →
          PushedOnce (w'.addedSince gpsWorld) 7 device.id := by
  have hdevice : gpsDevice ∈ gpsWorld.devices.rows := by decide +kernel
  have hfind : (findDevicesForAlert (ℓ := NotificationCall) flatLocation 7).run gpsWorld =
      (.ok (((findDevicesForAlert (ℓ := NotificationCall) flatLocation 7).run
        gpsWorld).1.toOption.getD []), gpsWorld) := by
    rfl
  refine ⟨by rfl, rfl, ⟨_, hfind, by decide +kernel⟩, ⟨⟨_, hdevice, rfl, rfl⟩, rfl, ?_, ?_⟩, ?_⟩
  · decide +kernel
  · decide +kernel
  · rintro ⟨w', hrun, hpushed⟩
    obtain ⟨row, hrow, -⟩ := hpushed _ hdevice rfl rfl
    have hnone : (((processAlertNotifications flatEnv 7 none).run gpsWorld).2.addedSince
        gpsWorld).rows.map (fun r => r.isPush) = [false] := by decide +kernel
    rw [hrun] at hnone
    have hmem : row ∈ (w'.addedSince gpsWorld).rows.filter fun r =>
        r.device_id = gpsDevice.id && r.isPush := by
      rw [hrow]
      exact List.mem_cons_self
    obtain ⟨hin, hcond⟩ := List.mem_filter.1 hmem
    have hfalse : row.isPush ∈ [false] := by
      rw [← hnone]
      exact List.mem_map_of_mem hin
    simp_all

end FifiAlert
