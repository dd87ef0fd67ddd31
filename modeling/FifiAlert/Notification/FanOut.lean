import FifiAlert.Location.Matching
import FifiAlert.Notification.NotificationQueueProcessor

/-!
# The plan of a wave

What a wave job does when nothing fails is a list of acts: rows to create, pushes
to queue, emails to send. The list is a function of the database the job finds and
of its matches (`waveActs`), and the job carries it out (`notifyMatches_run`).
Whether a user is pushed to is decided by the rows that were there before the job,
because no user is pushed to under two ids.
-/

namespace FifiAlert

open Concurrency Store Js NotificationCall NotificationService NotificationQueueProcessor

/-- A row, a row with its push job, or an email. -/
inductive Act where
  | create (data : NotificationData)
  | push (data : NotificationData)
  | send (email : Email)

namespace World

def act (w : World) : Act → World
  | .create data => w.createNotification data
  | .push data =>
      { w.createNotification data with
        jobs := w.jobs ++ [.sendPushNotification w.notifications.next] }
  | .send email => { w with emails := w.emails ++ [email] }

def acts (w : World) (l : List Act) : World :=
  l.foldl act w

/-- The rows that a notification for the alert on the device refers to. -/
def Takes (w : World) (alertId deviceId : ℕ) : Prop :=
  (w.alerts.find? alertId).isSome = true ∧ (w.devices.find? deviceId).isSome = true

/-- The match names a device of the database and its owner. -/
def Knows (w : World) (m : DeviceMatch) : Prop :=
  ∃ device ∈ w.devices.rows, m.deviceId.parseInt = some device.id ∧
    m.userId.parseInt = some device.user_id

section Acts

variable {w : World} {l : List Act}

@[simp] theorem acts_nil (w : World) : w.acts [] = w := rfl

theorem acts_cons (w : World) (a : Act) (l : List Act) : w.acts (a :: l) = (w.act a).acts l := rfl

theorem acts_append (w : World) (l l' : List Act) : w.acts (l ++ l') = (w.acts l).acts l' :=
  List.foldl_append

/-- What no act changes. -/
theorem acts_kept {β : Type} {g : World → β} (hg : ∀ w a, g (w.act a) = g w) (w : World)
    (l : List Act) : g (w.acts l) = g w := by
  induction l generalizing w with
  | nil => rfl
  | cons a l ih => rw [acts_cons, ih, hg]

@[simp] theorem acts_alerts (w : World) (l : List Act) : (w.acts l).alerts = w.alerts :=
  acts_kept (fun w a => by cases a <;> rfl) w l

@[simp] theorem acts_devices (w : World) (l : List Act) : (w.acts l).devices = w.devices :=
  acts_kept (fun w a => by cases a <;> rfl) w l

@[simp] theorem acts_users (w : World) (l : List Act) : (w.acts l).users = w.users :=
  acts_kept (fun w a => by cases a <;> rfl) w l

@[simp] theorem acts_now (w : World) (l : List Act) : (w.acts l).now = w.now :=
  acts_kept (fun w a => by cases a <;> rfl) w l

theorem Takes.acts {alertId deviceId : ℕ} (h : w.Takes alertId deviceId) (l : List Act) :
    (w.acts l).Takes alertId deviceId := by
  unfold Takes
  rw [acts_alerts, acts_devices]
  exact h

@[simp] theorem optedIn_acts (w : World) (l : List Act) (userId : ℕ) :
    (w.acts l).optedIn userId = w.optedIn userId := by
  rw [optedIn, optedIn, acts_users]

@[simp] theorem verifiedEmail_acts (w : World) (l : List Act) (userId : ℕ) :
    (w.acts l).verifiedEmail userId = w.verifiedEmail userId := by
  rw [verifiedEmail, verifiedEmail, acts_users]

end Acts

end World

/-- The act leaves a row on a device of the user that is not an exclusion. -/
def Act.countsFor (w : World) (userId : ℕ) : Act → Bool
  | create data | push data =>
      !data.excluded && (w.devices.find? data.device_id).map Device.user_id = some userId
  | send _ => false

section Decisions

variable {w : World} {l : List Act} {userId : ℕ}

theorem countsFor_act (w : World) (a b : Act) (userId : ℕ) :
    b.countsFor (w.act a) userId = b.countsFor w userId := by
  cases a <;> rfl

theorem beenNotified_act {a : Act} (h : a.countsFor w userId = false) (alertId : ℕ)
    (channel : NotificationChannel) :
    beenNotified (w.act a) alertId userId channel = beenNotified w alertId userId channel := by
  have hcreate : ∀ data, (Act.create data).countsFor w userId = false →
      beenNotified (w.createNotification data) alertId userId channel =
        beenNotified w alertId userId channel := by
    intro data hdata
    cases hexcluded : data.excluded <;>
      simp_all [Act.countsFor, World.createNotification, beenNotified, World.ownerOf,
        NotificationData.toRow]
  cases a with
  | create data => exact hcreate data h
  | push data => exact hcreate data h
  | send email => rfl

theorem overDailyCap_act {a : Act} (h : a.countsFor w userId = false) (since : Time)
    (wave : NotificationConfidence) :
    overDailyCap (w.act a) userId since wave = overDailyCap w userId since wave := by
  have hcreate : ∀ data, (Act.create data).countsFor w userId = false →
      overDailyCap (w.createNotification data) userId since wave =
        overDailyCap w userId since wave := by
    intro data hdata
    cases hexcluded : data.excluded <;>
      simp_all [Act.countsFor, World.createNotification, overDailyCap, Table.count, World.ownerOf,
        NotificationData.toRow]
  cases a with
  | create data => exact hcreate data h
  | push data => exact hcreate data h
  | send email => rfl

/-- What no act changes that does not count for the user. -/
theorem acts_decided {β : Type} {g : World → β}
    (hg : ∀ w a, Act.countsFor w userId a = false → g (w.act a) = g w)
    (h : ∀ a ∈ l, a.countsFor w userId = false) : g (w.acts l) = g w := by
  induction l generalizing w with
  | nil => rfl
  | cons a l ih =>
      have hl : ∀ b ∈ l, b.countsFor (w.act a) userId = false := by
        intro b hb
        rw [countsFor_act]
        exact h b (List.mem_cons_of_mem a hb)
      rw [World.acts_cons, ih hl, hg w a (h a List.mem_cons_self)]

/-- Rows that do not count for a user do not change whether they were reached. -/
theorem beenNotified_acts (h : ∀ a ∈ l, a.countsFor w userId = false) (alertId : ℕ)
    (channel : NotificationChannel) :
    beenNotified (w.acts l) alertId userId channel = beenNotified w alertId userId channel :=
  acts_decided (g := fun w => beenNotified w alertId userId channel)
    (fun _ _ ha => beenNotified_act ha alertId channel) h

/-- Nor how many they got. -/
theorem overDailyCap_acts (h : ∀ a ∈ l, a.countsFor w userId = false) (since : Time)
    (wave : NotificationConfidence) :
    overDailyCap (w.acts l) userId since wave = overDailyCap w userId since wave :=
  acts_decided (g := fun w => overDailyCap w userId since wave)
    (fun _ _ ha => overDailyCap_act ha since wave) h

end Decisions

section Plan

variable (E : NotificationEnv) (alertId : ℕ) (wave : NotificationConfidence)

def exclusionActs (targets : List ℕ) (reason : ExclusionReason) : List Act :=
  targets.map fun deviceId => .create (exclusionData alertId deviceId reason)

/-- The exclusion of the device of a match. -/
def tokenMissingActs (m : DeviceMatch) : List Act :=
  exclusionActs alertId m.deviceId.parseInt.toList .PUSH_TOKEN_MISSING

def tokenlessActs (m : DeviceMatch) : List Act :=
  if (truthy m.pushToken).isNone then tokenMissingActs alertId m else []

def unreachableActs (m : DeviceMatch) : List Act :=
  if (truthy m.pushToken).isSome then tokenMissingActs alertId m else []

/-- Push or exclude, for the devices of one user. -/
def targetActs (inQuietHours : Bool) (targets : List ℕ) (userId : ℕ) (m : DeviceMatch)
    (w : World) : List Act :=
  if inQuietHours && wave ≠ .HIGH then exclusionActs alertId targets .QUIET_HOURS
  else if beenNotified w alertId userId .PUSH then exclusionActs alertId targets .ALREADY_NOTIFIED
  else if overDailyCap w userId (w.now - MS_PER_DAY) wave then
    exclusionActs alertId targets .DAILY_CAP
  else targets.map fun deviceId => .push (pushData alertId m deviceId)

def pushActs (inQuietHours : Bool) (devices : Assoc Ident (List ℕ)) (w : World)
    (entry : Ident × DeviceMatch) : List Act :=
  let targets := (devices.get entry.1).getD []
  if targets.isEmpty then unreachableActs alertId entry.2
  else entry.1.parseInt.elim [] fun userId =>
    targetActs alertId wave inQuietHours targets userId entry.2 w

/-- The record of an email. -/
def recordActs (m : DeviceMatch) (sent : Bool) (w : World) : List Act :=
  m.deviceId.parseInt.toList.map fun deviceId => .create (emailData alertId m deviceId sent w.now)

def emailActs (w : World) (entry : Ident × DeviceMatch) : List Act :=
  entry.1.parseInt.elim [] fun userId =>
    if beenNotified w alertId userId .EMAIL then []
    else if !w.optedIn userId then []
    else match w.verifiedEmail userId with
      | none => recordActs alertId entry.2 false w
      | some email => .send ⟨"newAlert", email, alertId⟩ :: recordActs alertId entry.2 true w

/-- The emails of a wave. Two ids of one user are told apart, so an email may find
the record of the one before. -/
def emailPassActs : World → List (Ident × DeviceMatch) → List Act
  | _, [] => []
  | w, entry :: entries =>
    emailActs alertId w entry ++ emailPassActs (w.acts (emailActs alertId w entry)) entries

def pushPassActs (ms : List DeviceMatch) (w : World) : List Act :=
  let entries := (userMatches ms).rows
  ms.flatMap (tokenlessActs alertId) ++
    entries.flatMap (pushActs alertId wave (isQuietHours (E.getHours w.now))
      (devicesByUser (reachableDevices w (userIdsOf entries))) w)

/-- The plan of a wave. -/
def waveActs (ms : List DeviceMatch) (w : World) : List Act :=
  let pushes := pushPassActs E alertId wave ms w
  pushes ++
    if wave = .HIGH then emailPassActs alertId (w.acts pushes) (userMatches ms).rows else []

end Plan

section Run

variable {alertId : ℕ} {wave : NotificationConfidence} {w : World}

/-- A loop whose bodies carry out one list of acts after the other. -/
theorem run_forEach_acts {δ : Type} (f : δ → List Act) (body : δ → NotificationProcess Unit)
    (xs : List δ) (l : List Act)
    (hbody : ∀ pre x post, xs = pre ++ x :: post →
      (body x).run (w.acts (l ++ pre.flatMap f)) =
        (.ok (), w.acts (l ++ pre.flatMap f ++ f x))) :
    (Process.forEach xs body).run (w.acts l) = (.ok (), w.acts (l ++ xs.flatMap f)) := by
  induction xs generalizing l with
  | nil => simp
  | cons x xs ih =>
      have hx := hbody [] x xs rfl
      simp only [List.flatMap_nil, List.append_nil] at hx
      have hxs := ih (l ++ f x) fun pre y post hsplit => by
        have hy := hbody (x :: pre) y post (by rw [hsplit, List.cons_append])
        simpa [List.append_assoc] using hy
      rw [Process.forEach_cons, Process.run_bind_ok hx, hxs]
      simp

theorem create_run {data : NotificationData} (h : w.Takes data.alert_id data.device_id) :
    (create data).run w = (.ok w.notifications.next, w.createNotification data) := by
  have htakes : w.takesNotification data = true := by
    simpa [World.takesNotification, World.Takes] using h
  simp [create, effect, htakes]

theorem trackExclusion_run {deviceId : ℕ} (h : w.Takes alertId deviceId)
    (reason : ExclusionReason) :
    (trackExclusion alertId deviceId reason).run w =
      (.ok (), w.acts (exclusionActs alertId [deviceId] reason)) := by
  unfold trackExclusion
  rw [Process.run_map, create_run h]
  rfl

theorem excludeAll_run {targets : List ℕ} (h : ∀ d ∈ targets, w.Takes alertId d)
    (reason : ExclusionReason) : (excludeAll alertId targets reason).run w =
      (.ok (), w.acts (exclusionActs alertId targets reason)) := by
  have hloop := run_forEach_acts (w := w) (fun d => exclusionActs alertId [d] reason)
    (fun d => trackExclusion alertId d reason) targets [] fun pre d post hsplit => by
      have hd := h d (by simp [hsplit])
      rw [trackExclusion_run (hd.acts _), World.acts_append _ _ (exclusionActs alertId [d] reason)]
  have hflat : targets.flatMap (fun d => exclusionActs alertId [d] reason) =
      exclusionActs alertId targets reason :=
    List.map_eq_flatMap.symm
  rw [List.nil_append, hflat] at hloop
  exact hloop

theorem queuePush_run {m : DeviceMatch} {deviceId : ℕ} (h : w.Takes alertId deviceId) :
    (queuePush alertId m deviceId).run w =
      (.ok (), w.acts [.push (pushData alertId m deviceId)]) := by
  unfold queuePush
  rw [Process.run_bind_ok (create_run h)]
  rfl

theorem pushTargets_run {inQuietHours : Bool} {targets : List ℕ} {userId : Ident} {user : ℕ}
    {m : DeviceMatch} (huser : userId.parseInt = some user)
    (h : ∀ d ∈ targets, w.Takes alertId d) :
    (pushTargets alertId wave inQuietHours targets userId m).run w =
      (.ok (), w.acts (targetActs alertId wave inQuietHours targets user m w)) := by
  unfold pushTargets targetActs
  by_cases hquiet : (inQuietHours && wave ≠ .HIGH) = true
  · rw [if_pos hquiet, if_pos hquiet, excludeAll_run h]
  rw [if_neg hquiet, if_neg hquiet]
  have hnotified : (hasBeenNotified alertId userId .PUSH).run w =
      (.ok (beenNotified w alertId user .PUSH), w) := by
    simp [hasBeenNotified, numericId, huser, NotificationCall.read]
  rw [Process.run_bind_ok hnotified]
  by_cases hbeen : beenNotified w alertId user .PUSH = true
  · rw [if_pos hbeen, if_pos hbeen, excludeAll_run h]
  rw [if_neg hbeen, if_neg hbeen]
  have hcapped : (isOverDailyCap userId wave).run w =
      (.ok (overDailyCap w user (w.now - MS_PER_DAY) wave), w) := by
    simp [isOverDailyCap, LocationService.dateNow, numericId, huser, NotificationCall.read]
  rw [Process.run_bind_ok hcapped]
  by_cases hover : overDailyCap w user (w.now - MS_PER_DAY) wave = true
  · rw [if_pos hover, if_pos hover, excludeAll_run h]
  rw [if_neg hover, if_neg hover]
  have hloop := run_forEach_acts (w := w) (fun d => [.push (pushData alertId m d)])
    (queuePush alertId m) targets [] fun pre d post hsplit => by
      have hd := h d (by simp [hsplit])
      rw [queuePush_run (hd.acts _), World.acts_append _ _ [_]]
  rw [List.nil_append, ← List.map_eq_flatMap] at hloop
  exact hloop

theorem World.Knows.takes {m : DeviceMatch} (h : w.Knows m)
    (halert : (w.alerts.find? alertId).isSome = true) :
    ∃ deviceId, m.deviceId.parseInt = some deviceId ∧ w.Takes alertId deviceId := by
  obtain ⟨device, hmem, hdevice, -⟩ := h
  have hfind := Table.find?_of_mem hmem
  exact ⟨device.id, hdevice, halert, by rw [hfind, Option.isSome_some]⟩

theorem World.Knows.acts {m : DeviceMatch} (h : w.Knows m) (l : List Act) : (w.acts l).Knows m := by
  unfold World.Knows
  rw [World.acts_devices]
  exact h

theorem trackMatch_run {m : DeviceMatch} (h : w.Knows m)
    (halert : (w.alerts.find? alertId).isSome = true) :
    (numericId m.deviceId >>= fun deviceId =>
        trackExclusion alertId deviceId .PUSH_TOKEN_MISSING).run w =
      (.ok (), w.acts (tokenMissingActs alertId m)) := by
  obtain ⟨deviceId, hid, htakes⟩ := h.takes halert
  have hnumeric : (numericId m.deviceId).run w = (.ok deviceId, w) := by
    simp [numericId, hid]
  rw [Process.run_bind_ok hnumeric, trackExclusion_run htakes, tokenMissingActs, hid]
  rfl

theorem recordTokenless_run {m : DeviceMatch} (h : w.Knows m)
    (halert : (w.alerts.find? alertId).isSome = true) :
    (recordTokenless alertId m).run w = (.ok (), w.acts (tokenlessActs alertId m)) := by
  unfold recordTokenless tokenlessActs
  by_cases htoken : (truthy m.pushToken).isNone = true
  · rw [if_pos htoken, if_pos htoken, trackMatch_run h halert]
  · rw [if_neg htoken, if_neg htoken]
    rfl

theorem recordUnreachable_run {m : DeviceMatch} (h : w.Knows m)
    (halert : (w.alerts.find? alertId).isSome = true) :
    (recordUnreachable alertId m).run w = (.ok (), w.acts (unreachableActs alertId m)) := by
  unfold recordUnreachable unreachableActs
  by_cases htoken : (truthy m.pushToken).isSome = true
  · rw [if_pos htoken, if_pos htoken, trackMatch_run h halert]
  · rw [if_neg htoken, if_neg htoken]
    rfl

/-- The targets under an id are the reachable devices of the user with that id, as
a string. -/
theorem mem_targets_iff {userIds : List ℕ} {k : Ident} {deviceId : ℕ} :
    deviceId ∈ ((devicesByUser (reachableDevices w userIds)).get k).getD [] ↔
      ∃ device ∈ w.devices.rows, device.id = deviceId ∧ device.user_id ∈ userIds ∧
        isReachable device = true ∧ k = .str (toString device.user_id) := by
  rw [devicesByUser, Assoc.get_groupBy]
  simp only [reachableDevices, Table.findMany, List.filter_filter, List.mem_map, List.mem_filter,
    Bool.and_eq_true, decide_eq_true_eq, List.contains_iff_mem]
  constructor
  · rintro ⟨device, ⟨hmem, hk, huser, hreach⟩, hid⟩
    exact ⟨device, hmem, hid, huser, hreach, hk.symm⟩
  · rintro ⟨device, hmem, hid, huser, hreach, hk⟩
    exact ⟨device, ⟨hmem, hk.symm, huser, hreach⟩, hid⟩

theorem findReachableDevices_run (userIds : List ℕ) :
    (findReachableDevices userIds).run w = (.ok (reachableDevices w userIds), w) := by
  unfold findReachableDevices
  by_cases hnone : userIds.isEmpty = true
  · have hempty : reachableDevices w userIds = [] := by
      simp [reachableDevices, Table.findMany, List.isEmpty_iff.1 hnone]
    rw [if_pos hnone, hempty]
    rfl
  · rw [if_neg hnone]
    rfl

section Push

variable {inQuietHours : Bool} {userIds : List ℕ} {entry : Ident × DeviceMatch}

theorem pushUser_run (v : World) (hdevices : v.devices = w.devices) (h : w.Knows entry.2)
    (halert : (w.alerts.find? alertId).isSome = true) (halerts : v.alerts = w.alerts) :
    (pushUser alertId wave inQuietHours (devicesByUser (reachableDevices w userIds)) entry).run v =
      (.ok (), v.acts (pushActs alertId wave inQuietHours
        (devicesByUser (reachableDevices w userIds)) v entry)) := by
  have hknows : v.Knows entry.2 := by
    unfold World.Knows
    rw [hdevices]
    exact h
  have halert' : (v.alerts.find? alertId).isSome = true := by rw [halerts, halert]
  unfold pushUser pushActs
  dsimp only
  cases htargets : ((devicesByUser (reachableDevices w userIds)).get entry.1).getD [] with
  | nil => exact recordUnreachable_run hknows halert'
  | cons d ds =>
      have hmem : ∀ d' ∈ d :: ds, ∃ device ∈ w.devices.rows, device.id = d' ∧
          device.user_id ∈ userIds ∧ isReachable device = true ∧
            entry.1 = .str (toString device.user_id) := by
        rw [← htargets]
        exact fun d' => mem_targets_iff.1
      obtain ⟨device, -, -, -, -, hkey⟩ := hmem d List.mem_cons_self
      have huser : entry.1.parseInt = some device.user_id := by
        rw [hkey]
        exact IntegerColumns.parseInt_read .string device.user_id
      have htakes : ∀ d' ∈ d :: ds, v.Takes alertId d' := by
        intro d' hd'
        obtain ⟨device', hmem', rfl, -⟩ := hmem d' hd'
        have hfind := Table.find?_of_mem hmem'
        exact ⟨halert', by rw [hdevices, hfind, Option.isSome_some]⟩
      rw [huser]
      exact pushTargets_run huser htakes

theorem countsFor_exclusionActs {a : Act} {targets : List ℕ} {reason : ExclusionReason}
    {userId : ℕ} (h : a ∈ exclusionActs alertId targets reason) : a.countsFor w userId = false := by
  obtain ⟨d, -, rfl⟩ := List.mem_map.1 h
  rfl

/-- The guards of a push to a user all pass. -/
structure GuardsPass (w : World) (alertId : ℕ) (wave : NotificationConfidence)
    (inQuietHours : Bool) (userId : ℕ) : Prop where
  awake : (inQuietHours && wave ≠ .HIGH) = false
  fresh : beenNotified w alertId userId .PUSH = false
  underCap : overDailyCap w userId (w.now - MS_PER_DAY) wave = false

/-- Under an id there are exclusions, and, when the guards pass, pushes to reachable
devices of the user with that id, as a string. -/
theorem mem_pushActs {v : World} {a : Act}
    (ha : a ∈ pushActs alertId wave inQuietHours (devicesByUser (reachableDevices w userIds)) v
      entry) :
    (∃ targets reason, a ∈ exclusionActs alertId targets reason) ∨
      ∃ device ∈ w.devices.rows, a = .push (pushData alertId entry.2 device.id) ∧
        entry.1 = .str (toString device.user_id) ∧ isReachable device = true ∧
          GuardsPass v alertId wave inQuietHours device.user_id := by
  unfold pushActs at ha
  dsimp only at ha
  by_cases hnone :
    (((devicesByUser (reachableDevices w userIds)).get entry.1).getD []).isEmpty = true
  · rw [if_pos hnone] at ha
    unfold unreachableActs tokenMissingActs at ha
    split at ha
    · exact .inl ⟨_, _, ha⟩
    · cases ha
  · rw [if_neg hnone] at ha
    cases huser : entry.1.parseInt with
    | none =>
        rw [huser] at ha
        cases ha
    | some user =>
        rw [huser, Option.elim_some] at ha
        unfold targetActs at ha
        split at ha
        · exact .inl ⟨_, _, ha⟩
        rename_i hawake
        split at ha
        · exact .inl ⟨_, _, ha⟩
        rename_i hfresh
        split at ha
        · exact .inl ⟨_, _, ha⟩
        rename_i hcap
        obtain ⟨deviceId, hdevice, rfl⟩ := List.mem_map.1 ha
        obtain ⟨device, hmem, rfl, -, hreach, hkey⟩ := mem_targets_iff.1 hdevice
        obtain rfl : user = device.user_id := by
          rw [hkey] at huser
          exact Option.some.inj (huser.symm.trans (IntegerColumns.parseInt_read .string _))
        exact .inr ⟨device, hmem, rfl, hkey, hreach, Bool.eq_false_iff.2 hawake,
          Bool.eq_false_iff.2 hfresh, Bool.eq_false_iff.2 hcap⟩

/-- A user is pushed to under one id only, the string. -/
theorem countsFor_pushActs {v : World} {a : Act} {userId : ℕ}
    (ha : a ∈ pushActs alertId wave inQuietHours (devicesByUser (reachableDevices w userIds)) v
      entry) (hcounts : a.countsFor w userId = true) : entry.1 = .str (toString userId) := by
  rcases mem_pushActs ha with ⟨targets, reason, hexcluded⟩ | ⟨device, hmem, rfl, hkey, -⟩
  · rw [countsFor_exclusionActs hexcluded] at hcounts
    cases hcounts
  · have hfind := Table.find?_of_mem hmem
    have howner : device.user_id = userId := by
      simpa [Act.countsFor, pushData, hfind] using hcounts
    rw [hkey, howner]

/-- The decision about a user is the one before the job, when nobody was told
under their id since. -/
theorem pushActs_acts {l : List Act}
    (h : ∀ a ∈ l, ∀ userId, a.countsFor w userId = true → entry.1 ≠ .str (toString userId)) :
    pushActs alertId wave inQuietHours (devicesByUser (reachableDevices w userIds)) (w.acts l)
        entry =
      pushActs alertId wave inQuietHours (devicesByUser (reachableDevices w userIds)) w entry := by
  unfold pushActs
  dsimp only
  cases htargets : ((devicesByUser (reachableDevices w userIds)).get entry.1).getD [] with
  | nil => rfl
  | cons d ds =>
      have hd : d ∈ ((devicesByUser (reachableDevices w userIds)).get entry.1).getD [] := by
        rw [htargets]
        exact List.mem_cons_self
      obtain ⟨device, -, -, -, -, hkey⟩ := mem_targets_iff.1 hd
      have huser : entry.1.parseInt = some device.user_id := by
        rw [hkey]
        exact IntegerColumns.parseInt_read .string device.user_id
      have hl : ∀ a ∈ l, a.countsFor w device.user_id = false := by
        intro a ha
        by_contra hcounts
        exact h a ha device.user_id (by simpa using hcounts) hkey
      rw [huser]
      simp only [Option.elim_some, targetActs, beenNotified_acts hl, World.acts_now,
        overDailyCap_acts hl]

variable (wave inQuietHours userIds) in
theorem pushPass_run {entries : List (Ident × DeviceMatch)} {l : List Act}
    (hkeys : (entries.map Prod.fst).Nodup) (hknows : ∀ e ∈ entries, w.Knows e.2)
    (halert : (w.alerts.find? alertId).isSome = true)
    (hl : ∀ a ∈ l, ∀ userId, a.countsFor w userId = false) :
    (Process.forEach entries (pushUser alertId wave inQuietHours
        (devicesByUser (reachableDevices w userIds)))).run (w.acts l) =
      (.ok (), w.acts (l ++ entries.flatMap (pushActs alertId wave inQuietHours
        (devicesByUser (reachableDevices w userIds)) w))) := by
  apply run_forEach_acts
  intro pre entry post hsplit
  have hentry : entry ∈ entries := by simp [hsplit]
  rw [pushUser_run _ (World.acts_devices _ _) (hknows entry hentry) halert (World.acts_alerts _ _),
    pushActs_acts, World.acts_append _ (l ++ _)]
  intro a ha userId hcounts hkey
  rcases List.mem_append.1 ha with ha | ha
  · rw [hl a ha userId] at hcounts
    cases hcounts
  · obtain ⟨e, he, hae⟩ := List.mem_flatMap.1 ha
    have hkey' := countsFor_pushActs hae hcounts
    rw [hsplit, List.map_append, List.map_cons, List.nodup_append] at hkeys
    exact hkeys.2.2 e.1 (List.mem_map_of_mem he) entry.1 List.mem_cons_self (hkey'.trans hkey.symm)

end Push

section Email

variable {entry : Ident × DeviceMatch}

theorem recordEmailNotification_run {m : DeviceMatch} (h : w.Knows m)
    (halert : (w.alerts.find? alertId).isSome = true) (sent : Bool) :
    (recordEmailNotification alertId m sent).run w =
      (.ok (), w.acts (recordActs alertId m sent w)) := by
  obtain ⟨deviceId, hid, htakes⟩ := h.takes halert
  have hcreate : (create (emailData alertId m deviceId sent w.now)).run w =
      (.ok w.notifications.next, w.createNotification (emailData alertId m deviceId sent w.now)) :=
    create_run htakes
  unfold recordEmailNotification recordActs
  rw [Process.run_tryCatch]
  simp only [LocationService.dateNow, Process.run_query_bind, numericId, hid, Process.ret_bind,
    Process.run_map, hcreate]
  rfl

variable (alertId w) in
theorem sendFallbackEmail_run {m : DeviceMatch} {userId : ℕ}
    (huser : m.userId.parseInt = some userId) :
    (sendFallbackEmail alertId m).run w =
      if w.optedIn userId then
        match w.verifiedEmail userId with
        | none => (.ok (some false), w)
        | some email => (.ok (some true), w.act (.send ⟨"newAlert", email, alertId⟩))
      else (.ok none, w) := by
  unfold sendFallbackEmail
  rw [huser]
  dsimp only
  rw [Process.run_tryCatch]
  cases hopted : w.optedIn userId with
  | false => simp [AlertEmailService.isOptedIn, NotificationCall.read, hopted]
  | true =>
      cases hemail : w.verifiedEmail userId with
      | none =>
          simp [AlertEmailService.isOptedIn, NotificationCall.read, hopted, Process.run_map,
            AlertEmailService.sendAlertEmail, hemail]
      | some email =>
          simp [AlertEmailService.isOptedIn, NotificationCall.read, hopted, Process.run_map,
            AlertEmailService.sendAlertEmail, hemail, Process.run_tryCatch, write, effect,
            World.act]

theorem emailUser_run (hkey : entry.2.userId = entry.1) (h : w.Knows entry.2)
    (halert : (w.alerts.find? alertId).isSome = true) :
    (emailUser alertId entry).run w = (.ok (), w.acts (emailActs alertId w entry)) := by
  obtain ⟨device, -, -, huser⟩ := id h
  have hnotified : (hasBeenNotified alertId entry.1 .EMAIL).run w =
      (.ok (beenNotified w alertId device.user_id .EMAIL), w) := by
    rw [hkey] at huser
    simp [hasBeenNotified, numericId, huser, NotificationCall.read]
  have hfallback := sendFallbackEmail_run alertId w huser
  unfold emailUser emailActs
  rw [Process.run_bind_ok hnotified, ← hkey, huser, Option.elim_some]
  by_cases hbeen : beenNotified w alertId device.user_id .EMAIL = true
  · rw [if_pos hbeen, if_pos hbeen]
    rfl
  rw [if_neg hbeen, if_neg hbeen]
  cases hopted : w.optedIn device.user_id with
  | false =>
      simp only [hopted, Bool.false_eq_true, if_false] at hfallback
      rw [Process.run_bind_ok hfallback]
      rfl
  | true =>
      simp only [hopted, if_true] at hfallback
      cases hemail : w.verifiedEmail device.user_id with
      | none =>
          rw [hemail] at hfallback
          rw [Process.run_bind_ok hfallback]
          exact recordEmailNotification_run h halert false
      | some email =>
          rw [hemail] at hfallback
          rw [Process.run_bind_ok hfallback]
          have hknows : (w.acts [.send ⟨"newAlert", email, alertId⟩]).Knows entry.2 := h.acts _
          exact recordEmailNotification_run hknows halert true

variable (alertId w) in
theorem emailPass_run {entries : List (Ident × DeviceMatch)}
    (hentries : ∀ e ∈ entries, e.2.userId = e.1 ∧ w.Knows e.2)
    (halert : (w.alerts.find? alertId).isSome = true) :
    (Process.forEach entries (emailUser alertId)).run w =
      (.ok (), w.acts (emailPassActs alertId w entries)) := by
  induction entries generalizing w with
  | nil => rfl
  | cons entry entries ih =>
      obtain ⟨hkey, hknows⟩ := hentries entry List.mem_cons_self
      have hrest := ih (w := w.acts (emailActs alertId w entry))
        (fun e he =>
          have hmem := hentries e (List.mem_cons_of_mem entry he)
          ⟨hmem.1, hmem.2.acts _⟩)
        (by rw [World.acts_alerts, halert])
      rw [Process.forEach_cons, Process.run_bind_ok (emailUser_run hkey hknows halert), hrest,
        emailPassActs, World.acts_append]

end Email

theorem tokenlessPass_run {ms : List DeviceMatch} (hms : ∀ m ∈ ms, w.Knows m)
    (halert : (w.alerts.find? alertId).isSome = true) :
    (Process.forEach ms (recordTokenless alertId)).run w =
      (.ok (), w.acts (ms.flatMap (tokenlessActs alertId))) := by
  have hloop := run_forEach_acts (w := w) (tokenlessActs alertId) (recordTokenless alertId) ms []
    fun pre m post hsplit => by
      have hm : m ∈ ms := by simp [hsplit]
      rw [recordTokenless_run ((hms m hm).acts _) (by rw [World.acts_alerts, halert]),
        World.acts_append _ _ (tokenlessActs alertId m)]
  rw [List.nil_append] at hloop
  exact hloop

theorem mem_userMatches {ms : List DeviceMatch} {e : Ident × DeviceMatch}
    (h : e ∈ (userMatches ms).rows) : e.2 ∈ ms ∧ e.2.userId = e.1 :=
  Assoc.mem_of_get_bestOf (Assoc.mem_rows_iff.1 h)

/-- The wave job carries out its plan. -/
theorem notifyMatches_run (E : NotificationEnv) {ms : List DeviceMatch}
    (hms : ∀ m ∈ ms, w.Knows m) (halert : (w.alerts.find? alertId).isSome = true) :
    (notifyMatches E alertId wave ms).run w = (.ok (), w.acts (waveActs E alertId wave ms w)) := by
  have hentries : ∀ e ∈ (userMatches ms).rows, e.2.userId = e.1 ∧ w.Knows e.2 := by
    intro e he
    obtain ⟨hmem, hkey⟩ := mem_userMatches he
    exact ⟨hkey, hms e.2 hmem⟩
  have hsilent : ∀ a ∈ ms.flatMap (tokenlessActs alertId), ∀ userId,
      a.countsFor w userId = false := by
    intro a ha userId
    obtain ⟨m, -, ham⟩ := List.mem_flatMap.1 ha
    unfold tokenlessActs tokenMissingActs at ham
    split at ham
    · exact countsFor_exclusionActs ham
    · cases ham
  have hpush := pushPass_run wave (isQuietHours (E.getHours w.now))
    (userIdsOf (userMatches ms).rows) (userMatches ms).nodup
    (fun e he => (hentries e he).2) halert hsilent
  have hemail := emailPass_run alertId (w.acts (pushPassActs E alertId wave ms w))
    (fun e he => ⟨(hentries e he).1, (hentries e he).2.acts _⟩) (by rw [World.acts_alerts, halert])
  unfold notifyMatches waveActs
  dsimp only
  simp only [LocationService.dateNow, Process.run_query_bind]
  rw [Process.run_bind_ok (findReachableDevices_run _), Process.run_bind_ok (tokenlessPass_run hms
    halert), Process.run_bind_ok hpush]
  by_cases hwave : wave = .HIGH
  · rw [if_pos hwave, if_pos hwave, World.acts_append w (pushPassActs E alertId wave ms w)]
    exact hemail
  · rw [if_neg hwave, if_neg hwave, List.append_nil]
    rfl

end Run

end FifiAlert
