import FifiAlert.Notification.SuccessStory
import FifiAlert.Notification.WaveOutcome

/-!
# What a success story adds

The run that claims a success story carries out a plan, like a wave does: a push for
every reachable device of every helper, and one email for each helper who takes emails,
with its record. The helpers are read from two tables with repetitions, and each is told
once.
-/

namespace FifiAlert

open Concurrency Store NotificationCall NotificationService NotificationQueueProcessor

/-- A user other than the creator who was reached by the alert or reported a sighting. -/
structure IsHelper (w : World) (alertId creatorId userId : ℕ) : Prop where
  helped : (∃ n ∈ w.notifications.rows, n.isDelivered alertId = true ∧ w.ownerOf n = some userId) ∨
    ∃ s ∈ w.sightings.rows, s.alert_id = alertId ∧ s.reporter_id = userId
  other : userId ≠ creatorId

/-- The recipients of the story, as the database has them. -/
def World.helpers (w : World) (alertId creatorId : ℕ) : List ℕ :=
  recipientIds creatorId (w.deliveredTo alertId) (w.sightingReporters alertId)

theorem nodup_helpers (w : World) (alertId creatorId : ℕ) : (w.helpers alertId creatorId).Nodup :=
  (Assoc.nodup_distinct _).filter _

theorem mem_helpers_iff {w : World} {alertId creatorId userId : ℕ} :
    userId ∈ w.helpers alertId creatorId ↔ IsHelper w alertId creatorId userId := by
  unfold World.helpers recipientIds World.deliveredTo World.sightingReporters
  simp only [List.mem_filter, Assoc.mem_distinct, List.mem_append, List.mem_filterMap,
    List.mem_map, Table.mem_findMany, decide_eq_true_eq, and_assoc]
  constructor
  · rintro ⟨hhelped, hother⟩
    exact ⟨hhelped, hother⟩
  · exact fun h => ⟨h.helped, h.other⟩

section Plan

variable (alertId : ℕ)

def storyPushActs (devices : List Device) : List Act :=
  devices.map fun device => .push (storyData alertId device.id)

/-- The record of an email to a helper. -/
def storyRecordActs (device? : Option Device) (sent : Bool) (now : Time) : List Act :=
  device?.toList.map fun device => .create (storyEmailData alertId device.id sent now)

/-- The email that a helper gets. -/
def storyEmail (w : World) (userId : ℕ) : Option Email :=
  if w.optedIn userId then (w.verifiedEmail userId).map fun email => ⟨"petIsHome", email, alertId⟩
  else none

def helperActs (devices : Assoc ℕ Device) (w : World) (userId : ℕ) : List Act :=
  if !w.optedIn userId then []
  else match w.verifiedEmail userId with
    | none => storyRecordActs alertId (devices.get userId) false w.now
    | some email =>
      .send ⟨"petIsHome", email, alertId⟩ ::
        storyRecordActs alertId (devices.get userId) true w.now

/-- The plan of a success story. -/
def storyActs (recipients : List ℕ) (w : World) : List Act :=
  storyPushActs alertId (reachableDevices w recipients) ++
    recipients.flatMap (helperActs alertId (anyDeviceByUser (w.devicesOf recipients)) w)

end Plan

section Run

variable {alertId : ℕ} {w : World}

theorem queueStory_run {device : Device} (h : w.Takes alertId device.id) :
    (queueStory alertId device).run w =
      (.ok (), w.acts (storyPushActs alertId [device])) := by
  unfold queueStory
  rw [Process.run_bind_ok (create_run h)]
  rfl

theorem recordStoryEmail_run {device? : Option Device}
    (h : ∀ device ∈ device?, w.Takes alertId device.id) (sent : Bool) :
    (recordStoryEmail alertId device? sent).run w =
      (.ok (), w.acts (storyRecordActs alertId device? sent w.now)) := by
  unfold recordStoryEmail storyRecordActs
  cases device? with
  | none => rfl
  | some device =>
      have hcreate : (create (storyEmailData alertId device.id sent w.now)).run w =
          (.ok w.notifications.next,
            w.createNotification (storyEmailData alertId device.id sent w.now)) :=
        create_run (h device rfl)
      rw [Process.run_tryCatch]
      simp only [LocationService.dateNow, Process.run_query_bind, Process.run_map, hcreate]
      rfl

theorem sendPetIsHomeEmail_run (userId : ℕ) :
    (AlertEmailService.sendPetIsHomeEmail userId alertId).run w =
      match w.verifiedEmail userId with
      | none => (.ok false, w)
      | some email => (.ok true, w.act (.send ⟨"petIsHome", email, alertId⟩)) := by
  unfold AlertEmailService.sendPetIsHomeEmail
  rw [NotificationCall.read, Process.run_query_bind]
  cases w.verifiedEmail userId with
  | none => rfl
  | some email => simp [Process.run_tryCatch, Process.run_map, write, effect, World.act]

theorem emailHelper_run {devices : Assoc ℕ Device} {userId : ℕ}
    (h : ∀ device ∈ devices.get userId, w.Takes alertId device.id) :
    (emailHelper alertId devices userId).run w =
      (.ok (), w.acts (helperActs alertId devices w userId)) := by
  have hopted : (AlertEmailService.isOptedIn userId).run w = (.ok (w.optedIn userId), w) := rfl
  have hsend : (AlertEmailService.sendPetIsHomeEmail userId alertId).run w = _ :=
    sendPetIsHomeEmail_run userId
  unfold emailHelper helperActs
  rw [Process.run_bind_ok hopted]
  cases w.optedIn userId with
  | false => rfl
  | true =>
      simp only [if_true, Bool.not_true, Bool.false_eq_true, if_false]
      cases hemail : w.verifiedEmail userId with
      | none =>
          rw [hemail] at hsend
          rw [Process.run_bind_ok hsend]
          exact recordStoryEmail_run h false
      | some email =>
          rw [hemail] at hsend
          rw [Process.run_bind_ok hsend]
          exact recordStoryEmail_run
            (w := w.act (.send ⟨"petIsHome", email, alertId⟩)) h true

theorem helperActs_acts (devices : Assoc ℕ Device) (l : List Act) (userId : ℕ) :
    helperActs alertId devices (w.acts l) userId = helperActs alertId devices w userId := by
  unfold helperActs
  rw [World.optedIn_acts, World.verifiedEmail_acts, World.acts_now]

theorem takes_of_mem {device : Device} (halert : (w.alerts.find? alertId).isSome = true)
    (h : device ∈ w.devices.rows) : w.Takes alertId device.id :=
  ⟨halert, by rw [Table.find?_of_mem h, Option.isSome_some]⟩

/-- A device that records an email is one of the table. -/
theorem mem_of_get_anyDevice {userIds : List ℕ} {userId : ℕ} {device : Device}
    (h : (anyDeviceByUser (w.devicesOf userIds)).get userId = some device) :
    device ∈ w.devices.rows := by
  have hmem := (Assoc.mem_of_get_bestOf h).1
  unfold World.devicesOf at hmem
  rw [List.mem_mergeSort] at hmem
  exact (Table.mem_findMany.1 hmem).1

theorem tellHelpers_run (recipients : List ℕ)
    (halert : (w.alerts.find? alertId).isSome = true) :
    (tellHelpers alertId recipients).run w =
      (.ok (), w.acts (storyActs alertId recipients w)) := by
  have hpush := run_forEach_acts (w := w) (fun d => storyPushActs alertId [d])
    (queueStory alertId) (reachableDevices w recipients) [] fun pre d post hsplit => by
      have hmem : d ∈ reachableDevices w recipients := by simp [hsplit]
      have htakes := takes_of_mem halert (Table.mem_findMany.1 hmem).1
      rw [queueStory_run (htakes.acts _), World.acts_append _ _ (storyPushActs alertId [d])]
  have hflat : (reachableDevices w recipients).flatMap (fun d => storyPushActs alertId [d]) =
      storyPushActs alertId (reachableDevices w recipients) :=
    List.map_eq_flatMap.symm
  rw [List.nil_append, hflat, World.acts_nil] at hpush
  have hemail := run_forEach_acts (w := w)
    (helperActs alertId (anyDeviceByUser (w.devicesOf recipients)) w)
    (emailHelper alertId (anyDeviceByUser (w.devicesOf recipients))) recipients
    (storyPushActs alertId (reachableDevices w recipients)) fun pre userId post _ => by
      have htakes : ∀ l : List Act,
          ∀ device ∈ (anyDeviceByUser (w.devicesOf recipients)).get userId,
          (w.acts l).Takes alertId device.id := fun l device hdevice =>
        (takes_of_mem halert (mem_of_get_anyDevice hdevice)).acts l
      rw [emailHelper_run (htakes _), helperActs_acts, World.acts_append _ _ (helperActs _ _ _ _)]
  have howned : ((w.acts (storyPushActs alertId (reachableDevices w recipients))).devicesOf
      recipients) = w.devicesOf recipients := by
    unfold World.devicesOf
    rw [World.acts_devices]
  unfold tellHelpers
  rw [NotificationCall.read, Process.run_query_bind, Process.run_bind_ok hpush,
    NotificationCall.read, Process.run_query_bind, howned, hemail]
  rfl

/-- The state in which the story of the alert is claimed. -/
def World.claimed (w : World) (alertId : ℕ) : World :=
  (alertClaimStory alertId w.now).effect w

theorem isSome_find?_claimed (halert : (w.alerts.find? alertId).isSome = true) :
    ((w.claimed alertId).alerts.find? alertId).isSome = true := by
  have hfind : (w.claimed alertId).alerts.find? alertId = _ :=
    Table.find?_updateMany w.alerts (fun a => a.unclaimed alertId)
      (fun a => { a with success_story_sent_at := some w.now }) (fun _ => rfl) alertId
  rw [hfind, Option.isSome_map]
  exact halert

/-- The run that finds the story unclaimed carries out the plan for the helpers. -/
theorem processSuccessStory_run {alert : Alert} (hrow : w.alerts.find? alertId = some alert)
    (hsnapshot : ∃ s ∈ w.reunionSnapshots.rows, s.alertId = alertId)
    (hunclaimed : alert.success_story_sent_at = none) :
    (processSuccessStory alertId).run w = (.ok (), (w.claimed alertId).acts
      (storyActs alertId (w.helpers alertId alert.creator_id) w)) := by
  have halert : (w.alerts.find? alertId).isSome = true := by rw [hrow, Option.isSome_some]
  obtain ⟨s, hs, hsid⟩ := hsnapshot
  have hstory : ∃ snapshot, w.findAlertStory alertId = some
      { creator_id := alert.creator_id, success_story_sent_at := none,
        reunionSnapshot := some snapshot } := by
    have hsome : (w.reunionSnapshots.rows.find? fun s => s.alertId = alertId).isSome = true := by
      rw [List.find?_isSome]
      exact ⟨s, hs, decide_eq_true hsid⟩
    obtain ⟨snapshot, hfound⟩ := Option.isSome_iff_exists.1 hsome
    refine ⟨snapshot, ?_⟩
    rw [World.findAlertStory, hrow, Option.map_some, hfound, hunclaimed]
  obtain ⟨snapshot, hstory⟩ := hstory
  have hcount : (w.alerts.count fun a => a.unclaimed alertId) = 1 := by
    have hkey := Table.count_key w.alerts alertId fun a => a.success_story_sent_at.isNone
    rw [hrow, Option.any_some, hunclaimed] at hkey
    exact hkey
  have hclaim : (claimStory alertId).run w = (.ok 1, w.claimed alertId) := by
    rw [← hcount]
    rfl
  have htell := tellHelpers_run (w := w.claimed alertId) (w.helpers alertId alert.creator_id)
    (isSome_find?_claimed halert)
  unfold processSuccessStory
  rw [NotificationCall.read, Process.run_query_bind, hstory]
  simp only [Option.isNone_some, Option.isSome_none, Bool.false_eq_true, if_false]
  rw [Process.run_bind_ok hclaim, if_neg Nat.one_ne_zero]
  unfold tellStory
  rw [NotificationCall.read, Process.run_query_bind, NotificationCall.read, Process.run_query_bind]
  have hhelpers : recipientIds alert.creator_id ((w.claimed alertId).deliveredTo alertId)
      ((w.claimed alertId).sightingReporters alertId) = w.helpers alertId alert.creator_id := rfl
  dsimp only
  rw [hhelpers]
  by_cases hnone : (w.helpers alertId alert.creator_id).isEmpty = true
  · have hempty := List.isEmpty_iff.1 hnone
    have hacts : storyActs alertId [] w = [] := by
      simp [storyActs, storyPushActs, reachableDevices, Table.findMany]
    rw [if_pos hnone, hempty, hacts]
    rfl
  · rw [if_neg hnone]
    exact htell

end Run

section Outcome

variable {alertId : ℕ} {w : World} {recipients : List ℕ}

theorem isPushFor_storyData (deviceId : ℕ) : (storyData alertId deviceId).IsPushFor alertId :=
  ⟨rfl, rfl, rfl⟩

/-- An email act of the story sends to the helper, or records it. -/
theorem mem_helperActs {devices : Assoc ℕ Device} {userId : ℕ} {a : Act}
    (h : a ∈ helperActs alertId devices w userId) :
    (∃ deviceId sent, a = .create (storyEmailData alertId deviceId sent w.now)) ∨
      ∃ email, a = .send email ∧ storyEmail alertId w userId = some email := by
  have hrecord : ∀ sent, a ∈ storyRecordActs alertId (devices.get userId) sent w.now →
      ∃ deviceId sent, a = .create (storyEmailData alertId deviceId sent w.now) := by
    intro sent ha
    obtain ⟨device, -, rfl⟩ := List.mem_map.1 ha
    exact ⟨device.id, sent, rfl⟩
  unfold helperActs at h
  unfold storyEmail
  cases hopted : w.optedIn userId with
  | false =>
      rw [hopted] at h
      cases h
  | true =>
      rw [hopted] at h
      cases hemail : w.verifiedEmail userId with
      | none =>
          rw [hemail] at h
          exact .inl (hrecord false h)
      | some email =>
          rw [hemail] at h
          rcases List.mem_cons.1 h with rfl | h
          · exact .inr ⟨_, rfl, rfl⟩
          · exact .inl (hrecord true h)

/-- An act of the story is a push to a reachable device of a recipient, or an email. -/
theorem mem_storyActs {a : Act} (h : a ∈ storyActs alertId recipients w) :
    (∃ device ∈ w.devices.rows, isReachable device = true ∧ device.user_id ∈ recipients ∧
        a = .push (storyData alertId device.id)) ∨
      ∃ devices, ∃ userId ∈ recipients, a ∈ helperActs alertId devices w userId := by
  rcases List.mem_append.1 h with h | h
  · obtain ⟨device, hdevice, rfl⟩ := List.mem_map.1 h
    obtain ⟨hmem, hcond⟩ := Table.mem_findMany.1 hdevice
    rw [Bool.and_eq_true, List.contains_iff_mem] at hcond
    exact .inl ⟨device, hmem, hcond.2, hcond.1, rfl⟩
  · obtain ⟨userId, huser, ha⟩ := List.mem_flatMap.1 h
    exact .inr ⟨_, userId, huser, ha⟩

theorem storyActs_forAlert : ∀ a ∈ storyActs alertId recipients w, a.forAlert alertId := by
  intro a ha
  rcases mem_storyActs ha with ⟨device, -, -, -, rfl⟩ | ⟨devices, userId, -, ha⟩
  · exact isPushFor_storyData device.id
  · rcases mem_helperActs ha with ⟨deviceId, sent, rfl⟩ | ⟨email, rfl, -⟩
    · rfl
    · trivial

/-- One push to each reachable device of a recipient. -/
theorem countP_storyActs {device : Device} (hdevice : device ∈ w.devices.rows)
    (hreach : isReachable device = true) (huser : device.user_id ∈ recipients) :
    (storyActs alertId recipients w).countP (Act.pushesTo device.id) = 1 := by
  have hmem : device.id ∈ (reachableDevices w recipients).map Device.id := by
    refine List.mem_map_of_mem (Table.mem_findMany.2 ⟨hdevice, ?_⟩)
    rw [Bool.and_eq_true, List.contains_iff_mem]
    exact ⟨huser, hreach⟩
  have hnodup : ((reachableDevices w recipients).map Device.id).Nodup :=
    w.devices.nodup.sublist (List.filter_sublist.map Device.id)
  have hpushes : (storyPushActs alertId (reachableDevices w recipients)).countP
      (Act.pushesTo device.id) = 1 := by
    have hto : Act.pushesTo device.id ∘ (fun d : Device => Act.push (storyData alertId d.id)) =
        (fun id => id == device.id) ∘ Device.id := by
      funext d
      rfl
    rw [storyPushActs, List.countP_map, hto, ← List.countP_map]
    exact List.count_eq_one_of_mem hnodup hmem
  have hemails : (recipients.flatMap (helperActs alertId (anyDeviceByUser (w.devicesOf
      recipients)) w)).countP (Act.pushesTo device.id) = 0 := by
    rw [List.countP_eq_zero]
    intro a ha
    obtain ⟨userId, -, ha⟩ := List.mem_flatMap.1 ha
    rcases mem_helperActs ha with ⟨deviceId, sent, rfl⟩ | ⟨email, rfl, -⟩ <;>
      exact Bool.false_ne_true
  rw [storyActs, List.countP_append, hpushes, hemails]

theorem emailsOf_append (l l' : List Act) : emailsOf (l ++ l') = emailsOf l ++ emailsOf l' :=
  List.filterMap_append

theorem emailsOf_helperActs (devices : Assoc ℕ Device) (userId : ℕ) :
    emailsOf (helperActs alertId devices w userId) = (storyEmail alertId w userId).toList := by
  have hrecord : ∀ device? sent, emailsOf (storyRecordActs alertId device? sent w.now) = [] := by
    intro device? sent
    cases device? <;> rfl
  unfold helperActs storyEmail
  cases w.optedIn userId with
  | false => rfl
  | true =>
      cases w.verifiedEmail userId with
      | none => exact hrecord _ false
      | some email => exact congrArg (⟨"petIsHome", email, alertId⟩ :: ·) (hrecord _ true)

/-- The emails of the story: at most one for each recipient. -/
theorem emailsOf_storyActs :
    emailsOf (storyActs alertId recipients w) = recipients.filterMap (storyEmail alertId w) := by
  have hpushes : ∀ devices : List Device, emailsOf (storyPushActs alertId devices) = [] := by
    intro devices
    rw [emailsOf, storyPushActs, List.filterMap_map, List.filterMap_eq_nil_iff]
    exact fun device _ => rfl
  have hemails : ∀ (devices : Assoc ℕ Device) (l : List ℕ),
      emailsOf (l.flatMap (helperActs alertId devices w)) = l.filterMap (storyEmail alertId w) := by
    intro devices l
    induction l with
    | nil => rfl
    | cons userId l ih =>
        rw [List.flatMap_cons, emailsOf_append, emailsOf_helperActs, ih]
        cases h : storyEmail alertId w userId <;> simp [h]
  rw [storyActs, emailsOf_append, hpushes, List.nil_append, hemails]

end Outcome

/-- The story was told to the helpers and to nobody else: one queued push row with one job for
each of their reachable devices, no other push row or job, and to each of them at most the one
email. -/
structure StoryTold (w w' : World) (alertId creatorId : ℕ) : Prop where
  pushed : ∀ device ∈ w.devices.rows, isReachable device = true →
    IsHelper w alertId creatorId device.user_id → PushedOnce (w'.addedSince w) alertId device.id
  rows : ∀ r ∈ (w'.addedSince w).rows, r.isPush = true → r.isStory = true ∧
    ∃ device ∈ w.devices.rows, device.id = r.device_id ∧ isReachable device = true ∧
      IsHelper w alertId creatorId device.user_id
  jobs : ∀ job ∈ (w'.addedSince w).jobs, ∃ r ∈ (w'.addedSince w).rows, r.isPush = true ∧
    job = .sendPushNotification r.id
  emails : ∃ helpers : List ℕ, helpers.Nodup ∧
    (∀ userId, userId ∈ helpers ↔ IsHelper w alertId creatorId userId) ∧
      (w'.addedSince w).emails = helpers.filterMap (storyEmail alertId w)

theorem storyTold_of_acts (w : World) (alertId creatorId : ℕ) :
    StoryTold w ((w.claimed alertId).acts (storyActs alertId (w.helpers alertId creatorId) w))
      alertId creatorId := by
  have hforAlert : ∀ a ∈ storyActs alertId (w.helpers alertId creatorId) w, a.forAlert alertId :=
    storyActs_forAlert
  have hadded : ((w.claimed alertId).acts (storyActs alertId (w.helpers alertId creatorId) w)
      ).addedSince w = ⟨rowsOf w.now w.notifications.next (storyActs alertId (w.helpers alertId
        creatorId) w), jobsOf w.notifications.next (storyActs alertId (w.helpers alertId creatorId)
          w), emailsOf (storyActs alertId (w.helpers alertId creatorId) w)⟩ :=
    addedSince_acts (w.claimed alertId) _
  constructor
  · intro device hdevice hreach hhelper
    exact (pushedOnce_iff (w := w.claimed alertId) hforAlert).2
      (countP_storyActs hdevice hreach (mem_helpers_iff.2 hhelper))
  · rw [hadded]
    intro r hr hpush
    obtain ⟨data, hact, heq, -⟩ := push_of_mem_rowsOf hforAlert hr hpush
    rcases mem_storyActs hact with ⟨device, hdevice, hreach, huser, hdata⟩ | ⟨devices, userId, -, h⟩
    · obtain rfl := Act.push.inj hdata
      rw [heq]
      exact ⟨rfl, device, hdevice, rfl, hreach, mem_helpers_iff.1 huser⟩
    · rcases mem_helperActs h with ⟨_, _, h⟩ | ⟨_, h, -⟩ <;> cases h
  · rw [hadded]
    intro job hjob
    obtain ⟨id, data, -, rfl, hact, hrow⟩ := mem_jobsOf w.now hjob
    exact ⟨_, hrow, (hforAlert _ hact).isPush, rfl⟩
  · rw [hadded]
    exact ⟨_, nodup_helpers w alertId creatorId, fun userId => mem_helpers_iff, emailsOf_storyActs⟩

end FifiAlert
