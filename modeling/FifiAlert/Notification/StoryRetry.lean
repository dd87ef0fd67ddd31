import FifiAlert.Notification.StoryOnce
import FifiAlert.Notification.WaveRetry

/-!
# Retrying a success-story job

The claim comes first, and a job that finds the story claimed does nothing. So an
attempt that stopped before its claim is made good by a retry, and a retry after the
claim leaves things as the attempt left them.
-/

namespace FifiAlert

open Concurrency Store LocationService NotificationCall NotificationQueueProcessor

/-- A push job was added since for a queued row of the alert's story to the device. -/
def StoryJobAdded (w w' : World) (alertId deviceId : ℕ) : Prop :=
  ∃ row ∈ w'.notifications.rows, row.alert_id = alertId ∧ row.device_id = deviceId ∧
    row.isPush = true ∧ row.isStory = true ∧ row.status = .QUEUED ∧
      .sendPushNotification row.id ∈ (w'.addedSince w).jobs

theorem timePasses_of_reflTransGen {w w' : World} (h : Relation.ReflTransGen TimePasses w w') :
    TimePasses w w' := by
  induction h with
  | refl => exact ⟨w.now, Int.le_refl _, rfl⟩
  | tail _ hs ih =>
      obtain ⟨t, ht, rfl⟩ := ih
      obtain ⟨t', ht', rfl⟩ := hs
      exact ⟨t', Int.le_trans ht ht', rfl⟩

section Attempt

variable {alertId : ℕ} {w w' : World}

theorem storyOpen_atTime (t : Time) : (w.atTime t).storyOpen alertId = w.storyOpen alertId := rfl

/-- What follows the claim opens no story. -/
theorem tellStory_closed {creatorId : ℕ} (hclosed : w.storyOpen alertId = false)
    (h : Process.Attempted TimePasses (tellStory alertId creatorId) w w') :
    w'.storyOpen alertId = false := by
  have hcreate : ∀ (data : NotificationData) (s : World), s.storyOpen alertId = false →
      ((notificationCreate data).effect s).storyOpen alertId = false := by
    intro data s hs
    have heffect : (notificationCreate data).effect s =
      if s.takesNotification data then s.createNotification data else s := rfl
    rw [heffect]
    split <;> exact hs
  have hsilent : ∀ l : NotificationCall, l.silent = true → ∀ s : World,
      s.storyOpen alertId = false → (l.effect s).storyOpen alertId = false := by
    intro l hl s hs
    cases l with
    | notificationCreate data => exact hcreate data s hs
    | notificationUpdate id data => cases hl
    | deviceClearToken id date => cases hl
    | alertClaimStory id date => cases hl
    | queueAdd job => cases hl
    | sendNotification push => cases hl
    | _ => exact hs
  have hcalls : (tellStory alertId creatorId).Confined
      (fun _ f => ∀ s : World, s.storyOpen alertId = false → (f s).storyOpen alertId = false)
      fun _ => True :=
    (tellStory_queues creatorId).confined hsilent (fun data _ => hcreate data) fun _ _ hs => hs
  refine hcalls.attempted_kept (r := fun s s' : World =>
    s.storyOpen alertId = false → s'.storyOpen alertId = false) (fun _ hs => hs)
      (fun _ _ _ h₁ h₂ hs => h₂ (h₁ hs)) ?_ h hclosed
  rintro s s' ⟨t, -, rfl⟩ hs
  exact hs

/-- An attempt that stopped before the claim only took time, and one that got past it has
closed the story. -/
theorem attempted_processSuccessStory
    (h : Process.Attempted TimePasses (processSuccessStory alertId) w w') :
    TimePasses w w' ∨ w'.storyOpen alertId = false := by
  obtain ⟨w₀, hw₀, rfl | h⟩ := Process.Attempted.of_query_bind h
  · exact .inl (timePasses_of_reflTransGen hw₀)
  cases hfound : w₀.findAlertStory alertId with
  | none =>
      rw [hfound] at h
      exact .inl (timePasses_of_reflTransGen (hw₀.trans h.of_ret))
  | some alert =>
      rw [hfound] at h
      dsimp only at h
      split at h
      · exact .inl (timePasses_of_reflTransGen (hw₀.trans h.of_ret))
      split at h
      · exact .inl (timePasses_of_reflTransGen (hw₀.trans h.of_ret))
      unfold claimStory at h
      rw [bind_assoc] at h
      obtain ⟨w₁, hw₁, rfl | h⟩ := Process.Attempted.of_query_bind h
      · exact .inl (timePasses_of_reflTransGen (hw₀.trans hw₁))
      obtain ⟨w₂, hw₂, rfl | h⟩ := Process.Attempted.of_modify_bind h
      · exact .inl (timePasses_of_reflTransGen ((hw₀.trans hw₁).trans hw₂))
      have hclosed := storyOpen_claim alertId w₂ w₁.now
      right
      split at h
      · obtain ⟨t, -, rfl⟩ := timePasses_of_reflTransGen h.of_ret
        exact hclosed
      · exact tellStory_closed hclosed h

/-- A job that finds the story told or without a snapshot does nothing. -/
theorem processSuccessStory_run_closed (hclosed : w.storyOpen alertId = false) :
    (processSuccessStory alertId).run w = (.ok (), w) := by
  unfold processSuccessStory World.storyOpen at *
  rw [NotificationCall.read, Process.run_query_bind, World.findAlertStory]
  cases hfind : w.alerts.find? alertId with
  | none => rfl
  | some alert =>
      rw [hfind, Option.any_some] at hclosed
      rw [Option.map_some]
      dsimp only
      split
      · rfl
      · rw [if_pos]
        · rfl
        · simpa using hclosed

/-- Every device that a run pushes the story to has its job added. -/
theorem storyJobAdded_of_told {w₁ : World} {creatorId : ℕ} (htime : TimePasses w w₁)
    (htold : StoryTold w₁ w' alertId creatorId) {device : Device}
    (hdevice : device ∈ w.devices.rows) (hreach : isReachable device = true)
    (hhelper : IsHelper w alertId creatorId device.user_id) :
    StoryJobAdded w w' alertId device.id := by
  obtain ⟨t, -, rfl⟩ := htime
  have hhelper' : IsHelper (w.atTime t) alertId creatorId device.user_id :=
    ⟨hhelper.helped, hhelper.other⟩
  obtain ⟨row, hrow, halert, hqueued, hjob⟩ := htold.pushed device hdevice hreach hhelper'
  have hmem : row ∈ (w'.addedSince (w.atTime t)).rows.filter fun r =>
      r.device_id = device.id && r.isPush := by
    rw [hrow]
    exact List.mem_cons_self
  obtain ⟨hadded, hcond⟩ := List.mem_filter.1 hmem
  rw [Bool.and_eq_true, decide_eq_true_eq] at hcond
  refine ⟨row, List.mem_of_mem_drop hadded, halert, hcond.1, hcond.2,
    (htold.rows row hadded hcond.2).1, hqueued, ?_⟩
  rw [← List.count_pos_iff]
  exact Nat.lt_of_lt_of_eq Nat.one_pos hjob.symm

end Attempt

/-- Wherever an attempt at the story of an alert with a snapshot stopped: if it left the story
open, a retry without faults adds a push job for every reachable device of every helper; once
the story is claimed, a retry changes nothing. -/
theorem storyRetry_tells_or_rests (w w₁ : World) (alertId : ℕ) (alert : Alert)
    (hrow : w.alerts.find? alertId = some alert)
    (hsnapshot : ∃ s ∈ w.reunionSnapshots.rows, s.alertId = alertId)
    (hattempt : Process.Attempted TimePasses (processSuccessStory alertId) w w₁) :
    ∃ w₂, (processSuccessStory alertId).run w₁ = (.ok (), w₂) ∧
      (w₁.storyOpen alertId = true → ∀ device ∈ w.devices.rows, isReachable device = true →
        IsHelper w alertId alert.creator_id device.user_id →
          StoryJobAdded w w₂ alertId device.id) ∧
      (w₁.storyOpen alertId = false → w₂ = w₁) := by
  cases hopen : w₁.storyOpen alertId with
  | false =>
      refine ⟨w₁, processSuccessStory_run_closed hopen, ?_, fun _ => rfl⟩
      exact fun h => absurd h Bool.false_ne_true
  | true =>
      have htime : TimePasses w w₁ := by
        refine (attempted_processSuccessStory hattempt).resolve_right fun hclosed => ?_
        rw [hopen] at hclosed
        cases hclosed
      have hsent : alert.success_story_sent_at = none := by
        obtain ⟨t, -, rfl⟩ := htime
        rw [storyOpen_atTime, World.storyOpen, hrow, Option.any_some,
          Option.isNone_iff_eq_none] at hopen
        exact hopen
      have hstart : w₁.alerts = w.alerts ∧ w₁.reunionSnapshots = w.reunionSnapshots := by
        obtain ⟨t, -, rfl⟩ := htime
        exact ⟨rfl, rfl⟩
      have hrun := processSuccessStory_run (w := w₁) (by rw [hstart.1]; exact hrow)
        (by rw [hstart.2]; exact hsnapshot) hsent
      refine ⟨_, hrun, fun _ device hdevice hreach hhelper => ?_, ?_⟩
      · exact storyJobAdded_of_told htime (storyTold_of_acts w₁ alertId alert.creator_id) hdevice
          hreach hhelper
      · exact fun h => absurd h.symm Bool.false_ne_true

/-- An attempt at story 7 in which some calls fail. -/
def failedStory (fails : NotificationCall → Bool) : Except AppError Unit × World :=
  (processSuccessStory 7).runWith fails storyWorld

def claimFails : NotificationCall → Bool
  | .alertClaimStory _ _ => true
  | _ => false

def recipientsFail : NotificationCall → Bool
  | .notificationFindDelivered _ => true
  | _ => false

/-- The claim fails. -/
theorem storyRetry_tells_or_rests_open :
    let w₁ := (failedStory claimFails).2
    ∃ w₂, (processSuccessStory 7).run w₁ = (.ok (), w₂) ∧
      (w₁.storyOpen 7 = true → ∀ device ∈ storyWorld.devices.rows, isReachable device = true →
        IsHelper storyWorld 7 1 device.user_id → StoryJobAdded storyWorld w₂ 7 device.id) ∧
      (w₁.storyOpen 7 = false → w₂ = w₁) :=
  storyRetry_tells_or_rests storyWorld (failedStory claimFails).2 7 lostPet (by rfl)
    ⟨_, List.mem_cons_self, rfl⟩ (Process.attempted_runWith claimFails _ storyWorld)

/-- The read of the recipients fails after the claim, and the attempt throws: the device of
helper 2 gets no job from a retry without faults. -/
theorem storyRetry_forgets_helper :
    (failedStory recipientsFail).1 = .error (.prisma .other) ∧ IsHelper storyWorld 7 1 2 ∧
      (∃ device ∈ storyWorld.devices.rows, device.id = 20 ∧ device.user_id = 2 ∧
        isReachable device = true) ∧
      ((processSuccessStory 7).run (failedStory recipientsFail).2).1 = .ok () ∧
      ¬ StoryJobAdded storyWorld ((processSuccessStory 7).run (failedStory recipientsFail).2).2
        7 20 := by
  have hhelper : 2 ∈ storyWorld.helpers 7 1 := by decide +kernel
  refine ⟨by rfl, mem_helpers_iff.1 hhelper, ?_⟩
  unfold StoryJobAdded
  decide +kernel

end FifiAlert
